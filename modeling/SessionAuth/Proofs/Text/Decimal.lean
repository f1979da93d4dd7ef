import SessionAuth.Text.Split

/-!
# Decimal digits read back

The digits of a number have no needless zero in front, so that they are read as the number.
-/

namespace SessionAuth
namespace Text

theorem isDigit_of_mem_toString {n : Nat} {c : Char} (h : c ∈ (toString n).toList) :
    c.isDigit = true := by
  rw [Nat.toString_eq_ofList_toDigits, String.toList_ofList] at h
  exact Nat.isDigit_of_mem_toDigits (by decide) (by decide) h

theorem eq_zero_of_head?_toDigits {n : Nat} (h : (Nat.toDigits 10 n).head? = some '0') :
    n = 0 := by
  induction n using Nat.strongRecOn with
  | ind n ih =>
      rcases Nat.lt_or_ge n 10 with hlt | hge
      · rw [Nat.toDigits_of_lt_base hlt] at h
        have hall : ∀ m, m < 10 → [Nat.digitChar m].head? = some '0' → m = 0 := by decide
        exact hall n hlt h
      · rw [Nat.toDigits_of_base_le (by decide) hge, List.head?_append,
          List.head?_eq_some_head Nat.toDigits_ne_nil, Option.some_or] at h
        have hzero := ih (n / 10) (by omega)
          ((List.head?_eq_some_head Nat.toDigits_ne_nil).trans h)
        omega

theorem toString_ne_nil (n : Nat) : (toString n).toList ≠ [] := by
  rw [Nat.toString_eq_ofList_toDigits, String.toList_ofList]
  exact Nat.toDigits_ne_nil

theorem digitsValue_toString (n : Nat) : digitsValue (toString n).toList = n := by
  rw [Nat.toString_eq_ofList_toDigits, String.toList_ofList]
  exact Nat.ofDigitChars_eq_foldl.symm.trans Nat.ofDigitChars_ten_toDigits

theorem toString_short (n : Nat) :
    ¬((toString n).toList.head? = some '0' ∧ 1 < (toString n).toList.length) := by
  rw [Nat.toString_eq_ofList_toDigits, String.toList_ofList]
  intro h
  rcases h with ⟨hhead, hlength⟩
  rw [eq_zero_of_head?_toDigits hhead, Nat.toDigits_zero] at hlength
  exact absurd hlength (by decide)

theorem decimal?_toString (n : Nat) : decimal? (toString n).toList = some n := by
  have hdigits : (toString n).toList.all Char.isDigit = true := by
    rw [List.all_eq_true]
    intro c hc
    exact isDigit_of_mem_toString hc
  unfold decimal?
  rw [if_neg, digitsValue_toString]
  simp only [List.isEmpty_iff, toString_ne_nil, hdigits, toString_short, Bool.not_true,
    Bool.false_eq_true, or_false, not_false_eq_true]

end Text
end SessionAuth
