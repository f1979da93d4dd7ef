import SessionAuth.Json.Reader
import SessionAuth.Json.Value
import SessionAuth.Proofs.Encoding.Utf8
import SessionAuth.Proofs.Text.Decimal

/-!
# Numbers read back

A number that is written in front of something that does not go on with it is read as that number.
-/

namespace SessionAuth
namespace Json

open Encoding

namespace Reader

/-! # Digits -/

def digits (n : Nat) : List UInt8 :=
  (toString n).toList.map (fun c => UInt8.ofNat c.toNat)

theorem toNat_of_isDigit {c : Char} (h : c.isDigit = true) : 48 ≤ c.toNat ∧ c.toNat ≤ 57 := by
  unfold Char.isDigit at h
  rw [Bool.and_eq_true, decide_eq_true_iff, decide_eq_true_iff] at h
  exact h

theorem toNat_ofNat_of_isDigit {c : Char} (h : c.isDigit = true) :
    (UInt8.ofNat c.toNat).toNat = c.toNat := by
  have hc := toNat_of_isDigit h
  rw [UInt8.toNat_ofNat']
  omega

theorem encode_toString (n : Nat) : Utf8.encode (toString n).toList = digits n := by
  refine Utf8.encode_of_lt ?_
  intro c hc
  have hdigit := toNat_of_isDigit (Text.isDigit_of_mem_toString hc)
  omega

theorem isDigit_iff {b : UInt8} : isDigit b = true ↔ 48 ≤ b.toNat ∧ b.toNat ≤ 57 := by
  unfold isDigit
  rw [Bool.and_eq_true, decide_eq_true_iff, decide_eq_true_iff]
  exact Iff.rfl

theorem isDigit_of_mem_digits (n : Nat) : ∀ b ∈ digits n, isDigit b = true := by
  intro b hb
  rcases List.mem_map.mp hb with ⟨c, hc, rfl⟩
  have hdigit := Text.isDigit_of_mem_toString hc
  rw [isDigit_iff, toNat_ofNat_of_isDigit hdigit]
  exact toNat_of_isDigit hdigit

theorem digitsValue_digits (n : Nat) : digitsValue (digits n) = n := by
  have hall : ∀ cs : List Char, (∀ c ∈ cs, c.isDigit = true) → ∀ m,
      (cs.map (fun c => UInt8.ofNat c.toNat)).foldl (fun n b => 10 * n + (b.toNat - 0x30)) m =
        cs.foldl (fun n c => 10 * n + (c.toNat - 48)) m := by
    intro cs hcs
    induction cs with
    | nil => exact fun _ => rfl
    | cons c cs ih =>
        rw [List.forall_mem_cons] at hcs
        intro m
        rw [List.map_cons, List.foldl_cons, List.foldl_cons, toNat_ofNat_of_isDigit hcs.left]
        exact ih hcs.right _
  exact (hall _ (fun c => Text.isDigit_of_mem_toString) 0).trans (Text.digitsValue_toString n)

theorem digits_ne_nil (n : Nat) : digits n ≠ [] := by
  intro h
  exact Text.toString_ne_nil n (List.map_eq_nil_iff.mp h)

theorem digits_short (n : Nat) :
    ¬((digits n).head? = some 0x30 ∧ 1 < (digits n).length) := by
  intro h
  rcases h with ⟨hhead, hlength⟩
  refine Text.toString_short n ⟨?_, by simpa [digits] using hlength⟩
  unfold digits at hhead
  rw [List.head?_map, Option.map_eq_some_iff] at hhead
  rcases hhead with ⟨c, hc, hzero⟩
  have hdigit := Text.isDigit_of_mem_toString (List.mem_of_mem_head? hc)
  have hoctet : (0x30 : UInt8).toNat = c.toNat := by
    rw [← hzero]
    exact toNat_ofNat_of_isDigit hdigit
  rw [hc, Char.toNat_inj.mp (show c.toNat = '0'.toNat from hoctet.symm)]

/-! # Numbers -/

/-- What may stand behind a value: nothing, or what ends an item, an array or an object. -/
inductive Ends : List UInt8 → Prop where
  | document : Ends []
  | item (rest : List UInt8) : Ends (0x2C :: rest)
  | array (rest : List UInt8) : Ends (0x5D :: rest)
  | object (rest : List UInt8) : Ends (0x7D :: rest)

theorem unsigned?_digits (negative : Bool) (n : Nat) {rest : List UInt8} (h : Ends rest) :
    unsigned? negative (digits n ++ rest) = some (⟨negative, n, 0, true⟩, rest) := by
  have htake : (digits n ++ rest).takeWhile isDigit = digits n := by
    rw [List.takeWhile_append_of_pos (isDigit_of_mem_digits n)]
    cases h <;> exact List.append_nil _
  have hdrop : (digits n ++ rest).dropWhile isDigit = rest := by
    rw [List.dropWhile_append_of_pos (isDigit_of_mem_digits n)]
    cases h <;> rfl
  have hfraction : fraction? rest = some ([], rest) := by cases h <;> rfl
  have hexponent : exponent? rest = some (none, rest) := by cases h <;> rfl
  unfold unsigned?
  -- The digits are not empty and have no needless zero, so that they are not refused.
  rw [htake, hdrop, if_neg, hfraction]
  · simp only [Option.bind_eq_bind, Option.bind_some, hexponent, List.append_nil,
      digitsValue_digits]
    rfl
  · rw [List.isEmpty_iff]
    exact not_or.mpr ⟨digits_ne_nil n, digits_short n⟩

theorem encode_writeNumeral_ofInt (n : Int) :
    Utf8.encode (JsonValue.writeNumeral (.ofInt n)) =
      (if n < 0 then [0x2D] else []) ++ digits n.natAbs := by
  unfold JsonValue.writeNumeral Numeral.ofInt
  simp only [decide_eq_true_eq, if_true, List.append_nil, Utf8.encode_append, encode_toString]
  by_cases h : n < 0
  · rw [if_pos h, if_pos h]
    rfl
  · rw [if_neg h, if_neg h]
    rfl

theorem encode_writeNumeral_cons (n : Int) : ∃ b bs,
    Utf8.encode (JsonValue.writeNumeral (.ofInt n)) = b :: bs ∧ (isDigit b = true ∨ b = 0x2D) := by
  rw [encode_writeNumeral_ofInt]
  by_cases h : n < 0
  · rw [if_pos h]
    exact ⟨0x2D, digits n.natAbs, rfl, Or.inr rfl⟩
  · rw [if_neg h, List.nil_append]
    cases hdigits : digits n.natAbs with
    | nil => exact absurd hdigits (digits_ne_nil _)
    | cons b bs =>
        refine ⟨b, bs, rfl, Or.inl ?_⟩
        exact isDigit_of_mem_digits n.natAbs b (by simp [hdigits])

theorem numeral?_write (n : Int) {rest : List UInt8} (h : Ends rest) :
    numeral? (Utf8.encode (JsonValue.writeNumeral (.ofInt n)) ++ rest) =
      some (.ofInt n, rest) := by
  rw [encode_writeNumeral_ofInt]
  by_cases hn : n < 0
  · rw [if_pos hn]
    have hread := unsigned?_digits true n.natAbs h
    unfold Numeral.ofInt
    rw [decide_eq_true hn]
    exact hread
  · rw [if_neg hn, List.nil_append]
    have hread := unsigned?_digits false n.natAbs h
    unfold Numeral.ofInt
    rw [decide_eq_false hn, ← hread]
    cases hdigits : digits n.natAbs with
    | nil => exact absurd hdigits (digits_ne_nil _)
    | cons b bs =>
        have hdigit : isDigit b = true := isDigit_of_mem_digits n.natAbs b (by simp [hdigits])
        rw [List.cons_append, numeral?]
        intro _ heq
        rw [(List.cons.inj heq).left] at hdigit
        cases hdigit

end Reader

end Json
end SessionAuth
