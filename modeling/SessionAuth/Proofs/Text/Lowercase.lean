import SessionAuth.Text.Lowercase

/-!
# Lowercase text stays as it is

The context of a capital sigma does not let lowercase forms be compared character by character.
Their characters can be, though: none of them has another lowercase form, in whatever context.  So
lowercase text has no capital sigma, and taking its lowercase form is a matter of single characters.
-/

namespace SessionAuth
namespace Text

/-! # The table -/

theorem CharRun.hasPoint_iff {r : CharRun} {n : Nat} :
    r.hasPoint n = true ↔ (r.first ≤ n ∧ n ≤ r.last) ∧ (n - r.first) % r.step = 0 := by
  simp [CharRun.hasPoint]

/-- The code points that have another lowercase form: those of the table, and the capital I with a
dot above. -/
def capitals : CharSet :=
  ⟨0x130, 0x130, 1⟩ :: lowercaseRuns.map CaseRun.toCharRun

namespace CaseRun

/-- Tells whether all small letters of a run are outside of some other run.  The letters are only
looked at one by one if the two runs overlap. -/
def avoids (r : CaseRun) (s : CharRun) : Bool :=
  decide (r.target + (r.last - r.first) < s.first) || decide (s.last < r.target) ||
    (List.range (r.last - r.first + 1)).all
      (fun i => i % r.step != 0 || !s.hasPoint (r.target + i))

def isScalar (r : CaseRun) : Bool :=
  decide (r.target + (r.last - r.first) < 0xD800) ||
    decide (0xDFFF < r.target ∧ r.target + (r.last - r.first) < 0x110000)

variable {r : CaseRun} {n : Nat}

theorem hasPoint_image_of_avoids {s : CharRun} (h : r.avoids s = true)
    (hn : r.toCharRun.hasPoint n = true) : s.hasPoint (r.image n) = false := by
  rcases CharRun.hasPoint_iff.mp hn with ⟨⟨hfirst, hlast⟩, hstep⟩
  unfold image
  unfold avoids at h
  rcases Bool.or_eq_true_iff.mp h with houtside | hpoints
  · rw [← Bool.not_eq_true, CharRun.hasPoint_iff]
    intro hmem
    rcases Bool.or_eq_true_iff.mp houtside with hbelow | habove
    · have := of_decide_eq_true hbelow
      omega
    · have := of_decide_eq_true habove
      omega
  · have hrange : n - r.first ∈ List.range (r.last - r.first + 1) := by
      rw [List.mem_range]
      omega
    have hpoint := List.all_eq_true.mp hpoints _ hrange
    simpa [hstep] using hpoint

theorem isValidChar_image (h : r.isScalar = true) (hn : r.toCharRun.hasPoint n = true) :
    (r.image n).isValidChar := by
  rcases CharRun.hasPoint_iff.mp hn with ⟨⟨hfirst, hlast⟩, _⟩
  unfold isScalar at h
  unfold image
  rcases Bool.or_eq_true_iff.mp h with hbelow | habove
  · have := of_decide_eq_true hbelow
    exact Or.inl (by omega)
  · have := of_decide_eq_true habove
    exact Or.inr (by omega)

end CaseRun

theorem isScalar_lowercaseRuns : lowercaseRuns.all CaseRun.isScalar = true := by
  decide +kernel

theorem avoids_lowercaseRuns :
    lowercaseRuns.all (fun r => capitals.all r.avoids) = true := by
  decide +kernel

/-! # Code points -/

theorem hasPoint_capitals {n : Nat} :
    capitals.hasPoint n = true ↔
      n = 0x130 ∨ ∃ r ∈ lowercaseRuns, r.toCharRun.hasPoint n = true := by
  have hdotted : CharRun.hasPoint ⟨0x130, 0x130, 1⟩ n = true ↔ n = 0x130 := by
    rw [CharRun.hasPoint_iff]
    dsimp only
    omega
  unfold CharSet.hasPoint capitals
  rw [List.any_cons, Bool.or_eq_true, hdotted, List.any_map, List.any_eq_true]
  rfl

theorem lowercasePoint_cases (n : Nat) :
    (lowercasePoint n = n ∧ ∀ r ∈ lowercaseRuns, ¬ r.toCharRun.hasPoint n = true) ∨
      ∃ r ∈ lowercaseRuns, r.toCharRun.hasPoint n = true ∧ lowercasePoint n = r.image n := by
  unfold lowercasePoint
  cases hfind : lowercaseRuns.find? (fun r => r.toCharRun.hasPoint n) with
  | none => exact Or.inl ⟨rfl, List.find?_eq_none.mp hfind⟩
  | some r =>
      exact Or.inr ⟨r, List.mem_of_find?_eq_some hfind,
        List.find?_some (p := fun r : CaseRun => r.toCharRun.hasPoint n) hfind, rfl⟩

theorem lowercasePoint_of_not_capital {n : Nat} (h : capitals.hasPoint n = false) :
    lowercasePoint n = n := by
  rcases lowercasePoint_cases n with ⟨hsame, _⟩ | ⟨r, hr, hpoint, _⟩
  · exact hsame
  · rw [hasPoint_capitals.mpr (Or.inr ⟨r, hr, hpoint⟩)] at h
    cases h

theorem not_capital_lowercasePoint {n : Nat} (hn : n ≠ 0x130) :
    capitals.hasPoint (lowercasePoint n) = false := by
  rcases lowercasePoint_cases n with ⟨hsame, houtside⟩ | ⟨r, hr, hpoint, himage⟩
  · rw [hsame, ← Bool.not_eq_true, hasPoint_capitals]
    intro hcapital
    rcases hcapital with hdotted | ⟨r, hr, hpoint⟩
    · exact hn hdotted
    · exact houtside r hr hpoint
  · have havoids := List.all_eq_true.mp (List.all_eq_true.mp avoids_lowercaseRuns r hr)
    unfold CharSet.hasPoint
    rw [himage, List.any_eq_false]
    intro s hs
    rw [CaseRun.hasPoint_image_of_avoids (havoids s hs) hpoint]
    exact Bool.false_ne_true

theorem isValidChar_lowercasePoint {n : Nat} (hn : n.isValidChar) :
    (lowercasePoint n).isValidChar := by
  rcases lowercasePoint_cases n with ⟨hsame, _⟩ | ⟨r, hr, hpoint, himage⟩
  · rw [hsame]
    exact hn
  · rw [himage]
    exact CaseRun.isValidChar_image (List.all_eq_true.mp isScalar_lowercaseRuns r hr) hpoint

/-! # Characters -/

/-- Tells that a character has no other lowercase form. -/
def IsSmall (c : Char) : Prop :=
  capitals.hasPoint c.toNat = false

instance (c : Char) : Decidable (IsSmall c) :=
  inferInstanceAs (Decidable (capitals.hasPoint c.toNat = false))

theorem IsSmall.ne_sigma {c : Char} (h : IsSmall c) : c ≠ '\u03A3' := by
  rintro rfl
  exact absurd h (by decide +kernel)

theorem IsSmall.lowerExpansion {c : Char} (h : IsSmall c) : lowerExpansion c = [c] := by
  have hdotted : c ≠ '\u0130' := by
    rintro rfl
    exact absurd h (by decide +kernel)
  unfold Text.lowerExpansion lowerChar
  rw [if_neg hdotted, lowercasePoint_of_not_capital h, Char.ofNat_toNat]

theorem toNat_lowerChar (c : Char) : (lowerChar c).toNat = lowercasePoint c.toNat := by
  have hvalid : (lowercasePoint c.toNat).isValidChar := isValidChar_lowercasePoint c.valid
  unfold lowerChar Char.ofNat
  rw [dif_pos hvalid]
  rfl

theorem isSmall_lowerExpansion {c d : Char} (hd : d ∈ lowerExpansion c) : IsSmall d := by
  unfold lowerExpansion at hd
  by_cases hdotted : c = '\u0130'
  · rw [if_pos hdotted] at hd
    rw [List.mem_cons, List.mem_singleton] at hd
    rcases hd with rfl | rfl
    · decide +kernel
    · decide +kernel
  · rw [if_neg hdotted] at hd
    rw [List.mem_singleton.mp hd]
    unfold IsSmall
    rw [toNat_lowerChar]
    refine not_capital_lowercasePoint ?_
    intro hpoint
    exact hdotted (Char.toNat_inj.mp hpoint)

theorem isSmall_lowerSigma (before after : List Char) : IsSmall (lowerSigma before after) := by
  unfold lowerSigma
  split
  · decide +kernel
  · decide +kernel

/-! # Texts -/

theorem isSmall_lowercaseAfter {before cs : List Char} :
    ∀ d ∈ lowercaseAfter before cs, IsSmall d := by
  induction cs generalizing before with
  | nil =>
      intro d hd
      cases hd
  | cons c rest ih =>
      intro d hd
      unfold lowercaseAfter at hd
      rcases List.mem_append.mp hd with hfirst | hrest
      · by_cases hsigma : c = '\u03A3'
        · rw [if_pos hsigma] at hfirst
          rw [List.mem_singleton.mp hfirst]
          exact isSmall_lowerSigma before rest
        · rw [if_neg hsigma] at hfirst
          exact isSmall_lowerExpansion hfirst
      · exact ih d hrest

theorem lowercaseAfter_of_isSmall {before cs : List Char} (h : ∀ c ∈ cs, IsSmall c) :
    lowercaseAfter before cs = cs := by
  induction cs generalizing before with
  | nil => rfl
  | cons c rest ih =>
      rcases List.forall_mem_cons.mp h with ⟨hc, hrest⟩
      unfold lowercaseAfter
      rw [if_neg hc.ne_sigma, hc.lowerExpansion, ih hrest]
      rfl

/-- The lowercase form of a lowercase form is the form itself. -/
theorem lowercase_lowercase (s : String) : lowercase (lowercase s) = lowercase s := by
  unfold lowercase
  rw [String.toList_ofList, lowercaseAfter_of_isSmall isSmall_lowercaseAfter]

-- The last letter of a word is a final sigma, and stays one.
example : lowercase (lowercase "ΟΔΟΣ ΣΑΣ") = "οδος σας" := by decide +kernel

end Text
end SessionAuth
