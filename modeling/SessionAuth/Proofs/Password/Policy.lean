import SessionAuth.Password.Policy

/-!
# What a password policy reports

A policy reports exactly the requirements that a password does not meet, in a fixed order and each
of them once.  What it reports depends on the characters of the password and not on their order.
To add characters or to ask for less never leads to a new kind of violation.
-/

namespace SessionAuth
namespace Password
namespace Policy

/-! # Requirements -/

/-- The ways in which some characters break a policy: there are too few of them, or none of them is
of a kind that is asked for. -/
inductive Breaks (p : Policy) (cs : List Char) : Violation → Prop where
  | tooShort (hshort : cs.length < p.minLength) :
      Breaks p cs (.tooShort p.minLength cs.length)
  | missingUppercase (hrequired : p.requireUppercase = true)
      (hnone : ∀ c ∈ cs, Text.isUppercase c = false) : Breaks p cs .missingUppercase
  | missingNumber (hrequired : p.requireNumber = true)
      (hnone : ∀ c ∈ cs, c.isDigit = false) : Breaks p cs .missingNumber
  | missingSpecial (hrequired : p.requireSpecial = true)
      (hnone : ∀ c ∈ cs, Text.isAlphanumeric c = true ∨ Text.isBlank c = true ∨
        Text.isControl c = true) : Breaks p cs .missingSpecial

/-- A policy that asks for nothing that another one does not ask for. -/
structure Weaker (p strong : Policy) : Prop where
  minLength : p.minLength ≤ strong.minLength
  uppercase : p.requireUppercase = true → strong.requireUppercase = true
  number : p.requireNumber = true → strong.requireNumber = true
  special : p.requireSpecial = true → strong.requireSpecial = true

theorem Weaker.refl (p : Policy) : p.Weaker p :=
  ⟨Nat.le_refl _, id, id, id⟩

variable {p strong : Policy} {cs ds : List Char} {v : Violation}

theorem Breaks.mono (hweaker : p.Weaker strong) (hsub : cs.Sublist ds) (h : p.Breaks ds v) :
    ∃ u, strong.Breaks cs u ∧ u.code = v.code := by
  cases h with
  | tooShort hshort =>
      have hlength := hsub.length_le
      have hmin := hweaker.minLength
      exact ⟨_, .tooShort (by omega), rfl⟩
  | missingUppercase hrequired hnone =>
      exact ⟨_, .missingUppercase (hweaker.uppercase hrequired)
        (fun c hc => hnone c (hsub.subset hc)), rfl⟩
  | missingNumber hrequired hnone =>
      exact ⟨_, .missingNumber (hweaker.number hrequired)
        (fun c hc => hnone c (hsub.subset hc)), rfl⟩
  | missingSpecial hrequired hnone =>
      exact ⟨_, .missingSpecial (hweaker.special hrequired)
        (fun c hc => hnone c (hsub.subset hc)), rfl⟩

/-! # Reports -/

theorem isSpecial_eq_false {c : Char} :
    isSpecial c = false ↔
      Text.isAlphanumeric c = true ∨ Text.isBlank c = true ∨ Text.isControl c = true := by
  simp only [isSpecial, Bool.and_eq_false_iff, Bool.not_eq_false', or_assoc]

theorem mem_ite_singleton {c : Prop} [Decidable c] {w : Violation} :
    v ∈ (if c then [w] else []) ↔ c ∧ v = w := by
  by_cases hc : c
  · simp [hc]
  · simp [hc]

theorem missing_iff {required : Bool} {test : Char → Bool} :
    (required && !cs.any test) = true ↔ required = true ∧ ∀ c ∈ cs, test c = false := by
  rw [Bool.and_eq_true, Bool.not_eq_true', List.any_eq_false]
  simp only [Bool.not_eq_true]

theorem mem_violationsOf : v ∈ p.violationsOf cs ↔ p.Breaks cs v := by
  unfold violationsOf
  simp only [List.mem_append, mem_ite_singleton, missing_iff, isSpecial_eq_false]
  constructor
  · intro h
    rcases h with ((⟨hshort, rfl⟩ | ⟨⟨hrequired, hnone⟩, rfl⟩) | ⟨⟨hrequired, hnone⟩, rfl⟩) |
      ⟨⟨hrequired, hnone⟩, rfl⟩
    · exact .tooShort hshort
    · exact .missingUppercase hrequired hnone
    · exact .missingNumber hrequired hnone
    · exact .missingSpecial hrequired hnone
  · intro h
    cases h with
    | tooShort hshort => exact Or.inl (Or.inl (Or.inl ⟨hshort, rfl⟩))
    | missingUppercase hrequired hnone =>
        exact Or.inl (Or.inl (Or.inr ⟨⟨hrequired, hnone⟩, rfl⟩))
    | missingNumber hrequired hnone => exact Or.inl (Or.inr ⟨⟨hrequired, hnone⟩, rfl⟩)
    | missingSpecial hrequired hnone => exact Or.inr ⟨⟨hrequired, hnone⟩, rfl⟩

def checkOrder : List String :=
  ["too_short", "missing_uppercase", "missing_number", "missing_special"]

theorem map_code_ite {c : Prop} [Decidable c] (w : Violation) :
    ((if c then [w] else []).map Violation.code).Sublist [w.code] := by
  by_cases hc : c
  · simp [hc]
  · simp [hc]

theorem map_code_violationsOf : ((p.violationsOf cs).map Violation.code).Sublist checkOrder := by
  unfold violationsOf
  simp only [List.map_append]
  exact (((map_code_ite (.tooShort p.minLength cs.length)).append
    (map_code_ite .missingUppercase)).append (map_code_ite .missingNumber)).append
    (map_code_ite .missingSpecial)

theorem violationsOf_perm (h : cs.Perm ds) : p.violationsOf cs = p.violationsOf ds := by
  unfold violationsOf
  rw [h.length_eq, h.any_eq, h.any_eq, h.any_eq]

theorem violationsOf_mono (hweaker : p.Weaker strong) (hsub : cs.Sublist ds)
    (hv : v ∈ p.violationsOf ds) : ∃ u ∈ strong.violationsOf cs, u.code = v.code := by
  rcases (mem_violationsOf.mp hv).mono hweaker hsub with ⟨u, hu, hcode⟩
  exact ⟨u, mem_violationsOf.mpr hu, hcode⟩

/-! # Decisions -/

theorem validate_eq_ok {s : String} : p.validate s = .ok () ↔ p.violations s = [] := by
  unfold validate
  cases p.violations s with
  | nil => simp
  | cons v rest => simp

theorem validate_eq_error {s : String} :
    p.validate s = .error v ↔ (p.violations s).head? = some v := by
  unfold validate
  cases p.violations s with
  | nil => simp
  | cons w rest => simp

/-- A policy lists exactly the violations of a password, in the order of the checks and each code
once, accepts the password if there are none and refuses it with the first one otherwise.
Characters that are added anywhere lead to no new kind of violation, and their order does not
matter.  A policy that asks for less reports no kind of violation that one which asks for more does
not. -/
theorem violations_exact (p : Policy) (s : String) :
    (∀ v, v ∈ p.violations s ↔ p.Breaks s.toList v) ∧
    ((p.violations s).map Violation.code).Sublist checkOrder ∧
    (p.validate s = .ok () ↔ p.violations s = []) ∧
    (∀ v, p.validate s = .error v ↔ (p.violations s).head? = some v) ∧
    (∀ longer : String, s.toList.Sublist longer.toList →
      ∀ v ∈ p.violations longer, ∃ u ∈ p.violations s, u.code = v.code) ∧
    (∀ s' : String, s.toList.Perm s'.toList → p.violations s' = p.violations s) ∧
    (∀ weak : Policy, weak.Weaker p →
      ∀ v ∈ weak.violations s, ∃ u ∈ p.violations s, u.code = v.code) := by
  refine ⟨fun v => mem_violationsOf, map_code_violationsOf, validate_eq_ok,
    fun v => validate_eq_error, ?_, ?_, ?_⟩
  · intro longer hsub v hv
    exact violationsOf_mono (Weaker.refl p) hsub hv
  · intro s' hperm
    exact (violationsOf_perm hperm).symm
  · intro weak hweaker v hv
    exact violationsOf_mono hweaker (List.Sublist.refl _) hv

namespace Sample

def strict : Policy :=
  ⟨12, true, true, true⟩

def lenient : Policy :=
  ⟨8, false, true, false⟩

end Sample

/-- A short password breaks every requirement of the strict policy.  With some more characters in
between it breaks nothing else, in another order it breaks the same, and the lenient policy reports
nothing else. -/
theorem violations_exact_short :
    Sample.strict.violations "short" =
        [.tooShort 12 5, .missingUppercase, .missingNumber, .missingSpecial] ∧
      Sample.strict.validate "short" = .error (.tooShort 12 5) ∧
      (∀ v ∈ Sample.strict.violations "s#horRt1",
        ∃ u ∈ Sample.strict.violations "short", u.code = v.code) ∧
      Sample.strict.violations "trosh" = Sample.strict.violations "short" ∧
      ∀ v ∈ Sample.lenient.violations "short",
        ∃ u ∈ Sample.strict.violations "short", u.code = v.code := by
  have hlisted : Sample.strict.violations "short" =
      [.tooShort 12 5, .missingUppercase, .missingNumber, .missingSpecial] := by
    decide +kernel
  have hweaker : Sample.lenient.Weaker Sample.strict :=
    ⟨by decide, by decide, by decide, by decide⟩
  rcases violations_exact Sample.strict "short" with ⟨_, _, _, hfirst, hlonger, hperm, hweak⟩
  refine ⟨hlisted, (hfirst _).mpr ?_, hlonger _ (by decide), hperm _ (by decide),
    hweak _ hweaker⟩
  rw [hlisted]
  rfl

end Policy
end Password
end SessionAuth
