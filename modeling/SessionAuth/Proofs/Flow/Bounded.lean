import SessionAuth.Proofs.Flow.Turns

/-!
# Flows that come to an end

A flow that is bounded takes a limited number of turns, whatever it is answered, and halts only
with a cause that the turns before have given.
-/

namespace SessionAuth

namespace Flow

variable {α β : Type}

/-- A flow that, after some turns, ends within a number of further ones and halts only for a
cause. -/
def Bounded (cause : List Turn → Halt → Prop) : Nat → List Turn → Flow α → Prop
  | _, _, done _ => True
  | _, past, halt h => cause past h
  | 0, _, step _ _ => False
  | n + 1, past, step e next => ∀ r, Bounded cause n (past ++ [⟨e, r⟩]) (next r)

section Rules

variable {cause : List Turn → Halt → Prop} {past : List Turn} {m n : Nat}

@[simp] theorem bounded_done (a : α) : Bounded cause n past (done a) := by
  cases n <;> trivial

@[simp] theorem bounded_halt (h : Halt) :
    Bounded cause n past (halt h : Flow α) ↔ cause past h := by
  cases n <;> exact Iff.rfl

theorem bounded_step {e : Effect} {next : e.Reply → Flow α} :
    Bounded cause n past (step e next) ↔
      0 < n ∧ ∀ r, Bounded cause (n - 1) (past ++ [⟨e, r⟩]) (next r) := by
  cases n with
  | zero => simp [Bounded]
  | succ n => simp [Bounded]

theorem Bounded.mono {x : Flow α} (hx : Bounded cause m past x) (h : m ≤ n) :
    Bounded cause n past x := by
  induction x generalizing past m n with
  | done a => exact bounded_done a
  | halt e => exact (bounded_halt e).mpr ((bounded_halt e).mp hx)
  | step e next ih =>
      rcases bounded_step.mp hx with ⟨hpos, hnext⟩
      refine bounded_step.mpr ⟨by omega, ?_⟩
      intro r
      exact ih r (hnext r) (by omega)

theorem Bounded.weaken {cause' : List Turn → Halt → Prop} {x : Flow α}
    (hx : Bounded cause n past x) (h : ∀ later e, cause later e → cause' later e) :
    Bounded cause' n past x := by
  induction x generalizing past n with
  | done a => exact bounded_done a
  | halt e => exact (bounded_halt e).mpr (h past e ((bounded_halt e).mp hx))
  | step e next ih =>
      rcases bounded_step.mp hx with ⟨hpos, hnext⟩
      refine bounded_step.mpr ⟨hpos, ?_⟩
      intro r
      exact ih r (hnext r)

/-- Two flows one after the other take at most the turns of both. -/
theorem Bounded.bind {x : Flow α} {f : α → Flow β} (hx : Bounded cause m past x)
    (hf : ∀ later a, past <+: later → Bounded cause n later (f a)) :
    Bounded cause (n + m) past (x >>= f) := by
  induction x generalizing past m with
  | done a => exact (hf past a (List.prefix_refl past)).mono (Nat.le_add_right n m)
  | halt e => exact (bounded_halt e).mpr ((bounded_halt e).mp hx)
  | step e next ih =>
      rcases bounded_step.mp hx with ⟨hpos, hnext⟩
      refine bounded_step.mpr ⟨by omega, ?_⟩
      intro r
      have hlater := ih r (hnext r) (fun later a h => hf later a ((List.prefix_append _ _).trans h))
      exact hlater.mono (by omega)

theorem bounded_perform (e : Effect) : Bounded cause 1 past (perform e) := by
  intro r
  exact bounded_done r

theorem bounded_now : Bounded cause 1 past now :=
  bounded_perform .clock

theorem bounded_newId (e : Entity) : Bounded cause 1 past (newId e) :=
  (bounded_perform .freshId).bind (fun _ _ _ => bounded_done _)

theorem bounded_note (n : Notice) : Bounded cause 1 past (note n) :=
  bounded_perform (.notice n)

theorem bounded_ofExcept {x : Except Halt α} (h : ∀ e, x = .error e → cause past e) :
    Bounded cause 0 past (ofExcept x) := by
  cases x with
  | ok a => exact bounded_done a
  | error e => exact (bounded_halt e).mpr (h e rfl)

theorem bounded_report (kind : Audit.Kind) (subject : Option SubjectId) (outcome : Audit.Outcome)
    (context : List (String × JsonValue)) :
    Bounded cause 3 past (report kind subject outcome context) := by
  unfold report
  apply (bounded_newId .event).bind
  intro _ id _
  apply bounded_now.bind
  intro _ t _
  exact bounded_perform _

theorem bounded_call {c : Store.Call}
    (hfault : ∀ e, cause (past ++ [⟨.store c, .error e⟩]) (.fault (.store e))) :
    Bounded cause 1 past (call c) := by
  intro r
  cases r with
  | ok a => exact bounded_done a
  | error e => exact (bounded_halt _).mpr (hfault e)

end Rules

end Flow

end SessionAuth
