import SessionAuth.Proofs.Flow.Traces

/-!
# Flows that commit

Some turns matter more than others, because they change something.  A flow commits if it does not
halt any more after such a turn: whoever sees it halt knows that nothing was changed.
-/

namespace SessionAuth

namespace Effect

def isOwn : Effect → Bool
  | store _ => false
  | audit _ => false
  | _ => true

end Effect

namespace Flow

variable {α β : Type}

def Calm (barred : Turn → Bool) : Flow α → Prop
  | done _ => True
  | halt _ => False
  | step e next => ∀ r, barred ⟨e, r⟩ = false ∧ Calm barred (next r)

def Avoids (kind : Turn → Bool) : Flow α → Prop
  | done _ => True
  | halt _ => True
  | step e next => ∀ r, kind ⟨e, r⟩ = false ∧ Avoids kind (next r)

/-- A flow that after a turn of one kind halts no more, and takes no more turns of another. -/
def Commits (kind barred : Turn → Bool) : Flow α → Prop
  | done _ => True
  | halt _ => True
  | step e next => ∀ r, (kind ⟨e, r⟩ = true → Calm barred (next r)) ∧ Commits kind barred (next r)

/-- A kind of turns to which only events and calls that were answered belong. -/
structure Outward (kind : Turn → Bool) : Prop where
  own : ∀ (e : Effect) (r : e.Reply), e.isOwn = true → kind ⟨e, r⟩ = false
  failed : ∀ (c : Store.Call) (e : StoreError), kind ⟨.store c, .error e⟩ = false

section Rules

variable {kind barred : Turn → Bool}

/-! # One flow after another -/

theorem Calm.bind {x : Flow α} {f : α → Flow β} (hx : Calm barred x)
    (hf : ∀ a, Calm barred (f a)) : Calm barred (x >>= f) := by
  induction x with
  | done a => exact hf a
  | halt h => exact hx.elim
  | step e next ih =>
      intro r
      exact ⟨(hx r).left, ih r (hx r).right⟩

theorem Avoids.bind {x : Flow α} {f : α → Flow β} (hx : Avoids kind x)
    (hf : ∀ a, Avoids kind (f a)) : Avoids kind (x >>= f) := by
  induction x with
  | done a => exact hf a
  | halt h => trivial
  | step e next ih =>
      intro r
      exact ⟨(hx r).left, ih r (hx r).right⟩

theorem Calm.avoids {x : Flow α} (hx : Calm kind x) : Avoids kind x := by
  induction x with
  | done a => trivial
  | halt h => trivial
  | step e next ih =>
      intro r
      exact ⟨(hx r).left, ih r (hx r).right⟩

theorem Calm.commits {x : Flow α} (hx : Calm barred x) : Commits kind barred x := by
  induction x with
  | done a => trivial
  | halt h => trivial
  | step e next ih =>
      intro r
      exact ⟨fun _ => (hx r).right, ih r (hx r).right⟩

theorem Avoids.commits {x : Flow α} (hx : Avoids kind x) : Commits kind barred x := by
  induction x with
  | done a => trivial
  | halt h => trivial
  | step e next ih =>
      intro r
      constructor
      · intro hkind
        rw [(hx r).left] at hkind
        cases hkind
      · exact ih r (hx r).right

theorem Commits.after {x : Flow α} {f : α → Flow β} (hx : Avoids kind x)
    (hf : ∀ a, Commits kind barred (f a)) : Commits kind barred (x >>= f) := by
  induction x with
  | done a => exact hf a
  | halt h => trivial
  | step e next ih =>
      intro r
      constructor
      · intro hkind
        rw [(hx r).left] at hkind
        cases hkind
      · exact ih r (hx r).right

theorem Commits.followed {x : Flow α} {f : α → Flow β} (hx : Commits kind barred x)
    (hf : ∀ a, Calm barred (f a)) : Commits kind barred (x >>= f) := by
  induction x with
  | done a => exact (hf a).commits
  | halt h => trivial
  | step e next ih =>
      intro r
      exact ⟨fun hkind => ((hx r).left hkind).bind hf, ih r (hx r).right⟩

/-! # Single steps -/

section Steps

variable (hout : Outward kind)
include hout

theorem calm_perform {e : Effect} (he : e.isOwn = true) : Calm kind (perform e) :=
  fun r => ⟨hout.own e r he, trivial⟩

theorem calm_now : Calm kind now :=
  calm_perform hout rfl

theorem calm_newId (e : Entity) : Calm kind (newId e) :=
  (calm_perform hout (e := .freshId) rfl).bind (fun _ => trivial)

theorem calm_note (n : Notice) : Calm kind (note n) :=
  calm_perform hout (e := .notice n) rfl

theorem avoids_call {c : Store.Call} (h : ∀ a, kind (Turn.answered c a) = false) :
    Avoids kind (call c) := by
  intro r
  cases r with
  | ok a => exact ⟨h a, trivial⟩
  | error e => exact ⟨hout.failed c e, trivial⟩

theorem commits_call_bind {c : Store.Call} {f : c.Reply → Flow β}
    (h : ∀ a, (kind (Turn.answered c a) = true → Calm barred (f a)) ∧ Commits kind barred (f a)) :
    Commits kind barred (call c >>= f) := by
  intro r
  cases r with
  | ok a => exact h a
  | error e =>
      constructor
      · intro hkind
        rw [hout.failed c e] at hkind
        cases hkind
      · trivial

theorem commits_report (k : Audit.Kind) (subject : Option SubjectId) (outcome : Audit.Outcome)
    (context : List (String × JsonValue)) :
    Commits kind barred (report k subject outcome context) := by
  apply Commits.after (calm_newId hout .event).avoids
  intro id
  apply Commits.after (calm_now hout).avoids
  intro instant r
  exact ⟨fun _ => trivial, trivial⟩

end Steps

theorem avoids_ofExcept (x : Except Halt α) : Avoids kind (ofExcept x) := by
  cases x with
  | ok a => trivial
  | error h => trivial

theorem calm_report (hnothing : ∀ turn, barred turn = false) (k : Audit.Kind)
    (subject : Option SubjectId) (outcome : Audit.Outcome) (context : List (String × JsonValue)) :
    Calm barred (report k subject outcome context) :=
  fun _ => ⟨hnothing _, fun _ => ⟨hnothing _, fun _ => ⟨hnothing _, trivial⟩⟩⟩

end Rules

/-! # Flows that halt -/

section Halts

variable {kind barred : Turn → Bool} {turns : List Turn} {h : Halt}

theorem Calm.not_halts {x : Flow α} (hx : Calm barred x) : ¬ x.Halts turns h := by
  induction x generalizing turns with
  | done a => exact id
  | halt h' => exact hx.elim
  | step e next ih =>
      rintro ⟨r, rest, _, hrest⟩
      exact ih r (hx r).right hrest

/-- A flow that commits has not taken any turn that matters if it halts. -/
theorem Commits.of_halts {x : Flow α} (hx : Commits kind barred x) (hhalts : x.Halts turns h) :
    ∀ turn ∈ turns, kind turn = false := by
  induction x generalizing turns with
  | done a => exact hhalts.elim
  | halt h' =>
      rcases hhalts with ⟨rfl, _⟩
      intro turn hmem
      cases hmem
  | step e next ih =>
      rcases hhalts with ⟨r, rest, rfl, hrest⟩
      intro turn hmem
      rcases List.mem_cons.mp hmem with rfl | hmem
      · rw [← Bool.not_eq_true]
        intro hkind
        exact ((hx r).left hkind).not_halts hrest
      · exact ih r (hx r).right hrest turn hmem

theorem Avoids.of_yields {x : Flow α} {a : α} (hx : Avoids kind x) (hyields : x.Yields turns a) :
    ∀ turn ∈ turns, kind turn = false := by
  induction x generalizing turns with
  | done b =>
      rcases hyields with ⟨rfl, _⟩
      intro turn hmem
      cases hmem
  | halt h' => exact hyields.elim
  | step e next ih =>
      rcases hyields with ⟨r, rest, rfl, hrest⟩
      intro turn hmem
      rcases List.mem_cons.mp hmem with rfl | hmem
      · exact (hx r).left
      · exact ih r (hx r).right hrest turn hmem

theorem Commits.filter_eq {x : Flow α} {a : α} {turn : Turn} (hx : Commits kind kind x)
    (hyields : x.Yields turns a) (hmem : turn ∈ turns) (hkind : kind turn = true) :
    turns.filter kind = [turn] := by
  induction x generalizing turns with
  | done b =>
      rcases hyields with ⟨rfl, _⟩
      cases hmem
  | halt h' => exact hyields.elim
  | step e next ih =>
      rcases hyields with ⟨r, rest, rfl, hrest⟩
      cases hfirst : kind ⟨e, r⟩ with
      -- A first turn that matters bars all others, or else the one that matters comes later.
      | true =>
          have hnone : ∀ t ∈ rest, kind t = false :=
            ((hx r).left hfirst).avoids.of_yields hrest
          rcases List.mem_cons.mp hmem with rfl | hmem
          · rw [List.filter_cons_of_pos hfirst, List.filter_eq_nil_iff.mpr]
            intro t ht
            rw [hnone t ht]
            exact Bool.false_ne_true
          · rw [hnone turn hmem] at hkind
            cases hkind
      | false =>
          rw [List.filter_cons_of_neg (by simp [hfirst])]
          rcases List.mem_cons.mp hmem with rfl | hmem
          · rw [hkind] at hfirst
            cases hfirst
          · exact ih r (hx r).right hrest hmem

end Halts

/-! # Turns in a world -/

inductive Along {ω : Type} (meets : ω → Turn → ω → Prop) : ω → List Turn → ω → Prop where
  | nil {w : ω} : Along meets w [] w
  | cons {w v u : ω} {turn : Turn} {turns : List Turn} (hturn : meets w turn v)
      (hturns : Along meets v turns u) : Along meets w (turn :: turns) u

/-- What only turns of some kind change is left by all others. -/
theorem Along.view_eq {ω ν : Type} {meets : ω → Turn → ω → Prop} {kind : Turn → Bool}
    {view : ω → ν} {w u : ω} {turns : List Turn} (h : Along meets w turns u)
    (hkeeps : ∀ w turn v, meets w turn v → kind turn = false → view v = view w)
    (hnone : ∀ turn ∈ turns, kind turn = false) : view u = view w := by
  induction h with
  | nil => rfl
  | cons hturn _ ih =>
      have hfirst := hkeeps _ _ _ hturn (hnone _ List.mem_cons_self)
      exact (ih (fun turn hmem => hnone turn (List.mem_cons_of_mem _ hmem))).trans hfirst

end Flow

end SessionAuth
