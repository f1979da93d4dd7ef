import SessionAuth.Proofs.Flow.Turns

/-!
# Traces of flows

The turns that a flow takes on its way to a result, all of them and in their order.  Each of the
rules below says for one way of building a flow what its traces are, so that the traces of a
request can be read off its text.
-/

namespace SessionAuth

namespace Flow

variable {α β : Type}

/-- Tells that a flow may take exactly some turns and then end with a result. -/
def Yields : Flow α → List Turn → α → Prop
  | done a, turns, b => turns = [] ∧ b = a
  | halt _, _, _ => False
  | step e next, turns, b => ∃ r rest, turns = ⟨e, r⟩ :: rest ∧ (next r).Yields rest b

/-- Tells that a flow may take exactly some turns and then halt. -/
def Halts : Flow α → List Turn → Halt → Prop
  | done _, _, _ => False
  | halt h, turns, h' => turns = [] ∧ h' = h
  | step e next, turns, h => ∃ r rest, turns = ⟨e, r⟩ :: rest ∧ (next r).Halts rest h

section Rules

variable {turns : List Turn}

@[simp] theorem yields_done {a b : α} : (done a).Yields turns b ↔ turns = [] ∧ b = a := Iff.rfl

@[simp] theorem yields_pure {a b : α} :
    (pure a : Flow α).Yields turns b ↔ turns = [] ∧ b = a := Iff.rfl

@[simp] theorem not_yields_halt {h : Halt} {b : α} : ¬ (halt h : Flow α).Yields turns b := id

theorem yields_step {e : Effect} {next : e.Reply → Flow α} {b : α} :
    (step e next).Yields turns b ↔
      ∃ r rest, turns = ⟨e, r⟩ :: rest ∧ (next r).Yields rest b := Iff.rfl

/-! # One flow after another -/

/-- The traces of two flows one after the other are those of the first one, each followed by one
of the second. -/
theorem yields_bind {x : Flow α} {f : α → Flow β} {b : β} :
    (x >>= f).Yields turns b ↔
      ∃ a xs ys, turns = xs ++ ys ∧ x.Yields xs a ∧ (f a).Yields ys b := by
  induction x generalizing turns with
  | done a =>
      constructor
      · intro h
        exact ⟨a, [], turns, rfl, ⟨rfl, rfl⟩, h⟩
      · intro h
        rcases h with ⟨_, _, ys, rfl, ⟨rfl, rfl⟩, hys⟩
        exact hys
  | halt h => simp
  | step e next ih =>
      rw [step_bind, yields_step]
      constructor
      · intro h
        rcases h with ⟨r, rest, rfl, hrest⟩
        rcases (ih r).mp hrest with ⟨a, xs, ys, rfl, hxs, hys⟩
        exact ⟨a, ⟨e, r⟩ :: xs, ys, rfl, ⟨r, xs, rfl, hxs⟩, hys⟩
      · intro h
        rcases h with ⟨a, _, ys, rfl, ⟨r, xs, rfl, hxs⟩, hys⟩
        exact ⟨r, xs ++ ys, rfl, (ih r).mpr ⟨a, xs, ys, rfl, hxs, hys⟩⟩

theorem yields_perform_bind {e : Effect} {f : e.Reply → Flow β} {b : β} :
    (perform e >>= f).Yields turns b ↔
      ∃ r rest, turns = ⟨e, r⟩ :: rest ∧ (f r).Yields rest b := Iff.rfl

theorem yields_now_bind {f : Time.Instant → Flow β} {b : β} :
    (now >>= f).Yields turns b ↔
      ∃ t rest, turns = ⟨.clock, t⟩ :: rest ∧ (f t).Yields rest b := Iff.rfl

theorem yields_note_bind {n : Notice} {f : Unit → Flow β} {b : β} :
    (note n >>= f).Yields turns b ↔
      ∃ rest, turns = ⟨.notice n, ()⟩ :: rest ∧ (f ()).Yields rest b := by
  constructor
  · intro h
    rcases h with ⟨_, rest, rfl, hrest⟩
    exact ⟨rest, rfl, hrest⟩
  · intro h
    rcases h with ⟨rest, rfl, hrest⟩
    exact ⟨(), rest, rfl, hrest⟩

theorem yields_newId_bind {e : Entity} {f : Id e → Flow β} {b : β} :
    (newId e >>= f).Yields turns b ↔
      ∃ id rest, turns = ⟨.freshId, id.uuid⟩ :: rest ∧ (f id).Yields rest b := by
  constructor
  · intro h
    rcases h with ⟨u, rest, rfl, hrest⟩
    exact ⟨⟨u⟩, rest, rfl, hrest⟩
  · intro h
    rcases h with ⟨id, rest, rfl, hrest⟩
    exact ⟨id.uuid, rest, rfl, hrest⟩

theorem yields_call_bind {c : Store.Call} {f : c.Reply → Flow β} {b : β} :
    (call c >>= f).Yields turns b ↔
      ∃ a rest, turns = Turn.answered c a :: rest ∧ (f a).Yields rest b := by
  constructor
  · intro h
    rcases h with ⟨r, rest, rfl, hrest⟩
    cases r with
    | ok a => exact ⟨a, rest, rfl, hrest⟩
    | error e => exact absurd hrest not_yields_halt
  · intro h
    rcases h with ⟨a, rest, rfl, hrest⟩
    exact ⟨.ok a, rest, rfl, hrest⟩

theorem yields_ofExcept_bind {x : Except Halt α} {f : α → Flow β} {b : β} :
    (ofExcept x >>= f).Yields turns b ↔ ∃ a, x = .ok a ∧ (f a).Yields turns b := by
  cases x with
  | ok a => simp [ofExcept]
  | error h => simp [ofExcept]

theorem yields_report {kind : Audit.Kind} {subject : Option SubjectId} {outcome : Audit.Outcome}
    {context : List (String × JsonValue)} {b : Unit} :
    (report kind subject outcome context).Yields turns b ↔
      ∃ id t, turns = [⟨.freshId, id.uuid⟩, ⟨.clock, t⟩,
        ⟨.audit ⟨id, kind, subject, outcome, .object context, t⟩, ()⟩] := by
  unfold report
  simp only [yields_newId_bind, yields_now_bind]
  constructor
  · intro h
    rcases h with ⟨id, _, rfl, t, _, rfl, _, _, rfl, rfl, _⟩
    exact ⟨id, t, rfl⟩
  · intro h
    rcases h with ⟨id, t, rfl⟩
    exact ⟨id, _, rfl, t, _, rfl, (), [], rfl, rfl, rfl⟩

end Rules

def Reported (turns : List Turn) (kind : Audit.Kind) (subject : Option SubjectId)
    (outcome : Audit.Outcome) (context : List (String × JsonValue)) : Prop :=
  ∃ id t, ⟨.audit ⟨id, kind, subject, outcome, .object context, t⟩, ()⟩ ∈ turns

section Reports

variable {turns more : List Turn} {kind : Audit.Kind} {subject : Option SubjectId}
  {outcome : Audit.Outcome} {context : List (String × JsonValue)}

theorem reported_of_yields {b : Unit} (h : (report kind subject outcome context).Yields turns b) :
    Reported turns kind subject outcome context := by
  rcases yields_report.mp h with ⟨id, t, rfl⟩
  exact ⟨id, t, by simp⟩

theorem Reported.mono (h : Reported turns kind subject outcome context) (hmore : turns ⊆ more) :
    Reported more kind subject outcome context := by
  rcases h with ⟨id, t, hmem⟩
  exact ⟨id, t, hmore hmem⟩

end Reports

/-! # Traces in given surroundings -/

section Surroundings

variable {σ : Type} {answer : (e : Effect) → σ → e.Reply × σ}

def Tells (answer : (e : Effect) → σ → e.Reply × σ) : List Turn → σ → σ → Prop
  | [], s, t => t = s
  | turn :: rest, s, t =>
      turn.reply = (answer turn.effect s).1 ∧ Tells answer rest (answer turn.effect s).2 t

/-- A flow that comes to its end has taken the turns of one of its traces. -/
theorem yields_of_run {x : Flow α} {s t : σ} {a : α} (h : x.run answer s = (.ok a, t)) :
    ∃ turns, x.Yields turns a ∧ Tells answer turns s t := by
  induction x generalizing s with
  | done b =>
      cases h
      exact ⟨[], ⟨rfl, rfl⟩, rfl⟩
  | halt e => cases h
  | step e next ih =>
      rcases ih _ h with ⟨turns, hyields, htells⟩
      exact ⟨⟨e, (answer e s).1⟩ :: turns, ⟨_, turns, rfl, hyields⟩, rfl, htells⟩

theorem halts_of_run {x : Flow α} {s t : σ} {h : Halt} (hrun : x.run answer s = (.error h, t)) :
    ∃ turns, x.Halts turns h ∧ Tells answer turns s t := by
  induction x generalizing s with
  | done a => cases hrun
  | halt h' =>
      cases hrun
      exact ⟨[], ⟨rfl, rfl⟩, rfl⟩
  | step e next ih =>
      rcases ih _ hrun with ⟨turns, hhalts, htells⟩
      exact ⟨⟨e, (answer e s).1⟩ :: turns, ⟨_, turns, rfl, hhalts⟩, rfl, htells⟩

end Surroundings

end Flow

end SessionAuth
