import SessionAuth.Flow.Basic

/-!
# Turns of a flow

A flow takes turns: it asks for an effect and gets an answer.  Two predicates say what a flow
does: what it may ask for after some turns, and what result it may have in the end.  A flow keeps
to them whatever it is answered, so that nothing is assumed about its surroundings, other flows
among them.
-/

namespace SessionAuth

structure Turn where
  effect : Effect
  reply : effect.Reply

namespace Effect

def isCall : Effect → Bool
  | store _ => true
  | _ => false

end Effect

namespace Turn

abbrev answered (c : Store.Call) (r : c.Reply) : Turn :=
  ⟨.store c, .ok r⟩

def calls (turns : List Turn) : List Turn :=
  turns.filter (fun t => t.effect.isCall)

@[simp] theorem calls_nil : calls [] = [] := rfl

@[simp] theorem calls_append (xs ys : List Turn) : calls (xs ++ ys) = calls xs ++ calls ys :=
  List.filter_append xs ys

theorem calls_singleton_of_not_isCall {e : Effect} (h : e.isCall = false) (r : e.Reply) :
    calls [⟨e, r⟩] = [] := by
  simp [calls, h]

theorem mem_of_mem_calls {t : Turn} {turns : List Turn} (h : t ∈ calls turns) : t ∈ turns :=
  (List.mem_filter.mp h).left

theorem mem_of_calls {turns rest : List Turn} (h : calls turns = rest) {t : Turn} (ht : t ∈ rest) :
    t ∈ turns := by
  rw [← h] at ht
  exact mem_of_mem_calls ht

theorem mem_calls_store {c : Store.Call} {r : Except StoreError c.Reply} {turns : List Turn} :
    (⟨.store c, r⟩ : Turn) ∈ calls turns ↔ (⟨.store c, r⟩ : Turn) ∈ turns := by
  simp [calls, Effect.isCall]

def Idles (past later : List Turn) : Prop :=
  ∃ more, later = past ++ more ∧ calls more = []

theorem Idles.refl (past : List Turn) : Idles past past :=
  ⟨[], by simp⟩

theorem Idles.trans {p q r : List Turn} (hpq : Idles p q) (hqr : Idles q r) : Idles p r := by
  rcases hpq with ⟨m, hq, hm⟩
  rcases hqr with ⟨n, hr, hn⟩
  refine ⟨m ++ n, ?_, ?_⟩
  · rw [hr, hq, List.append_assoc]
  · rw [calls_append, hm, hn, List.append_nil]

theorem Idles.turn {past later : List Turn} {e : Effect} (h : Idles past later)
    (he : e.isCall = false) (r : e.Reply) : Idles past (later ++ [⟨e, r⟩]) :=
  h.trans ⟨[⟨e, r⟩], rfl, calls_singleton_of_not_isCall he r⟩

theorem Idles.calls_eq {past later : List Turn} (h : Idles past later) :
    calls later = calls past := by
  rcases h with ⟨more, rfl, hmore⟩
  rw [calls_append, hmore, List.append_nil]

theorem Idles.mem {past later : List Turn} (h : Idles past later) {t : Turn} (ht : t ∈ past) :
    t ∈ later := by
  rcases h with ⟨more, rfl, _⟩
  exact List.mem_append_left more ht

end Turn

namespace Flow

variable {α β : Type}

/-- A flow that, after some turns, asks only for what it may ask for and ends only with what it
may end with. -/
def Keeps (asks : List Turn → Effect → Prop) (ends : List Turn → α → Prop) :
    List Turn → Flow α → Prop
  | past, done a => ends past a
  | _, halt _ => True
  | past, step e next => asks past e ∧ ∀ r, Keeps asks ends (past ++ [⟨e, r⟩]) (next r)

def OwnFree (asks : List Turn → Effect → Prop) : Prop :=
  ∀ past e, e.isCall = false → asks past e

section Rules

variable {asks : List Turn → Effect → Prop} {past : List Turn}

@[simp] theorem keeps_done {ends : List Turn → α → Prop} (a : α) :
    Keeps asks ends past (done a) ↔ ends past a := Iff.rfl

@[simp] theorem keeps_halt {ends : List Turn → α → Prop} (h : Halt) :
    Keeps asks ends past (halt h) := trivial

theorem keeps_step {ends : List Turn → α → Prop} {e : Effect} {next : e.Reply → Flow α} :
    Keeps asks ends past (step e next) ↔
      asks past e ∧ ∀ r, Keeps asks ends (past ++ [⟨e, r⟩]) (next r) := Iff.rfl

/-!
## Rules of composition

A flow keeps to what is said of its parts one after the other.  What the first part ends with is
what the second one may rely on.
-/

theorem Keeps.mono {P Q : List Turn → α → Prop} {x : Flow α} (hx : Keeps asks P past x)
    (h : ∀ later a, P later a → Q later a) : Keeps asks Q past x := by
  induction x generalizing past with
  | done a => exact h past a hx
  | halt e => trivial
  | step e next ih =>
      constructor
      · exact hx.left
      · intro r
        exact ih r (hx.right r)

theorem Keeps.bind {P : List Turn → α → Prop} {Q : List Turn → β → Prop} {x : Flow α}
    {f : α → Flow β} (hx : Keeps asks P past x)
    (hf : ∀ later a, P later a → Keeps asks Q later (f a)) :
    Keeps asks Q past (x >>= f) := by
  induction x generalizing past with
  | done a => exact hf past a hx
  | halt e => trivial
  | step e next ih =>
      constructor
      · exact hx.left
      · intro r
        exact ih r (hx.right r)

theorem keeps_call {c : Store.Call} (h : asks past (.store c)) :
    Keeps asks (fun later r => later = past ++ [Turn.answered c r]) past (call c) := by
  constructor
  · exact h
  · intro r
    cases r with
    | ok a => rfl
    | error e => trivial

theorem keeps_perform (hown : OwnFree asks) {e : Effect} (he : e.isCall = false) :
    Keeps asks (fun later r => later = past ++ [⟨e, r⟩]) past (perform e) := by
  constructor
  · exact hown past e he
  · intro r
    rfl

theorem keeps_ofExcept (x : Except Halt α) :
    Keeps asks (fun later a => later = past ∧ x = .ok a) past (ofExcept x) := by
  cases x with
  | ok a => exact ⟨rfl, rfl⟩
  | error h => trivial

theorem keeps_newId (hown : OwnFree asks) (e : Entity) :
    Keeps asks (fun later i => later = past ++ [⟨.freshId, i.uuid⟩]) past (newId e) := by
  apply (keeps_perform hown (e := .freshId) rfl).bind
  intro later u hlater
  exact hlater

theorem keeps_now (hown : OwnFree asks) :
    Keeps asks (fun later t => later = past ++ [⟨.clock, t⟩]) past now :=
  keeps_perform hown rfl

theorem keeps_note (hown : OwnFree asks) (n : Notice) :
    Keeps asks (fun later _ => Turn.Idles past later) past (note n) := by
  apply (keeps_perform hown (e := .notice n) rfl).mono
  intro later r hlater
  rw [hlater]
  exact (Turn.Idles.refl past).turn rfl r

theorem keeps_report (hown : OwnFree asks) (kind : Audit.Kind) (subject : Option SubjectId)
    (outcome : Audit.Outcome) (context : List (String × JsonValue)) :
    Keeps asks (fun later _ => Turn.Idles past later) past
      (report kind subject outcome context) := by
  apply (keeps_newId hown .event).bind
  intro p id hp
  apply (keeps_now hown).bind
  intro q instant hq
  apply (keeps_perform hown (e := .audit _) rfl).mono
  intro later r hlater
  rw [hlater, hq, hp]
  exact (((Turn.Idles.refl past).turn (e := .freshId) rfl id.uuid).turn (e := .clock) rfl
    instant).turn rfl r

end Rules

end Flow

end SessionAuth
