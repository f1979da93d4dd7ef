import SessionAuth.Flow.World

/-!
# Flows that nothing interrupts

A flow that runs alone asks the world for one thing after the other.  A reading of the clock and
a call of the store leave the rest of the flow with the answer and the world after it.
-/

namespace SessionAuth

open Time Refresh

namespace World

variable {α : Type}

def instant (w : World) (k : Nat) : Instant :=
  w.supply.clock (w.drawn.times + k)

def uuid (w : World) (k : Nat) : Uuid :=
  w.supply.ids (w.drawn.ids + k)

def secret (w : World) : Secret :=
  w.supply.secrets w.drawn.secrets

def tick (w : World) : World :=
  w.readClock.2

def called (w : World) (s : Store) : World :=
  { w.tick with store := s }

/-- A flow that nothing interrupts has a result and leaves a store. -/
def Gives (w : World) (x : Flow α) (a : α) (s : Store) : Prop :=
  (w.run x).1 = .ok a ∧ (w.run x).2.store = s

theorem run_now (w : World) (f : Instant → Flow α) :
    w.run (Flow.now >>= f) = w.tick.run (f (w.instant 0)) := rfl

theorem answer_store {w : World} {c : Store.Call} {a : c.Reply} {u : Store}
    (h : w.store.perform (w.instant 0) c = .ok (a, u)) :
    w.answer (.store c) = (.ok a, w.called u) := by
  have hperform : w.store.perform (w.supply.clock w.drawn.times) c = .ok (a, u) := h
  simp only [answer, call, readClock, hperform]
  rfl

theorem answer_store_of_error {w : World} {c : Store.Call} {e : StoreError}
    (h : w.store.perform (w.instant 0) c = .error e) :
    w.answer (.store c) = (.error e, w.tick) := by
  have hperform : w.store.perform (w.supply.clock w.drawn.times) c = .error e := h
  simp only [answer, call, readClock, hperform]
  rfl

theorem run_call {w : World} {c : Store.Call} {a : c.Reply} {u : Store}
    (h : w.store.perform (w.instant 0) c = .ok (a, u)) (f : c.Reply → Flow α) :
    w.run (Flow.call c >>= f) = (w.called u).run (f a) := by
  change Flow.run answer _ (w.answer (.store c)).2 = _
  rw [answer_store h]
  rfl

theorem run_call_of_error {w : World} {c : Store.Call} {e : StoreError}
    (h : w.store.perform (w.instant 0) c = .error e) (f : c.Reply → Flow α) :
    w.run (Flow.call c >>= f) = (.error (.fault (.store e)), w.tick) := by
  change Flow.run answer _ (w.answer (.store c)).2 = _
  rw [answer_store_of_error h]
  rfl

theorem run_verify (w : World) (password stored : String) (f : Password.Verification → Flow α) :
    w.run (Flow.perform (.verify password stored) >>= f) =
      (w.verify password stored).2.run (f (Password.verify password stored)) := rfl

theorem run_bind_of_ok {β : Type} {w w' : World} {x : Flow α} {a : α} (h : w.run x = (.ok a, w'))
    (f : α → Flow β) : w.run (x >>= f) = w'.run (f a) := by
  induction x generalizing w with
  | done b =>
      cases h
      rfl
  | halt e => cases h
  | step e next ih => exact ih _ h

theorem run_bind_of_error {β : Type} {w w' : World} {x : Flow α} {h : Halt}
    (hrun : w.run x = (.error h, w')) (f : α → Flow β) : w.run (x >>= f) = (.error h, w') := by
  induction x generalizing w with
  | done b => cases hrun
  | halt e =>
      cases hrun
      rfl
  | step e next ih => exact ih _ hrun

/-! # Logs -/

/-- Worlds that differ in nothing but their logs. -/
structure Alike (w v : World) : Prop where
  supply : w.supply = v.supply
  drawn : w.drawn = v.drawn
  store : w.store = v.store
  trail : w.trail = v.trail

theorem Alike.answer {w v : World} (h : Alike w v) (e : Effect) :
    (w.answer e).1 = (v.answer e).1 ∧ Alike (w.answer e).2 (v.answer e).2 := by
  rcases w with ⟨supply, drawn, store, log, trail⟩
  rcases v with ⟨_, _, _, log', _⟩
  rcases h with ⟨rfl, rfl, rfl, rfl⟩
  cases e with
  | store c =>
      simp only [World.answer, call, readClock]
      cases store.perform (supply.clock drawn.times) c with
      | ok x => exact ⟨rfl, rfl, rfl, rfl, rfl⟩
      | error e => exact ⟨rfl, rfl, rfl, rfl, rfl⟩
  | _ => exact ⟨rfl, rfl, rfl, rfl, rfl⟩

/-- No flow reads the log. -/
theorem Alike.run {w v : World} (h : Alike w v) (x : Flow α) :
    (w.run x).1 = (v.run x).1 ∧ Alike (w.run x).2 (v.run x).2 := by
  induction x generalizing w v with
  | done a => exact ⟨rfl, h⟩
  | halt e => exact ⟨rfl, h⟩
  | step e next ih =>
      rcases h.answer e with ⟨hreply, hworld⟩
      change ((w.answer e).2.run (next (w.answer e).1)).1 = ((v.answer e).2.run _).1 ∧
        Alike ((w.answer e).2.run (next (w.answer e).1)).2 ((v.answer e).2.run _).2
      rw [hreply]
      exact ih _ hworld

end World

end SessionAuth
