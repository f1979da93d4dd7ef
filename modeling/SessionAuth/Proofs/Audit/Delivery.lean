import Mathlib.Data.List.Induction
import SessionAuth.Audit.Queue

/-!
# Delivery of events

What becomes of the events that are handed to a queue while a receiver takes events out of it and
may close it.  Every event is with the receiver, waits in the queue or has been dropped, and the
notices tell exactly the events that have been dropped.
-/

namespace SessionAuth
namespace Audit

/-! # Single operations -/

namespace Queue

def refusal? (q : Queue) : Option QueueRefusal :=
  if q.closed then some .closed
  else if q.events.length < q.capacity then none
  else some .full

theorem refusal?_eq_none {q : Queue} :
    q.refusal? = none ↔ q.closed = false ∧ q.events.length < q.capacity := by
  unfold refusal?
  cases q.closed with
  | true => simp
  | false => simp

theorem emit_of_refused {q : Queue} {reason : QueueRefusal} (h : q.refusal? = some reason)
    (e : Event) : q.emit e = (q, [.eventNotQueued e reason]) := by
  unfold refusal? at h
  unfold emit
  by_cases hclosed : q.closed = true
  · rw [if_pos hclosed] at h
    cases h
    rw [if_pos hclosed]
  · rw [if_neg hclosed] at h
    rw [if_neg hclosed]
    by_cases hroom : q.events.length < q.capacity
    · rw [if_pos hroom] at h
      cases h
    · rw [if_neg hroom] at h
      cases h
      rw [dif_neg hroom]

theorem emit_of_taken {q : Queue} (h : q.refusal? = none) (e : Event) :
    (q.emit e).1.capacity = q.capacity ∧ (q.emit e).1.events = q.events ++ [e] ∧
      (q.emit e).1.closed = q.closed ∧ (q.emit e).2 = [] := by
  rcases refusal?_eq_none.mp h with ⟨hopen, hroom⟩
  have hclosed : ¬ q.closed = true := by
    rw [hopen]
    exact Bool.false_ne_true
  unfold emit
  rw [if_neg hclosed, dif_pos hroom]
  exact ⟨rfl, rfl, rfl, rfl⟩

def Received.events : Received → List Event
  | event e => [e]
  | empty => []
  | closed => []

theorem receive_spec (q : Queue) :
    q.receive.2.capacity = q.capacity ∧ q.receive.2.closed = q.closed ∧
      q.receive.1.events = q.events.take 1 ∧ q.receive.2.events = q.events.drop 1 := by
  unfold receive
  split
  case h_1 hnil =>
    refine ⟨rfl, rfl, ?_, ?_⟩
    · rw [hnil]
      cases q.closed with
      | true => rfl
      | false => rfl
    · rw [hnil]
      rfl
  case h_2 e es hcons =>
    exact ⟨rfl, rfl, (congrArg (List.take 1) hcons).symm, (congrArg (List.drop 1) hcons).symm⟩

end Queue

/-! # Runs -/

/-- What the two ends of a queue do. -/
inductive Step where
  | emit (e : Event)
  | receive
  | close

namespace Step

def event? : Step → Option Event
  | emit e => some e
  | _ => none

def receives : Step → Bool
  | receive => true
  | _ => false

end Step

/-- An event with the queue that it meets. -/
structure Offer where
  queue : Queue
  event : Event

namespace Offer

def taken? (o : Offer) : Option Event :=
  match o.queue.refusal? with
  | none => some o.event
  | some _ => none

def notice? (o : Offer) : Option Notice :=
  o.queue.refusal?.map (Notice.eventNotQueued o.event)

end Offer

/-- A queue with what has come of it: the events that it has met, those that the receiver has got,
and the notices. -/
structure Delivery where
  queue : Queue
  offers : List Offer
  received : List Event
  log : List Notice

namespace Delivery

def start (n : Nat) : Delivery :=
  ⟨.ofCapacity n, [], [], []⟩

def step (d : Delivery) : Step → Delivery
  | .emit e =>
      ⟨(d.queue.emit e).1, d.offers ++ [⟨d.queue, e⟩], d.received, d.log ++ (d.queue.emit e).2⟩
  | .receive =>
      ⟨d.queue.receive.2, d.offers, d.received ++ d.queue.receive.1.events, d.log⟩
  | .close => ⟨d.queue.close, d.offers, d.received, d.log⟩

theorem step_emit (d : Delivery) (e : Event) :
    d.step (.emit e) = ⟨(d.queue.emit e).1, d.offers ++ [⟨d.queue, e⟩], d.received,
      d.log ++ (d.queue.emit e).2⟩ := rfl

theorem step_receive (d : Delivery) :
    d.step .receive = ⟨d.queue.receive.2, d.offers, d.received ++ d.queue.receive.1.events,
      d.log⟩ := rfl

def after (d : Delivery) (steps : List Step) : Delivery :=
  steps.foldl step d

def run (n : Nat) (steps : List Step) : Delivery :=
  (start n).after steps

theorem after_cons (d : Delivery) (s : Step) (steps : List Step) :
    d.after (s :: steps) = (d.step s).after steps := rfl

theorem run_append (n : Nat) (steps more : List Step) :
    run n (steps ++ more) = (run n steps).after more :=
  List.foldl_append

/-! # What a run keeps -/

/-- The books of a delivery agree with the steps that have led to it. -/
structure Accounted (n : Nat) (steps : List Step) (d : Delivery) : Prop where
  capacity : d.queue.capacity = max n 1
  closed : d.queue.closed = true ↔ Step.close ∈ steps
  offered : d.offers.map Offer.event = steps.filterMap Step.event?
  kept : d.received ++ d.queue.events = d.offers.filterMap Offer.taken?
  logged : d.log = d.offers.filterMap Offer.notice?

theorem accounted_start (n : Nat) : (start n).Accounted n [] where
  capacity := rfl
  closed := by
    constructor
    · intro h
      cases h
    · intro h
      cases h
  offered := rfl
  kept := rfl
  logged := rfl

theorem Accounted.emit {n : Nat} {steps : List Step} {d : Delivery} (h : d.Accounted n steps)
    (e : Event) : (d.step (.emit e)).Accounted n (steps ++ [.emit e]) := by
  have hclosed : Step.close ∈ steps ++ [Step.emit e] ↔ Step.close ∈ steps := by simp
  have hoffered : (d.offers ++ [Offer.mk d.queue e]).map Offer.event =
      (steps ++ [Step.emit e]).filterMap Step.event? := by
    rw [List.map_append, List.filterMap_append, h.offered]
    rfl
  rw [step_emit]
  cases hrefusal : d.queue.refusal? with
  | none =>
      rcases Queue.emit_of_taken hrefusal e with ⟨hcapacity, hevents, hopen, hsilent⟩
      exact {
        capacity := hcapacity.trans h.capacity
        closed := by
          rw [hclosed, hopen]
          exact h.closed
        offered := hoffered
        kept := by
          rw [List.filterMap_append, ← h.kept, hevents, ← List.append_assoc]
          simp [Offer.taken?, hrefusal]
        logged := by
          rw [List.filterMap_append, ← h.logged, hsilent]
          simp [Offer.notice?, hrefusal] }
  | some reason =>
      rw [Queue.emit_of_refused hrefusal]
      exact {
        capacity := h.capacity
        closed := by
          rw [hclosed]
          exact h.closed
        offered := hoffered
        kept := by
          rw [List.filterMap_append, ← h.kept]
          simp [Offer.taken?, hrefusal]
        logged := by
          rw [List.filterMap_append, ← h.logged]
          simp [Offer.notice?, hrefusal] }

theorem Accounted.receive {n : Nat} {steps : List Step} {d : Delivery} (h : d.Accounted n steps) :
    (d.step .receive).Accounted n (steps ++ [.receive]) := by
  rcases d.queue.receive_spec with ⟨hcapacity, hclosed, hreceived, hevents⟩
  exact {
    capacity := hcapacity.trans h.capacity
    closed := by
      have hmem : Step.close ∈ steps ++ [Step.receive] ↔ Step.close ∈ steps := by simp
      rw [hmem, ← h.closed]
      exact Eq.congr_left hclosed
    offered := by
      rw [List.filterMap_append, ← h.offered]
      exact (List.append_nil _).symm
    kept := by
      have hsplit : (d.received ++ d.queue.receive.1.events) ++ d.queue.receive.2.events =
          d.received ++ d.queue.events := by
        rw [hreceived, hevents, List.append_assoc, List.take_append_drop]
      exact hsplit.trans h.kept
    logged := h.logged }

theorem Accounted.close {n : Nat} {steps : List Step} {d : Delivery} (h : d.Accounted n steps) :
    (d.step .close).Accounted n (steps ++ [.close]) where
  capacity := h.capacity
  closed := by
    constructor
    · intro _
      exact List.mem_append_right steps List.mem_cons_self
    · intro _
      rfl
  offered := by
    rw [List.filterMap_append, ← h.offered]
    exact (List.append_nil _).symm
  kept := h.kept
  logged := h.logged

theorem Accounted.step {n : Nat} {steps : List Step} {d : Delivery} (h : d.Accounted n steps)
    (s : Step) : (d.step s).Accounted n (steps ++ [s]) := by
  cases s with
  | emit e => exact h.emit e
  | receive => exact h.receive
  | close => exact h.close

theorem accounted_run (n : Nat) (steps : List Step) : (run n steps).Accounted n steps := by
  induction steps using List.reverseRecOn with
  | nil => exact accounted_start n
  | append_singleton steps s ih =>
      rw [run_append]
      exact ih.step s

/-! # Counting -/

/-- An event is taken or noticed, and never both. -/
theorem taken_or_noticed (o : Offer) :
    (o.taken? = some o.event ∧ o.notice? = none) ∨
      (o.taken? = none ∧ ∃ reason, o.notice? = some (.eventNotQueued o.event reason)) := by
  unfold Offer.taken? Offer.notice?
  cases o.queue.refusal? with
  | none => exact Or.inl ⟨rfl, rfl⟩
  | some reason => exact Or.inr ⟨rfl, reason, rfl⟩

theorem taken_sublist (offers : List Offer) :
    (offers.filterMap Offer.taken?).Sublist (offers.map Offer.event) := by
  induction offers with
  | nil => exact List.Sublist.slnil
  | cons o offers ih =>
      rw [List.map_cons]
      rcases taken_or_noticed o with ⟨htaken, _⟩ | ⟨htaken, _⟩
      · rw [List.filterMap_cons_some htaken]
        exact ih.cons_cons o.event
      · rw [List.filterMap_cons_none htaken]
        exact ih.cons o.event

theorem length_taken_add_noticed (offers : List Offer) :
    offers.length =
      (offers.filterMap Offer.taken?).length + (offers.filterMap Offer.notice?).length := by
  induction offers with
  | nil => rfl
  | cons o offers ih =>
      rcases taken_or_noticed o with ⟨htaken, hnotice⟩ | ⟨htaken, reason, hnotice⟩
      · rw [List.filterMap_cons_some htaken, List.filterMap_cons_none hnotice, List.length_cons,
          List.length_cons, ih]
        omega
      · rw [List.filterMap_cons_none htaken, List.filterMap_cons_some hnotice, List.length_cons,
          List.length_cons, ih]
        omega

/-! # Closed queues -/

theorem after_of_closed {d : Delivery} (hclosed : d.queue.closed = true) (steps : List Step) :
    (d.after steps).received = d.received ++ d.queue.events.take (steps.countP Step.receives) ∧
      (d.after steps).queue.events = d.queue.events.drop (steps.countP Step.receives) := by
  induction steps generalizing d with
  | nil => exact ⟨(List.append_nil _).symm, rfl⟩
  | cons s steps ih =>
      rw [after_cons]
      cases s with
      | emit e =>
          have hrefusal : d.queue.refusal? = some .closed := by
            unfold Queue.refusal?
            rw [if_pos hclosed]
          have hqueue : (d.step (.emit e)).queue = d.queue := by
            rw [step_emit, Queue.emit_of_refused hrefusal]
          have hrest := ih (d := d.step (.emit e)) (by rw [hqueue]; exact hclosed)
          rw [hqueue] at hrest
          exact hrest
      | receive =>
          rcases d.queue.receive_spec with ⟨_, hstill, hreceived, hevents⟩
          have hrest := ih (d := d.step .receive) (hstill.trans hclosed)
          have hcount : (Step.receive :: steps).countP Step.receives =
              1 + steps.countP Step.receives := by
            rw [List.countP_cons_of_pos rfl, Nat.add_comm]
          have hstep : (d.step .receive).received = d.received ++ d.queue.events.take 1 := by
            rw [step_receive, hreceived]
          have hqueue : (d.step .receive).queue.events = d.queue.events.drop 1 := hevents
          rw [hstep, hqueue, List.append_assoc, ← List.take_add, List.drop_drop] at hrest
          rw [hcount]
          exact hrest
      | close => exact ih (d := d.step .close) rfl

/-! # Nothing is lost silently -/

/-- Whatever the two ends of a queue have done, in whatever order: the events that the receiver has
got and then those that wait are the events that the queue has taken, so they come in the order in
which they were handed to it; no more than its capacity wait, and a capacity of none counts as one;
there is one notice for each event that was dropped and none for the others, so the numbers add
up.  The next event is dropped exactly if the queue has been closed or is full, and put at the end
otherwise.  Once the queue is closed the receiver still gets what waits in it. -/
theorem nothing_lost (n : Nat) (steps : List Step) :
    (run n steps).offers.map Offer.event = steps.filterMap Step.event? ∧
      (run n steps).received ++ (run n steps).queue.events =
        (run n steps).offers.filterMap Offer.taken? ∧
      (run n steps).log = (run n steps).offers.filterMap Offer.notice? ∧
      ((run n steps).received ++ (run n steps).queue.events).Sublist
        (steps.filterMap Step.event?) ∧
      (run n steps).queue.events.length ≤ max n 1 ∧
      (steps.filterMap Step.event?).length =
        (run n steps).received.length + (run n steps).queue.events.length +
          (run n steps).log.length ∧
      (∀ e,
        (Step.close ∈ steps ∨ (run n steps).queue.events.length = max n 1) ∧
          (run n (steps ++ [.emit e])).queue = (run n steps).queue ∧
          (∃ reason, (run n (steps ++ [.emit e])).log =
            (run n steps).log ++ [.eventNotQueued e reason]) ∨
        ¬ (Step.close ∈ steps ∨ (run n steps).queue.events.length = max n 1) ∧
          (run n (steps ++ [.emit e])).queue.events = (run n steps).queue.events ++ [e] ∧
          (run n (steps ++ [.emit e])).log = (run n steps).log) ∧
      ∀ more,
        (run n (steps ++ .close :: more)).received =
          (run n steps).received ++
            (run n steps).queue.events.take (more.countP Step.receives) ∧
        (run n (steps ++ .close :: more)).queue.events =
          (run n steps).queue.events.drop (more.countP Step.receives) := by
  have h := accounted_run n steps
  have hbounded := (run n steps).queue.bounded
  rw [h.capacity] at hbounded
  refine ⟨h.offered, h.kept, h.logged, ?_, hbounded, ?_, ?_, ?_⟩
  · rw [h.kept, ← h.offered]
    exact taken_sublist _
  · rw [← h.offered, List.length_map, ← List.length_append, h.kept, h.logged]
    exact length_taken_add_noticed _
  · intro e
    rw [run_append, ← h.closed, ← h.capacity]
    cases hrefusal : (run n steps).queue.refusal? with
    | none =>
        rcases Queue.refusal?_eq_none.mp hrefusal with ⟨hopen, hroom⟩
        rcases Queue.emit_of_taken hrefusal e with ⟨_, hevents, _, hsilent⟩
        refine Or.inr ⟨?_, hevents, ?_⟩
        · rw [hopen]
          intro hdropped
          rcases hdropped with hclosed | hfull
          · cases hclosed
          · exact absurd hfull (Nat.ne_of_lt hroom)
        · show (run n steps).log ++ ((run n steps).queue.emit e).2 = (run n steps).log
          rw [hsilent, List.append_nil]
    | some reason =>
        have hemit := Queue.emit_of_refused hrefusal e
        refine Or.inl ⟨?_, congrArg Prod.fst hemit, reason, ?_⟩
        · by_cases hclosed : (run n steps).queue.closed = true
          · exact Or.inl hclosed
          · refine Or.inr (Nat.le_antisymm (run n steps).queue.bounded (Nat.not_lt.mp ?_))
            intro hroom
            rw [Queue.refusal?_eq_none.mpr ⟨(Bool.not_eq_true _).mp hclosed, hroom⟩] at hrefusal
            cases hrefusal
        · show (run n steps).log ++ ((run n steps).queue.emit e).2 = _
          rw [hemit]
  · intro more
    rw [run_append, after_cons]
    exact after_of_closed rfl more

end Delivery
end Audit
end SessionAuth
