import SessionAuth.Notice

/-!
# Bounded queues of events

A queue between the service and whoever keeps the events.  The service never waits: an event that
finds the queue full or closed is dropped, and the drop is logged.  The events that are in the
queue when it is closed can still be taken out.
-/

namespace SessionAuth
namespace Audit

structure Queue where
  capacity : Nat
  events : List Event
  closed : Bool
  bounded : events.length ≤ capacity

namespace Queue

def ofCapacity (n : Nat) : Queue :=
  ⟨max n 1, [], false, Nat.zero_le _⟩

theorem length_push_le (q : Queue) (e : Event) (h : q.events.length < q.capacity) :
    (q.events ++ [e]).length ≤ q.capacity := by
  rw [List.length_append]
  exact h

/-- Puts an event into a queue, or drops it with a notice. -/
def emit (q : Queue) (e : Event) : Queue × List Notice :=
  if q.closed then (q, [.eventNotQueued e .closed])
  else if h : q.events.length < q.capacity then
    ({ q with
      events := q.events ++ [e]
      bounded := q.length_push_le e h }, [])
  else (q, [.eventNotQueued e .full])

inductive Received where
  | event (e : Event)
  | empty
  | closed

def receive (q : Queue) : Received × Queue :=
  match h : q.events with
  | [] => (if q.closed then .closed else .empty, q)
  | e :: es =>
      (.event e, { q with
        events := es
        bounded := by have := q.bounded; rw [h] at this; exact Nat.le_of_succ_le this })

def close (q : Queue) : Queue :=
  { q with closed := true }

end Queue

def eventsOf (kind : Kind) (events : List Event) : List Event :=
  events.filter (fun e => decide (e.kind = kind))

end Audit
end SessionAuth
