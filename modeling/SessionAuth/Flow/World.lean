import SessionAuth.Flow.Basic

/-!
# The surroundings of flows

A world holds the store, the log and the trail of events, and draws times, identifiers, secrets
and salts one after the other from given sequences.
-/

namespace SessionAuth

open Time

structure Supply where
  clock : Nat → Instant
  ids : Nat → Uuid
  secrets : Nat → Refresh.Secret
  salts : Nat → Password.Salt

structure Drawn where
  times : Nat
  ids : Nat
  secrets : Nat
  salts : Nat
deriving DecidableEq, Repr

/-- The surroundings of flows.  Notices and events stand in the order of their arrival. -/
structure World where
  supply : Supply
  drawn : Drawn
  store : Store
  log : List Notice
  trail : List Audit.Event

namespace World

def initial (supply : Supply) : World :=
  ⟨supply, ⟨0, 0, 0, 0⟩, .empty, [], []⟩

def readClock (w : World) : Instant × World :=
  (w.supply.clock w.drawn.times, { w with drawn := { w.drawn with times := w.drawn.times + 1 } })

def drawId (w : World) : Uuid × World :=
  (w.supply.ids w.drawn.ids, { w with drawn := { w.drawn with ids := w.drawn.ids + 1 } })

def drawSecret (w : World) : Refresh.Secret × World :=
  (w.supply.secrets w.drawn.secrets,
    { w with drawn := { w.drawn with secrets := w.drawn.secrets + 1 } })

def drawSalt (w : World) : Password.Salt × World :=
  (w.supply.salts w.drawn.salts, { w with drawn := { w.drawn with salts := w.drawn.salts + 1 } })

def note (w : World) (n : Notice) : World :=
  { w with log := w.log ++ [n] }

def noticesOf : Password.Verification → List Notice
  | .malformed => [.storedHashMalformed]
  | .unverifiable => [.storedHashUnverifiable]
  | _ => []

def verify (w : World) (password stored : String) : Password.Verification × World :=
  let v := Password.verify password stored
  (v, { w with log := w.log ++ noticesOf v })

def call (w : World) (c : Store.Call) : Except StoreError c.Reply × World :=
  let (now, w) := w.readClock
  match w.store.perform now c with
  | .ok (r, store) => (.ok r, { w with store := store })
  | .error e => (.error e, w)

def answer : (e : Effect) → World → e.Reply × World
  | .store c, w => w.call c
  | .clock, w => w.readClock
  | .freshId, w => w.drawId
  | .freshSecret, w => w.drawSecret
  | .freshSalt, w => w.drawSalt
  | .verify password stored, w => w.verify password stored
  | .notice n, w => ((), w.note n)
  | .audit e, w => ((), { w with trail := w.trail ++ [e] })

def run {α : Type} (w : World) (x : Flow α) : Except Halt α × World :=
  x.run answer w

end World

end SessionAuth
