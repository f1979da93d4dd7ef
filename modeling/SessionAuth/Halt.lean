import SessionAuth.Fault

/-!
# Halts

The ways in which a request ends without an answer: a fault, or a sum that leaves the range of
its type.
-/

namespace SessionAuth

/-- A sum that leaves its range. -/
inductive Overflow where
  | accessExpiry
  | generation
deriving DecidableEq, Repr

/-- An end without an answer. -/
inductive Halt where
  | fault (f : Fault)
  | overflow (o : Overflow)
deriving DecidableEq

end SessionAuth
