/-!
# Sets of characters

A character class of the Unicode database is kept as a list of runs.  A run is an arithmetic
progression of code points: step one for a plain block, step two for the blocks in which
capital and small letters alternate.
-/

namespace SessionAuth
namespace Text

structure CharRun where
  first : Nat
  last : Nat
  step : Nat
deriving DecidableEq, Repr

namespace CharRun

def hasPoint (r : CharRun) (n : Nat) : Bool :=
  decide (r.first ≤ n) && decide (n ≤ r.last) && (n - r.first) % r.step == 0

end CharRun

abbrev CharSet := List CharRun

namespace CharSet

def hasPoint (s : CharSet) (n : Nat) : Bool :=
  s.any (fun r => r.hasPoint n)

def has (s : CharSet) (c : Char) : Bool :=
  s.hasPoint c.toNat

@[simp] theorem has_nil (c : Char) : has [] c = false := rfl

@[simp] theorem has_cons (r : CharRun) (s : CharSet) (c : Char) :
    has (r :: s) c = (r.hasPoint c.toNat || has s c) := rfl

end CharSet

end Text
end SessionAuth
