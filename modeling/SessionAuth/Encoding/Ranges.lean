/-!
# Ranges of integers

The integers that fit into a word, with and without a sign.
-/

namespace SessionAuth
namespace Encoding

def size32 : Nat := 4294967296

def size64 : Nat := 18446744073709551616

structure IntRange where
  low : Int
  high : Int
deriving DecidableEq, Repr

namespace IntRange

def int32 : IntRange := ⟨-2147483648, 2147483647⟩

def int64 : IntRange := ⟨-9223372036854775808, 9223372036854775807⟩

def word32 : IntRange := ⟨0, 4294967295⟩

def word64 : IntRange := ⟨0, 18446744073709551615⟩

def check? (r : IntRange) (n : Int) : Option Int :=
  if r.low ≤ n ∧ n ≤ r.high then some n else none

theorem check?_eq_some_iff {r : IntRange} {n m : Int} :
    r.check? n = some m ↔ n = m ∧ r.low ≤ m ∧ m ≤ r.high := by
  unfold check?
  constructor
  · intro h
    split at h
    · next bounds => cases h; exact ⟨rfl, bounds⟩
    · cases h
  · rintro ⟨rfl, bounds⟩
    exact if_pos bounds

end IntRange

end Encoding
end SessionAuth
