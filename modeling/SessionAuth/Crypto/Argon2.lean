import SessionAuth.Crypto.Blake2b

/-!
# Argon2

The memory-hard password hash of RFC 9106 in its three variants and both published versions.
A memory of blocks is divided into lanes; every pass fills the lanes slice by slice, and each new
block is made of the one before it and of one that a pseudo-random rule selects.
-/

namespace SessionAuth
namespace Crypto
namespace Argon2

open Encoding

/-- The three ways to select the reference block: by the memory itself, by counters alone, and by
counters during the first half of the first pass. -/
inductive Variant where
  | argon2d
  | argon2i
  | argon2id
deriving DecidableEq, Repr

namespace Variant

def code : Variant → Nat
  | argon2d => 0
  | argon2i => 1
  | argon2id => 2

def name : Variant → String
  | argon2d => "argon2d"
  | argon2i => "argon2i"
  | argon2id => "argon2id"

def ofName? (s : String) : Option Variant :=
  [argon2d, argon2i, argon2id].find? (fun v => v.name == s)

end Variant

/-- The two published versions.  The later one adds a new block to the one that it replaces. -/
inductive Version where
  | v16
  | v19
deriving DecidableEq, Repr

namespace Version

def code : Version → Nat
  | v16 => 16
  | v19 => 19

def ofCode? (n : Nat) : Option Version :=
  [v16, v19].find? (fun v => v.code == n)

end Version

/-- The cost of a hash: memory in KiB, passes over the memory, and lanes. -/
structure Cost where
  memory : Nat
  passes : Nat
  lanes : Nat
deriving DecidableEq, Repr

inductive CostError where
  | memoryTooSmall
  | passesTooFew
  | lanesTooFew
  | lanesTooMany
deriving DecidableEq, Repr

namespace CostError

def message : CostError → String
  | memoryTooSmall => "memory cost is too small"
  | passesTooFew => "time cost is too small"
  | lanesTooFew => "not enough threads"
  | lanesTooMany => "too many threads"

end CostError

namespace Cost

/-- Checks a cost: at least eight KiB, eight KiB for each lane, one pass and one lane. -/
def check (c : Cost) : Except CostError Unit :=
  if c.memory < 8 ∨ c.memory < 8 * c.lanes then .error .memoryTooSmall
  else if c.passes < 1 then .error .passesTooFew
  else if c.lanes < 1 then .error .lanesTooFew
  else if 0xFFFFFF < c.lanes then .error .lanesTooMany
  else .ok ()

def segmentLength (c : Cost) : Nat :=
  c.memory / (4 * c.lanes)

def laneLength (c : Cost) : Nat :=
  4 * c.segmentLength

def blockCount (c : Cost) : Nat :=
  c.lanes * c.laneLength

end Cost

structure Input where
  variant : Variant
  version : Version
  password : List UInt8
  salt : List UInt8
  associated : List UInt8
  outputLength : Nat
deriving DecidableEq, Repr

/-! # Blocks -/

abbrev Block := Vector UInt64 128

/-- Addition with a product of the low halves, which makes a step as slow in hardware as a
multiplication. -/
@[inline] def blend (x y : UInt64) : UInt64 :=
  x + y + 2 * (x &&& 0xFFFFFFFF) * (y &&& 0xFFFFFFFF)

def roundAt (place : Fin 16 → Fin 128) (v : Block) : Block :=
  Quarter.places.foldl
    (fun v p => Quarter.mixAt blend blend blend v (place p.1) (place p.2.1) (place p.2.2.1)
      (place p.2.2.2)) v

/-- The words of row `r`: sixteen in sequence. -/
def rowPlace (r : Fin 8) (k : Fin 16) : Fin 128 :=
  ⟨16 * r.val + k.val, by omega⟩

/-- The words of column `r`: a pair of neighbours from every row. -/
def columnPlace (r : Fin 8) (k : Fin 16) : Fin 128 :=
  ⟨16 * (k.val / 2) + 2 * r.val + k.val % 2, by omega⟩

def xorBlock (x y : Block) : Block :=
  Vector.zipWith (· ^^^ ·) x y

def compress (x y : Block) : Block :=
  let r := xorBlock x y
  let rows := (List.finRange 8).foldl (fun v i => roundAt (rowPlace i) v) r
  let columns := (List.finRange 8).foldl (fun v i => roundAt (columnPlace i) v) rows
  xorBlock r columns

def zeroBlock : Block :=
  Vector.replicate 128 0

def blockOfOctets (bs : List UInt8) : Block :=
  let words := ((parts 8 bs).map (fun w => UInt64.ofNat (ofLittleEndian w))).toArray
  Vector.ofFn (fun i => words.getD i.val 0)

def octetsOfBlock (b : Block) : List UInt8 :=
  b.toList.flatMap (fun w => littleEndian 8 w.toNat)

/-! # Hashes of any length -/

/-- A chain of `n` full digests, each of the one before, of which all but the last give half of
their octets. The last has `rest` octets. -/
def longDigestFrom : Nat → Nat → List UInt8 → List UInt8
  | 0, rest, v => Blake2b.digest rest v
  | n + 1, rest, v =>
      let w := Blake2b.digest 64 v
      w.take 32 ++ longDigestFrom n rest w

def longDigest (size : Nat) (message : List UInt8) : List UInt8 :=
  let m := littleEndian 4 size ++ message
  if size ≤ 64 then Blake2b.digest size m
  else
    let n := (size + 31) / 32 - 2
    longDigestFrom n (size - 32 * n) m

/-! # Filling the memory -/

structure Position where
  pass : Nat
  slice : Nat
  lane : Nat
  index : Nat
deriving DecidableEq, Repr

def measured (bs : List UInt8) : List UInt8 :=
  littleEndian 4 bs.length ++ bs

/-- The hash of all inputs, from which the first blocks are made.  There is no secret key. -/
def seed (c : Cost) (i : Input) : List UInt8 :=
  Blake2b.digest 64
    (littleEndian 4 c.lanes ++ littleEndian 4 i.outputLength ++ littleEndian 4 c.memory ++
      littleEndian 4 c.passes ++ littleEndian 4 i.version.code ++ littleEndian 4 i.variant.code ++
      measured i.password ++ measured i.salt ++ measured [] ++ measured i.associated)

def initialMemory (c : Cost) (i : Input) : Array Block :=
  let h := seed c i
  (List.range c.lanes).foldl
    (fun m lane =>
      [0, 1].foldl
        (fun m column =>
          m.setIfInBounds (lane * c.laneLength + column)
            (blockOfOctets (longDigest 1024 (h ++ littleEndian 4 column ++ littleEndian 4 lane))))
        m)
    (Array.replicate c.blockCount zeroBlock)

def selectsByCounter (v : Variant) (p : Position) : Bool :=
  match v with
  | .argon2d => false
  | .argon2i => true
  | .argon2id => p.pass == 0 && p.slice < 2

def counterBlock (c : Cost) (i : Input) (p : Position) (group : Nat) : Block :=
  let header := [p.pass, p.lane, p.slice, c.blockCount, c.passes, i.variant.code, group + 1]
  let z := (header.zipIdx).foldl
    (fun (b : Block) e => b.setIfInBounds e.2 (UInt64.ofNat e.1)) zeroBlock
  compress zeroBlock (compress zeroBlock z)

/-- The lane and the column of the reference block that a pseudo-random word selects. -/
def reference (c : Cost) (p : Position) (word : UInt64) : Nat × Nat :=
  let first := word.toNat % size32
  let second := word.toNat / size32
  let lane := if p.pass = 0 ∧ p.slice = 0 then p.lane else second % c.lanes
  let finished := if p.pass = 0 then p.slice * c.segmentLength else 3 * c.segmentLength
  let area :=
    if lane = p.lane then finished + p.index - 1
    else if p.index = 0 then finished - 1
    else finished
  let x := first * first / size32
  let offset := area - 1 - area * x / size32
  let start := if p.pass = 0 ∨ p.slice = 3 then 0 else (p.slice + 1) * c.segmentLength
  (lane, (start + offset) % c.laneLength)

theorem mod_blockSize_lt (n : Nat) : n % 128 < 128 :=
  Nat.mod_lt n (Nat.succ_pos 127)

def wordAt (b : Block) (n : Nat) : UInt64 :=
  b.get ⟨n % 128, mod_blockSize_lt n⟩

def fillBlock (c : Cost) (i : Input) (p : Position) (counters : Block) (m : Array Block) :
    Array Block :=
  let column := p.slice * c.segmentLength + p.index
  let base := p.lane * c.laneLength
  let previous := m.getD (base + (if column = 0 then c.laneLength - 1 else column - 1)) zeroBlock
  let word :=
    if selectsByCounter i.variant p then wordAt counters p.index else wordAt previous 0
  let (lane, place) := reference c p word
  let made := compress previous (m.getD (lane * c.laneLength + place) zeroBlock)
  if p.pass = 0 ∨ i.version = .v16 then m.setIfInBounds (base + column) made
  else m.setIfInBounds (base + column) (xorBlock made (m.getD (base + column) zeroBlock))

def fillSegment (c : Cost) (i : Input) (pass slice : Nat) (m : Array Block) (lane : Nat) :
    Array Block :=
  let skipped := if pass = 0 ∧ slice = 0 then 2 else 0
  let step := fun (s : Array Block × Block) (index : Nat) =>
    let p : Position := ⟨pass, slice, lane, index⟩
    let counters :=
      if selectsByCounter i.variant p ∧ (index % 128 = 0 ∨ index = skipped) then
        counterBlock c i p (index / 128)
      else s.2
    (fillBlock c i p counters s.1, counters)
  ((List.range' skipped (c.segmentLength - skipped)).foldl step (m, zeroBlock)).1

def fillMemory (c : Cost) (i : Input) : Array Block :=
  (List.range c.passes).foldl
    (fun m pass =>
      (List.range 4).foldl
        (fun m slice => (List.range c.lanes).foldl (fillSegment c i pass slice) m) m)
    (initialMemory c i)

/-- The hash of a password: the last blocks of all lanes, added and hashed to the wanted length. -/
def hash (c : Cost) (i : Input) : List UInt8 :=
  let m := fillMemory c i
  let last := (List.range c.lanes).foldl
    (fun b lane => xorBlock b (m.getD ((lane + 1) * c.laneLength - 1) zeroBlock)) zeroBlock
  longDigest i.outputLength (octetsOfBlock last)

end Argon2
end Crypto
end SessionAuth
