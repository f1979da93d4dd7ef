import SessionAuth.Crypto.Quarter
import SessionAuth.Encoding.Ranges
import SessionAuth.Encoding.Words

/-!
# BLAKE2b

The hash function of RFC 7693 without a key, for digests of one to 64 octets.
-/

namespace SessionAuth
namespace Crypto
namespace Blake2b

open Encoding

/-- The initial words: the fractional parts of the square roots of the first eight primes. -/
def initialWords : Vector UInt64 8 :=
  #v[0x6a09e667f3bcc908, 0xbb67ae8584caa73b, 0x3c6ef372fe94f82b, 0xa54ff53a5f1d36f1,
    0x510e527fade682d1, 0x9b05688c2b3e6c1f, 0x1f83d9abfb41bd6b, 0x5be0cd19137e2179]

/-- The order in which a round takes the words of a block; the rounds repeat after ten. -/
def wordOrder : List (List Nat) :=
  [[0, 1, 2, 3, 4, 5, 6, 7, 8, 9, 10, 11, 12, 13, 14, 15],
   [14, 10, 4, 8, 9, 15, 13, 6, 1, 12, 0, 2, 11, 7, 5, 3],
   [11, 8, 12, 0, 5, 2, 15, 13, 10, 14, 3, 6, 7, 1, 9, 4],
   [7, 9, 3, 1, 13, 12, 11, 14, 2, 6, 5, 10, 4, 0, 15, 8],
   [9, 0, 5, 7, 2, 4, 10, 15, 14, 1, 11, 12, 6, 8, 3, 13],
   [2, 12, 6, 10, 0, 11, 8, 3, 4, 13, 7, 5, 15, 14, 1, 9],
   [12, 5, 1, 15, 14, 13, 4, 10, 0, 7, 6, 3, 9, 2, 8, 11],
   [13, 11, 7, 14, 12, 1, 3, 9, 5, 0, 15, 4, 8, 6, 2, 10],
   [6, 15, 14, 9, 11, 3, 0, 8, 12, 2, 13, 7, 1, 4, 10, 5],
   [10, 2, 8, 4, 7, 6, 1, 5, 15, 11, 9, 14, 3, 12, 13, 0],
   [0, 1, 2, 3, 4, 5, 6, 7, 8, 9, 10, 11, 12, 13, 14, 15],
   [14, 10, 4, 8, 9, 15, 13, 6, 1, 12, 0, 2, 11, 7, 5, 3]]

/-- The steps of a round: the places that each mixes, and the words of the block that it takes,
the words being taken in pairs. -/
def roundSteps (order : List Nat) :
    List ((Fin 16 × Fin 16 × Fin 16 × Fin 16) × Fin 16 × Fin 16) :=
  let place (i : Nat) : Fin 16 := Quarter.place (order.getD i 0)
  let pairs := (List.range 8).map (fun i => (place (2 * i), place (2 * i + 1)))
  Quarter.places.zip pairs

def round (block : Vector UInt64 16) (v : Vector UInt64 16) (order : List Nat) :
    Vector UInt64 16 :=
  (roundSteps order).foldl
    (fun v step =>
      let x := block[step.2.1]
      let y := block[step.2.2]
      Quarter.mixAt (fun a b => a + b + x) (fun a b => a + b + y) (· + ·) v
        step.1.1 step.1.2.1 step.1.2.2.1 step.1.2.2.2) v

def blockWords (bs : List UInt8) : Vector UInt64 16 :=
  let words := ((parts 8 (bs ++ List.replicate (128 - bs.length) 0)).map
    (fun w => UInt64.ofNat (ofLittleEndian w))).toArray
  Vector.ofFn (fun i => words.getD i.val 0)

def compress (h : Vector UInt64 8) (block : List UInt8) (count : Nat) (last : Bool) :
    Vector UInt64 8 :=
  let start : Vector UInt64 16 := (h ++ initialWords).cast rfl
  let v := start.set 12 (start[12] ^^^ UInt64.ofNat count)
  let v := v.set 13 (v[13] ^^^ UInt64.ofNat (count / size64))
  let v := if last then v.set 14 (~~~ v[14]) else v
  let v := wordOrder.foldl (round (blockWords block)) v
  Vector.ofFn (fun i => h[i] ^^^ v.get (i.castLE (by decide)) ^^^ v.get (i.natAdd 8))

/-- The state after all blocks of a message, of which `count` octets went before.  The number of
further blocks is given, and the last block is the one that may be short. -/
def absorb : Nat → Vector UInt64 8 → Nat → List UInt8 → Vector UInt64 8
  | 0, h, count, bs => compress h bs (count + bs.length) true
  | n + 1, h, count, bs =>
      absorb n (compress h (bs.take 128) (count + 128) false) (count + 128) (bs.drop 128)

def digest (size : Nat) (message : List UInt8) : List UInt8 :=
  let h := initialWords.set 0 (initialWords[0] ^^^ UInt64.ofNat (0x01010000 + size))
  let final := absorb ((message.length - 1) / 128) h 0 message
  (final.toList.flatMap (fun w => littleEndian 8 w.toNat)).take size

end Blake2b
end Crypto
end SessionAuth
