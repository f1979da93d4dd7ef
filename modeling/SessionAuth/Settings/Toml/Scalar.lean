import SessionAuth.Encoding.Ranges
import SessionAuth.Settings.Toml.Text
import SessionAuth.Settings.Tree
import SessionAuth.Text.Split

/-!
# Numbers and dates of TOML

Integers in four bases, floating-point numbers, and dates and times.  A date or a time is kept as
the text of its usual form.
-/

namespace SessionAuth
namespace Settings
namespace Toml

open Decimal Encoding

/-- Digits without the underscores between them.  An underscore stands between two digits. -/
def plainDigits? (isDigit : Char → Bool) (cs : List Char) : Option (List Char) :=
  let parts := Text.splitAt '_' cs
  if parts.all (fun p => !p.isEmpty && p.all isDigit) then some parts.flatten else none

def sign (cs : List Char) : Bool × List Char :=
  match cs with
  | '-' :: rest => (true, rest)
  | '+' :: rest => (false, rest)
  | _ => (false, cs)

def hasLeadingZero (cs : List Char) : Bool :=
  cs.head? == some '0' && decide (1 < cs.length)

def decimal? (cs : List Char) : Option Int := do
  let (negative, cs) := sign cs
  let digits ← plainDigits? Char.isDigit cs
  if hasLeadingZero digits then none
  else
    let n : Int := Text.digitsValue digits
    IntRange.int64.check? (if negative then -n else n)

def digit? (base : Nat) (c : Char) : Option Nat :=
  (Encoding.Hex.value? c).filter (fun v => decide (v < base))

def based? (base : Nat) (cs : List Char) : Option Int := do
  let digits ← plainDigits? (fun c => (digit? base c).isSome) cs
  IntRange.int64.check? ((digits.filterMap (digit? base)).foldl (fun n v => base * n + v) 0 : Nat)

def integer? (cs : List Char) : Option Int :=
  match cs with
  | '0' :: 'x' :: rest => based? 16 rest
  | '0' :: 'o' :: rest => based? 8 rest
  | '0' :: 'b' :: rest => based? 2 rest
  | _ => decimal? cs

def exponent? (cs : List Char) : Option Int := do
  let (negative, cs) := sign cs
  let digits ← plainDigits? Char.isDigit cs
  let n : Int := Text.digitsValue digits
  return if negative then -n else n

/-- A finite floating-point number without its sign: digits, and after them a fraction or an
exponent or both.  A number that is too great is none, unless it is negative. -/
def finite? (negative : Bool) (cs : List Char) : Option Binary64 := do
  let isMark (c : Char) : Bool := c == 'e' || c == 'E'
  let mantissa := cs.takeWhile (fun c => !isMark c)
  let exponentPart := (cs.dropWhile (fun c => !isMark c)).drop 1
  let exponent ← if mantissa.length = cs.length then some 0 else exponent? exponentPart
  let whole ← plainDigits? Char.isDigit (mantissa.takeWhile (· != '.'))
  let fraction ←
    match mantissa.dropWhile (· != '.') with
    | [] => if mantissa.length = cs.length then none else some []
    | _ :: rest => plainDigits? Char.isDigit rest
  if hasLeadingZero whole then none
  else
    let x := Binary64.ofDecimal negative (Text.digitsValue (whole ++ fraction))
      (exponent - fraction.length)
    if x = .infinity false then none else some x

def float? (cs : List Char) : Option Binary64 :=
  let (negative, rest) := sign cs
  if rest = ['i', 'n', 'f'] then some (.infinity negative)
  else if rest = ['n', 'a', 'n'] then some .nan
  else finite? negative rest

/-! # Dates and times -/

def field? (width low high : Nat) (cs : List Char) : Option Nat :=
  if cs.length = width ∧ cs.all Char.isDigit then
    let n := Text.digitsValue cs
    if low ≤ n ∧ n ≤ high then some n else none
  else none

def daysOf (year month : Nat) : Nat :=
  if month = 2 then
    if year % 4 = 0 ∧ (year % 100 ≠ 0 ∨ year % 400 = 0) then 29 else 28
  else if [4, 6, 9, 11].contains month then 30
  else 31

def date? (cs : List Char) : Option (List Char) := do
  match Text.splitAt '-' cs with
  | [y, m, d] => do
      let year ← field? 4 0 9999 y
      let month ← field? 2 1 12 m
      let _ ← field? 2 1 (daysOf year month) d
      return cs
  | _ => none

def secondFraction (digits : List Char) : List Char :=
  let kept := ((digits.take 9).reverse.dropWhile (· == '0')).reverse
  if kept.isEmpty then [] else '.' :: kept

def time? (cs : List Char) : Option (List Char) := do
  let clock := cs.take 8
  match Text.splitAt ':' clock with
  | [h, m, s] => do
      let _ ← field? 2 0 23 h
      let _ ← field? 2 0 59 m
      let _ ← field? 2 0 60 s
      match cs.drop 8 with
      | [] => some clock
      | '.' :: digits =>
          if digits.isEmpty ∨ !digits.all Char.isDigit then none
          else some (clock ++ secondFraction digits)
      | _ => none
  | _ => none

def offset? (cs : List Char) : Option (List Char) := do
  match cs with
  | ['Z'] => some ['Z']
  | ['z'] => some ['Z']
  | c :: rest => do
      if c ≠ '+' ∧ c ≠ '-' then none
      match Text.splitAt ':' rest with
      | [h, m] => do
          let _ ← field? 2 0 23 h
          let _ ← field? 2 0 59 m
          return c :: rest
      | _ => none
  | [] => some []

def startsOffset (c : Char) : Bool :=
  c == 'Z' || c == 'z' || c == '+' || c == '-'

def dateTime? (cs : List Char) : Option (List Char) :=
  match cs.drop 10 with
  | [] => (date? cs).or (time? cs)
  | c :: rest =>
      if c = 'T' ∨ c = 't' ∨ c = ' ' then do
        let date ← date? (cs.take 10)
        let time ← time? (rest.takeWhile (fun c => !startsOffset c))
        let offset ← offset? (rest.dropWhile (fun c => !startsOffset c))
        return date ++ 'T' :: (time ++ offset)
      else time? cs

/-! # Tokens -/

def isScalarChar (c : Char) : Bool :=
  c.isAlphanum || c == '+' || c == '-' || c == '_' || c == '.' || c == ':'

/-- The token at the front of some characters.  A time may follow its date after a blank. -/
def token (cs : List Char) : List Char × List Char :=
  let word := cs.takeWhile isScalarChar
  let rest := cs.dropWhile isScalarChar
  match rest with
  | ' ' :: a :: b :: ':' :: _ =>
      if (date? word).isSome ∧ a.isDigit ∧ b.isDigit then
        (word ++ ' ' :: (rest.drop 1).takeWhile isScalarChar, (rest.drop 1).dropWhile isScalarChar)
      else (word, rest)
  | _ => (word, rest)

def ofToken? (cs : List Char) : Option Tree :=
  if cs = "true".toList then some (.bool true)
  else if cs = "false".toList then some (.bool false)
  else
    ((dateTime? cs).map (fun d => .text (String.ofList d))).or
      (((float? cs).map .float).or ((integer? cs).map .int))

end Toml
end Settings
end SessionAuth
