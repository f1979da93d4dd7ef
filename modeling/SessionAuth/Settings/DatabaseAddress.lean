import SessionAuth.Fault
import SessionAuth.Text.Split

/-!
# Addresses of databases

The address of a database is a URL.  Here it is read as far as to tell why it is none: the
scheme, the user, the host and the port.
-/

namespace SessionAuth
namespace DatabaseAddress

def trimStart (cs : List Char) : List Char :=
  cs.dropWhile (fun c => decide (c ≤ ' '))

def clean (cs : List Char) : List Char :=
  (trimStart (trimStart cs).reverse).reverse.filter
    (fun c => c != '\t' && c != '\n' && c != '\r')

def isSchemeChar (c : Char) : Bool :=
  c.isAlphanum || c == '+' || c == '-' || c == '.'

def scheme? (cs : List Char) : Option (String × List Char) :=
  match cs with
  | c :: _ =>
      if c.isAlpha then
        match cs.dropWhile isSchemeChar with
        | ':' :: rest => some (String.ofList ((cs.takeWhile isSchemeChar).map Char.toLower), rest)
        | _ => none
      else none
  | [] => none

def needsHost (scheme : String) : Bool :=
  ["http", "https", "ws", "wss", "ftp"].contains scheme

def endsAuthority (c : Char) : Bool :=
  c == '/' || c == '?' || c == '#'

def afterUser? (cs : List Char) : Option (List Char) :=
  if cs.contains '@' then some (cs.reverse.takeWhile (· != '@')).reverse else none

/-- A host and what follows it.  Colons inside of brackets belong to the host. -/
def splitHost (inBrackets : Bool) : List Char → List Char × List Char
  | [] => ([], [])
  | c :: cs =>
      if c = ':' ∧ !inBrackets then ([], c :: cs)
      else
        let inBrackets := if c = '[' then true else if c = ']' then false else inBrackets
        let (host, rest) := splitHost inBrackets cs
        (c :: host, rest)

def splitGap? : List Char → Option (List Char × List Char)
  | [] => none
  | ':' :: ':' :: rest => some ([], rest)
  | c :: rest => (splitGap? rest).map (fun p => (c :: p.1, p.2))

def isGroup (cs : List Char) : Bool :=
  !cs.isEmpty && decide (cs.length ≤ 4) &&
    cs.all (fun c => c.isDigit || ('a' ≤ c && c ≤ 'f') || ('A' ≤ c && c ≤ 'F'))

def isDottedTail (cs : List Char) : Bool :=
  let parts := Text.splitAt '.' cs
  parts.length == 4 && parts.all (fun p => (Text.decimal? p).any (fun n => decide (n < 256)))

def countGroups? : List (List Char) → Option Nat
  | [] => some 0
  | [p] => if isGroup p then some 1 else if isDottedTail p then some 2 else none
  | p :: ps => if isGroup p then (countGroups? ps).map (· + 1) else none

def sideParts (cs : List Char) : List (List Char) :=
  if cs.isEmpty then [] else Text.splitAt ':' cs

/-- Tells whether a text is an address of version six: eight groups, or fewer around one gap. -/
def isIpv6 (cs : List Char) : Bool :=
  match splitGap? cs with
  | none => countGroups? (Text.splitAt ':' cs) == some 8
  | some (left, right) =>
      match countGroups? (sideParts left), countGroups? (sideParts right) with
      | some m, some n => decide (m + n ≤ 7) && !left.contains '.'
      | _, _ => false

def hostError? (host : List Char) : Option AddressError :=
  match host with
  | '[' :: rest =>
      if rest.getLast? = some ']' ∧ isIpv6 rest.dropLast then none else some .invalidIpv6
  | _ =>
      if host.any (fun c => "\x00\t\n\r #/:<>?@[\\]^|".toList.contains c) then
        some .invalidDomainCharacter
      else none

def portError? (cs : List Char) : Option AddressError :=
  if cs.all Char.isDigit ∧ Text.digitsValue cs < 65536 then none
  else some .invalidPort

def serverError? (mustHaveHost : Bool) (cs : List Char) : Option AddressError :=
  let (host, rest) := splitHost false cs
  if host.isEmpty ∧ (mustHaveHost ∨ !rest.isEmpty) then some .emptyHost
  else (hostError? host).or (portError? (rest.drop 1))

def authorityError? (mustHaveHost : Bool) (cs : List Char) : Option AddressError :=
  match afterUser? cs with
  | none => serverError? mustHaveHost cs
  | some server => if server.isEmpty then some .emptyHost else serverError? true server

def error? (address : String) : Option AddressError :=
  match scheme? (clean address.toList) with
  | none => some .relativeWithoutBase
  | some (scheme, rest) =>
      let authority (cs : List Char) := cs.takeWhile (fun c => !endsAuthority c)
      if needsHost scheme then
        authorityError? true (authority (rest.dropWhile (fun c => c == '/' || c == '\\')))
      else
        match rest with
        | '/' :: '/' :: server => authorityError? false (authority server)
        | _ => none

end DatabaseAddress
end SessionAuth
