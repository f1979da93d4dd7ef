import SessionAuth.ServiceError
import SessionAuth.Settings.Basic

/-!
# The endpoint of traces

Where traces are sent is configured as an address.  An address that is no URI is refused before
anything is installed.
-/

namespace SessionAuth
namespace Tracing

def isSchemeChar (c : Char) : Bool :=
  c.isAlphanum || c == '+' || c == '-' || c == '.'

def isAuthorityChar (c : Char) : Bool :=
  c.isAlphanum || "!$&'()*+,-.:;=@[]_~".toList.contains c

def endsAuthority (c : Char) : Bool :=
  c == '/' || c == '?' || c == '#'

def isPathChar (c : Char) : Bool :=
  decide ('!' ≤ c ∧ c ≤ '~') && !"#<>?`".toList.contains c

def isQueryChar (c : Char) : Bool :=
  decide ('!' ≤ c ∧ c ≤ '~') && !"\"#<>".toList.contains c

/-- What follows the scheme of an address, if the address has one.  A scheme of more than 64
characters makes the address invalid. -/
def afterScheme? (cs : List Char) : Option (Option (List Char)) :=
  let scheme := cs.takeWhile isSchemeChar
  match cs.dropWhile isSchemeChar with
  | ':' :: '/' :: '/' :: rest => if scheme.length ≤ 64 then some (some rest) else none
  | _ => some none

structure AuthorityState where
  colons : Nat
  opened : Bool
  closed : Bool
  percent : Bool
  lastAt : Bool

/-- Reads one more character of an authority.  Colons and escapes count anew after the user and
after an address in brackets. -/
def AuthorityState.read? (s : AuthorityState) (c : Char) : Option AuthorityState :=
  let t := { s with lastAt := false }
  if c = '%' then some { t with percent := true }
  else if !isAuthorityChar c then none
  else if c = ':' then (if 8 ≤ s.colons then none else some { t with colons := s.colons + 1 })
  else if c = '[' then (if s.percent || s.opened then none else some { t with opened := true })
  else if c = ']' then
    if !s.opened || s.closed then none
    else some { t with closed := true, colons := 0, percent := false }
  else if c = '@' then some { t with colons := 0, percent := false, lastAt := true }
  else some t

def isAuthority (cs : List Char) : Bool :=
  match cs.foldlM AuthorityState.read? ⟨0, false, false, false, false⟩ with
  | none => false
  | some s => s.opened == s.closed && decide (s.colons ≤ 1) && !s.lastAt && !s.percent

def isPathAndQuery (cs : List Char) : Bool :=
  let afterPath := cs.dropWhile isPathChar
  match afterPath with
  | [] => true
  | '#' :: _ => true
  | '?' :: query =>
      match query.dropWhile isQueryChar with
      | [] => true
      | '#' :: _ => true
      | _ => false
  | _ => false

def isUri (cs : List Char) : Bool :=
  if 65534 < (String.ofList cs).utf8ByteSize then false
  else
    match cs with
    | [] => false
    | '/' :: _ => isPathAndQuery cs
    | _ =>
        match afterScheme? cs with
        | none => false
        | some none => cs.all (fun c => !endsAuthority c) && isAuthority cs
        | some (some rest) =>
            let authority := rest.takeWhile (fun c => !endsAuthority c)
            !authority.isEmpty && isAuthority authority &&
              isPathAndQuery (rest.dropWhile (fun c => !endsAuthority c))

def signalPath : String := "/v1/traces"

inductive InstallError where
  | invalidEndpoint (service endpoint : String)
  | alreadyInstalled
deriving DecidableEq, Repr

def InstallError.toServiceError : InstallError → ServiceError
  | .invalidEndpoint service endpoint =>
      .configuration
        ("Failed to initialize OTLP tracer for '" ++ service ++ "' at '" ++ endpoint ++ "'")
  | .alreadyInstalled =>
      .internal
        "Tracing already initialized: a global default trace dispatcher has already been set"

/-- Why a second installation fails: its endpoint is no address, or there is a first one. -/
def reinstallError (s : Settings) : InstallError :=
  match s.otlpEndpoint with
  | none => .alreadyInstalled
  | some endpoint =>
      if isUri (endpoint ++ signalPath).toList then .alreadyInstalled
      else .invalidEndpoint s.serviceName endpoint

end Tracing
end SessionAuth
