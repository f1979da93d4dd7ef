import SessionAuth.Decimal.Plain
import SessionAuth.Decimal.Shortest
import SessionAuth.Encoding.Ranges
import SessionAuth.Settings.Basic
import SessionAuth.Settings.Tree
import SessionAuth.Text.Escaped

/-!
# Reading settings

The lenient reading of settings from a tree.  A scalar is turned into the type of its setting
where that makes sense.  The members of a group are found by name in a table and by position in a
list.  Those that are there are read first, and only then is a missing one reported.
-/

namespace SessionAuth
namespace Settings

open Decimal Encoding

inductive FormError where
  | missingMember (name : String)
  | tooShort (length : Nat) (group : String) (size : Nat)
  | unexpected (found expected : String)
  | unknownChoice (choice name : String)
  | noChoice (choice : String)
deriving DecidableEq, Repr

namespace FormError

def message : FormError → String
  | missingMember name => "missing field \x60" ++ name ++ "\x60"
  | tooShort length group size =>
      "invalid length " ++ toString length ++ ", expected struct " ++ group ++ " with " ++
        toString size ++ (if size = 1 then " element" else " elements")
  | unexpected found expected => "invalid type: " ++ found ++ ", expected " ++ expected
  | unknownChoice choice name =>
      "enum " ++ choice ++ " does not have variant constructor " ++ name
  | noChoice choice =>
      "value of enum " ++ choice ++
        " should be represented by either string or table with exactly one key"

end FormError

/-- Why a tree is no settings: a value somewhere has a wrong type, or the form is wrong. -/
inductive ReadError where
  | mistyped (path : List Tree.Step)
  | misshapen (e : FormError)
deriving DecidableEq, Repr

namespace ReadError

def under (step : Tree.Step) : ReadError → ReadError
  | mistyped path => mistyped (step :: path)
  | misshapen e => misshapen e

end ReadError

namespace Tree

def description : Tree → String
  | empty => "unit value"
  | bool b => "boolean \x60" ++ toString b ++ "\x60"
  | int n => "integer \x60" ++ toString n ++ "\x60"
  | float x => "floating point \x60" ++ x.pointedText ++ "\x60"
  | text s => "string " ++ Text.escaped s
  | list _ => "sequence"
  | table _ => "map"

/-! # Scalars -/

def truth? (word : String) : Option Bool :=
  if ["true", "on", "yes"].contains word then some true
  else if ["false", "off", "no"].contains word then some false
  else none

/-- The truth value of a scalar.  A number is true unless it is zero. -/
def toBool? : Tree → Option Bool
  | bool b => some b
  | int n => some (n != 0)
  | float x => some (!x.isZero)
  | text s =>
      let word := Text.lowercase s
      if word = "1" then some true else if word = "0" then some false else truth? word
  | _ => none

/-- The integer of a range that a scalar denotes.  A floating-point number is rounded and brought
into the range, and a word may denote one or zero.  The text of an integer may not have a minus
unless the range has integers below zero. -/
def toInt? (r : IntRange) : Tree → Option Int
  | bool b => some (if b then 1 else 0)
  | int n => r.check? n
  | float x => some (x.clamp r.low r.high)
  | text s =>
      match truth? (Text.lowercase s) with
      | some b => some (if b then 1 else 0)
      | none =>
          if 0 ≤ r.low ∧ s.toList.head? = some '-' then none
          else (whole? s.toList).bind r.check?
  | _ => none

def toText? : Tree → Option String
  | bool b => some (toString b)
  | int n => some (toString n)
  | float x => some x.text
  | text s => some s
  | _ => none

end Tree

namespace Reading

def scalar {α : Type} (f : Tree → Option α) (t : Tree) : Except ReadError α :=
  match f t with
  | some a => .ok a
  | none => .error (.mistyped [])

def bool (t : Tree) : Except ReadError Bool :=
  scalar Tree.toBool? t

def text (t : Tree) : Except ReadError String :=
  scalar Tree.toText? t

def int64 (t : Tree) : Except ReadError Int :=
  scalar (Tree.toInt? .int64) t

def word64 (t : Tree) : Except ReadError Nat :=
  scalar (fun t => (Tree.toInt? .word64 t).map Int.toNat) t

def word32 (t : Tree) : Except ReadError Nat :=
  scalar (fun t => ((Tree.toInt? .word64 t).bind IntRange.word32.check?).map Int.toNat) t

def optional {α : Type} (read : Tree → Except ReadError α) (t : Tree) :
    Except ReadError (Option α) :=
  match t with
  | .empty => .ok none
  | t => (read t).map some

def itemsFrom {α : Type} (read : Tree → Except ReadError α) (i : Nat) :
    List Tree → Except ReadError (List α)
  | [] => .ok []
  | t :: ts => do
      let a ← (read t).mapError (ReadError.under (.item i))
      return a :: (← itemsFrom read (i + 1) ts)

def list {α : Type} (read : Tree → Except ReadError α) (t : Tree) : Except ReadError (List α) :=
  match t with
  | .list ts => itemsFrom read 0 ts
  | t => .error (.misshapen (.unexpected t.description "a sequence"))

/-- A choice by name, whatever its case.  A table with one entry stands for the name of it. -/
def choice {α : Type} (title : String) (ofName? : String → Option α) (t : Tree) :
    Except ReadError α :=
  let named (s : String) : Except ReadError α :=
    match ofName? (Text.lowercase s) with
    | some a => .ok a
    | none => .error (.misshapen (.unknownChoice title s))
  match t with
  | .text s => named s
  | .table [e] => named e.1
  | _ => .error (.misshapen (.noChoice title))

/-! # Groups -/

inductive Members where
  | named (entries : List (String × Tree))
  | positional (items : List Tree)

structure Group where
  title : String
  names : List String
  members : Members

namespace Group

def ofTree (title : String) (names : List String) (t : Tree) : Except ReadError Group :=
  match t with
  | .table entries => .ok ⟨title, names, .named entries⟩
  | .list items => .ok ⟨title, names, .positional items⟩
  | t => .error (.misshapen (.unexpected t.description ("struct " ++ title)))

def member? (g : Group) (name : String) : Option (Tree.Step × Tree) :=
  match g.members with
  | .named entries => (entries.lookup name).map (fun t => (.child name, t))
  | .positional items =>
      (items[g.names.idxOf name]?).map (fun t => (.item (g.names.idxOf name), t))

def read? {α : Type} (g : Group) (read : Tree → Except ReadError α) (name : String) :
    Except ReadError (Option α) :=
  match g.member? name with
  | none => .ok none
  | some (step, t) => ((read t).map some).mapError (ReadError.under step)

def require {α : Type} (g : Group) (name : String) : Option α → Except ReadError α
  | some a => .ok a
  | none =>
      match g.members with
      | .named _ => .error (.misshapen (.missingMember name))
      | .positional _ =>
          .error (.misshapen (.tooShort (g.names.idxOf name) g.title g.names.length))

end Group

/-! # The groups of settings -/

def signingKey (t : Tree) : Except ReadError SigningKey := do
  let g ← Group.ofTree "SigningKeyConfig" ["kid", "secret", "retired"] t
  let id ← g.read? text "kid"
  let secret ← g.read? text "secret"
  let retired ← g.read? bool "retired"
  return ⟨← g.require "kid" id, ← g.require "secret" secret, retired.getD false⟩

def tokens (t : Tree) : Except ReadError TokenSettings := do
  let g ← Group.ofTree "JwtConfig" ["issuer", "active_key_id", "keys",
    "access_token_expiry_minutes", "refresh_token_expiry_days"] t
  let issuer ← g.read? text "issuer"
  let activeKeyId ← g.read? text "active_key_id"
  let keys ← g.read? (list signingKey) "keys"
  let minutes ← g.read? int64 "access_token_expiry_minutes"
  let days ← g.read? int64 "refresh_token_expiry_days"
  return ⟨issuer.getD TokenSettings.standardIssuer, ← g.require "active_key_id" activeKeyId,
    ← g.require "keys" keys, minutes.getD TokenSettings.standardAccessMinutes,
    days.getD TokenSettings.standardRefreshDays⟩

def policy (t : Tree) : Except ReadError Password.Policy := do
  let g ← Group.ofTree "PasswordPolicy"
    ["min_length", "require_uppercase", "require_number", "require_special"] t
  let minLength ← g.read? word64 "min_length"
  let uppercase ← g.read? bool "require_uppercase"
  let number ← g.read? bool "require_number"
  let special ← g.read? bool "require_special"
  return ⟨minLength.getD Password.Policy.standard.minLength, uppercase.getD false,
    number.getD false, special.getD false⟩

def password (t : Tree) : Except ReadError PasswordSettings := do
  let g ← Group.ofTree "PasswordConfig" ["memory_kib", "iterations", "policy"] t
  let memoryKib ← g.read? word32 "memory_kib"
  let iterations ← g.read? word32 "iterations"
  let p ← g.read? policy "policy"
  return ⟨memoryKib.getD PasswordSettings.standard.memoryKib,
    iterations.getD PasswordSettings.standard.iterations, p.getD .standard⟩

def database (t : Tree) : Except ReadError DatabaseSettings := do
  let g ← Group.ofTree "DatabaseConfig" ["url", "max_connections", "min_connections"] t
  let url ← g.read? text "url"
  let most ← g.read? word32 "max_connections"
  let least ← g.read? word32 "min_connections"
  return ⟨← g.require "url" url, most.getD DatabaseSettings.standardMost,
    least.getD DatabaseSettings.standardLeast⟩

def audit (t : Tree) : Except ReadError AuditSettings := do
  let g ← Group.ofTree "AuditConfig" ["channel_capacity"] t
  let capacity ← g.read? word64 "channel_capacity"
  return ⟨capacity.getD AuditSettings.standard.channelCapacity⟩

end Reading

open Reading

def ofTree (t : Tree) : Except ReadError Settings := do
  let g ← Group.ofTree "CoreConfig" ["environment", "service_name", "log_level", "otlp_endpoint",
    "jwt", "password", "database", "audit"] t
  let environment ← g.read? (choice "Environment" Environment.ofName?) "environment"
  let serviceName ← g.read? Reading.text "service_name"
  let logLevel ← g.read? Reading.text "log_level"
  let otlpEndpoint ← g.read? (optional Reading.text) "otlp_endpoint"
  let tokens ← g.read? Reading.tokens "jwt"
  let password ← g.read? Reading.password "password"
  let database ← g.read? (optional Reading.database) "database"
  let audit ← g.read? Reading.audit "audit"
  return {
    environment := environment.getD .dev
    serviceName := serviceName.getD standardServiceName
    logLevel := logLevel.getD standardLogLevel
    otlpEndpoint := otlpEndpoint.join
    tokens := ← g.require "jwt" tokens
    password := password.getD .standard
    database := database.join
    audit := audit.getD .standard }

end Settings
end SessionAuth
