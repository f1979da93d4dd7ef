import SessionAuth.Settings.Dotenv
import SessionAuth.Settings.JsonSource
import SessionAuth.Settings.Reading
import SessionAuth.Settings.Toml.Document
import SessionAuth.Settings.Validation

/-!
# Loading settings

The settings of a process: a file of settings, and over it the variables of the process together
with those from a file of variables.  The settings must be valid.
-/

namespace SessionAuth
namespace Settings

inductive LoadError where
  | unreadable
  | reading (e : ReadError)
  | invalid (e : SettingsError)
deriving DecidableEq, Repr

namespace LoadError

/-- What there is to say about an error: the place of a value with a wrong type, or a message. -/
def message : LoadError → String
  | unreadable => ""
  | reading (.mistyped path) => Tree.pathText path
  | reading (.misshapen e) => e.message
  | invalid e => e.message

end LoadError

structure File where
  name : String
  text : String
deriving DecidableEq, Repr

inductive FileFormat where
  | toml
  | json
deriving DecidableEq, Repr

namespace FileFormat

def ending : FileFormat → String
  | toml => ".toml"
  | json => ".json"

def all : List FileFormat := [toml, json]

def ofFileName? (name : String) : Option FileFormat :=
  all.find? (fun f => f.ending.toList.isSuffixOf name.toList)

def parse? : FileFormat → String → Option (List (String × Tree))
  | toml, s => Toml.parse? s
  | json, s => JsonSource.parse? s

end FileFormat

/-- The file of a name.  Where there is none, the ending of a format may be missing. -/
def findFile? (files : List File) (name : String) : Option File :=
  match files.find? (fun f => f.name == name) with
  | some f => some f
  | none =>
      FileFormat.all.findSome? (fun format =>
        files.find? (fun f => f.name == name ++ format.ending))

/-- The entries of the file of a name.  There are none if the file is missing or if its format is
not known. -/
def fileEntries (files : List File) (name : String) : Except LoadError (List (String × Tree)) :=
  match findFile? files name with
  | none => .ok []
  | some f =>
      match FileFormat.ofFileName? f.name with
      | none => .ok []
      | some format =>
          match format.parse? f.text with
          | none => .error .unreadable
          | some entries => .ok entries

def sources (files : List File) (name service : String) (vs : Variables) :
    Except LoadError Tree := do
  let entries ← fileEntries files name
  return (Tree.table []).setAll (entries ++ vs.entries service)

def load (files : List File) (name service : String) (dotenv : String) (vs : Variables) :
    Except LoadError Settings := do
  let t ← sources files name service (Dotenv.apply vs dotenv)
  let s ← (ofTree t).mapError .reading
  let _ ← s.validate.mapError .invalid
  return s

def standardFileName : String := "auth-core"

def standardService : String := "AUTH"

end Settings
end SessionAuth
