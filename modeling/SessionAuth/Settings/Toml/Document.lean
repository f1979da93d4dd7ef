import SessionAuth.Settings.Toml.Scalar

/-!
# Documents of TOML

Lines that open a table or give a name its value.  No name is given twice, and a table is opened
only once, apart from tables that came into being on the way to another one.
-/

namespace SessionAuth
namespace Settings
namespace Toml

/-! # Tables under construction -/

/-- What a name stands for while a document is read.  A table remembers whether it came into
being on the way to something else, and whether by a name with dots. -/
inductive Entry where
  | value (t : Tree)
  | table (implicit dotted : Bool) (entries : List (String × Entry))
  | tables (items : List (List (String × Entry)))

abbrev Entries := List (String × Entry)

def put (name : String) (e : Entry) : Entries → Entries
  | [] => [(name, e)]
  | f :: es => if f.1 = name then (name, e) :: es else f :: put name e es

def modifyLast? (f : Entries → Option Entries) : List Entries → Option (List Entries)
  | [] => none
  | [es] => do return [← f es]
  | es :: rest => do return es :: (← modifyLast? f rest)

/-- Changes the table at a path.  Tables that are missing on the way are made, and of several
tables the last one counts. -/
def atPath? (f : Entries → Option Entries) : List String → Entries → Option Entries
  | [], es => f es
  | name :: names, es =>
      match es.lookup name with
      | none => do return put name (.table true false (← atPath? f names [])) es
      | some (.table implicit dotted inner) => do
          return put name (.table implicit dotted (← atPath? f names inner)) es
      | some (.tables items) => do
          return put name (.tables (← modifyLast? (atPath? f names) items)) es
      | some (.value _) => none

def define? (name : String) (t : Tree) (es : Entries) : Option Entries :=
  match es.lookup name with
  | none => some (es ++ [(name, .value t)])
  | some _ => none

/-- Gives a name with dots its value.  The tables on the way belong to such names alone; the flag
tells whether the present table does. -/
def defineDotted? (t : Tree) (name : String) : List String → Bool → Entries → Option Entries
  | [], dotted, es => if dotted then define? name t es else none
  | first :: names, _, es =>
      match es.lookup first with
      | none => do return put first (.table true true (← defineDotted? t name names true [])) es
      | some (.table true dotted inner) => do
          return put first (.table true dotted (← defineDotted? t name names dotted inner)) es
      | some (.tables items) => do
          return put first (.tables (← modifyLast? (defineDotted? t name names false) items)) es
      | some _ => none

def assign? (names : List String) (t : Tree) (es : Entries) : Option Entries :=
  match names.reverse with
  | [] => none
  | [name] => define? name t es
  | name :: before => defineDotted? t name before.reverse false es

def openTable? (name : String) (es : Entries) : Option Entries :=
  match es.lookup name with
  | none => some (es ++ [(name, .table false false [])])
  | some (.table true false inner) => some (put name (.table false false inner) es)
  | some _ => none

def addTable? (name : String) (es : Entries) : Option Entries :=
  match es.lookup name with
  | none => some (es ++ [(name, .tables [[]])])
  | some (.tables items) => some (put name (.tables (items ++ [[]])) es)
  | some _ => none

mutual

def Entry.toTree : Entry → Tree
  | .value t => t
  | .table _ _ es => .table (treesOf es)
  | .tables items => .list (tablesOf items)

def treesOf : List (String × Entry) → List (String × Tree)
  | [] => []
  | (name, e) :: es => (name, e.toTree) :: treesOf es

def tablesOf : List (List (String × Entry)) → List Tree
  | [] => []
  | es :: rest => .table (treesOf es) :: tablesOf rest

end

/-! # Values -/

mutual

/-- A value at the front of some characters, at some depth.  The first number bounds the
recursion. -/
def value? : Nat → Nat → List Char → Option (Tree × List Char)
  | 0, _, _ => none
  | fuel + 1, depth, cs =>
      match cs with
      | '"' :: _ => (string? cs).map (fun p => (.text p.1, p.2))
      | '\'' :: _ => (string? cs).map (fun p => (.text p.1, p.2))
      | '[' :: rest =>
          if maxDepth ≤ depth then none
          else (items? fuel (depth + 1) rest).map (fun p => (.list p.1, p.2))
      | '\x7b' :: rest =>
          if maxDepth ≤ depth then none
          else
            match skipBlanks rest with
            | '\x7d' :: rest => some (.table [], rest)
            | rest => (pairs? fuel (depth + 1) [] rest).map (fun p => (.table (treesOf p.1), p.2))
      | _ =>
          let (word, rest) := token cs
          (ofToken? word).map (fun t => (t, rest))

def items? : Nat → Nat → List Char → Option (List Tree × List Char)
  | 0, _, _ => none
  | fuel + 1, depth, cs =>
      match skipLines cs.length cs with
      | ']' :: rest => some ([], rest)
      | cs => do
          let (t, rest) ← value? fuel depth cs
          match skipLines rest.length rest with
          | ',' :: rest => do
              let (ts, rest) ← items? fuel depth rest
              return (t :: ts, rest)
          | ']' :: rest => some ([t], rest)
          | _ => none

def pairs? : Nat → Nat → Entries → List Char → Option (Entries × List Char)
  | 0, _, _, _ => none
  | fuel + 1, depth, es, cs => do
      let (names, rest) ← names? maxDepth cs
      match rest with
      | '=' :: rest => do
          let (t, rest) ← value? fuel depth (skipBlanks rest)
          let es ← assign? names t es
          match skipBlanks rest with
          | ',' :: rest => pairs? fuel depth es rest
          | '\x7d' :: rest => some (es, rest)
          | _ => none
      | _ => none

end

/-! # Lines -/

/-- A document that has been read in part: the table at its root, and the path of the table that
is open. -/
structure Draft where
  root : Entries
  current : List String

def readListHeader? (d : Draft) (cs : List Char) : Option (Draft × List Char) := do
  let (names, rest) ← names? maxDepth cs
  let name ← names.getLast?
  match rest with
  | ']' :: ']' :: rest => do
      return (⟨← atPath? (addTable? name) names.dropLast d.root, names⟩, ← endOfLine? rest)
  | _ => none

def readHeader? (d : Draft) (cs : List Char) : Option (Draft × List Char) := do
  let (names, rest) ← names? maxDepth cs
  let name ← names.getLast?
  match rest with
  | ']' :: rest => do
      return (⟨← atPath? (openTable? name) names.dropLast d.root, names⟩, ← endOfLine? rest)
  | _ => none

def readPair? (d : Draft) (cs : List Char) : Option (Draft × List Char) := do
  let (names, rest) ← names? maxDepth cs
  match rest with
  | '=' :: rest => do
      let (t, rest) ← value? (2 * rest.length + 2) 0 (skipBlanks rest)
      return (⟨← atPath? (assign? names t) d.current d.root, d.current⟩, ← endOfLine? rest)
  | _ => none

/-- Reads a document to its end.  The given number bounds the count of lines. -/
def readLines? : Nat → Draft → List Char → Option Draft
  | 0, d, cs => if cs.isEmpty then some d else none
  | n + 1, d, cs =>
      match skipBlanks cs with
      | [] => some d
      | '[' :: '[' :: rest => do
          let (d, rest) ← readListHeader? d rest
          readLines? n d rest
      | '[' :: rest => do
          let (d, rest) ← readHeader? d rest
          readLines? n d rest
      | c :: rest =>
          if c = '#' ∨ c = '\n' ∨ c = '\r' then do
            readLines? n d (← endOfLine? (c :: rest))
          else do
            let (d, rest) ← readPair? d (c :: rest)
            readLines? n d rest

/-- The entries of a document.  A mark of the order of octets may stand in front. -/
def parse? (s : String) : Option (List (String × Tree)) := do
  let cs := match s.toList with
    | '\uFEFF' :: cs => cs
    | cs => cs
  let d ← readLines? (cs.length + 1) ⟨[], []⟩ cs
  return treesOf d.root

end Toml
end Settings
end SessionAuth
