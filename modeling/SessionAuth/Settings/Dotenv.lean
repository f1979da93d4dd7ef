import SessionAuth.Settings.Variables
import SessionAuth.Text.Alphanumeric
import SessionAuth.Text.Blank

/-!
# Files of variables

A file that gives variables their values, one on a line.  Quotes may span several lines.  A
variable that has a value already keeps it, and a line that cannot be read ends the reading.
-/

namespace SessionAuth
namespace Settings
namespace Dotenv

/-! # Lines -/

inductive Place where
  | plain
  | afterBlank
  | escaped
  | quoted (quote : Char)
  | quotedEscaped (quote : Char)
deriving DecidableEq, Repr

def Place.afterPlain (c : Char) : Place :=
  if c = '\\' then .escaped
  else if c = '"' ∨ c = '\'' then .quoted c
  else .plain

/-- The place after a character.  A comment, which begins after a blank, is none. -/
def Place.next? (p : Place) (c : Char) : Option Place :=
  match p with
  | plain =>
      some (if Text.isBlank c ∧ c ≠ '\n' ∧ c ≠ '\r' then .afterBlank else .afterPlain c)
  | afterBlank => if c = '#' then none else some (.afterPlain c)
  | escaped => some .plain
  | quoted q =>
      some (if c = '\\' then .quotedEscaped q else if c = q then .plain else .quoted q)
  | quotedEscaped q => some (.quoted q)

def nextLine (cs : List Char) : List Char :=
  (cs.dropWhile (· != '\n')).drop 1

/-- A line from some place on, quotes that span several lines included, and what follows it.  A
comment at its end is left out.  The file may not end within quotes, after a backslash or after a
blank. -/
def line? : Place → List Char → Option (List Char × List Char)
  | p, [] => if p = .plain then some ([], []) else none
  | p, c :: cs =>
      match p.next? c with
      | none => some ([], nextLine cs)
      | some p =>
          if c = '\n' ∧ p = .plain then some ([], cs)
          else (line? p cs).map (fun l => (c :: l.1, l.2))

theorem length_nextLine_le (cs : List Char) : (nextLine cs).length ≤ cs.length := by
  have h := (List.dropWhile_suffix (l := cs) (fun c => c != '\n')).length_le
  simp only [nextLine, List.length_drop]
  omega

theorem length_le_of_line? {p : Place} {cs line rest : List Char}
    (h : line? p cs = some (line, rest)) : rest.length ≤ cs.length := by
  induction cs generalizing p line rest with
  | nil =>
      simp only [line?] at h
      split at h
      · cases h; simp
      · cases h
  | cons c cs ih =>
      simp only [line?] at h
      split at h
      · cases h
        have := length_nextLine_le cs
        simp only [List.length_cons]; omega
      · split at h
        · cases h; simp
        · obtain ⟨l, hl, heq⟩ := Option.map_eq_some_iff.1 h
          cases heq
          have := ih hl
          simp only [List.length_cons]; omega

theorem length_lt_of_line? {c : Char} {cs line rest : List Char}
    (h : line? .plain (c :: cs) = some (line, rest)) : rest.length < (c :: cs).length := by
  simp only [line?] at h
  simp only [List.length_cons]
  split at h
  · cases h
    have := length_nextLine_le cs
    omega
  · split at h
    · cases h; omega
    · obtain ⟨l, hl, heq⟩ := Option.map_eq_some_iff.1 h
      cases heq
      have := length_le_of_line? hl
      omega

/-! # Values -/

/-- What a character of a value belongs to.  The flag tells of double quotes around it, and the
name of a variable is collected backwards. -/
inductive Part where
  | text (inQuotes : Bool)
  | strong
  | escape (inQuotes : Bool)
  | name (inQuotes : Bool) (letters : List Char)
  | braced (inQuotes : Bool) (letters : List Char)
  | trailing

def escape? (c : Char) : Option Char :=
  if c = 'n' then some '\n'
  else if c = '\\' ∨ c = '\'' ∨ c = '"' ∨ c = '$' ∨ c = ' ' then some c
  else none

/-- The value of a variable whose name was collected backwards.  Without a value it is empty. -/
def valueOf (vs : Variables) (letters : List Char) : List Char :=
  ((vs.lookup (String.ofList letters.reverse)).getD "").toList

/-- Reads a value.  Nothing is special between single quotes.  Elsewhere a backslash escapes, and
a dollar stands before the name of a variable, which may be in braces.  After a blank outside
quotes only blanks and a comment may follow. -/
def value? (vs : Variables) : Part → List Char → Option (List Char)
  | .text inQuotes, [] => if inQuotes then none else some []
  | .text inQuotes, c :: cs =>
      if c = '$' then value? vs (.name inQuotes []) cs
      else if c = '\\' then value? vs (.escape inQuotes) cs
      else if c = '"' then value? vs (.text !inQuotes) cs
      else if inQuotes then (value? vs (.text true) cs).map (c :: ·)
      else if c = '\'' then value? vs .strong cs
      else if c = ' ' ∨ c = '\t' then value? vs .trailing cs
      else (value? vs (.text false) cs).map (c :: ·)
  | .strong, [] => none
  | .strong, c :: cs =>
      if c = '\'' then value? vs (.text false) cs else (value? vs .strong cs).map (c :: ·)
  | .escape inQuotes, [] => if inQuotes then none else some []
  | .escape inQuotes, c :: cs => do
      let e ← escape? c
      (value? vs (.text inQuotes) cs).map (e :: ·)
  | .name inQuotes letters, [] => if inQuotes then none else some (valueOf vs letters)
  | .name inQuotes letters, c :: cs =>
      if Text.isAlphanumeric c then value? vs (.name inQuotes (c :: letters)) cs
      else if c = '\x7b' ∧ letters.isEmpty then value? vs (.braced inQuotes []) cs
      else if c = '$' then (value? vs (.name inQuotes []) cs).map (valueOf vs letters ++ ·)
      else (value? vs (.text inQuotes) cs).map (fun v => valueOf vs letters ++ c :: v)
  | .braced _ _, [] => none
  | .braced inQuotes letters, c :: cs =>
      if c = '\x7d' then (value? vs (.text inQuotes) cs).map (valueOf vs letters ++ ·)
      else value? vs (.braced inQuotes (c :: letters)) cs
  | .trailing, [] => some []
  | .trailing, c :: cs =>
      if c = ' ' ∨ c = '\t' then value? vs .trailing cs
      else if c = '#' then some []
      else none

/-! # Definitions -/

def isNameStart (c : Char) : Bool :=
  c.isAlpha || c == '_'

def isNameChar (c : Char) : Bool :=
  c.isAlphanum || c == '_' || c == '.'

def skipBlanks (cs : List Char) : List Char :=
  cs.dropWhile Text.isBlank

def name? (cs : List Char) : Option (List Char × List Char) :=
  if cs.head?.any isNameStart then
    some (cs.takeWhile isNameChar, skipBlanks (cs.dropWhile isNameChar))
  else none

/-- The name that a line defines, and what follows the equals sign and the white space after it.
The word `export` may stand in front. -/
def definition? (cs : List Char) : Option (List Char × List Char) := do
  let (name, rest) ← name? cs
  match rest with
  | '=' :: rest => some (name, skipBlanks rest)
  | rest =>
      if name = "export".toList then do
        let (name, rest) ← name? rest
        match rest with
        | '=' :: rest => some (name, skipBlanks rest)
        | _ => none
      else none

def trim (cs : List Char) : List Char :=
  skipBlanks (skipBlanks cs.reverse).reverse

def applyLine? (vs : Variables) (line : List Char) : Option Variables :=
  match trim line with
  | [] => some vs
  | '#' :: _ => some vs
  | cs => do
      let (name, rest) ← definition? cs
      let value ←
        if rest.isEmpty ∨ rest.head? = some '#' then some [] else value? vs (.text false) rest
      return vs.define (String.ofList name) (String.ofList value)

def startsWithComment (cs : List Char) : Bool :=
  (skipBlanks (cs.takeWhile (· != '\n'))).head? == some '#'

def applyLines (vs : Variables) (file : List Char) : Variables :=
  match file with
  | [] => vs
  | c :: cs =>
      if startsWithComment (c :: cs) then applyLines vs (nextLine (c :: cs))
      else
        match _h : line? .plain (c :: cs) with
        | none => vs
        | some (line, rest) =>
            match applyLine? vs line with
            | none => vs
            | some vs => applyLines vs rest
termination_by file.length
decreasing_by
  · have h := (List.dropWhile_suffix (l := c :: cs) (fun c => c != '\n')).length_le
    simp only [nextLine, List.length_drop, List.length_cons] at h ⊢
    omega
  · exact length_lt_of_line? (by assumption)

/-- The variables after a file.  A mark of the order of octets may stand in front. -/
def apply (vs : Variables) (file : String) : Variables :=
  match file.toList with
  | '\uFEFF' :: cs => applyLines vs cs
  | cs => applyLines vs cs

end Dotenv
end Settings
end SessionAuth
