import SessionAuth.Encoding.Hex

/-!
# Characters, comments and strings of TOML

The lexical grammar of TOML 1.0.  Every reader takes the characters that remain and gives what it
has read together with those that follow, or nothing if they do not fit.
-/

namespace SessionAuth
namespace Settings
namespace Toml

def isBlank (c : Char) : Bool :=
  c == ' ' || c == '\t'

def skipBlanks (cs : List Char) : List Char :=
  cs.dropWhile isBlank

def isCommentChar (c : Char) : Bool :=
  c == '\t' || decide (' ' ≤ c && c ≠ '\x7f')

def newline? : List Char → Option (List Char)
  | '\n' :: rest => some rest
  | '\r' :: '\n' :: rest => some rest
  | _ => none

def skipComment : List Char → List Char
  | '#' :: cs => cs.dropWhile isCommentChar
  | cs => cs

def endOfLine? (cs : List Char) : Option (List Char) :=
  match skipComment (skipBlanks cs) with
  | [] => some []
  | cs => newline? cs

/-- Drops blanks, comments and ends of lines.  The given number bounds the count of lines. -/
def skipLines : Nat → List Char → List Char
  | 0, cs => skipBlanks cs
  | n + 1, cs =>
      match newline? (skipComment (skipBlanks cs)) with
      | some rest => skipLines n rest
      | none => skipBlanks cs

/-! # Strings -/

def codePoint? (digits : List Char) : Option Char := do
  let values ← digits.mapM Encoding.Hex.value?
  let n := values.foldl (fun n v => 16 * n + v) 0
  if h : n.isValidChar then some (Char.ofNatAux n h) else none

def escape? : List Char → Option (Char × List Char)
  | 'b' :: rest => some ('\x08', rest)
  | 't' :: rest => some ('\t', rest)
  | 'n' :: rest => some ('\n', rest)
  | 'f' :: rest => some ('\x0c', rest)
  | 'r' :: rest => some ('\r', rest)
  | '"' :: rest => some ('"', rest)
  | '\\' :: rest => some ('\\', rest)
  | 'u' :: rest =>
      if rest.length < 4 then none else (codePoint? (rest.take 4)).map (fun c => (c, rest.drop 4))
  | 'U' :: rest =>
      if rest.length < 8 then none else (codePoint? (rest.take 8)).map (fun c => (c, rest.drop 8))
  | _ => none

/-- The rest of a string in double quotes.  The given number bounds its length. -/
def basicRest? : Nat → List Char → Option (List Char × List Char)
  | 0, _ => none
  | _ + 1, [] => none
  | n + 1, c :: cs =>
      if c = '"' then some ([], cs)
      else if c = '\\' then do
        let (e, cs) ← escape? cs
        let (text, rest) ← basicRest? n cs
        return (e :: text, rest)
      else if isCommentChar c then do
        let (text, rest) ← basicRest? n cs
        return (c :: text, rest)
      else none

def literalRest? (cs : List Char) : Option (List Char × List Char) :=
  let text := cs.takeWhile (fun c => isCommentChar c && c != '\'')
  match cs.dropWhile (fun c => isCommentChar c && c != '\'') with
  | '\'' :: rest => some (text, rest)
  | _ => none

/-- What follows three quotes that close a text of several lines.  Up to two more quotes belong
to the text. -/
def closing (quote : Char) (cs : List Char) : List Char × List Char :=
  let extra := (cs.take 2).takeWhile (· == quote)
  (extra, cs.drop extra.length)

/-- What follows a backslash at the end of a line, if it is one: all blanks and ends of lines up
to the next character. -/
def continued? (cs : List Char) : Option (List Char) := do
  let cs ← newline? (skipBlanks cs)
  return cs.dropWhile (fun c => isBlank c || c == '\n' || c == '\r')

/-- The rest of a text of several lines.  Only in double quotes is anything escaped.  The given
number bounds its length. -/
def linesRest? (quote : Char) : Nat → List Char → Option (List Char × List Char)
  | 0, _ => none
  | _ + 1, [] => none
  | n + 1, c :: cs =>
      let keep (c : Char) (cs : List Char) : Option (List Char × List Char) := do
        let (text, rest) ← linesRest? quote n cs
        return (c :: text, rest)
      if c = quote ∧ cs.take 2 = [quote, quote] then some (closing quote (cs.drop 2))
      else if c = '\\' ∧ quote = '"' then
        match escape? cs with
        | some (e, cs) => keep e cs
        | none => (continued? cs).bind (linesRest? quote n)
      else
        match newline? (c :: cs) with
        | some cs => keep '\n' cs
        | none => if isCommentChar c then keep c cs else none

/-- A text of several lines after its opening quotes.  An end of line right after them is
dropped. -/
def lines? (quote : Char) (cs : List Char) : Option (List Char × List Char) :=
  let body := (newline? cs).getD cs
  linesRest? quote (body.length + 1) body

def string? (cs : List Char) : Option (String × List Char) :=
  let result := match cs with
    | '"' :: '"' :: '"' :: rest => lines? '"' rest
    | '\'' :: '\'' :: '\'' :: rest => lines? '\'' rest
    | '"' :: rest => basicRest? (rest.length + 1) rest
    | '\'' :: rest => literalRest? rest
    | _ => none
  result.map (fun p => (String.ofList p.1, p.2))

/-! # Names -/

def isBareChar (c : Char) : Bool :=
  c.isAlphanum || c == '_' || c == '-'

def name? (cs : List Char) : Option (String × List Char) :=
  match cs with
  | '"' :: rest => (basicRest? (rest.length + 1) rest).map (fun p => (String.ofList p.1, p.2))
  | '\'' :: rest => (literalRest? rest).map (fun p => (String.ofList p.1, p.2))
  | _ =>
      let name := cs.takeWhile isBareChar
      if name.isEmpty then none else some (String.ofList name, cs.dropWhile isBareChar)

/-- Names with dots between, and blanks around them.  The given number bounds their count. -/
def names? : Nat → List Char → Option (List String × List Char)
  | 0, _ => none
  | n + 1, cs => do
      let (name, rest) ← name? (skipBlanks cs)
      match skipBlanks rest with
      | '.' :: rest => do
          let (names, rest) ← names? n rest
          return (name :: names, rest)
      | rest => some ([name], rest)

def maxDepth : Nat := 79

end Toml
end Settings
end SessionAuth
