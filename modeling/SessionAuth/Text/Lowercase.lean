import SessionAuth.Text.Casing
import SessionAuth.Text.LowercaseMap

/-!
# Lowercase text

The full lowercase mapping of a text.  Two characters need more than a table: the capital I with
a dot above becomes two characters, and the capital sigma has a form of its own at the end of a
word.
-/

namespace SessionAuth
namespace Text

def lowerChar (c : Char) : Char :=
  Char.ofNat (lowercasePoint c.toNat)

def lowerExpansion (c : Char) : List Char :=
  if c = '\u0130' then ['i', '\u0307'] else [lowerChar c]

def startsCased (cs : List Char) : Bool :=
  match cs.dropWhile isCaseIgnorable with
  | [] => false
  | c :: _ => isCased c

@[simp] theorem startsCased_nil : startsCased [] = false := rfl

/-- The small form of a capital sigma that follows `before`, the nearest character first, and
precedes `after`: the final form at the end of a word, and the common form elsewhere. -/
def lowerSigma (before after : List Char) : Char :=
  if startsCased before && !startsCased after then '\u03C2' else '\u03C3'

/-- The lowercase form of a text that follows `before`, the nearest character first. -/
def lowercaseAfter (before : List Char) : List Char → List Char
  | [] => []
  | c :: rest =>
      (if c = '\u03A3' then [lowerSigma before rest] else lowerExpansion c) ++
        lowercaseAfter (c :: before) rest

@[simp] theorem lowercaseAfter_nil (before : List Char) : lowercaseAfter before [] = [] := rfl

def lowercase (s : String) : String :=
  String.ofList (lowercaseAfter [] s.toList)

end Text
end SessionAuth
