import SessionAuth.Encoding.Hex
import SessionAuth.Text.Blank

/-!
# Quoted text in messages

A text between double quotes, as a message shows it.  Quotes, backslashes and control characters
are escaped, so that the message stays on its line.
-/

namespace SessionAuth
namespace Text

def shortHex (n : Nat) : List Char :=
  if n < 16 then [Encoding.Hex.digit n]
  else [Encoding.Hex.digit (n / 16), Encoding.Hex.digit (n % 16)]

def escapeChar (c : Char) : List Char :=
  match [('"', '"'), ('\\', '\\'), ('\n', 'n'), ('\r', 'r'), ('\t', 't'),
    ('\x00', '0')].lookup c with
  | some e => ['\\', e]
  | none => if isControl c then ['\\', 'u', '\x7b'] ++ shortHex c.toNat ++ ['\x7d'] else [c]

def escaped (s : String) : String :=
  "\"" ++ String.ofList (s.toList.flatMap escapeChar) ++ "\""

end Text
end SessionAuth
