import SessionAuth.Text.Alphanumeric
import SessionAuth.Text.Blank
import SessionAuth.Text.Uppercase

/-!
# Password policy

The requirements on a new password, and the ways to violate them.  Every requirement that is not
met is reported, always in the same order.
-/

namespace SessionAuth
namespace Password

structure Policy where
  minLength : Nat
  requireUppercase : Bool
  requireNumber : Bool
  requireSpecial : Bool
deriving DecidableEq, Repr

inductive Violation where
  | tooShort (minimum actual : Nat)
  | missingUppercase
  | missingNumber
  | missingSpecial
  | unchanged
deriving DecidableEq, Repr

namespace Violation

def code : Violation → String
  | tooShort _ _ => "too_short"
  | missingUppercase => "missing_uppercase"
  | missingNumber => "missing_number"
  | missingSpecial => "missing_special"
  | unchanged => "unchanged"

def message : Violation → String
  | tooShort minimum actual =>
      "Password must be at least " ++ toString minimum ++ " characters (got " ++ toString actual ++
        ")"
  | missingUppercase => "Password must contain at least one uppercase letter"
  | missingNumber => "Password must contain at least one number"
  | missingSpecial => "Password must contain at least one special character"
  | unchanged => "New password must differ from the current password"

end Violation

/-- Tells whether a character is special: printable, and neither a letter, a number nor blank. -/
def isSpecial (c : Char) : Bool :=
  !Text.isAlphanumeric c && !Text.isBlank c && !Text.isControl c

namespace Policy

def standard : Policy :=
  ⟨8, false, false, false⟩

def violationsOf (p : Policy) (cs : List Char) : List Violation :=
  (if cs.length < p.minLength then [.tooShort p.minLength cs.length] else []) ++
    (if p.requireUppercase && !cs.any Text.isUppercase then [.missingUppercase] else []) ++
    (if p.requireNumber && !cs.any Char.isDigit then [.missingNumber] else []) ++
    (if p.requireSpecial && !cs.any isSpecial then [.missingSpecial] else [])

def violations (p : Policy) (password : String) : List Violation :=
  p.violationsOf password.toList

def validate (p : Policy) (password : String) : Except Violation Unit :=
  match p.violations password with
  | [] => .ok ()
  | v :: _ => .error v

end Policy

end Password
end SessionAuth
