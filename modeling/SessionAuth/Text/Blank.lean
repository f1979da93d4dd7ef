import SessionAuth.Text.CharSet

/-!
# Blank and control characters

The Unicode property White_Space and the general category Cc.
-/

namespace SessionAuth
namespace Text

def blankRuns : CharSet :=
  [⟨0x9, 0xD, 1⟩, ⟨0x20, 0x20, 1⟩, ⟨0x85, 0x85, 1⟩, ⟨0xA0, 0xA0, 1⟩, ⟨0x1680, 0x1680, 1⟩,
   ⟨0x2000, 0x200A, 1⟩, ⟨0x2028, 0x2029, 1⟩, ⟨0x202F, 0x202F, 1⟩, ⟨0x205F, 0x205F, 1⟩,
   ⟨0x3000, 0x3000, 1⟩]

def isBlank (c : Char) : Bool :=
  blankRuns.has c

/-- Tells whether a character is a control character: the two blocks C0 and C1, and DEL. -/
def isControl (c : Char) : Bool :=
  c.toNat ≤ 0x1F || (0x7F ≤ c.toNat && c.toNat ≤ 0x9F)

end Text
end SessionAuth
