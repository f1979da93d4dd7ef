import SessionAuth.Uuid

/-!
# Identifiers read back

The canonical text of an identifier denotes that identifier.
-/

namespace SessionAuth

namespace Encoding
namespace Hex

theorem encode_append (bs cs : List UInt8) : encode (bs ++ cs) = encode bs ++ encode cs := by
  induction bs with
  | nil => rfl
  | cons b bs ih =>
      rw [List.cons_append, encode, ih]
      rfl

end Hex
end Encoding

open Encoding

namespace Uuid

theorem ofGroups?_join {a b c d e : List Char} (ha : a.length = 8) (hb : b.length = 4)
    (hc : c.length = 4) (hd : d.length = 4) (he : e.length = 12) :
    ofGroups? (a ++ '-' :: (b ++ '-' :: (c ++ '-' :: (d ++ '-' :: e)))) =
      ofDigits? (a ++ b ++ c ++ d ++ e) := by
  unfold ofGroups?
  rw [if_pos]
  · simp [List.drop_append, List.drop_of_length_le, ha, hb, hc, hd]
  · simp [ha, hb, hc, hd, he]

theorem encode_groups (bs : List UInt8) :
    Hex.encode (bs.take 4) ++ Hex.encode ((bs.drop 4).take 2) ++
      Hex.encode ((bs.drop 6).take 2) ++ Hex.encode ((bs.drop 8).take 2) ++
        Hex.encode (bs.drop 10) = Hex.encode bs := by
  have hdrop : ∀ n, (bs.drop n).take 2 ++ bs.drop (n + 2) = bs.drop n := by
    intro n
    rw [← List.drop_drop, List.take_append_drop]
  simp only [List.append_assoc, ← Hex.encode_append]
  rw [hdrop 8, hdrop 6, hdrop 4, List.take_append_drop]

theorem ofGroups?_chars (u : Uuid) : ofGroups? u.chars = some u := by
  unfold chars
  rw [ofGroups?_join, encode_groups, ofDigits?, Hex.decode_encode, Option.bind_eq_bind,
    Option.bind_some, ofOctets?_octets]
  all_goals simp [u.length_octets]

theorem length_chars (u : Uuid) : u.chars.length = 36 := by
  simp [chars, u.length_octets]

/-- The canonical text of an identifier is read as that identifier. -/
theorem parse?_text (u : Uuid) : parse? u.text = some u := by
  unfold parse? text ofChars?
  rw [String.toList_ofList, length_chars]
  exact u.ofGroups?_chars

end Uuid

namespace Id

theorem parse?_text {e : Entity} (i : Id e) : parse? i.text = some i := by
  unfold parse? text
  rw [Uuid.parse?_text]
  rfl

end Id

end SessionAuth
