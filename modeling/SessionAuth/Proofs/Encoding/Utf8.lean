/-!
# UTF-8

The octets of a text are those of its characters in a row.  Below 128 a character is its own
octet, and above no octet is below 128.
-/

namespace SessionAuth
namespace Encoding
namespace Utf8

def encode (cs : List Char) : List UInt8 :=
  cs.flatMap String.utf8EncodeChar

@[simp] theorem encode_nil : encode [] = [] := rfl

@[simp] theorem encode_cons (c : Char) (cs : List Char) :
    encode (c :: cs) = String.utf8EncodeChar c ++ encode cs := rfl

@[simp] theorem encode_append (cs ds : List Char) : encode (cs ++ ds) = encode cs ++ encode ds :=
  List.flatMap_append

/-! # Texts -/

theorem toList_loop (b : ByteArray) (i : Nat) (done : List UInt8) :
    ByteArray.toList.loop b i done = done.reverse ++ b.data.toList.drop i := by
  unfold ByteArray.toList.loop
  by_cases hi : i < b.size
  · have hlength : i < b.data.toList.length := hi
    have hget : b.get! i = b.data.toList[i] := getElem!_pos b.data i hi
    rw [if_pos hi, toList_loop, hget, List.drop_eq_getElem_cons hlength]
    simp
  · rw [if_neg hi, List.drop_eq_nil_of_le (Nat.le_of_not_lt hi), List.append_nil]
termination_by b.size - i

theorem toList_toUTF8 (s : String) : s.toUTF8.toList = encode s.toList := by
  have hdata : s.toUTF8.toList = s.toUTF8.data.toList := toList_loop _ 0 []
  have hoctets : s.toUTF8 = s.toList.utf8Encode := by
    rw [String.toUTF8_eq_toByteArray, ← String.toByteArray_ofList, String.ofList_toList]
  rw [hdata, hoctets, List.utf8Encode, List.toList_data_toByteArray]
  rfl

/-- The octets of a text are read as that text. -/
theorem fromUTF8?_encode (s : String) :
    String.fromUTF8? (encode s.toList).toByteArray = some s := by
  have hoctets : (encode s.toList).toByteArray = s.toByteArray := by
    rw [← String.ofList_toList (s := s), String.toByteArray_ofList, String.toList_ofList]
    rfl
  unfold String.fromUTF8?
  rw [hoctets, dif_pos s.isValidUTF8]
  rfl

/-! # Single characters -/

theorem utf8EncodeChar_of_lt {c : Char} (h : c.toNat < 128) :
    String.utf8EncodeChar c = [UInt8.ofNat c.toNat] := by
  have hsmall : c.val.toNat ≤ 0x7f := Nat.le_of_lt_succ h
  simp only [String.utf8EncodeChar]
  rw [if_pos hsmall]
  rfl

theorem le_of_mem_utf8EncodeChar {c : Char} (h : 128 ≤ c.toNat) :
    ∀ b ∈ String.utf8EncodeChar c, 128 ≤ b.toNat := by
  have hlarge : ¬ c.val.toNat ≤ 0x7f := Nat.not_le_of_gt h
  have hoctet : ∀ n, 128 ≤ n → n < 256 → 128 ≤ (UInt8.ofNat n).toNat := by
    intro n hn hn'
    rw [UInt8.toNat_ofNat']
    omega
  simp only [String.utf8EncodeChar]
  rw [if_neg hlarge]
  split
  · simp only [List.forall_mem_cons]
    exact ⟨hoctet _ (by omega) (by omega), hoctet _ (by omega) (by omega), by simp⟩
  · split
    · simp only [List.forall_mem_cons]
      exact ⟨hoctet _ (by omega) (by omega), hoctet _ (by omega) (by omega),
        hoctet _ (by omega) (by omega), by simp⟩
    · simp only [List.forall_mem_cons]
      exact ⟨hoctet _ (by omega) (by omega), hoctet _ (by omega) (by omega),
        hoctet _ (by omega) (by omega), hoctet _ (by omega) (by omega), by simp⟩

theorem encode_of_lt {cs : List Char} (h : ∀ c ∈ cs, c.toNat < 128) :
    encode cs = cs.map (fun c => UInt8.ofNat c.toNat) := by
  induction cs with
  | nil => rfl
  | cons c cs ih =>
      rw [List.forall_mem_cons] at h
      rw [encode_cons, utf8EncodeChar_of_lt h.left, ih h.right]
      rfl

end Utf8
end Encoding
end SessionAuth
