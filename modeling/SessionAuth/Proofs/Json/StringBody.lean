import SessionAuth.Json.StringBody
import SessionAuth.Proofs.Encoding.Utf8

/-!
# Strings read back

A text that is written between quotes is found up to the closing quote, and is read as that text.
-/

namespace SessionAuth
namespace Json
namespace StringBody

open Encoding

/-!
# Written characters

A character is written as a letter behind a backslash, as four digits, or as it is.
-/

/-- An octet that stands for itself in a string. -/
def Plain (b : UInt8) : Prop :=
  b ≠ 0x22 ∧ b ≠ 0x5C ∧ ¬ b < 0x20

inductive Written (c : Char) : Prop where
  | letter {e b : UInt8} (hwritten : Utf8.encode (encodeChar c) = [0x5C, e])
      (hread : escaped? e = some b) (hletter : e ≠ 0x75) (hoctet : String.utf8EncodeChar c = [b])
  | digits {x y z w : UInt8}
      (hwritten : Utf8.encode (encodeChar c) = [0x5C, 0x75, x, y, z, w])
      (hread : codeUnit? x y z w = some c.toNat) (hcontrol : c.toNat < 0x20)
  | plain (hwritten : Utf8.encode (encodeChar c) = String.utf8EncodeChar c)
      (hplain : ∀ b ∈ String.utf8EncodeChar c, Plain b)

theorem codeUnit?_digits {n : Nat} (h : n < 0x20) :
    codeUnit? 0x30 0x30 (UInt8.ofNat (Hex.digit (n / 16)).toNat)
      (UInt8.ofNat (Hex.digit (n % 16)).toNat) = some n := by
  have hall : ∀ m : Fin 0x20, codeUnit? 0x30 0x30 (UInt8.ofNat (Hex.digit (m.val / 16)).toNat)
      (UInt8.ofNat (Hex.digit (m.val % 16)).toNat) = some m.val := by decide
  exact hall ⟨n, h⟩

theorem plain_of_mem_utf8EncodeChar {c : Char} (hquote : c ≠ '"') (hslash : c ≠ '\\')
    (hcontrol : ¬ c.toNat < 0x20) : ∀ b ∈ String.utf8EncodeChar c, Plain b := by
  intro b hb
  by_cases hlarge : 128 ≤ c.toNat
  · have hoctet := Utf8.le_of_mem_utf8EncodeChar hlarge b hb
    refine ⟨?_, ?_, ?_⟩
    · rintro rfl
      exact absurd hoctet (by decide)
    · rintro rfl
      exact absurd hoctet (by decide)
    · intro hlt
      have hlt : b.toNat < 32 := hlt
      omega
  · rw [Utf8.utf8EncodeChar_of_lt (Nat.lt_of_not_le hlarge), List.mem_singleton] at hb
    have hoctet : b.toNat = c.toNat := by
      rw [hb, UInt8.toNat_ofNat']
      omega
    have hchar : ∀ d : Char, c ≠ d → b.toNat ≠ d.toNat := by
      intro d hne heq
      exact hne (Char.toNat_inj.mp (hoctet.symm.trans heq))
    refine ⟨?_, ?_, ?_⟩
    · rintro rfl
      exact hchar '"' hquote rfl
    · rintro rfl
      exact hchar '\\' hslash rfl
    · intro hlt
      have hlt : b.toNat < 32 := hlt
      omega

theorem written (c : Char) : Written c := by
  cases hletter : [('"', '"'), ('\\', '\\'), ('\x08', 'b'), ('\x0c', 'f'), ('\n', 'n'), ('\r', 'r'),
      ('\t', 't')].lookup c with
  | some e =>
      have hwritten : encodeChar c = ['\\', e] := by
        unfold encodeChar
        rw [hletter]
      rcases List.lookup_eq_some_iff.mp hletter with ⟨before, after, hletters, _⟩
      -- There are only seven such characters, and each is read back by computation.
      have hmem : (c, e) ∈ before ++ (c, e) :: after := by simp
      rw [← hletters] at hmem
      simp only [List.mem_cons, Prod.mk.injEq, List.not_mem_nil, or_false] at hmem
      rcases hmem with ⟨rfl, rfl⟩ | ⟨rfl, rfl⟩ | ⟨rfl, rfl⟩ | ⟨rfl, rfl⟩ | ⟨rfl, rfl⟩ | ⟨rfl, rfl⟩ |
        ⟨rfl, rfl⟩
      all_goals exact Written.letter (by rw [hwritten]; rfl) rfl (by decide) rfl
  | none =>
      by_cases hcontrol : c.toNat < 0x20
      · have hwritten : encodeChar c =
            ['\\', 'u', '0', '0', Hex.digit (c.toNat / 16), Hex.digit (c.toNat % 16)] := by
          unfold encodeChar
          rw [hletter]
          exact if_pos hcontrol
        have hdigit : ∀ n : Fin 16, (Hex.digit n.val).toNat < 128 := by decide
        have hsmall : ∀ d ∈ encodeChar c, d.toNat < 128 := by
          rw [hwritten]
          simp only [List.forall_mem_cons]
          exact ⟨by decide, by decide, by decide, by decide, hdigit ⟨c.toNat / 16, by omega⟩,
            hdigit ⟨c.toNat % 16, by omega⟩, by simp⟩
        refine Written.digits ?_ (codeUnit?_digits hcontrol) hcontrol
        rw [Utf8.encode_of_lt hsmall, hwritten]
        rfl
      · have hwritten : encodeChar c = [c] := by
          unfold encodeChar
          rw [hletter]
          exact if_neg hcontrol
        refine Written.plain ?_ (plain_of_mem_utf8EncodeChar ?_ ?_ hcontrol)
        · rw [hwritten, Utf8.encode_cons, Utf8.encode_nil, List.append_nil]
        · rintro rfl
          cases hletter
        · rintro rfl
          cases hletter

/-! # Finding the closing quote -/

theorem split?_quote (rest : List UInt8) : split? (0x22 :: rest) = some ([], rest) := by
  rw [split?]

theorem split?_letter {e b : UInt8} (he : e ≠ 0x75) (h : escaped? e = some b)
    (rest : List UInt8) :
    split? (0x5C :: e :: rest) = (split? rest).map (fun p => (0x5C :: e :: p.1, p.2)) := by
  rw [split?]
  · rw [h]
    cases split? rest <;> rfl
  · intro x y z w rest' heq
    exact absurd heq he

theorem split?_digits {x y z w : UInt8} {n : Nat} (h : codeUnit? x y z w = some n)
    (rest : List UInt8) :
    split? (0x5C :: 0x75 :: x :: y :: z :: w :: rest) =
      (split? rest).map (fun p => (0x5C :: 0x75 :: x :: y :: z :: w :: p.1, p.2)) := by
  rw [split?, h]
  cases split? rest <;> rfl

theorem split?_plain {b : UInt8} (h : Plain b) (rest : List UInt8) :
    split? (b :: rest) = (split? rest).map (fun p => (b :: p.1, p.2)) := by
  rcases h with ⟨hquote, hslash, hcontrol⟩
  rw [split?]
  · rw [if_neg (by simp [hslash, hcontrol])]
    cases split? rest <;> rfl
  · exact hquote
  · intro _ _ _ _ _ heq
    exact absurd heq hslash
  · intro _ _ heq
    exact absurd heq hslash

theorem split?_plains {bs : List UInt8} (h : ∀ b ∈ bs, Plain b) (rest : List UInt8) :
    split? (bs ++ rest) = (split? rest).map (fun p => (bs ++ p.1, p.2)) := by
  induction bs with
  | nil => simp
  | cons b bs ih =>
      rw [List.forall_mem_cons] at h
      rw [List.cons_append, split?_plain h.left, ih h.right, Option.map_map]
      rfl

theorem split?_encodeChar (c : Char) (rest : List UInt8) :
    split? (Utf8.encode (encodeChar c) ++ rest) =
      (split? rest).map (fun p => (Utf8.encode (encodeChar c) ++ p.1, p.2)) := by
  cases written c with
  | letter hwritten hread hletter _ =>
      rw [hwritten]
      exact split?_letter hletter hread rest
  | digits hwritten hread _ =>
      rw [hwritten]
      exact split?_digits hread rest
  | plain hwritten hplain =>
      rw [hwritten]
      exact split?_plains hplain rest

theorem split?_encode (s : String) (rest : List UInt8) :
    split? (Utf8.encode (encode s) ++ 0x22 :: rest) = some (Utf8.encode (encode s), rest) := by
  unfold encode
  induction s.toList with
  | nil => exact split?_quote rest
  | cons c cs ih =>
      rw [List.flatMap_cons, Utf8.encode_append, List.append_assoc, split?_encodeChar, ih]
      rfl

/-! # Reading -/

theorem pieces_letter {e b : UInt8} (he : e ≠ 0x75) (h : escaped? e = some b)
    (rest : List UInt8) :
    pieces (0x5C :: e :: rest) = (pieces rest).map ([.octet b] ++ ·) := by
  rw [pieces]
  · rw [h]
    cases pieces rest <;> rfl
  · intro x y z w rest' heq
    exact absurd heq he

theorem pieces_digits {x y z w : UInt8} {n : Nat} (h : codeUnit? x y z w = some n)
    (rest : List UInt8) :
    pieces (0x5C :: 0x75 :: x :: y :: z :: w :: rest) =
      (pieces rest).map ([.codeUnit n] ++ ·) := by
  rw [pieces, h]
  cases pieces rest <;> rfl

theorem pieces_plains {bs : List UInt8} (h : ∀ b ∈ bs, Plain b) (rest : List UInt8) :
    pieces (bs ++ rest) = (pieces rest).map (bs.map .octet ++ ·) := by
  induction bs with
  | nil => simp
  | cons b bs ih =>
      rw [List.forall_mem_cons] at h
      have hcons : pieces (b :: (bs ++ rest)) = (pieces (bs ++ rest)).map (.octet b :: ·) := by
        rw [pieces]
        · cases pieces (bs ++ rest) <;> rfl
        · intro _ _ _ _ _ heq
          exact absurd heq h.left.right.left
        · intro _ _ heq
          exact absurd heq h.left.right.left
      rw [List.cons_append, hcons, ih h.right, Option.map_map]
      rfl

theorem join_octet (b : UInt8) (more : List Piece) :
    join ([.octet b] ++ more) = (join more).map ([b] ++ ·) := by
  rw [List.cons_append, List.nil_append, join]
  rfl

theorem join_octets (bs : List UInt8) (more : List Piece) :
    join (bs.map .octet ++ more) = (join more).map (bs ++ ·) := by
  induction bs with
  | nil =>
      rw [List.map_nil, List.nil_append]
      cases join more <;> rfl
  | cons b bs ih =>
      rw [List.map_cons, List.cons_append, join, ih]
      cases join more <;> rfl

theorem join_codeUnit {n : Nat} (h : n < 0xD800) (more : List Piece) :
    join (.codeUnit n :: more) =
      (join more).map (String.utf8EncodeChar (Char.ofNat n) ++ ·) := by
  have hhigh : ¬ (0xD800 ≤ n ∧ n < 0xE000) := by omega
  have hlow : ¬ (0xDC00 ≤ n ∧ n < 0xE000) := by omega
  have hfirst : ¬ (0xD800 ≤ n ∧ n < 0xDC00) := by omega
  cases more with
  | nil => simp only [join, if_neg hhigh]
  | cons piece more =>
      cases piece with
      | octet b => simp only [join, if_neg hhigh]
      | codeUnit l => simp only [join, if_neg hfirst, if_neg hlow]

theorem pieces_encodeChar (c : Char) : ∃ ps : List Piece,
    (∀ rest, pieces (Utf8.encode (encodeChar c) ++ rest) = (pieces rest).map (ps ++ ·)) ∧
    ∀ more, join (ps ++ more) = (join more).map (String.utf8EncodeChar c ++ ·) := by
  cases written c with
  | letter hwritten hread hletter hoctet =>
      rename_i e b
      refine ⟨[.octet b], ?_, ?_⟩
      · intro rest
        rw [hwritten]
        exact pieces_letter hletter hread rest
      · intro more
        rw [hoctet]
        exact join_octet b more
  | digits hwritten hread hcontrol =>
      refine ⟨[.codeUnit c.toNat], ?_, ?_⟩
      · intro rest
        rw [hwritten]
        exact pieces_digits hread rest
      · intro more
        rw [List.cons_append, List.nil_append, join_codeUnit (by omega), Char.ofNat_toNat]
  | plain hwritten hplain =>
      refine ⟨(String.utf8EncodeChar c).map .octet, ?_, ?_⟩
      · intro rest
        rw [hwritten]
        exact pieces_plains hplain rest
      · intro more
        exact join_octets _ more

theorem pieces_encode (s : String) : ∃ ps, pieces (Utf8.encode (encode s)) = some ps ∧
    join ps = .ok (Utf8.encode s.toList) := by
  unfold encode
  induction s.toList with
  | nil => exact ⟨[], rfl, rfl⟩
  | cons c cs ih =>
      rcases ih with ⟨more, hmore, hjoin⟩
      rcases pieces_encodeChar c with ⟨ps, hps, hpiece⟩
      refine ⟨ps ++ more, ?_, ?_⟩
      · rw [List.flatMap_cons, Utf8.encode_append, hps, hmore]
        rfl
      · rw [hpiece, hjoin]
        rfl

/-- A written text is read as that text. -/
theorem decode_encode (s : String) : decode (Utf8.encode (encode s)) = some s := by
  rcases pieces_encode s with ⟨ps, hps, hjoin⟩
  unfold decode read
  rw [hps]
  simp only [hjoin, Utf8.fromUTF8?_encode]
  rfl

end StringBody
end Json
end SessionAuth
