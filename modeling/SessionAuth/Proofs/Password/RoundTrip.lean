import SessionAuth.Password.Hashing
import SessionAuth.Proofs.Encoding.Base64
import SessionAuth.Proofs.Text.Decimal

/-!
# Stored hashes read back

The text of a new hash is read as that hash, so that the password that was hashed is verified.
Nothing of this depends on what the hash function computes.
-/

namespace SessionAuth

open Encoding

/-! # Lengths -/

namespace Crypto

theorem Blake2b.length_digest (size : Nat) (message : List UInt8) :
    (digest size message).length = min size 64 := by
  simp only [digest]
  generalize absorb _ _ _ _ = words
  have hwords : (words.toList.flatMap (fun w => littleEndian 8 w.toNat)).length = 64 := by
    rw [List.length_flatMap]
    simp only [length_littleEndian, List.map_const', Vector.length_toList, List.sum_replicate_nat]
  rw [List.length_take, hwords]

theorem Argon2.length_hash (cost : Cost) (i : Input) (hi : i.outputLength ≤ 64) :
    (hash cost i).length = i.outputLength := by
  simp only [hash]
  unfold longDigest
  rw [if_pos hi, Blake2b.length_digest, Nat.min_eq_left hi]

end Crypto

namespace Password

open Crypto

namespace StoredHash

/-! # Values -/

theorem isValueChar_char {n : Nat} (h : n < 64) :
    isValueChar (Base64.Alphabet.standard.char n) = true := by
  have hall : ∀ m : Fin 64, isValueChar (Base64.Alphabet.standard.char m.val) = true := by decide
  exact hall ⟨n, h⟩

theorem isValueChar_of_mem_encode {bs : List UInt8} {c : Char}
    (h : c ∈ Base64.encode .standard bs) : isValueChar c = true :=
  Base64.forall_mem_encode (P := fun c => isValueChar c = true) (fun _ => isValueChar_char) bs c h

theorem isValueChar_of_isDigit {c : Char} (h : c.isDigit = true) : isValueChar c = true := by
  simp [isValueChar, Char.isAlphanum, h]

theorem not_mem_of_isValueChar {cs : List Char} (h : ∀ c ∈ cs, isValueChar c = true) :
    '$' ∉ cs ∧ ',' ∉ cs ∧ '=' ∉ cs := by
  refine ⟨?_, ?_, ?_⟩
  · intro hmem
    exact absurd (h _ hmem) (by decide)
  · intro hmem
    exact absurd (h _ hmem) (by decide)
  · intro hmem
    exact absurd (h _ hmem) (by decide)

theorem salt?_encode {bs : List UInt8} (hmin : 3 ≤ bs.length) (hmax : bs.length ≤ 48) :
    salt? (Base64.encode .standard bs) =
      some (String.ofList (Base64.encode .standard bs)) := by
  have hlength := Base64.length_encode .standard bs
  unfold salt?
  rw [if_pos]
  refine ⟨by omega, ?_⟩
  unfold isValue
  rw [Bool.and_eq_true, decide_eq_true_eq, List.all_eq_true]
  refine ⟨by omega, ?_⟩
  intro c hc
  exact isValueChar_of_mem_encode hc

theorem output?_encode {bs : List UInt8} (hmin : 10 ≤ bs.length) (hmax : bs.length ≤ 64) :
    output? (Base64.encode .standard bs) = some bs := by
  unfold output?
  rw [Base64.decode_encode]
  simp only [Option.bind_eq_bind, Option.bind_some]
  rw [if_pos ⟨hmin, hmax⟩]

/-! # Numbers -/

theorem decimal32?_toString {n : Nat} (h : n < size32) :
    decimal32? (toString n).toList = some n := by
  unfold decimal32?
  rw [Text.decimal?_toString, Option.filter_some, if_pos (decide_eq_true h)]

theorem length_toString_le {n : Nat} (h : n < size32) : (toString n).toList.length ≤ 10 := by
  have hpow : n < 10 ^ 10 := Nat.lt_trans h (by decide)
  have hlength := (Nat.length_toDigits_le_iff (b := 10) (by decide) (by decide)).mpr hpow
  rw [Nat.toString_eq_ofList_toDigits, String.toList_ofList]
  exact hlength

theorem isValueChar_of_mem_toString {n : Nat} {c : Char} (h : c ∈ (toString n).toList) :
    isValueChar c = true :=
  isValueChar_of_isDigit (Text.isDigit_of_mem_toString h)

theorem isValue_toString {n : Nat} (h : n < size32) : isValue (toString n).toList = true := by
  have hlength := length_toString_le h
  unfold isValue
  rw [Bool.and_eq_true, decide_eq_true_eq, List.all_eq_true]
  refine ⟨by omega, ?_⟩
  intro c hc
  exact isValueChar_of_mem_toString hc

/-! # Parameters -/

theorem parameter?_toString {c : Char} (hname : isName [c] = true) (hc : c ≠ '=') {n : Nat}
    (h : n < size32) :
    parameter? (c :: '=' :: (toString n).toList) = some (String.ofList [c], toString n) := by
  have hdigits : '$' ∉ (toString n).toList ∧ ',' ∉ (toString n).toList ∧
      '=' ∉ (toString n).toList :=
    not_mem_of_isValueChar (fun c => isValueChar_of_mem_toString)
  have hsplit : Text.splitAt '=' ([c] ++ '=' :: (toString n).toList) =
      [[c], (toString n).toList] := by
    rw [Text.splitAt_append (by simpa using hc.symm), Text.splitAt_of_not_mem hdigits.right.right]
  have hfield : c :: '=' :: (toString n).toList = [c] ++ '=' :: (toString n).toList := rfl
  unfold parameter?
  rw [hfield, hsplit]
  simp only [hname, isValue_toString h, Bool.and_self, if_true, String.ofList_toList]

def costField (c : Argon2.Cost) : List Char :=
  'm' :: '=' :: (toString c.memory).toList ++ ',' :: ('t' :: '=' :: (toString c.passes).toList ++
    ',' :: ('p' :: '=' :: (toString c.lanes).toList))

theorem utf8ByteSize_ofList {cs : List Char} (h : ∀ c ∈ cs, c.utf8Size = 1) :
    (String.ofList cs).utf8ByteSize = cs.length := by
  induction cs with
  | nil => rfl
  | cons c cs ih =>
      have hcons : String.ofList (c :: cs) = String.singleton c ++ String.ofList cs := by
        rw [String.singleton_eq_ofList, ← String.ofList_append]
        rfl
      rw [hcons, String.utf8ByteSize_append, String.utf8ByteSize_singleton,
        h c List.mem_cons_self, ih (fun d hd => h d (List.mem_cons_of_mem _ hd)),
        List.length_cons, Nat.add_comm]

theorem utf8Size_of_isDigit {c : Char} (h : c.isDigit = true) : c.utf8Size = 1 := by
  have hrange := Char.isDigit_iff_toNat.mp h
  rw [Char.utf8Size_eq_one_iff, UInt32.le_iff_toNat_le]
  exact Nat.le_trans hrange.right (by decide)

section Cost

variable {c : Argon2.Cost} (hmemory : c.memory < size32) (hpasses : c.passes < size32)
  (hlanes : c.lanes < size32)
include hmemory hpasses hlanes

theorem utf8ByteSize_costField : (String.ofList (costField c)).utf8ByteSize ≤ 127 := by
  have hm := length_toString_le hmemory
  have ht := length_toString_le hpasses
  have hp := length_toString_le hlanes
  have hdigits : ∀ (n : Nat), ∀ x ∈ (toString n).toList, x.utf8Size = 1 := by
    intro n x hx
    exact utf8Size_of_isDigit (Text.isDigit_of_mem_toString hx)
  have hones : ∀ x ∈ costField c, x.utf8Size = 1 := by
    simp only [costField, List.forall_mem_cons, List.forall_mem_append]
    exact ⟨⟨by decide, by decide, hdigits _⟩, by decide, ⟨by decide, by decide, hdigits _⟩,
      by decide, by decide, by decide, hdigits _⟩
  rw [utf8ByteSize_ofList hones]
  simp only [costField, List.length_cons, List.length_append]
  omega

theorem parameters?_costField :
    parameters? (costField c) =
      some [("m", toString c.memory), ("t", toString c.passes), ("p", toString c.lanes)] := by
  have hcomma : ∀ n : Nat, ',' ∉ (toString n).toList := fun n =>
    (not_mem_of_isValueChar (fun c => isValueChar_of_mem_toString)).right.left
  have hsplit : Text.splitAt ',' (costField c) =
      ['m' :: '=' :: (toString c.memory).toList, 't' :: '=' :: (toString c.passes).toList,
        'p' :: '=' :: (toString c.lanes).toList] := by
    unfold costField
    rw [Text.splitAt_append, Text.splitAt_append, Text.splitAt_of_not_mem]
    all_goals
      simp only [List.mem_cons, not_or]
      exact ⟨by decide, by decide, hcomma _⟩
  have hm := parameter?_toString (c := 'm') (by decide) (by decide) hmemory
  have ht := parameter?_toString (c := 't') (by decide) (by decide) hpasses
  have hp := parameter?_toString (c := 'p') (by decide) (by decide) hlanes
  unfold parameters?
  rw [if_pos (utf8ByteSize_costField hmemory hpasses hlanes), hsplit]
  simp only [List.mapM_cons, List.mapM_nil, hm, ht, hp]
  rfl

theorem takeParameters?_costField (rest : List (List Char)) :
    takeParameters? (costField c :: rest) =
      some ([("m", toString c.memory), ("t", toString c.passes), ("p", toString c.lanes)],
        rest) := by
  have hequals : (costField c).contains '=' = true := by simp [costField]
  unfold takeParameters?
  simp only [hequals, if_true, parameters?_costField hmemory hpasses hlanes, Option.map_some]

end Cost

theorem dollar_not_mem_costField {c : Argon2.Cost} : '$' ∉ costField c := by
  have hdigits : ∀ n : Nat, '$' ∉ (toString n).toList := fun n =>
    (not_mem_of_isValueChar (fun c => isValueChar_of_mem_toString)).left
  simp only [costField, List.mem_cons, List.mem_append, not_or]
  exact ⟨⟨by decide, by decide, hdigits _⟩, by decide, ⟨by decide, by decide, hdigits _⟩,
    by decide, by decide, by decide, hdigits _⟩

theorem takeVersion?_v19 (rest : List (List Char)) :
    takeVersion? ("v=19".toList :: rest) = some (some Argon2.Version.v19.code, rest) :=
  rfl

end StoredHash

/-! # New hashes -/

section New

variable (cost : Argon2.Cost) (salt : Salt) (password : String)

theorem toList_text_hash :
    (hash cost salt password).text.toList =
      '$' :: ("argon2id".toList ++ '$' :: ("v=19".toList ++ '$' ::
        (StoredHash.costField cost ++ '$' :: (Base64.encode .standard salt.octets ++ '$' ::
          Base64.encode .standard (Argon2.hash cost
            ⟨.argon2id, .v19, octets password, salt.octets, [], outputLength⟩))))) := by
  have hversion : (toString Argon2.Version.v19.code).toList = ['1', '9'] := by decide
  have hfield : "v=".toList ++ ['1', '9'] = "v=19".toList := by decide
  have hdollar : "$".toList = ['$'] := by decide
  have hcomma : ",".toList = [','] := by decide
  have hequals : "=".toList = ['='] := by decide
  have hnames : "m".toList = ['m'] ∧ "t".toList = ['t'] ∧ "p".toList = ['p'] := by decide
  simp only [StoredHash.text, hash, StoredHash.fieldText, StoredHash.costField, List.isEmpty_cons,
    Bool.false_eq_true, if_false, List.map_cons, List.map_nil, String.intercalate_cons_cons,
    String.intercalate_singleton, String.toList_append, String.toList_ofList, hversion, ← hfield,
    hdollar, hcomma, hequals, hnames, Argon2.Variant.name, List.append_assoc, List.cons_append,
    List.nil_append]

theorem parse?_text_hash (hmemory : cost.memory < size32) (hpasses : cost.passes < size32)
    (hlanes : cost.lanes < size32) (hmin : 8 ≤ salt.octets.length)
    (hmax : salt.octets.length ≤ 48) :
    StoredHash.parse? (hash cost salt password).text = some (hash cost salt password) := by
  have hsaltField : '$' ∉ Base64.encode .standard salt.octets :=
    (StoredHash.not_mem_of_isValueChar (fun _ => StoredHash.isValueChar_of_mem_encode)).left
  have hsalt := StoredHash.salt?_encode (show 3 ≤ salt.octets.length by omega) hmax
  have hlength : (Argon2.hash cost
      ⟨.argon2id, .v19, octets password, salt.octets, [], outputLength⟩).length = outputLength :=
    Argon2.length_hash cost _ (show outputLength ≤ 64 by decide)
  unfold StoredHash.parse?
  rw [toList_text_hash]
  unfold hash
  generalize Argon2.hash _ _ = output at hlength ⊢
  have houtputField : '$' ∉ Base64.encode .standard output :=
    (StoredHash.not_mem_of_isValueChar (fun _ => StoredHash.isValueChar_of_mem_encode)).left
  have houtput : StoredHash.output? (Base64.encode .standard output) = some output :=
    StoredHash.output?_encode (by rw [hlength]; decide) (by rw [hlength]; decide)
  have hfields := StoredHash.takeParameters?_costField hmemory hpasses hlanes
    [Base64.encode .standard salt.octets, Base64.encode .standard output]
  change StoredHash.ofFields? (Text.splitAt '$' ([] ++ '$' :: _)) = _
  rw [Text.splitAt_append List.not_mem_nil, Text.splitAt_append (by decide),
    Text.splitAt_append (by decide), Text.splitAt_append StoredHash.dollar_not_mem_costField,
    Text.splitAt_append hsaltField, Text.splitAt_of_not_mem houtputField]
  have hname : StoredHash.isName "argon2id".toList = true := by decide
  simp only [StoredHash.ofFields?, hname, StoredHash.takeVersion?_v19, hfields, hsalt, houtput,
    Bool.not_true, Bool.false_eq_true, if_false, Option.bind_eq_bind, Option.bind_some]
  rfl

theorem ofList?_parameters_hash (hmemory : cost.memory < size32) (hpasses : cost.passes < size32)
    (hlanes : cost.lanes < size32) :
    Parameters.ofList? (hash cost salt password).parameters = some ⟨cost, []⟩ := by
  simp only [hash, Parameters.ofList?, List.foldlM_cons, List.foldlM_nil, Parameters.read?,
    StoredHash.decimal32?_toString hmemory, StoredHash.decimal32?_toString hpasses,
    StoredHash.decimal32?_toString hlanes]
  rfl

theorem recompute?_hash (other : String) (hcost : cost.check = .ok ())
    (hmemory : cost.memory < size32) (hpasses : cost.passes < size32)
    (hlanes : cost.lanes < size32) (hmin : 8 ≤ salt.octets.length) :
    recompute? (hash cost salt password) (String.ofList (Base64.encode .standard salt.octets))
        outputLength other =
      some (Argon2.hash cost
        ⟨.argon2id, .v19, octets other, salt.octets, [], outputLength⟩) := by
  have hvariant : Argon2.Variant.ofName? Argon2.Variant.argon2id.name = some .argon2id := by decide
  have hversion : Argon2.Version.ofCode? Argon2.Version.v19.code = some .v19 := by decide
  have hparameters := ofList?_parameters_hash cost salt password hmemory hpasses hlanes
  have hsalt := Base64.decode_encode .standard salt.octets
  simp only [recompute?, hparameters, hcost, String.toList_ofList, hsalt, if_pos hmin,
    Option.bind_eq_bind, Option.bind_some]
  simp only [hash, hvariant, hversion, Option.bind_some]

theorem lanes_lt_of_check (hcost : cost.check = .ok ()) (hmemory : cost.memory < size32) :
    cost.lanes < size32 := by
  unfold Argon2.Cost.check at hcost
  split at hcost
  · cases hcost
  · omega

/-- Any password is compared with a new hash by what it is hashed to. -/
theorem verify_other_text_hash (other : String) (hcost : cost.check = .ok ())
    (hmemory : cost.memory < size32) (hpasses : cost.passes < size32)
    (hmin : 8 ≤ salt.octets.length) (hmax : salt.octets.length ≤ 48) :
    verify other (hash cost salt password).text =
      if Argon2.hash cost ⟨.argon2id, .v19, octets other, salt.octets, [], outputLength⟩ =
        Argon2.hash cost ⟨.argon2id, .v19, octets password, salt.octets, [], outputLength⟩
      then .same else .different := by
  have hlanes := lanes_lt_of_check cost hcost hmemory
  have hrecompute := recompute?_hash cost salt password other hcost hmemory hpasses hlanes hmin
  unfold verify
  rw [parse?_text_hash cost salt password hmemory hpasses hlanes hmin hmax]
  have hsalt : (hash cost salt password).salt =
      some (String.ofList (Base64.encode .standard salt.octets)) := rfl
  have houtput : (hash cost salt password).output = some (Argon2.hash cost
      ⟨.argon2id, .v19, octets password, salt.octets, [], outputLength⟩) := rfl
  simp only [verifyParsed, hsalt, houtput]
  rw [Argon2.length_hash cost _ (show outputLength ≤ 64 by decide)]
  simp only [hrecompute]

theorem verify_text_hash (hcost : cost.check = .ok ()) (hmemory : cost.memory < size32)
    (hpasses : cost.passes < size32) (hmin : 8 ≤ salt.octets.length)
    (hmax : salt.octets.length ≤ 48) :
    verify password (hash cost salt password).text = .same := by
  rw [verify_other_text_hash cost salt password password hcost hmemory hpasses hmin hmax,
    if_pos rfl]

end New

end Password
end SessionAuth
