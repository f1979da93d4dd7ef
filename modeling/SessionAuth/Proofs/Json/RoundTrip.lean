import SessionAuth.Json.Members
import SessionAuth.Proofs.Json.Numeral
import SessionAuth.Proofs.Json.StringBody

/-!
# Documents read back

A value that is written is read as its syntax tree, whatever stands behind it, if all its numbers
are integers.
-/

namespace SessionAuth

open Encoding

namespace JsonValue

/-! # The syntax tree of a written value -/

mutual

/-- Tells that all numbers of a value are integers. -/
def Integral : JsonValue → Prop
  | .null | .bool _ | .string _ => True
  | .number n => ∃ k, n = .ofInt k
  | .array items => IntegralItems items
  | .object members => IntegralMembers members

def IntegralItems : List JsonValue → Prop
  | [] => True
  | v :: vs => Integral v ∧ IntegralItems vs

def IntegralMembers : List (String × JsonValue) → Prop
  | [] => True
  | (_, v) :: ms => Integral v ∧ IntegralMembers ms

end

mutual

def node : JsonValue → Json.Node
  | .null => .null
  | .bool b => .bool b
  | .number n => .number n
  | .string s => .string (Utf8.encode (Json.StringBody.encode s))
  | .array items => .array (nodes items)
  | .object members => .object (memberNodes members)

def nodes : List JsonValue → List Json.Node
  | [] => []
  | v :: vs => node v :: nodes vs

def memberNodes : List (String × JsonValue) → List (List UInt8 × Json.Node)
  | [] => []
  | (key, v) :: ms => (Utf8.encode (Json.StringBody.encode key), node v) :: memberNodes ms

end

theorem encode_quoted (s : String) :
    Utf8.encode (quoted s) = 0x22 :: (Utf8.encode (Json.StringBody.encode s) ++ [0x22]) := by
  unfold quoted
  rw [Utf8.encode_cons, Utf8.encode_append]
  rfl

variable (key : String) (v w : JsonValue)

theorem encode_write_array (items : List JsonValue) :
    Utf8.encode (write (.array items)) = 0x5B :: (Utf8.encode (writeItems items) ++ [0x5D]) := by
  rw [write, Utf8.encode_cons, Utf8.encode_append]
  rfl

theorem encode_write_object (members : List (String × JsonValue)) :
    Utf8.encode (write (.object members)) =
      0x7B :: (Utf8.encode (writeMembers members) ++ [0x7D]) := by
  rw [write, Utf8.encode_cons, Utf8.encode_append]
  rfl

theorem encode_writeItems_cons_cons (vs : List JsonValue) :
    Utf8.encode (writeItems (v :: w :: vs)) =
      Utf8.encode v.write ++ 0x2C :: Utf8.encode (writeItems (w :: vs)) := by
  rw [writeItems, Utf8.encode_append, Utf8.encode_cons]
  · rfl
  · simp

theorem encode_writeMembers_singleton :
    Utf8.encode (writeMembers [(key, v)]) =
      Utf8.encode (quoted key) ++ 0x3A :: Utf8.encode v.write := by
  rw [writeMembers, Utf8.encode_append, Utf8.encode_cons]
  rfl

theorem encode_writeMembers_cons_cons (m : String × JsonValue) (ms : List (String × JsonValue)) :
    Utf8.encode (writeMembers ((key, v) :: m :: ms)) =
      Utf8.encode (quoted key) ++
        0x3A :: (Utf8.encode v.write ++ 0x2C :: Utf8.encode (writeMembers (m :: ms))) := by
  rw [writeMembers, Utf8.encode_append, Utf8.encode_cons, Utf8.encode_append, Utf8.encode_cons]
  · rfl
  · simp

end JsonValue

namespace Json
namespace Reader

open JsonValue

/-! # First octets -/

/-- An octet with which a value begins. -/
structure Opens (b : UInt8) : Prop where
  skipSpace : ∀ bs, Reader.skipSpace (b :: bs) = b :: bs
  ne_close : b ≠ 0x5D

theorem opens_of_isDigit {b : UInt8} (h : isDigit b = true) : Opens b := by
  have hb := isDigit_iff.mp h
  have hne : ∀ c : UInt8, c.toNat < 48 ∨ 57 < c.toNat → b ≠ c := by
    rintro c hc rfl
    omega
  refine ⟨fun bs => ?_, hne 0x5D (by decide)⟩
  unfold Reader.skipSpace
  rw [List.dropWhile_cons_of_neg]
  simp [hne 0x20 (by decide), hne 0x09 (by decide), hne 0x0A (by decide), hne 0x0D (by decide)]

theorem opens_write (v : JsonValue) (hv : v.Integral) :
    ∃ b bs, Utf8.encode v.write = b :: bs ∧ Opens b := by
  cases v with
  | null => exact ⟨0x6E, _, rfl, fun _ => rfl, by decide⟩
  | bool b =>
      cases b with
      | true => exact ⟨0x74, _, rfl, fun _ => rfl, by decide⟩
      | false => exact ⟨0x66, _, rfl, fun _ => rfl, by decide⟩
  | number n =>
      rcases hv with ⟨k, rfl⟩
      rcases encode_writeNumeral_cons k with ⟨b, bs, hwritten, hdigit | rfl⟩
      · exact ⟨b, bs, hwritten, opens_of_isDigit hdigit⟩
      · exact ⟨0x2D, bs, hwritten, fun _ => rfl, by decide⟩
  | string s => exact ⟨0x22, _, encode_quoted s, fun _ => rfl, by decide⟩
  | array items => exact ⟨0x5B, _, rfl, fun _ => rfl, by decide⟩
  | object members => exact ⟨0x7B, _, rfl, fun _ => rfl, by decide⟩

theorem opens_writeItems (v : JsonValue) (hv : v.Integral) (vs : List JsonValue) :
    ∃ b bs, Utf8.encode (writeItems (v :: vs)) = b :: bs ∧ Opens b := by
  rcases opens_write v hv with ⟨b, bs, hwritten, hopens⟩
  cases vs with
  | nil => exact ⟨b, bs, hwritten, hopens⟩
  | cons w vs =>
      rw [encode_writeItems_cons_cons, hwritten]
      exact ⟨b, _, rfl, hopens⟩

theorem encode_writeMembers_cons (key : String) (v : JsonValue) (ms : List (String × JsonValue)) :
    ∃ bs, Utf8.encode (writeMembers ((key, v) :: ms)) = 0x22 :: bs := by
  cases ms with
  | nil =>
      rw [encode_writeMembers_singleton, encode_quoted]
      exact ⟨_, rfl⟩
  | cons m ms =>
      rw [encode_writeMembers_cons_cons, encode_quoted]
      exact ⟨_, rfl⟩

/-! # Steps of the reader -/

theorem value?_string (fuel : Nat) (s : String) (rest : List UInt8) :
    value? (fuel + 1) (Utf8.encode (quoted s) ++ rest) =
      some (.string (Utf8.encode (StringBody.encode s)), rest) := by
  rw [encode_quoted, List.cons_append, List.append_assoc, List.cons_append, List.nil_append]
  show (StringBody.split? _).map _ = _
  rw [StringBody.split?_encode]
  rfl

theorem value?_numeral (fuel : Nat) (n : Int) {rest : List UInt8} (h : Ends rest) :
    value? (fuel + 1) (Utf8.encode (writeNumeral (.ofInt n)) ++ rest) =
      some (.number (.ofInt n), rest) := by
  have hread := numeral?_write n h
  rcases encode_writeNumeral_cons n with ⟨b, bs, hwritten, hdigit | rfl⟩
  · rw [hwritten, List.cons_append] at hread ⊢
    rw [value?, (opens_of_isDigit hdigit).skipSpace]
    split
    case h_7 => rw [hread, Option.map_some]
    all_goals
      rename_i heq
      rw [(List.cons.inj heq).left] at hdigit
      cases hdigit
  · rw [hwritten, List.cons_append] at hread ⊢
    show (numeral? _).map _ = _
    rw [hread, Option.map_some]

theorem value?_array {bs : List UInt8} (hbs : ∃ b tail, bs = b :: tail ∧ Opens b) (fuel : Nat)
    (rest : List UInt8) :
    value? (fuel + 1) (0x5B :: (bs ++ rest)) =
      (items? fuel (bs ++ rest)).map (fun p => (.array p.1, p.2)) := by
  rcases hbs with ⟨b, tail, rfl, hb⟩
  have hopen : skipSpace (0x5B :: (b :: tail ++ rest)) = 0x5B :: (b :: tail ++ rest) := rfl
  rw [value?, hopen]
  simp only [List.cons_append, hb.skipSpace]
  split
  case h_1 heq => exact absurd (List.cons.inj heq).left hb.ne_close
  case h_2 => rfl

theorem items?_last {fuel : Nat} {bs rest : List UInt8} {n : Node}
    (h : value? fuel bs = some (n, 0x5D :: rest)) :
    items? (fuel + 1) bs = some ([n], rest) := by
  rw [items?, h]
  rfl

theorem items?_more {fuel : Nat} {bs rest : List UInt8} {n : Node}
    (h : value? fuel bs = some (n, 0x2C :: rest)) :
    items? (fuel + 1) bs = (items? fuel rest).map (fun p => (n :: p.1, p.2)) := by
  rw [items?, h]
  rfl

theorem value?_object {bs : List UInt8} (hbs : ∃ tail, bs = 0x22 :: tail) (fuel : Nat)
    (rest : List UInt8) :
    value? (fuel + 1) (0x7B :: (bs ++ rest)) =
      (members? fuel (bs ++ rest)).map (fun p => (.object p.1, p.2)) := by
  rcases hbs with ⟨tail, rfl⟩
  rfl

variable {fuel : Nat} {key : String} {bs rest : List UInt8} {n : Node}

theorem members?_member (fuel : Nat) (key : String) (bs : List UInt8) :
    members? (fuel + 1) (Utf8.encode (quoted key) ++ 0x3A :: bs) =
      (value? fuel bs).bind (fun p =>
        match skipSpace p.2 with
        | 0x2C :: rest => (members? fuel rest).map
            (fun q => ((Utf8.encode (StringBody.encode key), p.1) :: q.1, q.2))
        | 0x7D :: rest => some ([(Utf8.encode (StringBody.encode key), p.1)], rest)
        | _ => none) := by
  have hopen : ∀ x, skipSpace (0x22 :: x) = 0x22 :: x := fun _ => rfl
  rw [encode_quoted, List.cons_append, List.append_assoc, List.cons_append, List.nil_append,
    members?, hopen]
  refine Eq.trans (congrArg (Option.bind · _) (StringBody.split?_encode key (0x3A :: bs))) ?_
  rfl

theorem members?_last (h : value? fuel bs = some (n, 0x7D :: rest)) :
    members? (fuel + 1) (Utf8.encode (quoted key) ++ 0x3A :: bs) =
      some ([(Utf8.encode (StringBody.encode key), n)], rest) := by
  rw [members?_member, h]
  rfl

theorem members?_more (h : value? fuel bs = some (n, 0x2C :: rest)) :
    members? (fuel + 1) (Utf8.encode (quoted key) ++ 0x3A :: bs) =
      (members? fuel rest).map
        (fun p => ((Utf8.encode (StringBody.encode key), n) :: p.1, p.2)) := by
  rw [members?_member, h]
  rfl

/-! # Values -/

-- The induction is on the bound of the reader.  It has to be as great as what was written is long,
-- and greater for the items of an array, which take a bracket more.
mutual

/-- A written value is read as its syntax tree. -/
theorem value?_write (v : JsonValue) (hv : v.Integral) (fuel : Nat)
    (hfuel : (Utf8.encode v.write).length ≤ fuel) {rest : List UInt8} (hrest : Ends rest) :
    value? fuel (Utf8.encode v.write ++ rest) = some (v.node, rest) := by
  cases fuel with
  | zero =>
      rcases opens_write v hv with ⟨b, bs, hwritten, _⟩
      rw [hwritten] at hfuel
      exact absurd hfuel (Nat.not_succ_le_zero _)
  | succ fuel =>
      cases v with
      | null => rfl
      | bool b => cases b <;> rfl
      | number n =>
          rcases hv with ⟨k, rfl⟩
          exact value?_numeral fuel k hrest
      | string s => exact value?_string fuel s rest
      | array items =>
          cases items with
          | nil => rfl
          | cons v vs =>
              rw [encode_write_array, List.length_cons, List.length_append,
                List.length_singleton] at hfuel
              rw [encode_write_array, List.cons_append, List.append_assoc, List.singleton_append,
                value?_array (opens_writeItems v hv.left vs),
                items?_write v vs hv.left hv.right fuel (by omega) rest]
              rfl
      | object members =>
          cases members with
          | nil => rfl
          | cons m ms =>
              rcases m with ⟨key, v⟩
              rw [encode_write_object, List.length_cons, List.length_append,
                List.length_singleton] at hfuel
              rw [encode_write_object, List.cons_append, List.append_assoc, List.singleton_append,
                value?_object (encode_writeMembers_cons key v ms),
                members?_write key v ms hv.left hv.right fuel (by omega) rest]
              rfl
termination_by fuel

theorem items?_write (v : JsonValue) (vs : List JsonValue) (hv : v.Integral)
    (hvs : IntegralItems vs) (fuel : Nat)
    (hfuel : (Utf8.encode (writeItems (v :: vs))).length < fuel) (rest : List UInt8) :
    items? fuel (Utf8.encode (writeItems (v :: vs)) ++ 0x5D :: rest) =
      some (nodes (v :: vs), rest) := by
  cases fuel with
  | zero => exact absurd hfuel (Nat.not_lt_zero _)
  | succ fuel =>
      cases vs with
      | nil =>
          rw [writeItems] at hfuel ⊢
          exact items?_last (value?_write v hv fuel (by omega) (.array rest))
      | cons w vs =>
          rw [encode_writeItems_cons_cons, List.length_append, List.length_cons] at hfuel
          rw [encode_writeItems_cons_cons, List.append_assoc, List.cons_append,
            items?_more (value?_write v hv fuel (by omega) (.item _)),
            items?_write w vs hvs.left hvs.right fuel (by omega) rest]
          rfl
termination_by fuel

theorem members?_write (key : String) (v : JsonValue) (ms : List (String × JsonValue))
    (hv : v.Integral) (hms : IntegralMembers ms) (fuel : Nat)
    (hfuel : (Utf8.encode (writeMembers ((key, v) :: ms))).length < fuel) (rest : List UInt8) :
    members? fuel (Utf8.encode (writeMembers ((key, v) :: ms)) ++ 0x7D :: rest) =
      some (memberNodes ((key, v) :: ms), rest) := by
  cases fuel with
  | zero => exact absurd hfuel (Nat.not_lt_zero _)
  | succ fuel =>
      cases ms with
      | nil =>
          rw [encode_writeMembers_singleton, List.length_append, List.length_cons] at hfuel
          rw [encode_writeMembers_singleton, List.append_assoc, List.cons_append,
            members?_last (value?_write v hv fuel (by omega) (.object rest))]
          rfl
      | cons m ms =>
          rcases m with ⟨name, w⟩
          rw [encode_writeMembers_cons_cons, List.length_append, List.length_cons,
            List.length_append, List.length_cons] at hfuel
          rw [encode_writeMembers_cons_cons, List.append_assoc, List.cons_append,
            List.append_assoc, List.cons_append,
            members?_more (value?_write v hv fuel (by omega) (.item _)),
            members?_write name w ms hms.left hms.right fuel (by omega) rest]
          rfl
termination_by fuel

end

end Reader

/-! # Documents -/

namespace Node

theorem ofOctets?_write {v : JsonValue} (hv : v.Integral) :
    ofOctets? (Utf8.encode v.write) = some v.node := by
  have hvalue := Reader.value?_write v hv (2 * (Utf8.encode v.write).length + 2) (by omega)
    Reader.Ends.document
  rw [List.append_nil] at hvalue
  unfold ofOctets?
  rw [hvalue]
  rfl

end Node

namespace Members

theorem ofNode?_object (ms : List (String × JsonValue)) :
    ofNode? (JsonValue.object ms).node = some (ms.map (fun m => (m.1, m.2.node))) := by
  rw [JsonValue.node, ofNode?]
  induction ms with
  | nil => rfl
  | cons m ms ih =>
      rcases m with ⟨key, v⟩
      rw [JsonValue.memberNodes, List.mapM_cons, ih, StringBody.decode_encode]
      rfl

end Members
end Json
end SessionAuth
