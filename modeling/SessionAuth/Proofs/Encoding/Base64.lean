import SessionAuth.Encoding.Base64

/-!
# Base64 reads back what it wrote

The written form of a list of octets is read as that list, and is made of characters of the
alphabet only.
-/

namespace SessionAuth
namespace Encoding
namespace Base64

/-! # Characters -/

theorem forall_mem_encode {a : Alphabet} {P : Char → Prop} (h : ∀ n, n < 64 → P (a.char n))
    (bs : List UInt8) : ∀ c ∈ encode a bs, P c := by
  induction bs using encode.induct with
  | case1 => simp
  | case2 x =>
      have hx := x.toNat_lt
      simp only [encode, List.forall_mem_cons]
      exact ⟨h _ (by omega), h _ (by omega), by simp⟩
  | case3 x y =>
      have hx := x.toNat_lt
      have hy := y.toNat_lt
      simp only [encode, List.forall_mem_cons]
      exact ⟨h _ (by omega), h _ (by omega), h _ (by omega), by simp⟩
  | case4 x y z rest ih =>
      have hx := x.toNat_lt
      have hy := y.toNat_lt
      have hz := z.toNat_lt
      simp only [encode, List.forall_mem_cons]
      exact ⟨h _ (by omega), h _ (by omega), h _ (by omega), h _ (by omega), ih⟩

/-- Three octets are four characters, and the last ones take one character more than they are. -/
theorem length_encode (a : Alphabet) (bs : List UInt8) :
    (encode a bs).length = (4 * bs.length + 2) / 3 := by
  induction bs using encode.induct with
  | case1 => rfl
  | case2 x => simp [encode]
  | case3 x y => simp [encode]
  | case4 x y z rest ih =>
      simp only [encode, List.length_cons, ih]
      omega

theorem exists_value_of_decode {a : Alphabet} {cs : List Char} {bs : List UInt8}
    (h : decode a cs = some bs) : ∀ c ∈ cs, ∃ n, a.value? c = some n := by
  induction cs using decode.induct generalizing bs with
  | case1 => simp
  | case2 => cases h
  | case3 c d =>
      simp only [decode, Option.bind_eq_bind, Option.bind_eq_some_iff] at h
      rcases h with ⟨x, hx, y, hy, _⟩
      simp [hx, hy]
  | case4 c d e =>
      simp only [decode, Option.bind_eq_bind, Option.bind_eq_some_iff] at h
      rcases h with ⟨x, hx, y, hy, z, hz, _⟩
      simp [hx, hy, hz]
  | case5 c d e f rest ih =>
      simp only [decode, Option.bind_eq_bind, Option.bind_eq_some_iff] at h
      rcases h with ⟨x, hx, y, hy, z, hz, w, hw, bs', hrest, _⟩
      simp only [List.forall_mem_cons]
      exact ⟨⟨x, hx⟩, ⟨y, hy⟩, ⟨z, hz⟩, ⟨w, hw⟩, ih hrest⟩

/-! # Octets -/

theorem ofNat_eq_of_mod {n : Nat} {x : UInt8} (h : n % 256 = x.toNat) : UInt8.ofNat n = x := by
  apply UInt8.toNat_inj.mp
  rw [UInt8.toNat_ofNat']
  exact h

theorem sextets_eq (n : Nat) :
    n / 262144 * 262144 + n / 4096 % 64 * 4096 + n / 64 % 64 * 64 + n % 64 = n := by
  omega

theorem decode_encode (a : Alphabet) (bs : List UInt8) : decode a (encode a bs) = some bs := by
  induction bs using encode.induct with
  | case1 => rfl
  | case2 x =>
      have hx := x.toNat_lt
      have h1 := a.value?_char (x.toNat * 16 / 64) (by omega)
      have h2 := a.value?_char (x.toNat * 16 % 64) (by omega)
      have hn : x.toNat * 16 / 64 * 64 + x.toNat * 16 % 64 = x.toNat * 16 := by omega
      have hoctet : UInt8.ofNat (x.toNat * 16 / 16) = x := ofNat_eq_of_mod (by omega)
      simp only [encode, decode, h1, h2, Option.bind_eq_bind, Option.bind_some, hn, hoctet,
        Nat.mul_mod_left, if_true]
      rfl
  | case3 x y =>
      have hx := x.toNat_lt
      have hy := y.toNat_lt
      simp only [encode]
      generalize hn : (x.toNat * 256 + y.toNat) * 4 = n
      have h1 := a.value?_char (n / 4096) (by omega)
      have h2 := a.value?_char (n / 64 % 64) (by omega)
      have h3 := a.value?_char (n % 64) (by omega)
      have hsum : n / 4096 * 4096 + n / 64 % 64 * 64 + n % 64 = n := by omega
      have hunused : n % 4 = 0 := by omega
      have hoctet1 : UInt8.ofNat (n / 1024) = x := ofNat_eq_of_mod (by omega)
      have hoctet2 : UInt8.ofNat (n / 4) = y := ofNat_eq_of_mod (by omega)
      simp only [decode, h1, h2, h3, Option.bind_eq_bind, Option.bind_some, hsum, hunused,
        hoctet1, hoctet2, if_true]
      rfl
  | case4 x y z rest ih =>
      have hx := x.toNat_lt
      have hy := y.toNat_lt
      have hz := z.toNat_lt
      simp only [encode]
      generalize hn : x.toNat * 65536 + y.toNat * 256 + z.toNat = n
      have h1 := a.value?_char (n / 262144) (by omega)
      have h2 := a.value?_char (n / 4096 % 64) (by omega)
      have h3 := a.value?_char (n / 64 % 64) (by omega)
      have h4 := a.value?_char (n % 64) (by omega)
      have hoctet1 : UInt8.ofNat (n / 65536) = x := ofNat_eq_of_mod (by omega)
      have hoctet2 : UInt8.ofNat (n / 256) = y := ofNat_eq_of_mod (by omega)
      have hoctet3 : UInt8.ofNat n = z := ofNat_eq_of_mod (by omega)
      simp only [decode, h1, h2, h3, h4, Option.bind_eq_bind, Option.bind_some, sextets_eq, ih,
        hoctet1, hoctet2, hoctet3]
      rfl

end Base64
end Encoding
end SessionAuth
