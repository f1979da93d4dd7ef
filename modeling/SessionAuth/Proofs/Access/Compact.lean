import Mathlib.Data.List.TakeWhile
import SessionAuth.Access.Compact
import SessionAuth.Proofs.Encoding.Base64
import SessionAuth.Proofs.Encoding.Utf8
import SessionAuth.Text.Split

/-!
# The parts of tokens

A token is cut at its last two dots.  As neither base64 nor a part behind a dot has dots, the
parts of a token are those that its dots separate.
-/

namespace SessionAuth
namespace Access
namespace Compact

open Encoding

theorem octets_eq (cs : List Char) : octets cs = Utf8.encode cs := by
  unfold octets
  rw [Utf8.toList_toUTF8, String.toList_ofList]

/-! # Cutting at dots -/

theorem splitLast?_eq_some {cs before after : List Char} :
    splitLast? cs = some (before, after) ↔ cs = before ++ '.' :: after ∧ '.' ∉ after := by
  have hne : ∀ c : Char, (c != '.') = true ↔ c ≠ '.' := fun c => bne_iff_ne
  constructor
  · intro h
    simp only [splitLast?] at h
    have hparts := List.takeWhile_append_dropWhile (p := (· != '.')) (l := cs.reverse)
    have htake : ∀ c ∈ cs.reverse.takeWhile (· != '.'), c ≠ '.' :=
      fun c hc => (hne c).mp (List.mem_takeWhile_imp (p := (· != '.')) hc)
    cases hdrop : cs.reverse.dropWhile (· != '.') with
    | nil =>
        rw [hdrop] at h
        cases h
    | cons d rest =>
        rw [hdrop] at h hparts
        cases h
        have hdot : d = '.' := by
          have hhead := List.head_dropWhile_not (· != '.') (l := cs.reverse) (by simp [hdrop])
          simpa [hdrop] using hhead
        subst hdot
        constructor
        · have hreverse := congrArg List.reverse hparts
          rw [List.reverse_reverse, List.reverse_append, List.reverse_cons, List.append_assoc]
            at hreverse
          exact hreverse.symm
        · intro hmem
          exact htake '.' (List.mem_reverse.mp hmem) rfl
  · intro h
    rcases h with ⟨rfl, hnot⟩
    have hall : ∀ c ∈ after.reverse, (c != '.') = true := by
      intro c hc
      rw [hne]
      intro heq
      exact hnot (heq ▸ List.mem_reverse.mp hc)
    have hreverse : (before ++ '.' :: after).reverse = after.reverse ++ '.' :: before.reverse := by
      simp
    unfold splitLast?
    simp only [hreverse, List.dropWhile_append_of_pos hall, List.takeWhile_append_of_pos hall]
    simp

theorem split?_eq_some {cs header payload signature : List Char} :
    split? cs = some (header, payload, signature) ↔
      cs = signedPart (signedPart header payload) signature ∧ '.' ∉ payload ∧
        '.' ∉ signature := by
  unfold split? signedPart
  simp only [Option.bind_eq_bind, Option.bind_eq_some_iff, Prod.exists, splitLast?_eq_some,
    Option.pure_def, Option.some.injEq, Prod.mk.injEq]
  constructor
  · intro h
    rcases h with ⟨_, _, ⟨rfl, hsignature⟩, _, _, ⟨rfl, hpayload⟩, rfl, rfl, rfl⟩
    exact ⟨rfl, hpayload, hsignature⟩
  · intro h
    rcases h with ⟨rfl, hpayload, hsignature⟩
    exact ⟨_, _, ⟨rfl, hsignature⟩, _, _, ⟨rfl, hpayload⟩, rfl, rfl, rfl⟩

/-! # No dots in base64 -/

theorem dot_not_mem_of_decode {a : Base64.Alphabet} {cs : List Char} {bs : List UInt8}
    (h : Base64.decode a cs = some bs) : '.' ∉ cs := by
  intro hmem
  rcases Base64.exists_value_of_decode h '.' hmem with ⟨n, hn⟩
  have hnone : a.value? '.' = none := by cases a <;> rfl
  rw [hnone] at hn
  cases hn

theorem dot_not_mem_encode (a : Base64.Alphabet) (bs : List UInt8) : '.' ∉ Base64.encode a bs :=
  dot_not_mem_of_decode (Base64.decode_encode a bs)

theorem splitAt_of_split? {cs header payload signature : List Char} {bs : List UInt8}
    (h : split? cs = some (header, payload, signature))
    (hheader : Base64.decode .urlSafe header = some bs) :
    Text.splitAt '.' cs = [header, payload, signature] := by
  rcases split?_eq_some.mp h with ⟨rfl, hpayload, hsignature⟩
  unfold signedPart
  rw [List.append_assoc, List.cons_append, Text.splitAt_append (dot_not_mem_of_decode hheader),
    Text.splitAt_append hpayload, Text.splitAt_of_not_mem hsignature]

end Compact
end Access
end SessionAuth
