import Mathlib.Data.List.Nodup
import SessionAuth.Access.Issuer

/-!
# Rings of keys

An issuer that has been assembled has a ring of keys with distinct names, an active key in it, and
positive lifetimes of whole seconds.
-/

namespace SessionAuth
namespace Access
namespace Issuer

open Time

/-! # Keys by name -/

theorem duplicate?_eq_none {seen : List String} {keys : List SigningKey} :
    duplicate? seen keys = none ↔
      (keys.map SigningKey.id).Nodup ∧ ∀ k ∈ keys, k.id ∉ seen := by
  induction keys generalizing seen with
  | nil => simp [duplicate?]
  | cons k ks ih =>
      unfold duplicate?
      by_cases hseen : k.id ∈ seen
      · simp [hseen]
      · rw [if_neg hseen, ih, List.forall_mem_cons]
        simp only [List.map_cons, List.nodup_cons, List.mem_map, List.mem_cons, not_or,
          not_exists, not_and]
        constructor
        · intro h
          rcases h with ⟨hnodup, hnew⟩
          exact ⟨⟨fun x hx => (hnew x hx).left, hnodup⟩, hseen, fun x hx => (hnew x hx).right⟩
        · intro h
          rcases h with ⟨⟨hne, hnodup⟩, _, hnew⟩
          exact ⟨hnodup, fun x hx => ⟨hne x hx, hnew x hx⟩⟩

theorem unique_of_mem {keys : List SigningKey} (hkeys : (keys.map SigningKey.id).Nodup)
    {key : SigningKey} (h : key ∈ keys) : ∀ k ∈ keys, k.id = key.id → k = key :=
  fun _ hk heq => List.inj_on_of_nodup_map hkeys hk h heq

theorem findKey?_eq_some {keys : List SigningKey} (hkeys : (keys.map SigningKey.id).Nodup)
    {id : String} {k : SigningKey} :
    findKey? keys id = some k ↔ k ∈ keys ∧ k.id = id := by
  unfold findKey?
  constructor
  · intro h
    exact ⟨List.mem_of_find?_eq_some h, by simpa using List.find?_some h⟩
  · intro h
    rcases h with ⟨hmem, rfl⟩
    have hfound : (keys.find? (fun x => x.id == k.id)).isSome := by
      rw [List.find?_isSome]
      exact ⟨k, hmem, beq_self_eq_true _⟩
    rcases Option.isSome_iff_exists.mp hfound with ⟨x, hx⟩
    have hid : x.id = k.id := by simpa using List.find?_some hx
    rw [hx, unique_of_mem hkeys hmem x (List.mem_of_find?_eq_some hx) hid]

theorem findKey?_eq_none {keys : List SigningKey} {id : String} :
    findKey? keys id = none ↔ ∀ k ∈ keys, k.id ≠ id := by
  unfold findKey?
  simp

/-! # Assembly -/

/-- What holds of an issuer that has been assembled from settings. -/
structure Assembled (t : TokenSettings) (i : Issuer) : Prop where
  keys : i.keys = t.keys
  name : i.name = t.issuer
  distinct : (i.keys.map SigningKey.id).Nodup
  active : ∃ k, findKey? i.keys i.activeKeyId = some k ∧ k.retired = false
  lifetime : i.accessLifetime.nanos = 60 * t.accessMinutes * nanosPerSecond
  positive : 0 < t.accessMinutes

theorem checkRing_eq_ok {t : TokenSettings} (h : checkRing t = .ok ()) :
    (t.keys.map SigningKey.id).Nodup ∧
      ∃ k, findKey? t.keys t.activeKeyId = some k ∧ k.retired = false := by
  unfold checkRing at h
  cases hduplicate : duplicate? [] t.keys with
  | some id =>
      rw [hduplicate] at h
      cases h
  | none =>
      rw [hduplicate] at h
      refine ⟨(duplicate?_eq_none.mp hduplicate).left, ?_⟩
      cases hactive : findKey? t.keys t.activeKeyId with
      | none =>
          rw [hactive] at h
          cases h
      | some k =>
          rw [hactive] at h
          refine ⟨k, rfl, ?_⟩
          cases hretired : k.retired with
          | false => rfl
          | true =>
              simp only [hretired] at h
              cases h

theorem lifetime_eq_ok {now : Instant} {setting : LifetimeSetting} {d : Option Span} {s : Span}
    (h : Issuer.lifetime now setting d = .ok s) :
    d = some s ∧ 0 < s.nanos ∧ (now.add? s).isSome := by
  unfold Issuer.lifetime at h
  cases d with
  | none => cases h
  | some d =>
      by_cases hfits : 0 < d.nanos ∧ (now.add? d).isSome
      · simp only [if_pos hfits] at h
        cases h
        exact ⟨rfl, hfits⟩
      · simp only [if_neg hfits] at h
        cases h

theorem assemble_eq_ok {now : Instant} {t : TokenSettings} {i : Issuer}
    (h : assemble now t = .ok i) :
    checkRing t = .ok () ∧
      lifetime now .accessMinutes (Span.ofMinutes? t.accessMinutes) = .ok i.accessLifetime ∧
      lifetime now .refreshDays (Span.ofDays? t.refreshDays) = .ok i.refreshLifetime ∧
      i = ⟨t.keys, t.activeKeyId, t.issuer, i.accessLifetime, i.refreshLifetime⟩ := by
  unfold assemble at h
  cases hring : checkRing t with
  | error e =>
      rw [hring] at h
      cases h
  | ok _ =>
      rw [hring] at h
      cases haccess : lifetime now .accessMinutes (Span.ofMinutes? t.accessMinutes) with
      | error e =>
          rw [haccess] at h
          cases h
      | ok access =>
          rw [haccess] at h
          cases hrefresh : lifetime now .refreshDays (Span.ofDays? t.refreshDays) with
          | error e =>
              rw [hrefresh] at h
              cases h
          | ok refresh =>
              rw [hrefresh] at h
              cases h
              exact ⟨rfl, rfl, rfl, rfl⟩

theorem assembled_of_assemble {now : Instant} {t : TokenSettings} {i : Issuer}
    (h : assemble now t = .ok i) : Assembled t i := by
  rcases assemble_eq_ok h with ⟨hring, haccess, _, hi⟩
  rcases checkRing_eq_ok hring with ⟨hnodup, hactive⟩
  rcases lifetime_eq_ok haccess with ⟨hspan, hpositive, _⟩
  have hnanos : i.accessLifetime.nanos = 60 * t.accessMinutes * nanosPerSecond :=
    Span.ofNanos?_eq_some.mp hspan
  have hminutes : 0 < t.accessMinutes := by
    rw [hnanos] at hpositive
    unfold nanosPerSecond at hpositive
    omega
  rw [hi]
  exact ⟨rfl, rfl, hnodup, hactive, hnanos, hminutes⟩

end Issuer
end Access
end SessionAuth
