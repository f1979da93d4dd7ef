import SessionAuth.Proofs.Service.Invariant
import SessionAuth.Proofs.Service.Presence

/-!
# Fresh hashes

A record is stored under the hash of a secret that its task has drawn.  As long as the secrets that
are drawn have distinct hashes, the hash of a record that is still to be stored is not taken.
-/

namespace SessionAuth

open Time Refresh

namespace Service

variable {f : Session.Facade} {s t : Service}

/-! # Secrets along a run -/

/-- The secrets drawn so far have distinct hashes. -/
def DistinctSecrets (s : Service) : Prop :=
  ∀ m n, m < s.world.drawn.secrets → n < s.world.drawn.secrets →
    (s.world.supply.secrets m).hash = (s.world.supply.secrets n).hash → m = n

theorem DistinctSecrets.of_step (h : Step f s t) (ht : t.DistinctSecrets) :
    s.DistinctSecrets := by
  intro m n hm hn heq
  have hle := h.precedes.secrets
  apply ht m n (Nat.lt_of_lt_of_le hm hle) (Nat.lt_of_lt_of_le hn hle)
  rw [h.supply_eq]
  exact heq

theorem Meets.freshSecret_eq {w w' : World} {secret : Secret}
    (h : Meets w .freshSecret secret w') :
    secret = w.supply.secrets w.drawn.secrets ∧ w'.drawn.secrets = w.drawn.secrets + 1 := by
  cases h
  exact ⟨rfl, rfl⟩

/-- Every secret that was drawn comes from the supply, and no two tasks have drawn secrets with the
same hash. -/
structure Drawing (s : Service) : Prop where
  drawn : ∀ i secret, ⟨i, ⟨.freshSecret, secret⟩⟩ ∈ s.history →
    ∃ n, n < s.world.drawn.secrets ∧ s.world.supply.secrets n = secret
  owned : ∀ i j secret other, ⟨i, ⟨.freshSecret, secret⟩⟩ ∈ s.history →
    ⟨j, ⟨.freshSecret, other⟩⟩ ∈ s.history → secret.hash = other.hash → i = j

namespace Drawing

section Turn

variable (hs : s.Drawing)
include hs

theorem drawn_of_takes {e : Entry} (h : Takes s e t) {i : Nat} {secret : Secret}
    (hdrawn : ⟨i, ⟨.freshSecret, secret⟩⟩ ∈ t.history) :
    ∃ n, n < t.world.drawn.secrets ∧ t.world.supply.secrets n = secret := by
  rw [h.meets.supply_eq]
  rcases (Invariant.mem_history_of_takes h).mp hdrawn with hold | rfl
  · rcases hs.drawn i secret hold with ⟨n, hn, heq⟩
    exact ⟨n, Nat.lt_of_lt_of_le hn h.meets.precedes.secrets, heq⟩
  · rcases h.meets.freshSecret_eq with ⟨hsecret, hnext⟩
    exact ⟨s.world.drawn.secrets, by rw [hnext]; exact Nat.lt_succ_self _, hsecret.symm⟩

theorem hash_ne (hd : t.DistinctSecrets) {i j : Nat} {secret other : Secret}
    (h : Takes s ⟨i, ⟨.freshSecret, secret⟩⟩ t)
    (hold : ⟨j, ⟨.freshSecret, other⟩⟩ ∈ s.history) : secret.hash ≠ other.hash := by
  intro hsame
  rcases h.meets.freshSecret_eq with ⟨rfl, hnext⟩
  rcases hs.drawn j other hold with ⟨n, hn, rfl⟩
  have heq : s.world.drawn.secrets = n := by
    apply hd
    · omega
    · omega
    · rw [h.meets.supply_eq]
      exact hsame
  omega

theorem of_takes (hd : t.DistinctSecrets) {e : Entry} (h : Takes s e t) : t.Drawing where
  drawn := fun _ _ => hs.drawn_of_takes h
  owned := by
    intro i j secret other hi hj hsame
    rcases (Invariant.mem_history_of_takes h).mp hi with hi | rfl
    · rcases (Invariant.mem_history_of_takes h).mp hj with hj | rfl
      · exact hs.owned i j secret other hi hj hsame
      · exact absurd hsame.symm (hs.hash_ne hd h hi)
    · rcases (Invariant.mem_history_of_takes h).mp hj with hj | hj
      · exact absurd hsame (hs.hash_ne hd h hj)
      · injection hj with hij
        exact hij.symm

end Turn

end Drawing

theorem Reachable.drawing (hs : Reachable f s) : s.DistinctSecrets → s.Drawing := by
  rcases hs with ⟨w, _, hrun⟩
  refine hrun.induction (P := fun s => s.DistinctSecrets → s.Drawing) (fun _ => ⟨?_, ?_⟩) ?_
  · intro i secret hdrawn
    cases hdrawn
  · intro i j secret other hdrawn
    cases hdrawn
  · intro u v _ ih hstep _ hd
    have hu := ih (hd.of_step hstep)
    cases hstep with
    | idle => exact hu
    | start q => exact ⟨hu.drawn, hu.owned⟩
    | turn h => exact hu.of_takes hd h
    | operate o => exact ⟨hu.drawn, hu.owned⟩

/-! # Records that are about to be stored -/

theorem Issued.secret {i : Access.Issuer} {past : List Turn} {subject : SubjectId}
    {family : FamilyId} {generation : Int} {secret : Secret} {r : Record}
    (h : Issued i past subject family generation secret r) :
    ⟨.freshSecret, secret⟩ ∈ past ∧ r.tokenHash = secret.hash := by
  cases h with
  | mk hsecret _ _ => exact ⟨hsecret, rfl⟩

section Table

variable (hs : Reachable f s) (hd : s.DistinctIds)
include hs hd

theorem Reachable.exists_secret {id : RecordId} {r : Record}
    (hr : s.tokens.records.get? id = some r) :
    ∃ i turn x secret, turn ∈ s.past i ∧ turn.Stores x ∧
      ⟨i, ⟨.freshSecret, secret⟩⟩ ∈ s.history ∧ r.tokenHash = secret.hash := by
  have hinv := hs.invariant hd
  rcases hinv.stored id r hr with ⟨⟨i, turn⟩, he, _, x, hstores, rfl⟩
  rcases hstores.evolves (hinv.attested _ he) with ⟨r', hr', hevolves⟩
  rw [hr] at hr'
  cases hr'
  have hturn : turn ∈ s.past i := mem_past.mpr he
  rcases hstores.exists_answered with ⟨c, a, rfl⟩
  rcases hs.moment_of_mem hturn with ⟨u, v, hmoment⟩
  rcases hmoment.before.asks hmoment.takes.awaits with ⟨q, _, hasks⟩
  rcases (hasks.issued_of_stores hstores).left with ⟨_, _, _, secret, hissued, _⟩
  rcases hissued.secret with ⟨hdrawn, hhash⟩
  exact ⟨i, _, x, secret, hturn, hstores, hmoment.reaches.mem_history (mem_past.mp hdrawn),
    hevolves.tokenHash.trans hhash⟩

theorem Reachable.byHash_eq_none (hd' : s.DistinctSecrets) {i : Nat} {c : Store.Call}
    {a : c.Reply} {r : Record} (h : s.Awaits i c) (hstores : (Turn.answered c a).Stores r) :
    s.tokens.byHash.get? r.tokenHash = none := by
  cases hindex : s.tokens.byHash.get? r.tokenHash with
  | none => rfl
  | some id =>
      rcases hs.asks h with ⟨q, _, hasks⟩
      rcases hasks.issued_of_stores hstores with ⟨⟨_, _, _, secret, hissued, _⟩, hnone⟩
      rcases hissued.secret with ⟨hdrawn, hhash⟩
      rcases ((hs.invariant hd).coherent.indexed _ _).mp hindex with ⟨x, hx, hsame⟩
      rcases hs.exists_secret hd hx with ⟨j, turn, y, other, hturn, hstored, hother, hhash'⟩
      have htask : j = i := by
        apply (hs.drawing hd').owned _ _ _ _ hother (mem_past.mp hdrawn)
        rw [← hhash, ← hhash', hsame]
      rw [htask] at hturn
      exact absurd hstored (hnone turn (mem_calls_of_stores hturn hstored) y)

end Table

end Service

end SessionAuth
