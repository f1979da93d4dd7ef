import Mathlib.Data.List.Induction
import SessionAuth.Proofs.Permission.Decision
import SessionAuth.Proofs.Service.Basic
import SessionAuth.Proofs.Store.Shares

/-!
# The last write wins

What a subject may do with a resource is decided by the last operation that gave it a level there
or took one away.  The book of shares is compared with the operations that have made it, however
many there were and whatever pairs they were about.
-/

namespace SessionAuth

open Time

namespace Service.Operation

/-! # What an operation is about -/

def creates? : Operation → Option ResourceId
  | createResource id _ _ => some id
  | _ => none

def opens? : Operation → Option ResourceId
  | createResource id _ _ => some id
  | putGrant _ _ resource _ _ => some resource
  | _ => none

def deletes? : Operation → Option ResourceId
  | deleteResource id => some id
  | _ => none

/-- What an operation gives to a subject on a resource: a level, and in whose name. -/
def gift? (subject : SubjectId) (resource : ResourceId) : Operation → Option (Level × SubjectId)
  | createResource id _ owner =>
      if (subject, resource) = (owner, id) then some (.owner, owner) else none
  | putGrant _ s r level grantedBy =>
      if (subject, resource) = (s, r) then some (level, grantedBy) else none
  | _ => none

def withdraws (subject : SubjectId) (resource : ResourceId) : Operation → Bool
  | revokeGrant s r _ => decide ((subject, resource) = (s, r))
  | _ => false

/-- A withdrawal that finds a grant in force. -/
inductive Succeeds (subject : SubjectId) (resource : ResourceId) (now : Instant) (s : Store) :
    Operation → Prop where
  | revoked {revokedBy : SubjectId}
      (hfound : (s.shares.revoke now subject resource revokedBy).1 = true) :
      Succeeds subject resource now s (.revokeGrant subject resource revokedBy)

inductive Elsewhere (subject : SubjectId) (resource : ResourceId) : Operation → Prop where
  | put {id : GrantId} {s : SubjectId} {r : ResourceId} {level : Level} {grantedBy : SubjectId}
      (hother : (subject, resource) ≠ (s, r)) :
      Elsewhere subject resource (.putGrant id s r level grantedBy)
  | revoke {s : SubjectId} {r : ResourceId} {revokedBy : SubjectId}
      (hother : (subject, resource) ≠ (s, r)) :
      Elsewhere subject resource (.revokeGrant s r revokedBy)

/-! # One operation -/

section Apply

variable {o : Operation} {now : Instant} {s : Store} {subject : SubjectId} {resource : ResourceId}

theorem withdraws_eq_true : o.withdraws subject resource = true ↔
    ∃ revokedBy, o = .revokeGrant subject resource revokedBy := by
  constructor
  · intro h
    cases o with
    | revokeGrant x r revokedBy =>
        cases of_decide_eq_true h
        exact ⟨revokedBy, rfl⟩
    | _ => cases h
  · rintro ⟨revokedBy, rfl⟩
    exact decide_eq_true rfl

theorem succeeds_iff : o.Succeeds subject resource now s ↔
    o.withdraws subject resource = true ∧ (s.shares.activeGrant subject resource).isSome := by
  constructor
  · rintro ⟨hfound⟩
    exact ⟨decide_eq_true rfl, hfound⟩
  · rintro ⟨hwithdraws, hactive⟩
    rcases withdraws_eq_true.mp hwithdraws with ⟨revokedBy, rfl⟩
    exact Succeeds.revoked hactive

theorem gift?_of_succeeds (h : o.Succeeds subject resource now s) :
    o.gift? subject resource = none := by
  cases h
  rfl

theorem opens?_of_gift? {gift : Level × SubjectId} (h : o.gift? subject resource = some gift) :
    o.opens? = some resource := by
  cases o with
  | createResource id grant owner =>
      rcases (Option.ite_none_right_eq_some.mp h) with ⟨hpair, _⟩
      cases hpair
      rfl
  | putGrant id x r level grantedBy =>
      rcases (Option.ite_none_right_eq_some.mp h) with ⟨hpair, _⟩
      cases hpair
      rfl
  | _ => cases h

theorem turns_apply (hnew : o.creates? = some resource → s.shares.history subject resource = []) :
    History.Turns (o.gift? subject resource) (o.withdraws subject resource)
      (s.shares.history subject resource) ((o.apply now s).shares.history subject resource) := by
  have hkept : ∀ {o : Operation}, o.gift? subject resource = none →
      o.withdraws subject resource = false →
      (o.apply now s).shares.history subject resource = s.shares.history subject resource →
      History.Turns (o.gift? subject resource) (o.withdraws subject resource)
        (s.shares.history subject resource) ((o.apply now s).shares.history subject resource) := by
    intro o hgift hwithdraws hsame
    rw [hsame]
    exact History.Turns.kept hgift (by simp [hwithdraws])
  cases o with
  | enroll x => exact hkept rfl rfl rfl
  | setActive id active => exact hkept rfl rfl rfl
  | softDelete id => exact hkept rfl rfl rfl
  | deleteResource id => exact hkept rfl rfl rfl
  | createResource id grant owner =>
      have hafter : ((createResource id grant owner).apply now s).shares.history subject resource =
          if (subject, resource) = (owner, id) then
            [⟨grant, owner, id, .owner, owner, now, none, none⟩]
          else s.shares.history subject resource := Shares.history_create now id grant owner
      by_cases hpair : (subject, resource) = (owner, id)
      · cases hpair
        rw [hafter, if_pos rfl, hnew rfl]
        exact History.Turns.opened
          (g := ⟨grant, subject, resource, .owner, subject, now, none, none⟩) (if_pos rfl) rfl rfl
      · exact hkept (if_neg hpair) rfl (by rw [hafter, if_neg hpair])
  | putGrant id x r level grantedBy =>
      have hafter := @Shares.history_put s.shares subject resource now id x r level grantedBy
      by_cases hpair : (subject, resource) = (x, r)
      · cases hpair
        rw [if_pos rfl] at hafter
        change History.Turns _ _ _
          ((s.shares.put now id subject resource level grantedBy).2.history subject resource)
        rw [hafter]
        cases hactive : (s.shares.history subject resource).active? with
        | some g => exact History.Turns.changed (if_pos rfl) hactive
        | none =>
            exact History.Turns.opened
              (g := ⟨id, subject, resource, level, grantedBy, now, none, none⟩) (if_pos rfl) hactive
              rfl
      · exact hkept (if_neg hpair) rfl (hafter.trans (if_neg hpair))
  | revokeGrant x r revokedBy =>
      have hafter := @Shares.history_revoke s.shares subject resource now x r revokedBy
      by_cases hpair : (subject, resource) = (x, r)
      · cases hpair
        rw [if_pos rfl] at hafter
        change History.Turns _ _ _
          ((s.shares.revoke now subject resource revokedBy).2.history subject resource)
        rw [hafter]
        cases hactive : (s.shares.history subject resource).active? with
        | some g => exact History.Turns.closed rfl (decide_eq_true rfl) hactive
        | none =>
            rw [History.modifyActive_of_none hactive]
            exact History.Turns.kept rfl (fun _ => hactive)
      · exact hkept rfl (decide_eq_false hpair) (hafter.trans (if_neg hpair))

theorem history_apply_of_elsewhere (h : o.Elsewhere subject resource) :
    (o.apply now s).shares.history subject resource = s.shares.history subject resource := by
  cases h with
  | put hother => exact (Shares.history_put now _ _ _ _ _).trans (if_neg hother)
  | revoke hother => exact (Shares.history_revoke now _ _ _).trans (if_neg hother)

theorem findResource_apply_of_elsewhere (h : o.Elsewhere subject resource) (id : ResourceId) :
    (o.apply now s).shares.findResource id = s.shares.findResource id := by
  cases h with
  | put => exact Shares.findResource_put now _ _ _ _ _ id
  | revoke => rfl

theorem sound_apply (h : s.shares.Sound) : (o.apply now s).shares.Sound := by
  cases o with
  | enroll => exact h
  | setActive => exact h
  | softDelete => exact h
  | createResource id grant owner => exact h.create now id grant owner
  | putGrant id x r level grantedBy => exact h.put now id x r level grantedBy
  | revokeGrant x r revokedBy => exact h.revoke now x r revokedBy
  | deleteResource id => exact h.delete now id

theorem isSome_live_apply :
    ((o.apply now s).shares.findResource resource).any (fun r => !r.isDeleted) = true ↔
      o.creates? = some resource ∨ (o.deletes? ≠ some resource ∧
        (s.shares.findResource resource).any (fun r => !r.isDeleted) = true) := by
  cases o with
  | enroll => simp [creates?, deletes?, apply]
  | setActive => simp [creates?, deletes?, apply]
  | softDelete => simp [creates?, deletes?, apply]
  | createResource id grant owner =>
      have hafter : ((createResource id grant owner).apply now s).shares.findResource resource =
          if resource = id then some ⟨id, owner, now, none⟩
          else s.shares.findResource resource :=
        Shares.findResource_create now id grant owner resource
      rw [hafter]
      by_cases hid : resource = id
      · simp [hid, creates?, Resource.isDeleted]
      · simp [hid, creates?, deletes?, Ne.symm hid]
  | putGrant id x r level grantedBy =>
      have hafter : ((putGrant id x r level grantedBy).apply now s).shares.findResource resource =
          s.shares.findResource resource :=
        Shares.findResource_put now id x r level grantedBy resource
      simp [hafter, creates?, deletes?]
  | revokeGrant x r revokedBy =>
      have hafter : ((revokeGrant x r revokedBy).apply now s).shares.findResource resource =
          s.shares.findResource resource := rfl
      simp [hafter, creates?, deletes?]
  | deleteResource id =>
      have hafter : ((deleteResource id).apply now s).shares.findResource resource =
          if resource = id then (s.shares.findResource resource).map
            (fun r => { r with deletedAt := some (r.deletedAt.getD now) })
          else s.shares.findResource resource := Shares.findResource_delete now id resource
      rw [hafter]
      by_cases hid : resource = id
      · simp [hid, creates?, deletes?, Option.any_map, Resource.isDeleted]
      · simp [hid, creates?, deletes?, Ne.symm hid]

end Apply

end Service.Operation

namespace Permission

/-- In a sound book the level of a subject is that of its grant in force. -/
theorem heldBy_of_sound {b : Shares} (hsound : b.Sound) (subject : SubjectId)
    (resource : ResourceId) :
    heldBy b subject resource =
      if (b.findResource resource).any (fun r => !r.isDeleted) then
        (b.activeGrant subject resource).map Grant.level
      else none := by
  unfold heldBy
  cases hfound : b.findResource resource with
  | none => rfl
  | some r =>
      cases hdeleted : r.isDeleted with
      | true => simp [Option.filter, hdeleted]
      | false =>
          have hid : r.id = resource := hsound.keyed hfound
          have howned : r.owner = subject → b.history subject resource ≠ [] := by
            rintro rfl
            exact hsound.owned hfound
          have hnever : ¬ (r.owner = subject ∧ b.history subject resource = []) :=
            fun h => howned h.left h.right
          simp only [Option.filter, hdeleted, Bool.not_false, if_true, Option.bind_some,
            Option.any_some, heldOn, hid]
          cases b.activeGrant subject resource with
          | some g => rfl
          | none => rw [if_neg hnever]; rfl

end Permission

/-! # Runs of operations -/

abbrev Changes := List (Instant × Service.Operation)

namespace Changes

def store (changes : Changes) : Store :=
  changes.foldl (fun s c => c.2.apply c.1 s) .empty

@[simp] theorem store_concat (changes : Changes) (c : Instant × Service.Operation) :
    store (changes ++ [c]) = c.2.apply c.1 changes.store :=
  List.foldl_append

abbrev history (changes : Changes) (subject : SubjectId) (resource : ResourceId) : History :=
  changes.store.shares.history subject resource

abbrev activeGrant (changes : Changes) (subject : SubjectId) (resource : ResourceId) :
    Option Grant :=
  changes.store.shares.activeGrant subject resource

/-- A run in which every resource is created under an identifier that nothing has had before. -/
def Fresh (changes : Changes) : Prop :=
  changes.Pairwise (fun c d => ∀ id, d.2.creates? = some id → c.2.opens? ≠ some id)

/-- An operation of a kind that nothing since has undone. -/
def Stays (changes : Changes) (made : Service.Operation → Prop)
    (undone : Changes → Instant × Service.Operation → Prop) : Prop :=
  ∃ (k : Nat) (c : Instant × Service.Operation), changes[k]? = some c ∧ made c.2 ∧
    ∀ (j : Nat) (d : Instant × Service.Operation), k < j → changes[j]? = some d →
      ¬ undone (changes.take j) d

/-- The latest gift to a pair, after which no grant of the pair was withdrawn. -/
def Latest (changes : Changes) (subject : SubjectId) (resource : ResourceId)
    (gift : Level × SubjectId) : Prop :=
  changes.Stays (fun o => o.gift? subject resource = some gift)
    (fun before d => (d.2.gift? subject resource).isSome ∨
      d.2.Succeeds subject resource d.1 before.store)

/-- A resource that was created and not deleted since. -/
def Stands (changes : Changes) (resource : ResourceId) : Prop :=
  changes.Stays (fun o => o.creates? = some resource)
    (fun _ d => d.2.deletes? = some resource)

/-- How often a pair was given something while it had no grant in force. -/
def openings (changes : Changes) (subject : SubjectId) (resource : ResourceId) : Nat :=
  (List.range changes.length).countP (fun k =>
    (changes[k]?.bind (fun c => c.2.gift? subject resource)).isSome &&
      (activeGrant (changes.take k) subject resource).isNone)

variable {changes : Changes} {subject : SubjectId} {resource : ResourceId}

theorem stays_concat {c : Instant × Service.Operation} {made : Service.Operation → Prop}
    {undone : Changes → Instant × Service.Operation → Prop} :
    Stays (changes ++ [c]) made undone ↔
      made c.2 ∨ (¬ undone changes c ∧ changes.Stays made undone) := by
  have hold : ∀ {j : Nat}, j < changes.length → (changes ++ [c])[j]? = changes[j]? ∧
      (changes ++ [c]).take j = changes.take j := by
    intro j hj
    exact ⟨List.getElem?_append_left hj, List.take_append_of_le_length (Nat.le_of_lt hj)⟩
  have hlast : (changes ++ [c])[changes.length]? = some c := List.getElem?_concat_length
  have hbound : ∀ {j : Nat} {d : Instant × Service.Operation}, (changes ++ [c])[j]? = some d →
      j < changes.length ∨ (j = changes.length ∧ d = c) := by
    intro j d hd
    rcases Nat.lt_or_ge j changes.length with hlt | hge
    · exact Or.inl hlt
    · rw [List.getElem?_append_right hge] at hd
      rcases List.getElem?_eq_some_iff.mp hd with ⟨hone, heq⟩
      rw [List.length_singleton] at hone
      refine Or.inr ⟨by omega, ?_⟩
      simpa using heq.symm
  constructor
  · rintro ⟨k, x, hx, hmade, hsince⟩
    rcases hbound hx with hlt | ⟨_, rfl⟩
    · refine Or.inr ⟨?_, k, x, (hold hlt).left ▸ hx, hmade, ?_⟩
      · have hnot := hsince changes.length c hlt hlast
        rwa [List.take_left] at hnot
      · intro j d hkj hd
        have hj : j < changes.length := (List.getElem?_eq_some_iff.mp hd).choose
        have hnot := hsince j d hkj ((hold hj).left.trans hd)
        rwa [(hold hj).right] at hnot
    · exact Or.inl hmade
  · rintro (hmade | ⟨hkept, k, x, hx, hmade, hsince⟩)
    · refine ⟨changes.length, c, hlast, hmade, ?_⟩
      intro j d hkj hd
      rcases hbound hd with hlt | ⟨hj, _⟩
      · exact absurd hlt (Nat.not_lt_of_gt hkj)
      · exact absurd hj (Nat.ne_of_gt hkj)
    · have hk : k < changes.length := (List.getElem?_eq_some_iff.mp hx).choose
      refine ⟨k, x, (hold hk).left.trans hx, hmade, ?_⟩
      intro j d hkj hd
      rcases hbound hd with hlt | ⟨rfl, rfl⟩
      · rw [(hold hlt).right]
        exact hsince j d hkj ((hold hlt).left ▸ hd)
      · rwa [List.take_left]

theorem openings_concat (c : Instant × Service.Operation) :
    openings (changes ++ [c]) subject resource = openings changes subject resource +
      if (c.2.gift? subject resource).isSome && (activeGrant changes subject resource).isNone
      then 1 else 0 := by
  unfold openings
  rw [List.length_append, List.length_singleton, List.range_succ, List.countP_append,
    List.countP_singleton, List.getElem?_concat_length, List.take_left]
  congr 1
  refine List.countP_congr (fun k hk => ?_)
  have hlt : k < changes.length := List.mem_range.mp hk
  rw [List.getElem?_append_left hlt, List.take_append_of_le_length (Nat.le_of_lt hlt)]

theorem Fresh.of_append {xs ys : Changes} (h : Fresh (xs ++ ys)) : xs.Fresh :=
  (List.pairwise_append.mp h).left

theorem Fresh.not_opens {xs ys : Changes} (h : Fresh (xs ++ ys))
    {d : Instant × Service.Operation} (hd : d ∈ ys) (hcreates : d.2.creates? = some resource) :
    ∀ c ∈ xs, c.2.opens? ≠ some resource :=
  fun c hc => (List.pairwise_append.mp h).right.right c hc d hd resource hcreates

theorem sound_store (changes : Changes) : changes.store.shares.Sound := by
  induction changes using List.reverseRecOn with
  | nil => exact Shares.Sound.empty
  | append_singleton changes c ih =>
      rw [store_concat]
      exact Service.Operation.sound_apply ih

theorem history_eq_nil (hunopened : ∀ c ∈ changes, c.2.opens? ≠ some resource) :
    changes.history subject resource = [] := by
  induction changes using List.reverseRecOn with
  | nil => rfl
  | append_singleton changes c ih =>
      have hbefore : (store changes).shares.history subject resource = [] :=
        ih (fun d hd => hunopened d (List.mem_append_left _ hd))
      have hgift : c.2.gift? subject resource = none := by
        rw [Option.eq_none_iff_forall_ne_some]
        intro gift hgift
        exact hunopened c List.mem_concat_self (Service.Operation.opens?_of_gift? hgift)
      have hturn : History.Turns (c.2.gift? subject resource) (c.2.withdraws subject resource)
          ((store changes).shares.history subject resource)
          ((c.2.apply c.1 (store changes)).shares.history subject resource) :=
        Service.Operation.turns_apply (fun _ => hbefore)
      rw [hgift, hbefore] at hturn
      unfold history
      rw [store_concat]
      exact hturn.eq_nil

theorem turns_concat {c : Instant × Service.Operation} (hfresh : Fresh (changes ++ [c])) :
    History.Turns (c.2.gift? subject resource) (c.2.withdraws subject resource)
      (changes.history subject resource) (history (changes ++ [c]) subject resource) := by
  unfold history
  rw [store_concat]
  refine Service.Operation.turns_apply (fun hcreates => ?_)
  exact history_eq_nil (hfresh.not_opens List.mem_cons_self hcreates)

theorem single_history (hfresh : changes.Fresh) : (changes.history subject resource).Single := by
  induction changes using List.reverseRecOn with
  | nil => exact Nat.zero_le 1
  | append_singleton changes c ih => exact (turns_concat hfresh).single (ih hfresh.of_append)

theorem extends_history {rest : Changes} (hfresh : Fresh (changes ++ rest)) :
    (changes.history subject resource).Extends (history (changes ++ rest) subject resource) := by
  induction rest using List.reverseRecOn with
  | nil =>
      rw [List.append_nil]
      exact History.Extends.refl _
  | append_singleton rest c ih =>
      rw [← List.append_assoc] at hfresh ⊢
      exact (ih hfresh.of_append).trans (turns_concat hfresh).extension

theorem length_history (hfresh : changes.Fresh) :
    (changes.history subject resource).length = changes.openings subject resource := by
  induction changes using List.reverseRecOn with
  | nil => rfl
  | append_singleton changes c ih =>
      rw [(turns_concat hfresh).length_eq, ih hfresh.of_append, openings_concat]
      rfl

/-- The grant in force comes from the latest gift. -/
theorem map_activeGrant_eq_some (hfresh : changes.Fresh) {gift : Level × SubjectId} :
    (changes.activeGrant subject resource).map (fun g => (g.level, g.grantedBy)) = some gift ↔
      changes.Latest subject resource gift := by
  induction changes using List.reverseRecOn with
  | nil =>
      refine ⟨fun h => (nomatch h), ?_⟩
      rintro ⟨k, c, hc, _⟩
      cases hc
  | append_singleton changes c ih =>
      unfold Latest
      rw [stays_concat, Service.Operation.succeeds_iff]
      have hbefore := ih hfresh.of_append
      unfold Latest at hbefore
      rw [← hbefore]
      have hturn : (activeGrant (changes ++ [c]) subject resource).map
            (fun g => (g.level, g.grantedBy)) =
          (c.2.gift? subject resource).or (if c.2.withdraws subject resource then none
            else (activeGrant changes subject resource).map (fun g => (g.level, g.grantedBy))) :=
        (turns_concat hfresh).active?_map (single_history hfresh.of_append)
      rw [hturn]
      cases c.2.gift? subject resource with
      | some x => simp
      | none =>
          cases c.2.withdraws subject resource with
          | false => simp
          | true =>
              cases hactive : activeGrant changes subject resource with
              | none => simp
              | some g => simp [hactive]

theorem live_iff_stands (hfresh : changes.Fresh) :
    (changes.store.shares.findResource resource).any (fun r => !r.isDeleted) = true ↔
      changes.Stands resource := by
  induction changes using List.reverseRecOn with
  | nil =>
      refine ⟨fun h => (nomatch h), ?_⟩
      rintro ⟨k, c, hc, _⟩
      cases hc
  | append_singleton changes c ih =>
      unfold Stands
      rw [store_concat, Service.Operation.isSome_live_apply, stays_concat, ih hfresh.of_append]
      rfl

theorem not_latest_of_withdrawn {before after : Changes} {c : Instant × Service.Operation}
    (hfresh : Fresh (before ++ c :: after))
    (hwithdrawn : c.2.Succeeds subject resource c.1 before.store)
    (hnoput : ∀ d ∈ after, ∀ id level grantedBy,
      d.2 ≠ .putGrant id subject resource level grantedBy) {gift : Level × SubjectId} :
    ¬ Latest (before ++ c :: after) subject resource gift := by
  have hopened : ∃ d ∈ before, d.2.opens? = some resource := by
    by_contra hnever
    push Not at hnever
    have hnil : before.store.shares.history subject resource = [] := history_eq_nil hnever
    have hactive := (Service.Operation.succeeds_iff.mp hwithdrawn).right
    unfold Shares.activeGrant at hactive
    rw [hnil] at hactive
    cases hactive
  rintro ⟨k, x, hx, hgift, hsince⟩
  rcases Nat.lt_trichotomy k before.length with hlt | rfl | hgt
  · have hc : (before ++ c :: after)[before.length]? = some c := by simp
    have hnot := hsince before.length c hlt hc
    rw [List.take_left] at hnot
    exact hnot (Or.inr hwithdrawn)
  · have hxc : x = c := by simpa using hx.symm
    rw [hxc, Service.Operation.gift?_of_succeeds hwithdrawn] at hgift
    cases hgift
  · have hmem : x ∈ after := by
      rw [List.getElem?_append_right (Nat.le_of_lt hgt)] at hx
      have hpos : k - before.length = (k - before.length - 1) + 1 := by omega
      rw [hpos, List.getElem?_cons_succ] at hx
      exact List.mem_of_getElem? hx
    cases hop : x.2 with
    | createResource id grant owner =>
        rw [hop] at hgift
        rcases Option.ite_none_right_eq_some.mp hgift with ⟨hpair, _⟩
        rcases hopened with ⟨d, hd, hopens⟩
        refine hfresh.not_opens (List.mem_cons_of_mem c hmem) ?_ d hd hopens
        rw [hop, (Prod.mk.inj hpair).right]
        rfl
    | putGrant id s r level grantedBy =>
        rw [hop] at hgift
        rcases Option.ite_none_right_eq_some.mp hgift with ⟨hpair, _⟩
        cases hpair
        exact hnoput x hmem id level grantedBy hop
    | _ =>
        rw [hop] at hgift
        cases hgift

/-! # What a run of operations leaves to a pair -/

/-- A book of shares by which the question for a level is answered, in whatever world. -/
def Confers (b : Shares) (subject : SubjectId) (resource : ResourceId)
    (held : Option Level) : Prop :=
  ∀ w : World, w.store.shares = b →
    w.Gives (Permission.effectiveLevel subject resource) held w.store

theorem confers_heldBy (b : Shares) (subject : SubjectId) (resource : ResourceId) :
    Confers b subject resource (Permission.heldBy b subject resource) := by
  rintro w rfl
  rcases Permission.run_effectiveLevel w subject resource with ⟨later, hwaits, hrun⟩
  unfold World.Gives
  rw [hrun]
  exact ⟨rfl, hwaits.store⟩

/-- How the shares of a pair follow from the operations that have made them. -/
structure Explains (changes : Changes) (subject : SubjectId) (resource : ResourceId) : Prop where
  single : (history changes subject resource).Single
  extended : ∀ k, (history (changes.take k) subject resource).Extends
    (history changes subject resource)
  counted : (history changes subject resource).length = openings changes subject resource
  latest : ∀ level grantedBy,
    (∃ g, activeGrant changes subject resource = some g ∧ g.level = level ∧
      g.grantedBy = grantedBy) ↔ Latest changes subject resource (level, grantedBy)
  standing : Stands changes resource → Confers changes.store.shares subject resource
    ((activeGrant changes subject resource).map Grant.level)
  gone : ¬ Stands changes resource → Confers changes.store.shares subject resource none
  succeeds : ∀ before c after, changes = before ++ c :: after →
    (c.2.Succeeds subject resource c.1 (store before) ↔
      (∃ revokedBy, c.2 = .revokeGrant subject resource revokedBy) ∧
        ∃ g, activeGrant before subject resource = some g)
  withdrawn : ∀ before c after, changes = before ++ c :: after →
    c.2.Succeeds subject resource c.1 (store before) →
    (∀ d ∈ after, ∀ id level grantedBy, d.2 ≠ .putGrant id subject resource level grantedBy) →
    activeGrant changes subject resource = none ∧
      Confers changes.store.shares subject resource none
  elsewhere : ∀ now (o : Service.Operation), o.Elsewhere subject resource →
    (o.apply now changes.store).shares.history subject resource =
        history changes subject resource ∧
      (o.apply now changes.store).shares.activeGrant subject resource =
        activeGrant changes subject resource ∧
      ∃ held, Confers changes.store.shares subject resource held ∧
        Confers (o.apply now changes.store).shares subject resource held

/-- After every run of operations that creates each resource under a new identifier, and for every
pair of a subject and a resource: at most one grant is in force, the history has only grown and
holds one grant for each opening, the grant in force is that of the latest gift that nobody has
withdrawn, a withdrawal succeeds exactly if there is one, and it decides about the level for as
long as the resource stands. -/
theorem last_write_wins (changes : Changes) (hfresh : changes.Fresh) (subject : SubjectId)
    (resource : ResourceId) : Explains changes subject resource := by
  have hlatest : ∀ level grantedBy,
      (∃ g, activeGrant changes subject resource = some g ∧ g.level = level ∧
        g.grantedBy = grantedBy) ↔ Latest changes subject resource (level, grantedBy) := by
    intro level grantedBy
    rw [← map_activeGrant_eq_some hfresh]
    simp
  have hlevel := Permission.heldBy_of_sound (sound_store changes) subject resource
  have hstands : (changes.store.shares.findResource resource).any (fun r => !r.isDeleted) = true ↔
      Stands changes resource := live_iff_stands hfresh
  have hconfers := confers_heldBy changes.store.shares subject resource
  refine
    { single := single_history hfresh
      extended := ?_
      counted := length_history hfresh
      latest := hlatest
      standing := ?_
      gone := ?_
      succeeds := ?_
      withdrawn := ?_
      elsewhere := ?_ }
  · intro k
    have hsplit := List.take_append_drop k changes
    have hextends : (history (changes.take k) subject resource).Extends
        (history (changes.take k ++ changes.drop k) subject resource) :=
      extends_history (by rwa [hsplit])
    rwa [hsplit] at hextends
  · intro h
    rwa [hlevel, if_pos (hstands.mpr h)] at hconfers
  · intro h
    rwa [hlevel, if_neg (fun hlive => h (hstands.mp hlive))] at hconfers
  · intro before c after _
    rw [Service.Operation.succeeds_iff, Service.Operation.withdraws_eq_true,
      Option.isSome_iff_exists]
  · rintro before c after rfl hsucceeds hnoput
    have hnone : activeGrant (before ++ c :: after) subject resource = none := by
      rw [Option.eq_none_iff_forall_ne_some]
      intro g hg
      exact not_latest_of_withdrawn hfresh hsucceeds hnoput ((hlatest _ _).mp ⟨g, hg, rfl, rfl⟩)
    refine ⟨hnone, ?_⟩
    unfold activeGrant at hnone
    rw [hlevel, hnone] at hconfers
    simpa using hconfers
  · intro now o helsewhere
    have hhistory : (o.apply now changes.store).shares.history subject resource =
        history changes subject resource :=
      Service.Operation.history_apply_of_elsewhere helsewhere
    have hactive : (o.apply now changes.store).shares.activeGrant subject resource =
        activeGrant changes subject resource := congrArg History.active? hhistory
    refine ⟨hhistory, hactive, _, hconfers, ?_⟩
    have hsame : Permission.heldBy (o.apply now changes.store).shares subject resource =
        Permission.heldBy changes.store.shares subject resource := by
      rw [hlevel, Permission.heldBy_of_sound (Service.Operation.sound_apply (sound_store changes)),
        hactive, Service.Operation.findResource_apply_of_elsewhere helsewhere]
    rw [← hsame]
    exact confers_heldBy _ _ _

/-- A creator hands a resource over to another subject and gives its own grant away. -/
def handover (creator heir : SubjectId) (resource : ResourceId) (grant : Nat → GrantId) : Changes :=
  [(.epoch, .createResource resource (grant 0) creator),
   (.epoch, .putGrant (grant 1) heir resource .editor creator),
   (.epoch, .putGrant (grant 2) heir resource .owner creator),
   (.epoch, .revokeGrant creator resource heir)]

theorem fresh_handover (creator heir : SubjectId) (resource : ResourceId) (grant : Nat → GrantId) :
    (handover creator heir resource grant).Fresh := by
  simp [handover, Fresh, Service.Operation.creates?]

/-- The creator is left with nothing, and its heir is the owner by the second of two gifts. -/
theorem last_write_wins_handover :
    ∃ changes creator heir resource, Fresh changes ∧
      Confers (store changes).shares creator resource none ∧
      Latest changes heir resource (.owner, creator) ∧
      Confers (store changes).shares heir resource (some .owner) ∧
      (history changes heir resource).length = 1 := by
  let creator : SubjectId := ⟨Uuid.ofNat 1⟩
  let heir : SubjectId := ⟨Uuid.ofNat 2⟩
  let resource : ResourceId := ⟨Uuid.ofNat 3⟩
  let grant : Nat → GrantId := fun n => ⟨Uuid.ofNat n⟩
  let changes := handover creator heir resource grant
  have hfresh : changes.Fresh := fresh_handover creator heir resource grant
  have hcreator := last_write_wins changes hfresh creator resource
  have hheir := last_write_wins changes hfresh heir resource
  have hgift : (activeGrant changes heir resource).map (fun g => (g.level, g.grantedBy)) =
      some (.owner, creator) := by decide +kernel
  have hopenings : openings changes heir resource = 1 := by decide +kernel
  have hsucceeds : (Service.Operation.revokeGrant creator resource heir).Succeeds creator resource
      .epoch (store (changes.take 3)) := ⟨by decide +kernel⟩
  have hstands : Stands changes resource := (live_iff_stands hfresh).mp (by decide +kernel)
  rcases Option.map_eq_some_iff.mp hgift with ⟨g, hg, hpair⟩
  have hlevel : g.level = .owner := congrArg Prod.fst hpair
  have hconfers := hheir.standing hstands
  rw [hg, Option.map_some, hlevel] at hconfers
  exact ⟨changes, creator, heir, resource, hfresh,
    (hcreator.withdrawn (changes.take 3) _ [] rfl hsucceeds (by simp)).right,
    (hheir.latest _ _).mp ⟨g, hg, hlevel, congrArg Prod.snd hpair⟩, hconfers,
    hheir.counted.trans hopenings⟩

end Changes
end SessionAuth
