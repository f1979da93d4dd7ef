import SessionAuth.Store.Shares

/-!
# What the operators do to the book of shares

An operator changes the history of a pair of a subject and a resource in three ways: a new grant
is opened when none is in force, the grant in force takes another level, or it is withdrawn.
Everything else that operators do leaves the history as it is.
-/

namespace SessionAuth

open Time

namespace Grant

def relevel (g : Grant) (level : Level) (grantedBy : SubjectId) : Grant :=
  { g with level := level, grantedBy := grantedBy }

def close (g : Grant) (now : Instant) (revokedBy : SubjectId) : Grant :=
  { g with revokedAt := some now, revokedBy := some revokedBy }

@[simp] theorem isActive_relevel (g : Grant) (level : Level) (grantedBy : SubjectId) :
    (g.relevel level grantedBy).isActive = g.isActive := rfl

@[simp] theorem isActive_close (g : Grant) (now : Instant) (revokedBy : SubjectId) :
    (g.close now revokedBy).isActive = false := rfl

/-- What may become of a grant in a history. -/
structure Becomes (g h : Grant) : Prop where
  id : h.id = g.id
  subject : h.subject = g.subject
  resource : h.resource = g.resource
  createdAt : h.createdAt = g.createdAt
  revoked : g.isActive = false → h = g

namespace Becomes

theorem refl (g : Grant) : g.Becomes g :=
  ⟨rfl, rfl, rfl, rfl, fun _ => rfl⟩

theorem trans {g h k : Grant} (hgh : g.Becomes h) (hhk : h.Becomes k) : g.Becomes k where
  id := hhk.id.trans hgh.id
  subject := hhk.subject.trans hgh.subject
  resource := hhk.resource.trans hgh.resource
  createdAt := hhk.createdAt.trans hgh.createdAt
  revoked := by
    intro hg
    have hh := hgh.revoked hg
    rw [hh] at hhk
    exact hhk.revoked hg

theorem of_isActive {g h : Grant} (hg : g.isActive = true) (hid : h.id = g.id)
    (hsubject : h.subject = g.subject) (hresource : h.resource = g.resource)
    (hcreated : h.createdAt = g.createdAt) : g.Becomes h := by
  refine ⟨hid, hsubject, hresource, hcreated, ?_⟩
  intro hclosed
  rw [hg] at hclosed
  cases hclosed

end Becomes

end Grant

namespace History

def Extends (h later : History) : Prop :=
  ∀ (k : Nat) (g : Grant), h[k]? = some g → ∃ g', later[k]? = some g' ∧ g.Becomes g'

theorem Extends.refl (h : History) : h.Extends h :=
  fun _ g hg => ⟨g, hg, Grant.Becomes.refl g⟩

theorem Extends.trans {h k l : History} (hhk : h.Extends k) (hkl : k.Extends l) :
    h.Extends l := by
  intro i g hg
  rcases hhk i g hg with ⟨g', hg', hbecomes⟩
  rcases hkl i g' hg' with ⟨g'', hg'', hbecomes'⟩
  exact ⟨g'', hg'', hbecomes.trans hbecomes'⟩

theorem Extends.append (h : History) (g : Grant) : h.Extends (h ++ [g]) := by
  intro i x hx
  rcases List.getElem?_eq_some_iff.mp hx with ⟨hlt, _⟩
  exact ⟨x, (List.getElem?_append_left hlt).trans hx, Grant.Becomes.refl x⟩

/-! # The grant in force -/

theorem modifyActive_of_none {h : History} (hnone : h.active? = none) (f : Grant → Grant) :
    h.modifyActive f = h := by
  induction h with
  | nil => rfl
  | cons g gs ih =>
      unfold active? at hnone ih
      cases hactive : g.isActive with
      | true =>
          rw [List.find?_cons_of_pos hactive] at hnone
          cases hnone
      | false =>
          rw [List.find?_cons_of_neg (by simp [hactive])] at hnone
          simp only [modifyActive, hactive, Bool.false_eq_true, if_false]
          rw [ih hnone]

theorem exists_split_of_active? {h : History} {g : Grant} (hsome : h.active? = some g) :
    ∃ xs ys, h = xs ++ g :: ys ∧ g.isActive = true ∧ (∀ x ∈ xs, x.isActive = false) ∧
      ∀ f, h.modifyActive f = xs ++ f g :: ys := by
  induction h with
  | nil => cases hsome
  | cons x gs ih =>
      unfold active? at hsome ih
      cases hactive : x.isActive with
      | true =>
          rw [List.find?_cons_of_pos hactive] at hsome
          cases hsome
          refine ⟨[], gs, rfl, hactive, by simp, ?_⟩
          intro f
          simp only [modifyActive, hactive, if_true]
          rfl
      | false =>
          rw [List.find?_cons_of_neg (by simp [hactive])] at hsome
          rcases ih hsome with ⟨xs, ys, rfl, hg, hbefore, hmodify⟩
          refine ⟨x :: xs, ys, rfl, hg, ?_, ?_⟩
          · intro y hy
            rcases List.mem_cons.mp hy with rfl | hy
            · exact hactive
            · exact hbefore y hy
          · intro f
            simp only [modifyActive, hactive, Bool.false_eq_true, if_false]
            rw [hmodify]
            rfl

theorem active?_append {xs ys : History} (hxs : ∀ x ∈ xs, x.isActive = false) :
    active? (xs ++ ys) = active? ys := by
  have hnone : xs.find? Grant.isActive = none := by
    rw [List.find?_eq_none]
    intro x hx
    rw [hxs x hx]
    exact Bool.false_ne_true
  unfold active?
  rw [List.find?_append, hnone, Option.none_or]

theorem active?_eq_none {h : History} : h.active? = none ↔ ∀ g ∈ h, g.isActive = false := by
  unfold active?
  simp only [List.find?_eq_none, Bool.not_eq_true]

def Single (h : History) : Prop :=
  h.countP Grant.isActive ≤ 1

theorem Single.others {xs ys : History} {g : Grant} (h : Single (xs ++ g :: ys))
    (hg : g.isActive = true) : ∀ y ∈ ys, y.isActive = false := by
  unfold Single at h
  rw [List.countP_append, List.countP_cons_of_pos hg] at h
  have hzero : ys.countP Grant.isActive = 0 := by omega
  intro y hy
  simpa using List.countP_eq_zero.mp hzero y hy

/-! # Turns of a history -/

/-- What an operation makes of the history of a pair to which it may give a level. -/
inductive Turns (gift : Option (Level × SubjectId)) (withdraws : Bool) (h : History) :
    History → Prop where
  | kept (hgift : gift = none) (hwithdraws : withdraws = true → h.active? = none) :
      Turns gift withdraws h h
  | opened {g : Grant} (hgift : gift = some (g.level, g.grantedBy)) (hnone : h.active? = none)
      (hactive : g.isActive = true) : Turns gift withdraws h (h ++ [g])
  | changed {g : Grant} {level : Level} {grantedBy : SubjectId}
      (hgift : gift = some (level, grantedBy)) (hsome : h.active? = some g) :
      Turns gift withdraws h (h.modifyActive (fun g => g.relevel level grantedBy))
  | closed {g : Grant} {now : Instant} {revokedBy : SubjectId} (hgift : gift = none)
      (hwithdraws : withdraws = true) (hsome : h.active? = some g) :
      Turns gift withdraws h (h.modifyActive (fun g => g.close now revokedBy))

namespace Turns

variable {gift : Option (Level × SubjectId)} {withdraws : Bool} {h later : History}

theorem extension (hturn : Turns gift withdraws h later) : h.Extends later := by
  have hmodify : ∀ {g : Grant} (f : Grant → Grant), h.active? = some g → g.Becomes (f g) →
      h.Extends (h.modifyActive f) := by
    intro g f hsome hbecomes
    rcases exists_split_of_active? hsome with ⟨xs, ys, rfl, _, _, hsplit⟩
    rw [hsplit]
    intro k x hx
    rcases Nat.lt_trichotomy k xs.length with hlt | rfl | hgt
    · rw [List.getElem?_append_left hlt] at hx ⊢
      exact ⟨x, hx, Grant.Becomes.refl x⟩
    · rw [List.getElem?_append_right (Nat.le_refl _), Nat.sub_self, List.getElem?_cons_zero] at hx ⊢
      cases hx
      exact ⟨f g, rfl, hbecomes⟩
    · rw [List.getElem?_append_right (Nat.le_of_lt hgt)] at hx ⊢
      have hpos : k - xs.length = (k - xs.length - 1) + 1 := by omega
      rw [hpos, List.getElem?_cons_succ] at hx ⊢
      exact ⟨x, hx, Grant.Becomes.refl x⟩
  cases hturn with
  | kept => exact Extends.refl h
  | opened => exact Extends.append h _
  | changed _ hsome =>
      rcases exists_split_of_active? hsome with ⟨_, _, _, hactive, _⟩
      exact hmodify _ hsome (Grant.Becomes.of_isActive hactive rfl rfl rfl rfl)
  | closed _ _ hsome =>
      rcases exists_split_of_active? hsome with ⟨_, _, _, hactive, _⟩
      exact hmodify _ hsome (Grant.Becomes.of_isActive hactive rfl rfl rfl rfl)

theorem single (hturn : Turns gift withdraws h later) (hsingle : h.Single) : later.Single := by
  cases hturn with
  | kept => exact hsingle
  | @opened g _ hnone hactive =>
      have hzero : h.countP Grant.isActive = 0 := by
        rw [List.countP_eq_zero]
        intro x hx
        simp [active?_eq_none.mp hnone x hx]
      have hone : (h ++ [g]).countP Grant.isActive = 1 := by
        rw [List.countP_append, hzero, List.countP_singleton, if_pos hactive]
      exact Nat.le_of_eq hone
  | changed _ hsome =>
      rcases exists_split_of_active? hsome with ⟨xs, ys, rfl, hactive, _, hsplit⟩
      unfold Single at hsingle ⊢
      rw [hsplit, List.countP_append, List.countP_cons_of_pos (by simpa using hactive)]
      rw [List.countP_append, List.countP_cons_of_pos hactive] at hsingle
      exact hsingle
  | closed _ _ hsome =>
      rcases exists_split_of_active? hsome with ⟨xs, ys, rfl, hactive, _, hsplit⟩
      unfold Single at hsingle ⊢
      rw [hsplit, List.countP_append, List.countP_cons_of_neg (by simp)]
      rw [List.countP_append, List.countP_cons_of_pos hactive] at hsingle
      omega

theorem active?_map (hturn : Turns gift withdraws h later) (hsingle : h.Single) :
    later.active?.map (fun g => (g.level, g.grantedBy)) =
      gift.or (if withdraws then none else h.active?.map (fun g => (g.level, g.grantedBy))) := by
  cases hturn with
  | kept hgift hwithdraws =>
      rw [hgift, Option.none_or]
      cases withdraws with
      | false => rfl
      | true => simp [hwithdraws rfl]
  | opened hgift hnone hactive =>
      rw [hgift, active?_append (active?_eq_none.mp hnone)]
      simp [active?, hactive]
  | changed hgift hsome =>
      rcases exists_split_of_active? hsome with ⟨xs, ys, rfl, hactive, hbefore, hsplit⟩
      rw [hgift, hsplit, active?_append hbefore]
      unfold active?
      rw [List.find?_cons_of_pos (by simpa using hactive)]
      rfl
  | closed hgift hwithdraws hsome =>
      rcases exists_split_of_active? hsome with ⟨xs, ys, rfl, hactive, hbefore, hsplit⟩
      rw [hgift, hwithdraws, hsplit, active?_append hbefore]
      have hnone : active? ys = none := active?_eq_none.mpr (hsingle.others hactive)
      unfold active? at hnone ⊢
      simp [hnone]

theorem length_eq (hturn : Turns gift withdraws h later) :
    later.length = h.length + if gift.isSome && h.active?.isNone then 1 else 0 := by
  cases hturn with
  | kept hgift => simp [hgift]
  | opened hgift hnone => simp [hgift, hnone]
  | changed hgift hsome =>
      rcases exists_split_of_active? hsome with ⟨xs, ys, rfl, _, _, hsplit⟩
      rw [hsplit, hsome]
      simp
  | closed hgift _ hsome =>
      rcases exists_split_of_active? hsome with ⟨xs, ys, rfl, _, _, hsplit⟩
      rw [hsplit, hgift]
      simp

theorem eq_nil (hturn : Turns none withdraws [] later) : later = [] := by
  cases hturn with
  | kept => rfl
  | opened hgift => cases hgift
  | changed hgift => cases hgift
  | closed _ _ hsome => cases hsome

end Turns

end History

/-! # Books -/

namespace Shares

variable {b : Shares} {subject : SubjectId} {resource : ResourceId}

theorem history_insert (grants : Registry (SubjectId × ResourceId) History)
    (resources resources' : Registry ResourceId Resource) (key : SubjectId × ResourceId)
    (h : History) :
    history ⟨resources', grants.insert key h⟩ subject resource =
      if (subject, resource) = key then h else history ⟨resources, grants⟩ subject resource := by
  unfold history
  dsimp only
  rw [Registry.get?_insert]
  split <;> rfl

theorem history_create (now : Instant) (id : ResourceId) (grant : GrantId) (owner : SubjectId) :
    (b.create now id grant owner).2.history subject resource =
      if (subject, resource) = (owner, id) then
        [⟨grant, owner, id, .owner, owner, now, none, none⟩]
      else b.history subject resource :=
  history_insert b.grants b.resources _ _ _

theorem history_put (now : Instant) (id : GrantId) (s : SubjectId) (r : ResourceId)
    (level : Level) (grantedBy : SubjectId) :
    (b.put now id s r level grantedBy).2.history subject resource =
      if (subject, resource) = (s, r) then
        match (b.history s r).active? with
        | some _ => (b.history s r).modifyActive (fun g => g.relevel level grantedBy)
        | none => b.history s r ++ [⟨id, s, r, level, grantedBy, now, none, none⟩]
      else b.history subject resource := by
  unfold put
  cases hactive : (b.history s r).active? with
  | some g =>
      simp only [hactive]
      exact history_insert b.grants b.resources _ _ _
  | none =>
      simp only [hactive]
      exact history_insert b.grants b.resources _ _ _

theorem history_revoke (now : Instant) (s : SubjectId) (r : ResourceId) (revokedBy : SubjectId) :
    (b.revoke now s r revokedBy).2.history subject resource =
      if (subject, resource) = (s, r) then
        (b.history s r).modifyActive (fun g => g.close now revokedBy)
      else b.history subject resource := by
  unfold revoke history
  dsimp only
  rw [Registry.get?_modify]
  by_cases hpair : (subject, resource) = (s, r)
  · rw [if_pos hpair, if_pos hpair, hpair]
    cases b.grants.get? (s, r) with
    | none => rfl
    | some h => rfl
  · rw [if_neg hpair, if_neg hpair]

@[simp] theorem history_delete (now : Instant) (id : ResourceId) :
    (b.delete now id).2.history subject resource = b.history subject resource := rfl

theorem resources_put (now : Instant) (id : GrantId) (s : SubjectId) (r : ResourceId)
    (level : Level) (grantedBy : SubjectId) :
    (b.put now id s r level grantedBy).2.resources = b.resources := by
  unfold put
  cases hactive : (b.history s r).active? with
  | some g => simp only [hactive]
  | none => simp only [hactive]

theorem findResource_create (now : Instant) (id : ResourceId) (grant : GrantId)
    (owner : SubjectId) (x : ResourceId) :
    (b.create now id grant owner).2.findResource x =
      if x = id then some ⟨id, owner, now, none⟩ else b.findResource x :=
  Registry.get?_insert b.resources id x _

theorem findResource_put (now : Instant) (id : GrantId) (s : SubjectId) (r : ResourceId)
    (level : Level) (grantedBy : SubjectId) (x : ResourceId) :
    (b.put now id s r level grantedBy).2.findResource x = b.findResource x :=
  congrArg (Registry.get? · x) (resources_put now id s r level grantedBy)

theorem findResource_delete (now : Instant) (id x : ResourceId) :
    (b.delete now id).2.findResource x =
      if x = id then
        (b.findResource x).map (fun r => { r with deletedAt := some (r.deletedAt.getD now) })
      else b.findResource x :=
  Registry.get?_modify b.resources id x _

/-! # Sound books -/

/-- A book in which every resource stands under its identifier, and in which no creator is without
a history on what it has created. -/
structure Sound (b : Shares) : Prop where
  keyed : ∀ {id : ResourceId} {r : Resource}, b.findResource id = some r → r.id = id
  owned : ∀ {id : ResourceId} {r : Resource}, b.findResource id = some r →
    b.history r.owner id ≠ []

namespace Sound

theorem empty : Sound Shares.empty :=
  ⟨fun h => (nomatch h), fun h => (nomatch h)⟩

theorem create (h : b.Sound) (now : Instant) (id : ResourceId) (grant : GrantId)
    (owner : SubjectId) : (b.create now id grant owner).2.Sound := by
  constructor
  · intro x r hfound
    rw [findResource_create] at hfound
    split at hfound
    · rename_i heq
      cases hfound
      exact heq.symm
    · exact h.keyed hfound
  · intro x r hfound
    rw [findResource_create] at hfound
    rw [history_create]
    split at hfound
    · rename_i heq
      cases hfound
      rw [if_pos (by rw [heq])]
      exact List.cons_ne_nil _ _
    · split
      · exact List.cons_ne_nil _ _
      · exact h.owned hfound

theorem put (h : b.Sound) (now : Instant) (id : GrantId) (s : SubjectId) (r : ResourceId)
    (level : Level) (grantedBy : SubjectId) : (b.put now id s r level grantedBy).2.Sound := by
  constructor
  · intro x y hfound
    rw [findResource_put] at hfound
    exact h.keyed hfound
  · intro x y hfound
    rw [findResource_put] at hfound
    rw [history_put]
    split
    · cases hactive : (b.history s r).active? with
      | none => exact List.append_ne_nil_of_right_ne_nil _ (List.cons_ne_nil _ _)
      | some g =>
          rcases History.exists_split_of_active? hactive with ⟨xs, ys, _, _, _, hsplit⟩
          dsimp only
          rw [hsplit]
          exact List.append_ne_nil_of_right_ne_nil _ (List.cons_ne_nil _ _)
    · exact h.owned hfound

theorem revoke (h : b.Sound) (now : Instant) (s : SubjectId) (r : ResourceId)
    (revokedBy : SubjectId) : (b.revoke now s r revokedBy).2.Sound := by
  constructor
  · intro x y hfound
    have hkept : b.findResource x = some y := hfound
    exact h.keyed hkept
  · intro x y hfound
    have hkept : b.findResource x = some y := hfound
    have howned : b.history y.owner x ≠ [] := h.owned hkept
    rw [history_revoke]
    split
    · rename_i hpair
      rw [(Prod.mk.inj hpair).left, (Prod.mk.inj hpair).right] at howned
      cases hactive : (b.history s r).active? with
      | none =>
          rw [History.modifyActive_of_none hactive]
          exact howned
      | some g =>
          rcases History.exists_split_of_active? hactive with ⟨xs, ys, _, _, _, hsplit⟩
          rw [hsplit]
          exact List.append_ne_nil_of_right_ne_nil _ (List.cons_ne_nil _ _)
    · exact howned

theorem delete (h : b.Sound) (now : Instant) (id : ResourceId) : (b.delete now id).2.Sound := by
  have hsame : ∀ {x : ResourceId} {r : Resource}, (b.delete now id).2.findResource x = some r →
      ∃ r', b.findResource x = some r' ∧ r.id = r'.id ∧ r.owner = r'.owner := by
    intro x r hfound
    rw [findResource_delete] at hfound
    split at hfound
    · rcases Option.map_eq_some_iff.mp hfound with ⟨r', hr', rfl⟩
      exact ⟨r', hr', rfl, rfl⟩
    · exact ⟨r, hfound, rfl, rfl⟩
  constructor
  · intro x r hfound
    rcases hsame hfound with ⟨r', hr', hid, _⟩
    exact hid.trans (h.keyed hr')
  · intro x r hfound
    rcases hsame hfound with ⟨r', hr', _, howner⟩
    rw [history_delete, howner]
    exact h.owned hr'

end Sound

end Shares

end SessionAuth
