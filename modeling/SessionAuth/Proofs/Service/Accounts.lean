import SessionAuth.Proofs.Service.Moments

/-!
# What happens to an account

Requests change an account in two ways: they give it a new password, and they note that its
subject has logged in.  Whether a subject may act is up to the operators, and an account that may
not act stays so until an operator restores it.
-/

namespace SessionAuth

open Time

namespace Service

variable {f : Session.Facade}

abbrev account (s : Service) (id : SubjectId) : Option Subject :=
  s.world.store.subjects.get? id

theorem Moment.account_of_knows {s u v : Service} {i : Nat} {id : SubjectId} {x : Subject}
    (h : Moment f s i (knows id (some x)) u v) :
    u.account id = some x ∧ x.isDeleted = false := by
  rcases h.takes.perform with ⟨now, hperform⟩
  have hfound := (Store.perform_findById hperform).symm
  rcases Option.filter_eq_some_iff.mp hfound with ⟨haccount, hpresent⟩
  exact ⟨haccount, by simpa using hpresent⟩

/-! # Single steps -/

/-- A change of an account by a request. -/
structure Touched (before after : Option Subject) (g : Subject → Subject) : Prop where
  after_eq : after = before.map g
  isUsable : ∀ x, (g x).isUsable = x.isUsable

theorem touched_refl (x : Option Subject) : Touched x x id :=
  ⟨by simp, fun _ => rfl⟩

theorem touched_modify (d : Directory) (id k : SubjectId) {g : Subject → Subject}
    (hg : ∀ x, (g x).isUsable = x.isUsable) :
    Touched (d.get? k) (Registry.get? (Registry.modify d id g) k)
      (fun x => if k = id then g x else x) := by
  constructor
  · rw [Registry.get?_modify]
    by_cases hk : k = id
    · simp [hk]
    · simp [hk]
  · intro x
    by_cases hk : k = id
    · rw [if_pos hk]
      exact hg x
    · rw [if_neg hk]

theorem touched_perform {s u : Store} {now : Instant} {c : Store.Call} {a : c.Reply}
    (h : s.perform now c = .ok (a, u)) (k : SubjectId) :
    ∃ g, Touched (s.subjects.get? k) (u.subjects.get? k) g ∧
      ((∀ hash, c ≠ .markPasswordChanged k hash) → ∀ x, (g x).passwordHash = x.passwordHash) := by
  have hsame : u.subjects = s.subjects →
      ∃ g, Touched (s.subjects.get? k) (u.subjects.get? k) g ∧
        ((∀ hash, c ≠ .markPasswordChanged k hash) →
          ∀ x, (g x).passwordHash = x.passwordHash) := by
    intro hsubjects
    rw [hsubjects]
    exact ⟨id, touched_refl _, fun _ _ => rfl⟩
  cases c with
  | insert r => exact hsame (Store.perform_insert h).right
  | transition id expected state successor => exact hsame (Store.perform_transition h).right
  | revokeFamily fam reason => exact hsame (Store.perform_revokeFamily h).right
  | revokeSubjectFamilies subject reason =>
      exact hsame (Store.perform_revokeSubjectFamilies h).right
  | recordAuthentication id instant =>
      rw [(Store.perform_recordAuthentication h).right]
      refine ⟨_, touched_modify s.subjects id k (fun _ => rfl), ?_⟩
      intro _ x
      split <;> rfl
  | markPasswordChanged id hash =>
      have hmark := (Store.perform_markPasswordChanged h).right
      unfold Directory.markPasswordChanged at hmark
      split at hmark
      · rw [← Except.ok.inj hmark]
        refine ⟨_, touched_modify s.subjects id k (fun _ => rfl), ?_⟩
        intro hother x
        rw [if_neg]
        rintro rfl
        exact hother hash rfl
      · cases hmark
  | _ => exact hsame (congrArg Store.subjects (Store.perform_of_reads rfl h))

theorem Takes.touched {s t : Service} {e : Entry} (h : Takes s e t) (k : SubjectId) :
    ∃ g, Touched (s.account k) (t.account k) g ∧
      ((∀ hash, e.turn ≠ marked k hash) → ∀ x, (g x).passwordHash = x.passwordHash) := by
  have hsame : t.world.store = s.world.store →
      ∃ g, Touched (s.account k) (t.account k) g ∧
        ((∀ hash, e.turn ≠ marked k hash) → ∀ x, (g x).passwordHash = x.passwordHash) := by
    intro hstore
    unfold account
    rw [hstore]
    exact ⟨id, touched_refl _, fun _ _ => rfl⟩
  rcases e with ⟨i, effect, r⟩
  cases effect with
  | store c =>
      rcases h.meets.store_cases with ⟨_, _, hstore⟩ | ⟨now, a, rfl, hperform⟩
      · exact hsame hstore
      · rcases touched_perform hperform k with ⟨g, htouched, hpassword⟩
        refine ⟨g, htouched, ?_⟩
        intro hother
        apply hpassword
        rintro hash rfl
        exact hother hash rfl
  | _ => exact hsame (h.meets.store_eq rfl)

theorem Operation.account_apply (o : Operation) (now : Instant) (s : Store) (k : SubjectId) :
    (∃ x, o = .enroll x ∧ x.id = k) ∨
      ∃ g, (o.apply now s).subjects.get? k = (s.subjects.get? k).map g ∧
        (∀ x, (g x).passwordHash = x.passwordHash) ∧
        (o ≠ .setActive k true → ∀ x, x.isUsable = false → (g x).isUsable = false) := by
  have hsame : ∀ u : Store, u.subjects = s.subjects →
      ∃ g, u.subjects.get? k = (s.subjects.get? k).map g ∧
        (∀ x, (g x).passwordHash = x.passwordHash) ∧
        (o ≠ .setActive k true → ∀ x, x.isUsable = false → (g x).isUsable = false) := by
    intro u hsubjects
    rw [hsubjects]
    exact ⟨id, by simp, fun _ => rfl, fun _ _ hx => hx⟩
  cases o with
  | enroll x =>
      by_cases hx : x.id = k
      · exact Or.inl ⟨x, rfl, hx⟩
      · refine Or.inr ⟨id, ?_, fun _ => rfl, fun _ _ h => h⟩
        change Registry.get? (Registry.insert _ _ _) k = _
        rw [Registry.get?_insert, if_neg (fun h => hx h.symm), Option.map_id]
        rfl
  | setActive id active =>
      refine Or.inr ⟨fun x => if k = id then { x with active := active } else x, ?_, ?_, ?_⟩
      · change Registry.get? (Registry.modify _ _ _) k = _
        rw [Registry.get?_modify]
        by_cases hk : k = id
        · simp [hk]
        · simp [hk]
      · intro x
        split <;> rfl
      · intro hother x hx
        by_cases hk : k = id
        · have hactive : active = false := by
            cases active with
            | false => rfl
            | true => exact absurd (by rw [hk]) hother
          simp [hk, hactive, Subject.isUsable]
        · simp only [if_neg hk]
          exact hx
  | softDelete id =>
      refine Or.inr ⟨fun x => if k = id then
        { x with deletedAt := some (x.deletedAt.getD now) } else x, ?_, ?_, ?_⟩
      · change Registry.get? (Registry.modify _ _ _) k = _
        rw [Registry.get?_modify]
        by_cases hk : k = id
        · simp [hk]
        · simp [hk]
      · intro x
        split <;> rfl
      · intro _ x hx
        by_cases hk : k = id
        · simp [hk, Subject.isUsable, Subject.isDeleted]
        · simp only [if_neg hk]
          exact hx
  | createResource id grant owner => exact Or.inr (hsame _ rfl)
  | putGrant id subject resource level grantedBy => exact Or.inr (hsame _ rfl)
  | revokeGrant subject resource revokedBy => exact Or.inr (hsame _ rfl)
  | deleteResource id => exact Or.inr (hsame _ rfl)

/-! # Runs -/

theorem run_induction {P : List Action → Service → Prop} {s : Service} {actions : List Action}
    (hs : P [] s)
    (hstep : ∀ pre a, pre ++ [a] <+: actions → P pre (s.run f pre) →
      P (pre ++ [a]) ((s.run f pre).step f a)) : P actions (s.run f actions) := by
  induction actions using List.reverseRecOn with
  | nil => exact hs
  | append_singleton xs a ih =>
      rw [run_append]
      apply hstep xs a (List.prefix_refl _)
      apply ih
      intro pre b hpre hP
      exact hstep pre b (hpre.trans (List.prefix_append xs [a])) hP

/-- An account that does not let its subject act, if there is one. -/
def Unusable (s : Service) (id : SubjectId) : Prop :=
  ∀ x, s.account id = some x → x.isUsable = false

def Action.Restores (id : SubjectId) : Action → Prop
  | .operate (.setActive k active) => k = id ∧ active = true
  | .operate (.enroll x) => x.id = id
  | _ => False

theorem step_alters (s : Service) (a : Action) :
    (∃ o, a = .operate o) ∨ (s.step f a).world = s.world ∨ ∃ e, Takes s e (s.step f a) := by
  cases a with
  | operate o => exact Or.inl ⟨o, rfl⟩
  | start q => exact Or.inr (Or.inl rfl)
  | advance i =>
      simp only [step]
      split
      · rename_i q e next htask
        exact Or.inr (Or.inr ⟨_, Takes.mk htask (Meets.answer e)⟩)
      · exact Or.inr (Or.inl rfl)
  | fail i error =>
      simp only [step]
      split
      · rename_i q c next htask
        exact Or.inr (Or.inr ⟨_, Takes.mk htask (Meets.fail c error)⟩)
      · exact Or.inr (Or.inl rfl)

theorem Unusable.step {s : Service} {id : SubjectId} (h : s.Unusable id) {a : Action}
    (ha : ¬ a.Restores id) : (s.step f a).Unusable id := by
  intro y hy
  rcases step_alters (f := f) s a with ⟨o, rfl⟩ | hworld | ⟨e, htakes⟩
  · rcases o.account_apply s.world.readClock.1 s.world.store id with
      ⟨x, rfl, hx⟩ | ⟨g, hget, _, hkeeps⟩
    · exact absurd hx ha
    · rcases Option.map_eq_some_iff.mp (hget.symm.trans hy) with ⟨x, hx, rfl⟩
      apply hkeeps ?_ x (h x hx)
      rintro rfl
      exact ha ⟨rfl, rfl⟩
  · unfold account at hy
    rw [hworld] at hy
    exact h y hy
  · rcases htakes.touched id with ⟨g, htouched, _⟩
    rcases Option.map_eq_some_iff.mp (htouched.after_eq.symm.trans hy) with ⟨x, hx, rfl⟩
    rw [htouched.isUsable]
    exact h x hx

/-- An account that does not let its subject act stays so until an operator restores it. -/
theorem Unusable.run {s : Service} {id : SubjectId} (h : s.Unusable id) {actions : List Action}
    (hactions : ∀ a ∈ actions, ¬ a.Restores id) : (s.run f actions).Unusable id := by
  apply run_induction (P := fun _ t => t.Unusable id) h
  intro pre a hpre hunusable
  exact hunusable.step (hactions a (hpre.subset (by simp)))

/-- The account of a subject has a password hash. -/
def HasPassword (s : Service) (id : SubjectId) (hash : String) : Prop :=
  ∃ x, s.account id = some x ∧ x.passwordHash = hash

theorem HasPassword.step {s : Service} {id : SubjectId} {hash : String}
    (h : s.HasPassword id hash) {a : Action} (henroll : ∀ x, a = .operate (.enroll x) → x.id ≠ id)
    (hmark : ∀ e, Takes s e (s.step f a) → ∀ other, e.turn ≠ marked id other) :
    (s.step f a).HasPassword id hash := by
  rcases h with ⟨x, hx, hhash⟩
  rcases step_alters (f := f) s a with ⟨o, rfl⟩ | hworld | ⟨e, htakes⟩
  · rcases o.account_apply s.world.readClock.1 s.world.store id with
      ⟨y, rfl, hy⟩ | ⟨g, hget, hkeeps, _⟩
    · exact absurd hy (henroll y rfl)
    · refine ⟨g x, ?_, (hkeeps x).trans hhash⟩
      exact hget.trans (congrArg (Option.map g) hx)
  · refine ⟨x, ?_, hhash⟩
    unfold account
    rw [hworld]
    exact hx
  · rcases htakes.touched id with ⟨g, htouched, hpassword⟩
    refine ⟨g x, ?_, (hpassword (hmark e htakes) x).trans hhash⟩
    exact htouched.after_eq.trans (congrArg (Option.map g) hx)

theorem HasPassword.run {s : Service} {id : SubjectId} {hash : String} (h : s.HasPassword id hash)
    {actions : List Action} (henroll : ∀ x, .operate (.enroll x) ∈ actions → x.id ≠ id)
    {later : List Entry} (hist : (s.run f actions).history = s.history ++ later)
    (hmark : ∀ e ∈ later, ∀ other, e.turn ≠ marked id other) :
    (s.run f actions).HasPassword id hash := by
  apply run_induction (P := fun _ t => t.HasPassword id hash) h
  intro pre a hpre hpassword
  refine hpassword.step ?_ ?_
  · rintro x rfl
    exact henroll x (hpre.subset (by simp))
  · -- The turn stands in the history behind that of the start.
    intro e htakes
    rcases hpre with ⟨post, hpost⟩
    have hbefore : Reaches f s (s.run f pre) := ⟨pre, rfl⟩
    have hafter : Reaches f ((s.run f pre).step f a) (s.run f actions) := by
      refine ⟨post, ?_⟩
      rw [← hpost, run_append, run_append]
      rfl
    rcases hbefore.history_prefix with ⟨xs, hxs⟩
    rcases hafter.history_prefix with ⟨ys, hys⟩
    rw [htakes.history_eq, hxs, hist, List.append_assoc, List.append_assoc] at hys
    have hlater := List.append_cancel_left hys
    apply hmark e
    rw [hlater]
    simp

end Service

end SessionAuth
