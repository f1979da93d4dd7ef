import SessionAuth.Proofs.Service.Presence
import SessionAuth.Proofs.Service.Replacement

/-!
# Two changes of one password

A change of a password reads the stored hash, verifies the current password against it and stores a
new hash, each in a turn of its own, and the last of them does not ask whether the hash is still
the one that was read.  So two changes that have read the same hash may both succeed, and the one
that stores its hash last has its way.  A change that reads the hash of the other one is refused.
-/

namespace SessionAuth

open Time Refresh

namespace Service

variable {f : Session.Facade} {s : Service} {e e' : Entry}

/-! # The order of turns -/

/-- Tells that one turn was taken before another one. -/
def Earlier (s : Service) (e e' : Entry) : Prop :=
  [e, e'].Sublist s.history

theorem earlier_of_mem_right {xs ys : List Entry} (hist : s.history = xs ++ e :: ys)
    (he' : e' ∈ ys) : s.Earlier e e' := by
  unfold Earlier
  rw [hist]
  exact ((List.singleton_sublist.mpr he').cons_cons e).trans (List.sublist_append_right xs _)

theorem earlier_of_mem_left {xs ys : List Entry} (hist : s.history = xs ++ e' :: ys)
    (he : e ∈ xs) : s.Earlier e e' := by
  unfold Earlier
  rw [hist]
  exact (List.singleton_sublist.mpr he).append
    (List.singleton_sublist.mpr List.mem_cons_self)

theorem earlier_total (he : e ∈ s.history) (he' : e' ∈ s.history) (hne : e ≠ e') :
    s.Earlier e e' ∨ s.Earlier e' e := by
  rcases List.append_of_mem he with ⟨xs, ys, hist⟩
  rw [hist] at he'
  rcases List.mem_append.mp he' with hbefore | hafter
  · exact Or.inr (earlier_of_mem_left hist hbefore)
  · rcases List.mem_cons.mp hafter with heq | hlater
    · exact absurd heq.symm hne
    · exact Or.inl (earlier_of_mem_right hist hlater)

theorem Earlier.split (h : s.Earlier e e') :
    ∃ xs ys zs, s.history = xs ++ e :: ys ++ e' :: zs := by
  rcases List.cons_sublist_iff.mp h with ⟨first, second, hist, he, he'⟩
  rcases List.append_of_mem he with ⟨xs, ys, rfl⟩
  rcases List.append_of_mem (List.singleton_sublist.mp he') with ⟨ys', zs, rfl⟩
  exact ⟨xs, ys ++ ys', zs, by simp [hist]⟩

theorem Earlier.split_past {i : Nat} {turn turn' : Turn} (h : s.Earlier ⟨i, turn⟩ ⟨i, turn'⟩) :
    ∃ xs ys zs, s.past i = xs ++ turn :: ys ++ turn' :: zs := by
  rcases h.split with ⟨xs, ys, zs, hist⟩
  refine ⟨(xs.filter (fun e => e.task == i)).map Entry.turn,
    (ys.filter (fun e => e.task == i)).map Entry.turn,
    (zs.filter (fun e => e.task == i)).map Entry.turn, ?_⟩
  unfold past
  rw [hist]
  simp

theorem Reaches.exists_since {t : Service} (h : Reaches f s t) {i : Nat} (hbegun : s.past i = [])
    {turn : Turn} {xs ys : List Entry} (hist : t.history = xs ++ ⟨i, turn⟩ :: ys) :
    ∃ zs, xs = s.history ++ zs := by
  rcases h.history_prefix with ⟨new, hnew⟩
  rcases List.append_eq_append_iff.mp (hnew.symm.trans hist) with
    ⟨zs, hxs, _⟩ | ⟨zs, hold, hrest⟩
  · exact ⟨zs, hxs⟩
  · cases zs with
    | nil => exact ⟨[], by simpa using hold.symm⟩
    | cons e zs =>
        have he : e = ⟨i, turn⟩ := (List.cons.inj hrest).left.symm
        have hmem : turn ∈ s.past i := by
          rw [mem_past, hold, he]
          simp
        rw [hbegun] at hmem
        cases hmem

/-! # What is stored, and what is read -/

section Stored

variable {actions : List Action} {subject : SubjectId} {hash : String} {c : Nat}
  {xs ys : List Entry} (hs : Reachable f s)
  (henroll : ∀ x, .operate (.enroll x) ∈ actions → x.id ≠ subject)
  (hquiet : ∀ e ∈ ys, ∀ other, e.turn ≠ marked subject other)
include hs henroll hquiet

theorem hasPassword_of_last
    (hist : (s.run f actions).history = s.history ++ xs ++ ⟨c, marked subject hash⟩ :: ys) :
    (s.run f actions).HasPassword subject hash := by
  rcases run_split hist with ⟨pre, a, post, rfl, hpre, htakes⟩
  have hmoment : Moment f _ c (marked subject hash) (s.run f pre) ((s.run f pre).step f a) :=
    ⟨hs.trans ⟨pre, rfl⟩, htakes, Reaches.refl _⟩
  have hrun : s.run f (pre ++ a :: post) = ((s.run f pre).step f a).run f post :=
    run_append s pre (a :: post)
  rw [hrun] at hist ⊢
  refine hmoment.hasPassword.run (fun x hx => henroll x (by simp [hx])) ?_ hquiet
  rw [hist, htakes.history_eq, hpre]
  simp

theorem passwordHash_of_last {i : Nat} {x : Subject} {zs : List Entry}
    (hist : (s.run f actions).history =
      s.history ++ xs ++ ⟨c, marked subject hash⟩ :: ys ++ ⟨i, knows subject (some x)⟩ :: zs) :
    x.passwordHash = hash := by
  have hist' : (s.run f actions).history =
      s.history ++ (xs ++ ⟨c, marked subject hash⟩ :: ys) ++
        ⟨i, knows subject (some x)⟩ :: zs := by
    rw [hist]
    simp
  rcases run_split hist' with ⟨pre, a, post, rfl, hpre, htakes⟩
  rw [← List.append_assoc] at hpre
  have hstored := hasPassword_of_last hs (fun x hx => henroll x (by simp [hx])) hquiet hpre
  rcases hstored with ⟨y, hy, hhash⟩
  have hmoment : Moment f _ i (knows subject (some x)) (s.run f pre) ((s.run f pre).step f a) :=
    ⟨hs.trans ⟨pre, rfl⟩, htakes, Reaches.refl _⟩
  rw [hmoment.account_of_knows.left] at hy
  cases hy
  exact hhash

end Stored

/-! # What a change does -/

/-- A call in the past of a task is one that its script allows after the turns before it. -/
theorem Reachable.asks_of_past (hs : Reachable f s) {c : Nat} {q : Request} {x : Flow q.Reply}
    (hc : s.tasks[c]? = some ⟨q, x⟩) {call : Store.Call} {r : (Effect.store call).Reply}
    {xs ys : List Turn} (hpast : s.past c = xs ++ ⟨.store call, r⟩ :: ys) : q.Asks f xs call := by
  rcases hs.moment hpast with ⟨u, v, hmoment, hxs⟩
  rcases hmoment.before.asks hmoment.takes.awaits with ⟨q', ⟨z, hz⟩, hasks⟩
  rcases hmoment.reaches.task hz with ⟨z', hz'⟩
  rw [hc] at hz'
  cases hz'
  rw [← hxs]
  exact hasks

/-- The account that a change of a password has read, and the hash of the new password that it has
stored. -/
structure Stored (f : Session.Facade) (t : Service) (c : Nat) (subject : SubjectId) (new : String)
    (x : Subject) (hash : String) : Prop where
  made : ∃ salt, hash = (Password.hash f.cost salt new).text
  read : ⟨c, knows subject (some x)⟩ ∈ t.history
  marked : ⟨c, marked subject hash⟩ ∈ t.history

/-- A change of a password has been refused after it had read the account, or it has stored a new
hash.  Only a change that shows the right password is refused for any other reason. -/
inductive Concluded (s : Service) (c : Nat) (subject : SubjectId) (current : String) :
    Except Failure Unit → Prop where
  | refused {x : Option Subject} {failure : Failure}
      (hcalls : Turn.calls (s.past c) = [knows subject x])
      (hreason : failure = .invalidCredential ∨
        ∃ y, x = some y ∧ Password.verify current y.passwordHash = .same) :
      Concluded s c subject current (.error failure)
  | stored {hash : String} (hmarked : ⟨c, marked subject hash⟩ ∈ s.history) :
      Concluded s c subject current (.ok ())

section Change

variable {c : Nat} {subject : SubjectId} {current new : String} {x : Flow (Except Failure Unit)}
  (hs : Reachable f s) (hc : s.tasks[c]? = some ⟨.changePassword subject current new, x⟩)
include hs hc

theorem sweeps_of_marked {k : SubjectId} {hash : String} {call : Store.Call}
    {r : (Effect.store call).Reply}
    (hearlier : s.Earlier ⟨c, marked k hash⟩ ⟨c, ⟨.store call, r⟩⟩) :
    call = .revokeSubjectFamilies subject .passwordChange := by
  rcases hearlier.split_past with ⟨xs, ys, zs, hpast⟩
  have hmade : marked k hash ∈ Turn.calls (xs ++ marked k hash :: ys) :=
    Turn.mem_calls_store.mpr (by simp)
  cases hs.asks_of_past hc hpast with
  | prove hcalls =>
      rw [hcalls] at hmade
      cases hmade
  | sweep => rfl
  | mark hcalls =>
      rw [hcalls] at hmade
      simp at hmade
  | sweepAgain => rfl
  | inspect hinspects => cases hinspects

theorem not_marked_twice {k k' : SubjectId} {hash hash' : String} :
    ¬ s.Earlier ⟨c, marked k hash⟩ ⟨c, marked k' hash'⟩ := by
  intro hearlier
  cases sweeps_of_marked hs hc hearlier

theorem not_marked_before_read {k k' : SubjectId} {hash : String} {y : Option Subject} :
    ¬ s.Earlier ⟨c, marked k hash⟩ ⟨c, knows k' y⟩ := by
  intro hearlier
  cases sweeps_of_marked hs hc hearlier

theorem exists_stored_of_marked {hash : String} (h : ⟨c, marked subject hash⟩ ∈ s.history) :
    ∃ y, Stored f s c subject new y hash := by
  rcases List.append_of_mem (mem_past.mpr h) with ⟨xs, ys, hpast⟩
  cases hs.asks_of_past hc hpast with
  | mark hcalls hverified husable hsalt =>
      rename_i y salt before
      have hread : knows subject (some y) ∈ xs := Turn.mem_of_calls hcalls (by simp)
      refine ⟨y, ⟨salt, rfl⟩, mem_past.mp ?_, h⟩
      rw [hpast]
      exact List.mem_append_left _ hread
  | inspect hinspects => cases hinspects

theorem verified_of_read {y : Option Subject} {hash : String}
    (hread : ⟨c, knows subject y⟩ ∈ s.history) (hmarked : ⟨c, marked subject hash⟩ ∈ s.history) :
    ∃ z, y = some z ∧ Password.verify current z.passwordHash = .same := by
  have hne : (⟨c, knows subject y⟩ : Entry) ≠ ⟨c, marked subject hash⟩ := by
    intro heq
    cases heq
  have hbefore := (earlier_total hread hmarked hne).resolve_right (not_marked_before_read hs hc)
  rcases hbefore.split_past with ⟨xs, ys, zs, hpast⟩
  have hcall : knows subject y ∈ Turn.calls (xs ++ knows subject y :: ys) :=
    Turn.mem_calls_store.mpr (by simp)
  cases hs.asks_of_past hc hpast with
  | mark hcalls hverified husable hsalt =>
      rename_i z salt before
      rw [hcalls] at hcall
      obtain rfl : y = some z := by simpa using hcall
      refine ⟨z, rfl, hs.verify_of_verified (i := c) ?_⟩
      rw [hpast]
      exact List.mem_append_left _ hverified
  | inspect hinspects => cases hinspects

omit hc in
theorem Reachable.concluded {a : Except Failure Unit}
    (h : s.Answered c (.changePassword subject current new) a) :
    Concluded s c subject current a := by
  have hright : ∀ x rest, s.past c = knows subject (some x) :: verified current x.passwordHash ::
      rest → Password.verify current x.passwordHash = .same := by
    intro x rest hpast
    apply hs.verify_of_verified (i := c)
    rw [hpast]
    exact List.mem_cons_of_mem _ List.mem_cons_self
  cases weighs_of_yields (hs.yields h) with
  | unknown hturns hrest =>
      rcases yields_rejectChange hrest with ⟨rfl, id, t, rfl⟩
      exact Concluded.refused (by rw [hturns]; rfl) (Or.inl rfl)
  | mismatched hturns _ hrest =>
      rcases yields_rejectChange hrest with ⟨rfl, id, t, rfl⟩
      exact Concluded.refused (by rw [hturns]; rfl) (Or.inl rfl)
  | barred hturns _ hrest =>
      rcases yields_rejectChange hrest with ⟨rfl, id, t, rfl⟩
      exact Concluded.refused (by rw [hturns]; rfl) (Or.inr ⟨_, rfl, hright _ _ hturns⟩)
  | unfit hturns _ hrest =>
      rcases yields_rejectChange hrest with ⟨rfl, id, t, rfl⟩
      exact Concluded.refused (by rw [hturns]; rfl) (Or.inr ⟨_, rfl, hright _ _ hturns⟩)
  | fit hturns _ _ _ hrest =>
      rcases yields_replacePassword hrest with ⟨rfl, salt, before, after, id, t, rfl⟩
      have hmarked : marked subject (Password.hash f.cost salt new).text ∈ s.past c := by
        rw [hturns]
        simp [replacing]
      exact Concluded.stored (mem_past.mp hmarked)

theorem refused_or_verified {a : Except Failure Unit} (ha : x = .done a) {y : Option Subject}
    (hread : ⟨c, knows subject y⟩ ∈ s.history) :
    a = .error .invalidCredential ∨
      ∃ z, y = some z ∧ Password.verify current z.passwordHash = .same := by
  subst ha
  cases hs.concluded hc with
  | refused hcalls hreason =>
      have hcall := Turn.mem_calls_store.mpr (mem_past.mpr hread)
      rw [hcalls] at hcall
      cases List.mem_singleton.mp hcall
      rcases hreason with rfl | hverified
      · exact Or.inl rfl
      · exact Or.inr hverified
  | stored hmarked => exact Or.inr (verified_of_read hs hc hread hmarked)

end Change

/-! # Two changes -/

/-- A run in which two tasks begin that may give a subject a new password.  Nobody else does, and
the subject is not enrolled anew. -/
structure Rivals (f : Session.Facade) (s : Service) (actions : List Action) (subject : SubjectId)
    (i j : Nat) : Prop where
  distinct : i ≠ j
  first : s.past i = []
  second : s.past j = []
  enrolled : ∀ x, .operate (.enroll x) ∈ actions → x.id ≠ subject
  alone : ∀ later, (s.run f actions).history = s.history ++ later →
    ∀ e ∈ later, ∀ hash, e.turn = marked subject hash → e.task = i ∨ e.task = j

namespace Rivals

variable {actions : List Action} {subject : SubjectId} {i j : Nat}

theorem symm (h : Rivals f s actions subject i j) : Rivals f s actions subject j i where
  distinct := h.distinct.symm
  first := h.second
  second := h.first
  enrolled := h.enrolled
  alone := by
    intro later hist e he hash hmarked
    exact (h.alone later hist e he hash hmarked).symm

variable {current new new' : String} {x y : Flow (Except Failure Unit)} (hs : Reachable f s)
  (h : Rivals f s actions subject i j)
  (hi : (s.run f actions).tasks[i]? = some ⟨.changePassword subject current new, x⟩)
  (hj : (s.run f actions).tasks[j]? = some ⟨.changePassword subject current new', y⟩)
include hs h hi hj

theorem passwordHash_of_late {z : Subject} {hash : String}
    (hlate : (s.run f actions).Earlier ⟨j, marked subject hash⟩ ⟨i, knows subject (some z)⟩) :
    z.passwordHash = hash := by
  have ht : Reachable f (s.run f actions) := hs.trans ⟨actions, rfl⟩
  rcases hlate.split with ⟨xs, ys, zs, hist⟩
  have hreach : Reaches f s (s.run f actions) := ⟨actions, rfl⟩
  have hist' := hist
  rw [List.append_assoc] at hist'
  rcases hreach.exists_since h.second hist' with ⟨first, rfl⟩
  refine passwordHash_of_last hs h.enrolled ?_ hist
  -- The mark of the other change is the last one before the reading.
  rintro ⟨k, turn⟩ he other rfl
  have hnew : ⟨k, marked subject other⟩ ∈
      first ++ ⟨j, marked subject hash⟩ :: ys ++ ⟨i, knows subject (some z)⟩ :: zs := by
    simp [he]
  have htask : k = i ∨ k = j := h.alone _ (by rw [hist]; simp) _ hnew other rfl
  rcases htask with rfl | rfl
  · exact not_marked_before_read ht hi
      (earlier_of_mem_left hist (List.mem_append_right _ (List.mem_cons_of_mem _ he)))
  · exact not_marked_twice ht hj (earlier_of_mem_right hist' (List.mem_append_left _ he))

/-- A change that reads the account after the other one has stored its hash gets nowhere, unless
the current password fits that hash. -/
theorem refused_or_collides {z : Option Subject} {hash : String}
    (hlate : (s.run f actions).Earlier ⟨j, marked subject hash⟩ ⟨i, knows subject z⟩) :
    ((∀ a, x = .done a → a = .error .invalidCredential) ∧
      ∀ other, ⟨i, marked subject other⟩ ∉ (s.run f actions).history) ∨
    Password.verify current hash = .same := by
  have ht : Reachable f (s.run f actions) := hs.trans ⟨actions, rfl⟩
  have hread : ⟨i, knows subject z⟩ ∈ (s.run f actions).history := hlate.subset (by simp)
  by_cases hcollides : Password.verify current hash = .same
  · exact Or.inr hcollides
  · have hnot : ¬ ∃ u, z = some u ∧ Password.verify current u.passwordHash = .same := by
      rintro ⟨u, rfl, hverified⟩
      rw [h.passwordHash_of_late hs hi hj hlate] at hverified
      exact hcollides hverified
    refine Or.inl ⟨?_, ?_⟩
    · intro a ha
      exact (refused_or_verified ht hi ha hread).resolve_right hnot
    · intro other hmarked
      exact hnot (verified_of_read ht hi hread hmarked)

theorem hasPassword {hash : String} {xs ys : List Entry}
    (hist : (s.run f actions).history = xs ++ ⟨i, marked subject hash⟩ :: ys)
    (hlast : ∀ hash', ⟨j, marked subject hash'⟩ ∉ ys) :
    (s.run f actions).HasPassword subject hash := by
  have ht : Reachable f (s.run f actions) := hs.trans ⟨actions, rfl⟩
  have hreach : Reaches f s (s.run f actions) := ⟨actions, rfl⟩
  rcases hreach.exists_since h.first hist with ⟨first, rfl⟩
  refine hasPassword_of_last hs h.enrolled ?_ hist
  rintro ⟨k, turn⟩ he other rfl
  have hnew : ⟨k, marked subject other⟩ ∈ first ++ ⟨i, marked subject hash⟩ :: ys := by
    simp [he]
  have htask : k = i ∨ k = j := h.alone _ (by rw [hist, List.append_assoc]) _ hnew other rfl
  rcases htask with rfl | rfl
  · exact not_marked_twice ht hi (earlier_of_mem_right hist he)
  · exact hlast other he

/-- The change that stores its hash last has its way. -/
theorem hasPassword_of_earlier {hash hash' : String}
    (hearlier : (s.run f actions).Earlier ⟨j, marked subject hash'⟩ ⟨i, marked subject hash⟩) :
    (s.run f actions).HasPassword subject hash := by
  have ht : Reachable f (s.run f actions) := hs.trans ⟨actions, rfl⟩
  rcases hearlier.split with ⟨xs, ys, zs, hist⟩
  refine h.hasPassword hs hi hj hist ?_
  intro other hlater
  have hist' := hist
  rw [List.append_assoc] at hist'
  exact not_marked_twice ht hj (earlier_of_mem_right hist'
    (List.mem_append_right _ (List.mem_cons_of_mem _ hlater)))

theorem read_earlier_or_collides {z : Subject} {hash hash' : String}
    (hstored : Stored f (s.run f actions) i subject new z hash)
    (hmarked : ⟨j, marked subject hash'⟩ ∈ (s.run f actions).history) :
    (s.run f actions).Earlier ⟨i, knows subject (some z)⟩ ⟨j, marked subject hash'⟩ ∨
      Password.verify current hash' = .same := by
  have hne : (⟨i, knows subject (some z)⟩ : Entry) ≠ ⟨j, marked subject hash'⟩ :=
    fun heq => h.distinct (congrArg Entry.task heq)
  rcases earlier_total hstored.read hmarked hne with hbefore | hlate
  · exact Or.inl hbefore
  · rcases h.refused_or_collides hs hi hj hlate with ⟨_, hnone⟩ | hcollides
    · exact absurd hstored.marked (hnone hash)
    · exact Or.inr hcollides

end Rivals

/-- Two changes of the password of one subject show the same current password, and nobody else
changes it.  Each of them may have been answered, have halted, or be still in flight.  One that
reads the account after the other one has stored its hash is refused or not yet answered and stores
nothing, unless the current password fits that hash too.  One that succeeds has stored a hash.  A
hash that one of them has stored is that of its new password, and it stays as long as the other one
does not store its own after it.  If both have stored a hash, each has read the account before the
other one did so, and the hash that was stored last is the one that stays. -/
theorem last_change_stays (hs : Reachable f s) {actions : List Action} {subject : SubjectId}
    {i j : Nat} (h : Rivals f s actions subject i j) {current new new' : String}
    {x y : Flow (Except Failure Unit)}
    (hi : (s.run f actions).tasks[i]? = some ⟨.changePassword subject current new, x⟩)
    (hj : (s.run f actions).tasks[j]? = some ⟨.changePassword subject current new', y⟩) :
    let t := s.run f actions
    (∀ z hash, t.Earlier ⟨j, marked subject hash⟩ ⟨i, knows subject z⟩ →
      ((∀ a, x = .done a → a = .error .invalidCredential) ∧
        ∀ other, ⟨i, marked subject other⟩ ∉ t.history) ∨
      Password.verify current hash = .same) ∧
    (x = .done (.ok ()) → ∃ hash, ⟨i, marked subject hash⟩ ∈ t.history) ∧
    (y = .done (.ok ()) → ∃ hash', ⟨j, marked subject hash'⟩ ∈ t.history) ∧
    (∀ hash, ⟨i, marked subject hash⟩ ∈ t.history →
      (∃ z, Stored f t i subject new z hash) ∧
      ((∀ hash', ¬ t.Earlier ⟨i, marked subject hash⟩ ⟨j, marked subject hash'⟩) →
        t.HasPassword subject hash)) ∧
    (∀ hash hash', ⟨i, marked subject hash⟩ ∈ t.history → ⟨j, marked subject hash'⟩ ∈ t.history →
      ∃ z z', Stored f t i subject new z hash ∧ Stored f t j subject new' z' hash' ∧
      (t.Earlier ⟨i, knows subject (some z)⟩ ⟨j, marked subject hash'⟩ ∨
        Password.verify current hash' = .same) ∧
      (t.Earlier ⟨j, knows subject (some z')⟩ ⟨i, marked subject hash⟩ ∨
        Password.verify current hash = .same) ∧
      ((t.Earlier ⟨j, marked subject hash'⟩ ⟨i, marked subject hash⟩ ∧
          t.HasPassword subject hash) ∨
        (t.Earlier ⟨i, marked subject hash⟩ ⟨j, marked subject hash'⟩ ∧
          t.HasPassword subject hash'))) := by
  have ht : Reachable f (s.run f actions) := hs.trans ⟨actions, rfl⟩
  refine ⟨?_, ?_, ?_, ?_, ?_⟩
  · intro z hash hlate
    exact h.refused_or_collides hs hi hj hlate
  · rintro rfl
    cases ht.concluded hi with
    | stored hmarked => exact ⟨_, hmarked⟩
  · rintro rfl
    cases ht.concluded hj with
    | stored hmarked => exact ⟨_, hmarked⟩
  · intro hash hmarked
    refine ⟨exists_stored_of_marked ht hi hmarked, ?_⟩
    intro hlast
    rcases List.append_of_mem hmarked with ⟨xs, ys, hist⟩
    refine h.hasPassword hs hi hj hist ?_
    intro hash' hlater
    exact hlast hash' (earlier_of_mem_right hist hlater)
  · intro hash hash' hmarked hmarked'
    rcases exists_stored_of_marked ht hi hmarked with ⟨z, hstored⟩
    rcases exists_stored_of_marked ht hj hmarked' with ⟨z', hstored'⟩
    refine ⟨z, z', hstored, hstored', ?_, ?_, ?_⟩
    · exact h.read_earlier_or_collides hs hi hj hstored hmarked'
    · exact h.symm.read_earlier_or_collides hs hj hi hstored' hmarked
    · have hne : (⟨i, marked subject hash⟩ : Entry) ≠ ⟨j, marked subject hash'⟩ :=
        fun heq => h.distinct (congrArg Entry.task heq)
      rcases earlier_total hmarked hmarked' hne with hfirst | hlast
      · exact Or.inr ⟨hfirst, h.symm.hasPassword_of_earlier hs hj hi hfirst⟩
      · exact Or.inl ⟨hlast, h.hasPassword_of_earlier hs hi hj hlast⟩

/-! # Two changes at once -/

namespace Sample

def otherChange : Request :=
  .changePassword subject.id "old password" "newer password"

/-- Two changes that have both verified the old password. -/
def weighed : Service where
  world := { world with drawn := ⟨2, 0, 0, 0⟩ }
  tasks := [⟨change, facade.replacePassword subject.id "new password"⟩,
    ⟨otherChange, facade.replacePassword subject.id "newer password"⟩]
  history := [⟨0, knows subject.id (some subject)⟩,
    ⟨0, verified "old password" subject.passwordHash⟩,
    ⟨1, knows subject.id (some subject)⟩,
    ⟨1, verified "old password" subject.passwordHash⟩]

def weighing : List Action :=
  .start change :: List.replicate 2 (.advance 0) ++
    .start otherChange :: List.replicate 2 (.advance 1)

theorem run_weighing : (idle world).run facade weighing = weighed := by
  have hvalid : facade.policy.validate "new password" = .ok () := by decide +kernel
  have hvalid' : facade.policy.validate "newer password" = .ok () := by decide +kernel
  have hfound : world.readClock.2.store.subjects.findById subject.id = some subject :=
    findById_world
  have hchange := turns_changePassword (f := facade) findById_world verify_passwordHash rfl
    (by decide) hvalid
  have hother := turns_changePassword (f := facade) hfound verify_passwordHash rfl (by decide)
    hvalid'
  unfold weighing
  rw [run_append]
  refine (congrArg (fun s => run facade s _) (run_start 2 (idle world) change)).trans ?_
  simp only [change, Request.flow, idle, hchange]
  refine (run_start 2 _ otherChange).trans ?_
  simp only [otherChange, Request.flow, hother]
  rfl

def overtaking : List Action :=
  List.replicate 10 (.advance 0) ++ List.replicate 10 (.advance 1)

def overtaken : Service :=
  (idle world).run facade (weighing ++ overtaking)

theorem overtaken_eq : overtaken = weighed.run facade overtaking := by
  unfold overtaken
  rw [run_append, run_weighing]

theorem reachable_idle : Reachable facade (idle world) :=
  ⟨world, fresh_world, Reaches.refl _⟩

theorem answered_overtaken :
    overtaken.Answered 0 change (.ok ()) ∧ overtaken.Answered 1 otherChange (.ok ()) := by
  rw [overtaken_eq]
  constructor
  · apply answered_of_answer?
    rfl
  · apply answered_of_answer?
    rfl

theorem rivals_overtaken :
    Rivals facade (idle world) (weighing ++ overtaking) subject.id 0 1 where
  distinct := by decide
  first := rfl
  second := rfl
  enrolled := by
    intro x hx
    simp [weighing, overtaking] at hx
  alone := by
    have hall : ∀ k ∈ overtaken.history.map Entry.task, k = 0 ∨ k = 1 := by
      rw [overtaken_eq]
      decide +kernel
    intro later hist e he _ _
    refine hall e.task (List.mem_map_of_mem ?_)
    unfold overtaken
    rw [hist]
    exact List.mem_append_right _ he

end Sample

/-- Both changes succeed, and one of the two hashes has replaced the other one. -/
theorem last_change_stays_overtaken :
    Reachable Sample.facade (idle Sample.world) ∧
      Rivals Sample.facade (idle Sample.world) (Sample.weighing ++ Sample.overtaking)
        Sample.subject.id 0 1 ∧
      ∃ x hash y hash',
        Stored Sample.facade Sample.overtaken 0 Sample.subject.id "new password" x hash ∧
        Stored Sample.facade Sample.overtaken 1 Sample.subject.id "newer password" y hash' ∧
        (Sample.overtaken.HasPassword Sample.subject.id hash ∨
          Sample.overtaken.HasPassword Sample.subject.id hash') := by
  have hs := Sample.reachable_idle
  have hrivals := Sample.rivals_overtaken
  rcases Sample.answered_overtaken with ⟨hfirst, hsecond⟩
  rcases last_change_stays hs hrivals hfirst hsecond with ⟨_, hok, hok', _, hboth⟩
  rcases hok rfl with ⟨hash, hmarked⟩
  rcases hok' rfl with ⟨hash', hmarked'⟩
  rcases hboth hash hash' hmarked hmarked' with ⟨x, y, hstored, hstored', _, _, hlast⟩
  refine ⟨hs, hrivals, x, hash, y, hash', hstored, hstored', ?_⟩
  rcases hlast with ⟨_, hpassword⟩ | ⟨_, hpassword⟩
  · exact Or.inl hpassword
  · exact Or.inr hpassword

/-- Two changes of a password that show the same current password may both succeed. -/
theorem not_one_change :
    ¬ ∀ (f : Session.Facade) (s : Service) (actions : List Action) (subject : SubjectId)
      (i j : Nat) (current new new' : String), Reachable f s → Rivals f s actions subject i j →
      new ≠ current → new' ≠ current →
      ¬ ((s.run f actions).Answered i (.changePassword subject current new) (.ok ()) ∧
        (s.run f actions).Answered j (.changePassword subject current new') (.ok ())) := by
  intro hclaim
  exact hclaim Sample.facade (idle Sample.world) (Sample.weighing ++ Sample.overtaking)
    Sample.subject.id 0 1 "old password" "new password" "newer password" Sample.reachable_idle
    Sample.rivals_overtaken (by decide) (by decide) Sample.answered_overtaken

end Service

end SessionAuth
