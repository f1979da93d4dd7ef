import SessionAuth.Proofs.Service.Withdrawal

/-!
# Changing a password while logins are in flight

A change of a password withdraws all families of the subject, stores the new hash, and withdraws
all families once more.  A login reads the hash, verifies a password against it and adds its
family in turns of their own, so that a family may be added for a password that has been replaced
since.  Whether it survives depends on its place among the turns of the change.
-/

namespace SessionAuth

open Time Refresh

namespace Service

variable {f : Session.Facade}

/-! # Families of logins -/

/-- A family with an active record. -/
def Live (s : Service) (fam : FamilyId) : Prop :=
  ∃ id r, s.tokens.records.get? id = some r ∧ r.family = fam ∧ r.state = .active

/-- A login that was answered with a family after it had verified its password against a hash. -/
def Opened (s : Service) (i : Nat) (subject : SubjectId) (hash : String) (fam : FamilyId) : Prop :=
  ∃ identifier password tokens, s.Answered i (.login identifier password) (.ok tokens) ∧
    verified password hash ∈ s.past i ∧ tokens.subject = subject ∧ tokens.family = fam

namespace Invariant

variable {s : Service} (hs : Invariant f s)
include hs

/-- A family that was opened by a login was added by it in one turn. -/
theorem added_of_opened {i : Nat} {subject : SubjectId} {hash : String} {fam : FamilyId}
    (h : s.Opened i subject hash fam) :
    ∃ r, opened r ∈ s.past i ∧ r.family = fam ∧ r.subject = subject ∧
      ∀ q, opened q ∈ s.past i → q = r := by
  rcases h with ⟨identifier, password, tokens, hanswered, _, hsubject, hfamily⟩
  have hends : LogsIn f identifier password (s.past i) (.ok tokens) := hanswered.ends hs
  generalize hresult : (Except.ok tokens : Except Failure Session.Tokens) = result at hends
  cases hends with
  | refused hcalls => cases hresult
  | opened hcalls hverified husable hissued =>
      rename_i x family secret record access t
      cases hresult
      refine ⟨record, Turn.mem_of_calls hcalls (by simp), ?_, ?_, ?_⟩
      · rw [← hfamily]
        cases hissued with
        | mk _ _ _ => rfl
      · rw [← hsubject]
        cases hissued with
        | mk _ _ _ => rfl
      · intro q hq
        have hmem := Turn.mem_calls_store.mpr hq
        rw [hcalls] at hmem
        simpa using hmem

theorem family_of_added {i : Nat} {r : Record} (h : ⟨i, opened r⟩ ∈ s.history) :
    ∃ g, s.tokens.families.get? r.family = some g ∧ g.subject = r.subject := by
  rcases hs.attested _ h with ⟨⟨q, hq, hrq⟩, g, hg⟩
  have hsubject := hs.coherent.subject_eq hg hq hrq.family
  exact ⟨g, hg, hsubject.symm.trans hrq.subject⟩

theorem live_iff {fam : FamilyId} {g : Family} (hg : s.tokens.families.get? fam = some g) :
    s.Live fam ↔ ¬ s.Withdrawn fam := by
  apply (hs.coherent.exists_active_iff hg).trans
  constructor
  · intro hlive h
    rcases h with ⟨g', hg', hrevoked⟩
    rw [hg] at hg'
    cases hg'
    rw [hlive] at hrevoked
    cases hrevoked
  · intro hnot
    cases hrevoked : g.isRevoked with
    | false => rfl
    | true => exact absurd ⟨g, hg, hrevoked⟩ hnot

end Invariant

/-! # Single turns -/

theorem Takes.withdrawn_of_swept {s t : Service} {i : Nat} {subject : SubjectId}
    {reason : Reason} {families : List FamilyId}
    (h : Takes s ⟨i, swept subject reason families⟩ t) {fam : FamilyId} {g : Family}
    (hg : t.tokens.families.get? fam = some g) (hsubject : g.subject = subject) :
    t.Withdrawn fam := by
  rcases h.perform with ⟨now, hperform⟩
  have htable := (Store.perform_revokeSubjectFamilies hperform).left
  have hfamilies : (s.tokens.revokeSubjectFamilies now subject reason).2.families.get? fam =
      some g := by
    rw [htable]
    exact hg
  exact ⟨g, hg, Accounts.isRevoked_of_sweep hfamilies hsubject⟩

theorem Takes.not_withdrawn_of_opened {s t : Service} {i : Nat} {r : Record}
    (h : Takes s ⟨i, opened r⟩ t) : ¬ s.Withdrawn r.family := by
  intro hx
  rcases hx with ⟨g, hg, _⟩
  rcases h.perform with ⟨now, hperform⟩
  have hnone := (Table.insert_eq_ok (Store.perform_insert hperform).left).left
  rw [hg] at hnone
  cases hnone

/-!
# Before and after a withdrawal

At some moment all families of a subject are withdrawn.  Those that were added before are gone for
good, and those that are added later have nothing to do with it.
-/

section Swept

variable {s t : Service} (hs : Reachable f s) (hst : Reaches f s t) (hd : t.DistinctIds)
  {i : Nat} {subject : SubjectId} {hash : String} {fam : FamilyId}
  (hopened : t.Opened i subject hash fam)
include hs hst hd hopened

/-- A family that is live was not there when the families of its subject were withdrawn. -/
theorem added_later_of_live {u : Service} {c : Nat} {reason : Reason} {families : List FamilyId}
    (hswept : Takes u ⟨c, swept subject reason families⟩ s) (hlive : t.Live fam) :
    ∃ r, opened r ∈ t.past i ∧ ⟨i, opened r⟩ ∉ s.history := by
  have hinv := (hs.trans hst).invariant hd
  rcases hinv.added_of_opened hopened with ⟨r, hadded, hfamily, hsubject, _⟩
  rcases hinv.family_of_added (mem_past.mp hadded) with ⟨g, hg, _⟩
  rw [hfamily] at hg
  refine ⟨r, hadded, ?_⟩
  intro hearly
  rcases (hs.invariant (hd.of_reaches hst)).family_of_added hearly with ⟨g', hg', hsame⟩
  have hwithdrawn := hswept.withdrawn_of_swept hg' (hsame.trans hsubject)
  rw [hfamily] at hwithdrawn
  exact (hinv.live_iff hg).mp hlive (hwithdrawn.later hs hst hd)

/-- A family that is added later is live as long as nobody withdraws it. -/
theorem live_of_added_later {r : Record} {after : List Entry}
    (hist : t.history = s.history ++ after) (hlate : ⟨i, opened r⟩ ∈ after)
    (hquiet : ∀ e ∈ after, ¬ e.turn.Withdraws fam) : t.Live fam := by
  have hinv := (hs.trans hst).invariant hd
  rcases hinv.added_of_opened hopened with ⟨q, hadded, hfamily, _, honly⟩
  rcases hinv.family_of_added (mem_past.mp hadded) with ⟨g, hg, _⟩
  rw [hfamily] at hg
  have hsame : r = q := by
    apply honly
    rw [mem_past, hist]
    exact List.mem_append_right _ hlate
  apply (hinv.live_iff hg).mpr
  intro h
  rcases h with ⟨g', hg', hrevoked⟩
  -- Whoever has withdrawn the family did so before it was added.
  rcases hinv.withdrawn fam g' hg' hrevoked with ⟨e, he, hwithdraws⟩
  rw [hist] at he
  rcases List.mem_append.mp he with hearly | hnew
  · have hwithdrawn :=
      (hs.invariant (hd.of_reaches hst)).withdrawn_of_withdraws hearly hwithdraws
    rcases List.append_of_mem hlate with ⟨xs, ys, hafter⟩
    have hist' : t.history = s.history ++ xs ++ ⟨i, opened r⟩ :: ys := by
      rw [hist, hafter, List.append_assoc]
    rcases hst.split hist' with ⟨u, v, hsu, _, hadds, huv, hvt⟩
    have hdu := hd.of_reaches (huv.trans hvt)
    have hnone := hadds.not_withdrawn_of_opened
    rw [hsame, hfamily] at hnone
    exact hnone (hwithdrawn.later hs hsu hdu)
  · exact hquiet e hnew hwithdraws

end Swept

/-! # Every run -/

/-- A change of a password that has succeeded has withdrawn the families of its subject after it
had stored the new hash.  Of the families that logins of the subject have opened, with the replaced
hash or any other, exactly those are live that were added after that withdrawal and that nobody
has withdrawn since.  So a login that has verified the replaced password and is late to add its
family escapes the change. -/
theorem live_iff_added_late {s : Service} (hs : Reachable f s) (hd : s.DistinctIds) {c : Nat}
    {subject : SubjectId} {current new : String}
    (hc : s.Answered c (.changePassword subject current new) (.ok ())) :
    ∃ before families after hash,
      s.history = before ++ ⟨c, swept subject .passwordChange families⟩ :: after ∧
      ⟨c, marked subject hash⟩ ∈ before ∧
      ∀ i stored fam, s.Opened i subject stored fam →
        (s.Live fam ↔
          (∃ r, ⟨i, opened r⟩ ∈ after) ∧ ∀ e ∈ after, ¬ e.turn.Withdraws fam) := by
  have hinv := hs.invariant hd
  have hends : Changes f subject current new (s.past c) (.ok ()) := hc.ends hinv
  generalize hresult : (Except.ok () : Except Failure Unit) = result at hends
  cases hends with
  | refused hcalls => cases hresult
  | changed hcalls hverified husable hsalt =>
      rename_i x salt first families
      have hsplit : Turn.calls (s.past c) =
          [knows subject (some x), swept subject .passwordChange first,
            marked subject (Password.hash f.cost salt new).text] ++
          swept subject .passwordChange families :: [] := hcalls
      rcases exists_split_of_calls hsplit with ⟨before, after, hist, hearlier⟩
      refine ⟨before, families, after, (Password.hash f.cost salt new).text, hist,
        hearlier _ (by simp), ?_⟩
      rcases hs with ⟨w, hw, hrun⟩
      rcases hrun.split hist with ⟨u, v, hwu, hbefore, hswept, huv, hvs⟩
      have hv : Reachable f v := ⟨w, hw, hwu.trans huv⟩
      have hist' : s.history = v.history ++ after := by
        rw [hist, hswept.history_eq, hbefore, List.append_assoc]
        rfl
      intro i stored fam hopened
      constructor
      · intro hlive
        constructor
        · rcases added_later_of_live hv hvs hd hopened hswept hlive with ⟨r, hadded, hlate⟩
          have hmem := mem_past.mp hadded
          rw [hist'] at hmem
          exact ⟨r, (List.mem_append.mp hmem).resolve_left hlate⟩
        · intro e he hwithdraws
          have hmem : e ∈ s.history := by
            rw [hist']
            exact List.mem_append_right _ he
          rcases hinv.withdrawn_of_withdraws hmem hwithdraws with ⟨g, hg, hrevoked⟩
          exact (hinv.live_iff hg).mp hlive ⟨g, hg, hrevoked⟩
      · intro h
        rcases h with ⟨⟨r, hlate⟩, hquiet⟩
        exact live_of_added_later hv hvs hd hopened hist' hlate hquiet

/-! # A login that is late -/

namespace Sample

/-- The change of the password ends before the login goes on, which has verified the old one. -/
def escaped : Service :=
  underway.run facade (List.replicate 12 (.advance 1) ++ List.replicate 13 (.advance 0))

theorem reachable_escaped : Reachable facade escaped :=
  reachable_run _

theorem distinctIds_escaped : escaped.DistinctIds :=
  distinctIds_run (by decide +kernel)

theorem changed_escaped : escaped.Answered 1 change (.ok ()) := by
  apply answered_of_answer?
  rfl

theorem mem_history_escaped {e : Entry} (he : e ∈ underway.history) : e ∈ escaped.history := by
  have hreach : Reaches facade underway escaped := ⟨_, rfl⟩
  exact hreach.mem_history he

theorem opened_escaped : escaped.Opened 0 subject.id subject.passwordHash ⟨Uuid.ofNat 1⟩ := by
  have hanswer : (escaped.answer? 0 login).any (fun (a : Except Failure Session.Tokens) =>
      a.toOption.any (fun t => t.subject == subject.id && t.family == ⟨Uuid.ofNat 1⟩)) = true := by
    decide +kernel
  rcases (Option.any_eq_true _ _).mp hanswer with ⟨a, ha, htokens⟩
  rcases (Option.any_eq_true _ _).mp htokens with ⟨tokens, hok, hshape⟩
  rw [Bool.and_eq_true, beq_iff_eq, beq_iff_eq] at hshape
  have hverified : verified "old password" subject.passwordHash ∈ escaped.past 0 :=
    mem_past.mpr (mem_history_escaped (List.mem_cons_of_mem _ List.mem_cons_self))
  cases a with
  | error failure => cases hok
  | ok x =>
      cases hok
      exact ⟨_, _, tokens, answered_of_answer? ha, hverified, hshape.left, hshape.right⟩

theorem live_escaped : escaped.Live ⟨Uuid.ofNat 1⟩ := by
  have hrecord : (escaped.tokens.records.get? ⟨Uuid.ofNat 3⟩).any
      (fun r => r.family == ⟨Uuid.ofNat 1⟩ && r.state == .active) = true := by decide +kernel
  rcases (Option.any_eq_true _ _).mp hrecord with ⟨r, hr, hshape⟩
  rw [Bool.and_eq_true, beq_iff_eq, beq_iff_eq] at hshape
  exact ⟨_, r, hr, hshape.left, hshape.right⟩

end Sample

open Sample

/-- The family of the late login is live because it was added after the last withdrawal. -/
theorem live_iff_added_late_escaped :
    Reachable facade escaped ∧ escaped.DistinctIds ∧ escaped.Answered 1 change (.ok ()) ∧
      ∃ before families after,
        escaped.history =
          before ++ ⟨1, swept subject.id .passwordChange families⟩ :: after ∧
        ∃ r, ⟨0, opened r⟩ ∈ after := by
  rcases live_iff_added_late reachable_escaped distinctIds_escaped changed_escaped with
    ⟨before, families, after, _, hist, _, hiff⟩
  have hlate := ((hiff 0 _ _ opened_escaped).mp live_escaped).left
  exact ⟨reachable_escaped, distinctIds_escaped, changed_escaped, before, families, after, hist,
    hlate⟩

/-- A change of a password does not end all sessions that were opened with the password that it
has replaced. -/
theorem not_all_sessions_ended :
    ¬ ∀ (f : Session.Facade) (s : Service) (c i : Nat) (subject : SubjectId)
      (current new stored : String) (fam : FamilyId), Reachable f s → s.DistinctIds →
      s.Answered c (.changePassword subject current new) (.ok ()) →
      verified current stored ∈ s.past c → s.Opened i subject stored fam → ¬ s.Live fam := by
  intro hclaim
  have hverified : verified "old password" subject.passwordHash ∈ escaped.past 1 := by
    refine mem_past.mpr (mem_history_escaped ?_)
    simp [underway]
  exact hclaim facade escaped 1 0 subject.id "old password" "new password" subject.passwordHash
    ⟨Uuid.ofNat 1⟩ reachable_escaped distinctIds_escaped changed_escaped hverified opened_escaped
    live_escaped

end Service

end SessionAuth
