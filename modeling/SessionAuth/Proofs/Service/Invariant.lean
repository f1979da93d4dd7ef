import SessionAuth.Proofs.Service.Conduct
import SessionAuth.Proofs.Service.Runs
import SessionAuth.Proofs.Service.Testimony
import SessionAuth.Proofs.Store.Calls

/-!
# The invariant of a service

Whatever requests are in flight and however their turns are interleaved, every request follows
its script, the table of refresh records is coherent, every answer given so far is a testimony
about the present table, and all that is in the table can be laid at the door of a turn.
-/

namespace SessionAuth

open Time Refresh

namespace Service

variable {f : Session.Facade}

/-! # What a script allows -/

theorem Issued.succeeds {i : Access.Issuer} {past : List Turn} {subject : SubjectId}
    {r next : Record} {generation : Int} {secret : Secret}
    (h : Issued i past subject r.family generation secret next)
    (hgeneration : Session.nextGeneration r.generation = .ok generation)
    (hsubject : subject = r.subject) : next.Succeeds r := by
  have hnext : generation = r.generation + 1 := by
    unfold Session.nextGeneration at hgeneration
    split at hgeneration
    · exact (Except.ok.inj hgeneration).symm
    · cases hgeneration
  cases h with
  | mk _ _ _ =>
      exact ⟨Record.unused_issue _ _ _ _ _ _ _, rfl, hsubject, hnext⟩

theorem Issued.drawn {i : Access.Issuer} {past : List Turn} {subject : SubjectId}
    {family : FamilyId} {generation : Int} {secret : Secret} {r : Record}
    (h : Issued i past subject family generation secret r) : ⟨.freshId, r.id.uuid⟩ ∈ past := by
  cases h with
  | mk _ _ hid => exact hid

theorem mem_calls_of_stores {past : List Turn} {turn : Turn} {r : Record} (h : turn ∈ past)
    (hstores : turn.Stores r) : turn ∈ Turn.calls past := by
  rcases hstores with rfl | ⟨id, rfl⟩
  · exact Turn.mem_calls_store.mpr h
  · exact Turn.mem_calls_store.mpr h

theorem Request.Asks.issued_of_stores {q : Request} {past : List Turn} {c : Store.Call}
    {a : c.Reply} (h : q.Asks f past c) {r : Record} (hstores : (Turn.answered c a).Stores r) :
    (∃ subject family generation secret,
      Issued f.issuer past subject family generation secret r ∧
        (generation = 0 ∨ ∃ n, Session.nextGeneration n = .ok generation)) ∧
      ∀ turn ∈ Turn.calls past, ∀ x, ¬ turn.Stores x := by
  rcases hstores with hopened | ⟨id, hexchanged⟩
  · injection hopened with he _
    injection he with hc
    subst hc
    cases h with
    | enter hcalls _ _ hissued =>
        refine ⟨⟨_, _, _, _, hissued, Or.inl rfl⟩, ?_⟩
        rw [hcalls]
        rintro turn hturn x (rfl | ⟨id, rfl⟩) <;> simp at hturn
    | inspect _ hreads => cases hreads
  · injection hexchanged with he _
    injection he with hc
    subst hc
    cases h with
    | exchange hcalls _ _ hgeneration hissued =>
        refine ⟨⟨_, _, _, _, hissued, Or.inr ⟨_, hgeneration⟩⟩, ?_⟩
        rw [hcalls]
        rintro turn hturn x (rfl | ⟨id, rfl⟩) <;> simp at hturn
    | inspect _ hreads => cases hreads

theorem Request.Asks.drawn_of_stores {q : Request} {past : List Turn} {c : Store.Call}
    {a : c.Reply} (h : q.Asks f past c) {r : Record} (hstores : (Turn.answered c a).Stores r) :
    ⟨.freshId, r.id.uuid⟩ ∈ past := by
  rcases (h.issued_of_stores hstores).left with ⟨_, _, _, _, hissued, _⟩
  exact hissued.drawn

section Accounting

variable {s u : Store} {now : Instant} {past : List Turn}

theorem accounts_of_reads {c : Store.Call} {a : c.Reply} (hs : s.tokens.Coherent)
    (hkeyed : s.subjects.Keyed) (hreads : reads c = true) (h : s.perform now c = .ok (a, u)) :
    Accounts (Turn.answered c a) s.tokens u.tokens := by
  rw [Store.perform_of_reads hreads h]
  cases c with
  | findByHash hash =>
      rw [Store.perform_findByHash h]
      exact Accounts.findByHash hs hash
  | findById id =>
      refine Accounts.other ?_ (by simp) (by simp)
      have ha := Store.perform_findById h
      cases a with
      | none => trivial
      | some x => exact hkeyed.findById ha.symm
  | findByIdentifier identifier => exact Accounts.other trivial (by simp) (by simp)
  | activeRecords subject => exact Accounts.other trivial (by simp) (by simp)
  | findResource id => exact Accounts.other trivial (by simp) (by simp)
  | findActiveGrant subject resource => exact Accounts.other trivial (by simp) (by simp)
  | grantHistory subject resource => exact Accounts.other trivial (by simp) (by simp)
  | _ => cases hreads

theorem known_of_found (hs : s.tokens.Coherent) (hattested : ∀ t ∈ past, t.Attests s.tokens)
    {p : Secret} {r : Record} {rest : List Turn}
    (hcalls : Turn.calls past = found p (some r) :: rest) :
    (∃ x, s.tokens.records.get? r.id = some x ∧ r.Evolves x) ∧
      ∃ g, s.tokens.families.get? r.family = some g := by
  have hmem : found p (some r) ∈ Turn.calls past := by
    rw [hcalls]
    exact List.mem_cons_self
  have hfound : (found p (some r)).Attests s.tokens :=
    hattested _ (Turn.mem_of_mem_calls hmem)
  rcases hfound with ⟨_, x, hx, hrx⟩
  rcases hs.listed r.id x hx with ⟨g, hg, _⟩
  rw [hrx.family] at hg
  exact ⟨⟨x, hx, hrx⟩, g, hg⟩

theorem accounts_of_revokeFamily {fam : FamilyId} {reason : Reason} {n : Nat}
    (hknown : ∃ g, s.tokens.families.get? fam = some g)
    (h : s.perform now (.revokeFamily fam reason) = .ok (n, u)) :
    Accounts (withdrew fam reason n) s.tokens u.tokens := by
  have haccounts := Accounts.revokeFamily hknown now reason
  rw [(Store.perform_revokeFamily h).left] at haccounts
  exact haccounts

theorem accounts_of_sweep {subject : SubjectId} {reason : Reason} {families : List FamilyId}
    (h : s.perform now (.revokeSubjectFamilies subject reason) = .ok (families, u)) :
    Accounts (swept subject reason families) s.tokens u.tokens := by
  have haccounts := Accounts.revokeSubjectFamilies (t := s.tokens) now subject reason
  rw [(Store.perform_revokeSubjectFamilies h).left] at haccounts
  exact haccounts

theorem accounts_of_asks {q : Request} {c : Store.Call} {a : c.Reply} (hs : s.tokens.Coherent)
    (hkeyed : s.subjects.Keyed) (hattested : ∀ t ∈ past, t.Attests s.tokens)
    (hfresh : ∀ id : RecordId, ⟨.freshId, id.uuid⟩ ∈ past →
      (∀ t ∈ Turn.calls past, ∀ r, ¬ t.Stores r) → s.tokens.records.get? id = none)
    (hasks : q.Asks f past c) (h : s.perform now c = .ok (a, u)) :
    Accounts (Turn.answered c a) s.tokens u.tokens := by
  cases hasks with
  | identify => exact accounts_of_reads hs hkeyed rfl h
  | find => exact accounts_of_reads hs hkeyed rfl h
  | know => exact accounts_of_reads hs hkeyed rfl h
  | leave => exact accounts_of_reads hs hkeyed rfl h
  | prove => exact accounts_of_reads hs hkeyed rfl h
  | list => exact accounts_of_reads hs hkeyed rfl h
  | inspect _ hreads => exact accounts_of_reads hs hkeyed hreads h
  | enter hcalls _ _ hissued =>
      have hid := hfresh _ hissued.drawn (by
        rw [hcalls]
        rintro t ht r (rfl | ⟨id, rfl⟩) <;> simp at ht)
      cases hissued with
      | mk _ _ _ =>
          exact Accounts.insert (Store.perform_insert h).left hid
            (Record.unused_issue _ _ _ _ _ _ _) rfl
  | remember =>
      rw [(Store.perform_recordAuthentication h).left]
      exact Accounts.other trivial (by simp) (by simp)
  | mark =>
      rw [(Store.perform_markPasswordChanged h).left]
      exact Accounts.other trivial (by simp) (by simp)
  | exchange hcalls hstate husable hgeneration hissued =>
      rename_i r x next generation secret
      rcases (known_of_found hs hattested hcalls).left with ⟨y, hy, hry⟩
      have hsubject : x.id = r.subject := by
        have hknows : knows r.subject (some x) ∈ Turn.calls past := by
          rw [hcalls]
          simp
        exact hattested _ (Turn.mem_of_mem_calls hknows)
      have hid := hfresh next.id hissued.drawn (by
        rw [hcalls]
        rintro t ht r (rfl | ⟨id, rfl⟩) <;> simp at ht)
      refine Accounts.transition hs (Store.perform_transition h).left ⟨y, hy⟩ ?_ hid
      intro z hz
      rw [hy] at hz
      cases hz
      have hnew := hissued.succeeds hgeneration hsubject
      exact ⟨hnew.toUnused, hnew.family.trans hry.family.symm, hnew.subject.trans hry.subject.symm,
        by rw [hnew.generation, hry.generation]⟩
  | reuse hcalls _ =>
      exact accounts_of_revokeFamily (known_of_found hs hattested hcalls).right h
  | race hcalls =>
      exact accounts_of_revokeFamily (known_of_found hs hattested hcalls).right h
  | bar hcalls _ =>
      exact accounts_of_revokeFamily (known_of_found hs hattested hcalls).right h
  | close hcalls =>
      exact accounts_of_revokeFamily (known_of_found hs hattested hcalls).right h
  | sweep => exact accounts_of_sweep h
  | sweepAgain => exact accounts_of_sweep h
  | sweepAll => exact accounts_of_sweep h

end Accounting

/-! # The invariant -/

/-- What holds of a service at any time. -/
structure Invariant (f : Session.Facade) (s : Service) : Prop where
  keyed : s.world.store.subjects.Keyed
  coherent : s.tokens.Coherent
  begun : ∀ e ∈ s.history, e.task < s.tasks.length
  kept : ∀ i q x, s.tasks[i]? = some ⟨q, x⟩ →
    Flow.Keeps (q.Allows f) (q.Ends f) (s.past i) x
  attested : ∀ e ∈ s.history, e.turn.Attests s.tokens
  drawn : ∀ i u, ⟨i, ⟨.freshId, u⟩⟩ ∈ s.history →
    ∃ n, n < s.world.drawn.ids ∧ s.world.supply.ids n = u
  owned : ∀ i j u, ⟨i, ⟨.freshId, u⟩⟩ ∈ s.history → ⟨j, ⟨.freshId, u⟩⟩ ∈ s.history → i = j
  stored : ∀ id r, s.tokens.records.get? id = some r →
    ∃ e ∈ s.history, ⟨e.task, ⟨.freshId, id.uuid⟩⟩ ∈ s.history ∧
      ∃ q, e.turn.Stores q ∧ q.id = id
  exclusive : ∀ e ∈ s.history, ∀ e' ∈ s.history, ∀ id, e.turn.Exchanges id →
    e'.turn.Exchanges id → e = e'
  consumed : ∀ id r, s.tokens.records.get? id = some r → r.state = .consumed →
    ∃ e ∈ s.history, e.turn.Exchanges id
  seen : ∀ e ∈ s.history, ∀ id, e.turn.SeesExchanged id → ∃ e' ∈ s.history, e'.turn.Exchanges id
  withdrawn : ∀ fam g, s.tokens.families.get? fam = some g → g.isRevoked = true →
    ∃ e ∈ s.history, e.turn.Withdraws fam

namespace Invariant

theorem of_fresh {w : World} (hw : Fresh w) : Invariant f (idle w) := by
  have htokens : (idle w).tokens = .empty := hw.tokens
  constructor
  case keyed => exact hw.keyed
  case coherent =>
      rw [htokens]
      exact Table.coherent_empty
  case stored =>
      intro id r h
      rw [htokens] at h
      cases h
  case consumed =>
      intro id r h
      rw [htokens] at h
      cases h
  case withdrawn =>
      intro fam g h
      rw [htokens] at h
      cases h
  case begun =>
      intro e h
      cases h
  case kept =>
      intro i q x h
      cases h
  case attested =>
      intro e h
      cases h
  case drawn =>
      intro i u h
      cases h
  case owned =>
      intro i j u h
      cases h
  case exclusive =>
      intro e h
      cases h
  case seen =>
      intro e h
      cases h

theorem ofTasks {s : Service} (hs : Invariant f s) :
    OfTasks (fun q past x => Flow.Keeps (q.Allows f) (q.Ends f) past x) s :=
  ⟨hs.begun, hs.kept⟩

/-! # One turn -/

section Turn

variable {s t : Service} {e : Entry}

theorem allows (hs : Invariant f s) (h : Takes s e t) :
    ∃ q x, s.tasks[e.task]? = some ⟨q, x⟩ ∧ q.Allows f (s.past e.task) e.turn.effect := by
  cases h with
  | mk htask hmeets =>
      have hkept := hs.kept _ _ _ htask
      exact ⟨_, _, htask, (Flow.keeps_step.mp hkept).left⟩

theorem fresh (hs : Invariant f s) {i : Nat} (id : RecordId)
    (hdrawn : ⟨.freshId, id.uuid⟩ ∈ s.past i)
    (hnone : ∀ turn ∈ Turn.calls (s.past i), ∀ r, ¬ turn.Stores r) :
    s.tokens.records.get? id = none := by
  cases hid : s.tokens.records.get? id with
  | none => rfl
  | some r =>
      rcases hs.stored id r hid with ⟨e, he, hother, q, hstores, _⟩
      have htask : e.task = i := hs.owned _ _ _ hother (mem_past.mp hdrawn)
      have hpast : e.turn ∈ s.past i := mem_past.mpr (by rw [← htask]; exact he)
      exact absurd hstores (hnone e.turn (mem_calls_of_stores hpast hstores) q)

theorem accounts (hs : Invariant f s) (h : Takes s e t) : Accounts e.turn s.tokens t.tokens := by
  rcases hs.allows h with ⟨q, x, hx, hallows⟩
  cases h with
  | mk htask hmeets =>
      rename_i i q' effect next r w
      cases effect with
      | store c =>
          rcases hmeets.store_cases with ⟨error, rfl, hstore⟩ | ⟨now, a, rfl, hperform⟩
          · have htokens : w.store.tokens = s.tokens := by rw [hstore]
            change Accounts _ s.tokens w.store.tokens
            rw [htokens]
            apply Accounts.idle _
            intro c' a' heq
            injection heq with hc hr
            injection hc with hc
            subst hc
            cases hr
          · have hattested : ∀ turn ∈ s.past i, turn.Attests s.tokens :=
              fun turn hturn => hs.attested _ (mem_past.mp hturn)
            exact accounts_of_asks hs.coherent hs.keyed hattested hs.fresh hallows hperform
      | _ =>
          have htokens : w.store.tokens = s.tokens := by rw [hmeets.store_eq rfl]
          change Accounts _ s.tokens w.store.tokens
          rw [htokens]
          apply Accounts.idle _
          intro c a heq
          injection heq with hc _
          cases hc

theorem keyed_of_takes (hs : Invariant f s) (h : Takes s e t) :
    t.world.store.subjects.Keyed := by
  cases h with
  | mk htask hmeets =>
      rename_i i q effect next r w
      change w.store.subjects.Keyed
      cases effect with
      | store c =>
          rcases hmeets.store_cases with ⟨error, rfl, hstore⟩ | ⟨now, a, rfl, hperform⟩
          · rw [hstore]
            exact hs.keyed
          · exact Store.keyed_perform hs.keyed hperform
      | _ =>
          rw [hmeets.store_eq rfl]
          exact hs.keyed

theorem kept_of_takes (hs : Invariant f s) (h : Takes s e t) (i : Nat) (q : Request)
    (x : Flow q.Reply) (htask : t.tasks[i]? = some ⟨q, x⟩) :
    Flow.Keeps (q.Allows f) (q.Ends f) (t.past i) x := by
  apply (hs.ofTasks.takes ?_ h).holds i q x htask
  intro q past e next r hkeeps
  exact (Flow.keeps_step.mp hkeeps).right r

theorem freshId_of_takes {i : Nat} {u : Uuid} (h : Takes s ⟨i, ⟨.freshId, u⟩⟩ t) :
    u = s.world.supply.ids s.world.drawn.ids ∧ t.world.drawn.ids = s.world.drawn.ids + 1 := by
  cases h with
  | mk _ hmeets => exact hmeets.freshId_eq

theorem mem_history_of_takes (h : Takes s e t) {x : Entry} :
    x ∈ t.history ↔ x ∈ s.history ∨ x = e := by
  rw [h.history_eq, List.mem_append, List.mem_singleton]

theorem drawn_of_takes (hs : Invariant f s) (h : Takes s e t) (i : Nat) (u : Uuid)
    (hu : ⟨i, ⟨.freshId, u⟩⟩ ∈ t.history) :
    ∃ n, n < t.world.drawn.ids ∧ t.world.supply.ids n = u := by
  have hstep : Step f s t := Step.turn h
  rw [hstep.supply_eq]
  rcases (mem_history_of_takes h).mp hu with hold | rfl
  · rcases hs.drawn i u hold with ⟨n, hn, heq⟩
    exact ⟨n, Nat.lt_of_lt_of_le hn hstep.precedes.ids, heq⟩
  · rcases freshId_of_takes h with ⟨hu', hnext⟩
    exact ⟨s.world.drawn.ids, by rw [hnext]; exact Nat.lt_succ_self _, hu'.symm⟩

theorem not_drawn_before (hs : Invariant f s) (hd : t.DistinctIds) {i j : Nat} {u : Uuid}
    (h : Takes s ⟨i, ⟨.freshId, u⟩⟩ t) : ⟨j, ⟨.freshId, u⟩⟩ ∉ s.history := by
  intro hold
  have hstep : Step f s t := Step.turn h
  rcases freshId_of_takes h with ⟨hu, hnext⟩
  rcases hs.drawn j u hold with ⟨n, hn, heq⟩
  have hsame : n = s.world.drawn.ids := by
    apply hd n s.world.drawn.ids
    · omega
    · omega
    · rw [hstep.supply_eq, heq, hu]
  omega

theorem owned_of_takes (hs : Invariant f s) (hd : t.DistinctIds) (h : Takes s e t) (i j : Nat)
    (u : Uuid) (hi : ⟨i, ⟨.freshId, u⟩⟩ ∈ t.history) (hj : ⟨j, ⟨.freshId, u⟩⟩ ∈ t.history) :
    i = j := by
  rcases (mem_history_of_takes h).mp hi with hi | hi
  · rcases (mem_history_of_takes h).mp hj with hj | hj
    · exact hs.owned i j u hi hj
    · rw [← hj] at h
      exact absurd hi (hs.not_drawn_before hd h)
  · rcases (mem_history_of_takes h).mp hj with hj | hj
    · rw [← hi] at h
      exact absurd hj (hs.not_drawn_before hd h)
    · rw [← hj] at hi
      injection hi

theorem drawn_of_stores (hs : Invariant f s) (h : Takes s e t) {r : Record}
    (hstores : e.turn.Stores r) : ⟨e.task, ⟨.freshId, r.id.uuid⟩⟩ ∈ s.history := by
  rcases hs.allows h with ⟨q, x, _, hallows⟩
  rcases e with ⟨i, turn⟩
  rcases hstores.exists_answered with ⟨c, a, rfl⟩
  exact mem_past.mp (Request.Asks.drawn_of_stores (f := f) hallows hstores)

theorem not_exchanged_before (hs : Invariant f s) (h : Takes s e t) {id : RecordId}
    (hexchanged : e.turn.Exchanges id) {e' : Entry} (he' : e' ∈ s.history) :
    ¬ e'.turn.Exchanges id := by
  intro hx
  rcases hx with ⟨next, hnext⟩
  rcases (hs.accounts h).exchanged id hexchanged with ⟨r, hr, hactive⟩
  have hattested := hs.attested e' he'
  rw [hnext] at hattested
  rcases hattested.left with ⟨q, hq, hspent⟩
  rw [hr] at hq
  cases hq
  exact hspent hactive

theorem of_takes (hs : Invariant f s) (hd : t.DistinctIds) (h : Takes s e t) :
    Invariant f t := by
  have haccounts := hs.accounts h
  have hevolves := Table.Evolves.changes haccounts.changes
  have hmem : ∀ {x : Entry}, x ∈ t.history ↔ x ∈ s.history ∨ x = e := mem_history_of_takes h
  have hnew : e ∈ t.history := hmem.mpr (Or.inr rfl)
  constructor
  case keyed => exact hs.keyed_of_takes h
  case coherent => exact hs.coherent.changes haccounts.changes
  case begun =>
      intro x hx
      rw [h.length_tasks]
      rcases hmem.mp hx with hold | rfl
      · exact hs.begun x hold
      · exact h.task_lt
  case kept => exact hs.kept_of_takes h
  case attested =>
      intro x hx
      rcases hmem.mp hx with hold | rfl
      · exact (hs.attested x hold).evolves hevolves
      · exact haccounts.attests
  case drawn => exact hs.drawn_of_takes h
  case owned => exact hs.owned_of_takes hd h
  case stored =>
      intro id r hr
      rcases haccounts.stored id r hr with ⟨q, hq⟩ | ⟨q, hstores, hid⟩
      · rcases hs.stored id q hq with ⟨x, hx, hdrawn, hstored⟩
        exact ⟨x, hmem.mpr (Or.inl hx), hmem.mpr (Or.inl hdrawn), hstored⟩
      · have hdrawn := hs.drawn_of_stores h hstores
        rw [hid] at hdrawn
        exact ⟨e, hnew, hmem.mpr (Or.inl hdrawn), q, hstores, hid⟩
  case exclusive =>
      intro x hx y hy id hxid hyid
      rcases hmem.mp hx with hx | rfl
      · rcases hmem.mp hy with hy | rfl
        · exact hs.exclusive x hx y hy id hxid hyid
        · exact absurd hxid (hs.not_exchanged_before h hyid hx)
      · rcases hmem.mp hy with hy | rfl
        · exact absurd hyid (hs.not_exchanged_before h hxid hy)
        · rfl
  case consumed =>
      intro id r hr hstate
      rcases haccounts.consumed id r hr hstate with ⟨q, hq, hstate'⟩ | hexchanged
      · rcases hs.consumed id q hq hstate' with ⟨x, hx, hexchanged⟩
        exact ⟨x, hmem.mpr (Or.inl hx), hexchanged⟩
      · exact ⟨e, hnew, hexchanged⟩
  case seen =>
      intro x hx id hseen
      have hbefore : ∃ y ∈ s.history, y.turn.Exchanges id := by
        rcases hmem.mp hx with hold | rfl
        · exact hs.seen x hold id hseen
        · rcases haccounts.seen id hseen with ⟨r, hr, hstate⟩
          exact hs.consumed id r hr hstate
      rcases hbefore with ⟨y, hy, hexchanged⟩
      exact ⟨y, hmem.mpr (Or.inl hy), hexchanged⟩
  case withdrawn =>
      intro fam g hg hrevoked
      rcases haccounts.withdrawn fam g hg hrevoked with ⟨g', hg', hrevoked'⟩ | hwithdraws
      · rcases hs.withdrawn fam g' hg' hrevoked' with ⟨x, hx, hwithdraws⟩
        exact ⟨x, hmem.mpr (Or.inl hx), hwithdraws⟩
      · exact ⟨e, hnew, hwithdraws⟩

end Turn

/-! # One action -/

theorem of_start {s : Service} (hs : Invariant f s) (q : Request) :
    Invariant f (s.start f q) where
  keyed := hs.keyed
  coherent := hs.coherent
  begun := (hs.ofTasks.start (Request.keeps f) q).begun
  kept := (hs.ofTasks.start (Request.keeps f) q).holds
  attested := hs.attested
  drawn := hs.drawn
  owned := hs.owned
  stored := hs.stored
  exclusive := hs.exclusive
  consumed := hs.consumed
  seen := hs.seen
  withdrawn := hs.withdrawn

theorem of_operate {s : Service} (hs : Invariant f s) (o : Operation) :
    Invariant f (s.operate o) := by
  have htokens : (s.operate o).tokens = s.tokens := Operation.tokens_apply _ _ o
  constructor
  case keyed => exact o.keyed_apply hs.keyed _
  case coherent =>
      rw [htokens]
      exact hs.coherent
  case begun => exact hs.begun
  case kept => exact hs.kept
  case attested =>
      rw [htokens]
      exact hs.attested
  case drawn => exact hs.drawn
  case owned => exact hs.owned
  case stored =>
      rw [htokens]
      exact hs.stored
  case exclusive => exact hs.exclusive
  case consumed =>
      rw [htokens]
      exact hs.consumed
  case seen => exact hs.seen
  case withdrawn =>
      rw [htokens]
      exact hs.withdrawn

/-- Every action keeps the invariant, as long as the identifiers that were drawn are distinct. -/
theorem of_step {s t : Service} (hs : Invariant f s) (h : Step f s t) (hd : t.DistinctIds) :
    Invariant f t := by
  cases h with
  | idle => exact hs
  | start q => exact hs.of_start q
  | turn h => exact hs.of_takes hd h
  | operate o => exact hs.of_operate o

end Invariant

/-! # All runs -/

/-- The invariant holds of every service that has come from a fresh world. -/
theorem Reachable.invariant {s : Service} (h : Reachable f s) :
    s.DistinctIds → Invariant f s := by
  rcases h with ⟨w, hw, hrun⟩
  refine hrun.induction (P := fun s => s.DistinctIds → Invariant f s)
    (fun _ => Invariant.of_fresh hw) ?_
  intro s t _ ih hstep _ hd
  exact (ih (hd.of_step hstep)).of_step hstep hd

theorem Step.evolves {s t : Service} (h : Step f s t) (hs : Invariant f s) :
    s.tokens.Evolves t.tokens := by
  cases h with
  | idle => exact Table.Evolves.refl _
  | start q => exact Table.Evolves.refl _
  | turn h => exact Table.Evolves.changes (hs.accounts h).changes
  | operate o =>
      have htokens : (s.operate o).tokens = s.tokens := Operation.tokens_apply _ _ o
      rw [htokens]
      exact Table.Evolves.refl _

/-- The table of refresh records only ever evolves. -/
theorem Reachable.evolves {s t : Service} (hs : Reachable f s) (hst : Reaches f s t) :
    t.DistinctIds → s.tokens.Evolves t.tokens := by
  refine hst.induction (P := fun t => t.DistinctIds → s.tokens.Evolves t.tokens)
    (fun _ => Table.Evolves.refl _) ?_
  intro u v hu ih hstep _ hd
  have hdu := hd.of_step hstep
  exact (ih hdu).trans (hstep.evolves ((hs.trans hu).invariant hdu))

theorem Answered.ends {s : Service} (hs : Invariant f s) {i : Nat} {q : Request} {a : q.Reply}
    (h : s.Answered i q a) : q.Ends f (s.past i) a :=
  hs.kept i q (.done a) h

end Service

end SessionAuth
