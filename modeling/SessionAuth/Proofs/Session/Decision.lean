import SessionAuth.Proofs.Flow.Uninterrupted
import SessionAuth.Proofs.Refresh.Effects
import SessionAuth.Proofs.Service.Shape

/-!
# The decision about a presented secret

A rotation that nothing interrupts looks at the record of the secret, at the clock and at the
subject, in this order, and does exactly one of six things.  Each of them is described by its
answer and by all that it changes in the store.
-/

namespace SessionAuth

open Time Refresh Encoding Crypto

namespace Session

open Access World

variable (i : Issuer) (w : World) {p : Secret} {r : Record}

/-! # The parts of a rotation -/

theorem run_findPresented {α : Type} (f : Option Record → Flow α) :
    w.run (findPresented p >>= f) =
      w.tick.run (f ((w.store.tokens.findByHash p.hash).filter (fun r => r.belongsTo p))) := rfl

/-- A secret is unknown if the store gives no record for its hash, and also if it gives one that
does not belong to the secret. -/
theorem run_rotate_of_stranger
    (h : (w.store.tokens.findByHash p.hash).filter (fun r => r.belongsTo p) = none) :
    w.run (rotate i p) = (.ok (.error .unknown), w.tick) := by
  unfold rotate
  rw [run_findPresented, h]
  rfl

theorem run_rotate_of_unknown (h : w.store.tokens.findByHash p.hash = none) :
    w.run (rotate i p) = (.ok (.error .unknown), w.tick) := by
  apply run_rotate_of_stranger
  rw [h]
  rfl

theorem run_rotate_of_revoked (h : w.store.tokens.findByHash p.hash = some r)
    (hhash : r.belongsTo p = true) (hstate : r.state = .revoked) :
    w.run (rotate i p) =
      (.ok (.error (.familyRevoked r.subject r.family)),
        w.tick.note (.refreshOnRevokedFamily r.family)) := by
  unfold rotate
  rw [run_findPresented, h, Option.filter_some, if_pos hhash]
  simp only [hstate]
  rfl

theorem run_rotate_of_found (h : w.store.tokens.findByHash p.hash = some r)
    (hhash : r.belongsTo p = true) (hstate : r.state ≠ .revoked) :
    w.run (rotate i p) = w.tick.tick.run
      (if r.isExpired (w.instant 1) then pure (.error (.expired r.subject r.family))
      else if r.state = .consumed then revokeForReuse r >>= fun j => pure (.error j)
      else advance i r) := by
  unfold rotate
  rw [run_findPresented, h, Option.filter_some, if_pos hhash]
  cases hs : r.state with
  | revoked => exact absurd hs hstate
  | active =>
      simp only [hs]
      rfl
  | consumed =>
      simp only [hs]
      rfl

theorem run_advance_of_usable {x : Subject} (h : w.store.subjects.findById r.subject = some x)
    (husable : x.isUsable = true) :
    w.run (advance i r) = (w.called w.store).run (exchange i x r) := by
  have hperform : w.store.perform (w.instant 0) (.findById r.subject) = .ok (some x, w.store) := by
    rw [← h]
    rfl
  unfold advance
  rw [run_call hperform]
  simp only [husable, if_true]

theorem run_advance_of_unusable
    (h : ∀ x, w.store.subjects.findById r.subject = some x → x.isUsable = false) :
    w.run (advance i r) =
      (w.called w.store).run (revokeForSubject r >>= fun j => pure (.error j)) := by
  unfold advance
  cases hx : w.store.subjects.findById r.subject with
  | none =>
      have hperform : w.store.perform (w.instant 0) (.findById r.subject) =
          .ok (none, w.store) := by
        rw [← hx]
        rfl
      rw [run_call hperform]
  | some x =>
      have hperform : w.store.perform (w.instant 0) (.findById r.subject) =
          .ok (some x, w.store) := by
        rw [← hx]
        rfl
      rw [run_call hperform]
      simp only [h x hx, Bool.false_eq_true, if_false]

/-- What is left of a rotation once the record has been found active and its subject usable. -/
theorem run_rotate_of_usable (h : w.store.tokens.findByHash p.hash = some r)
    (hhash : r.belongsTo p = true) (hstate : r.state = .active)
    (hfresh : ¬ r.expiresAt ≤ w.instant 1) {x : Subject}
    (hx : w.store.subjects.findById r.subject = some x) (husable : x.isUsable = true) :
    w.run (rotate i p) = (w.tick.tick.called w.store).run (exchange i x r) := by
  have htime : r.isExpired (w.instant 1) = false := decide_eq_false hfresh
  rw [run_rotate_of_found i w h hhash (by simp [hstate]), htime, if_neg Bool.false_ne_true,
    if_neg (by simp [hstate])]
  exact run_advance_of_usable i w.tick.tick hx husable

theorem gives_revokeForReuse :
    w.Gives (revokeForReuse r >>= fun j => pure (.error j) : Flow (Except Rejection Rotated))
      (.error (.reuseDetected r.subject r.family
        (w.store.tokens.revokeFamily (w.instant 0) r.family .reuseDetected).1))
      { w.store with
        tokens := (w.store.tokens.revokeFamily (w.instant 0) r.family .reuseDetected).2 } :=
  ⟨rfl, rfl⟩

theorem gives_revokeForSubject :
    w.Gives (revokeForSubject r >>= fun j => pure (.error j) : Flow (Except Rejection Rotated))
      (.error (.subjectInactive r.subject r.family))
      { w.store with
        tokens := (w.store.tokens.revokeFamily (w.instant 0) r.family .subjectRevoked).2 } :=
  ⟨rfl, rfl⟩

/-! # The parts of an exchange -/

theorem run_issueAccess_of_error {α : Type} {e : Halt} {subject : SubjectId} {admin : Bool}
    {family : Option FamilyId}
    (h : i.issueAccess (w.instant 0) ⟨w.uuid 0⟩ subject admin family = .error e)
    (next : Credential → Flow α) :
    w.run (issueAccess i subject admin family >>= next) = (.error e, w.tick.drawId.2) := by
  apply World.run_bind_of_error
  change w.tick.drawId.2.run
    (Flow.ofExcept (i.issueAccess (w.instant 0) ⟨w.uuid 0⟩ subject admin family)) = _
  rw [h]
  rfl

theorem run_issueAccess_of_ok {α : Type} {access : Credential} {subject : SubjectId} {admin : Bool}
    {family : Option FamilyId}
    (h : i.issueAccess (w.instant 0) ⟨w.uuid 0⟩ subject admin family = .ok access)
    (next : Credential → Flow α) :
    w.run (issueAccess i subject admin family >>= next) = w.tick.drawId.2.run (next access) := by
  apply World.run_bind_of_ok
  change w.tick.drawId.2.run
    (Flow.ofExcept (i.issueAccess (w.instant 0) ⟨w.uuid 0⟩ subject admin family)) = _
  rw [h]
  rfl

theorem run_exchange_of_unsigned {x : Subject} {e : Halt}
    (haccess : i.issueAccess (w.instant 0) ⟨w.uuid 0⟩ x.id x.admin (some r.family) = .error e) :
    w.run (exchange i x r) = (.error e, w.tick.drawId.2) :=
  run_issueAccess_of_error i w haccess _

theorem run_exchange_of_uncounted {x : Subject} {access : Credential} {e : Halt}
    (haccess : i.issueAccess (w.instant 0) ⟨w.uuid 0⟩ x.id x.admin (some r.family) = .ok access)
    (hnext : nextGeneration r.generation = .error e) :
    w.run (exchange i x r) = (.error e, w.tick.drawId.2) := by
  unfold exchange
  rw [run_issueAccess_of_ok i w haccess, hnext]
  rfl

def conclude (x : Subject) (r : Record) (access : Credential) (generation : Int) (secret : Secret)
    (successor : Record) : Transition → Flow (Except Rejection Rotated)
  | .applied => do
      Flow.note (.refreshRotated r.family generation)
      return .ok ⟨x.id, r.family, generation, r.id, access, secret, successor.expiresAt⟩
  | .stateMismatch .consumed => return .error (← revokeForReuse r)
  | .stateMismatch _ => return .error (.familyRevoked r.subject r.family)
  | .familyRevoked => return .error (.familyRevoked r.subject r.family)
  | .notFound => return .error .unknown

def prepared (w : World) : World :=
  w.tick.drawId.2.drawSecret.2.tick.drawId.2

def issued (i : Issuer) (w : World) (x : Subject) (r : Record) (generation : Int) : Record :=
  i.issueRefresh (w.instant 1) ⟨w.uuid 1⟩ w.secret x.id r.family generation

theorem run_exchange_of_signed {x : Subject} {access : Credential} {generation : Int}
    (hnext : nextGeneration r.generation = .ok generation)
    (haccess : i.issueAccess (w.instant 0) ⟨w.uuid 0⟩ x.id x.admin (some r.family) = .ok access) :
    w.run (exchange i x r) = (prepared w).run
      (Flow.call (.transition r.id .active .consumed (some (issued i w x r generation))) >>=
        conclude x r access generation w.secret (issued i w x r generation)) := by
  unfold exchange issueRefresh
  rw [run_issueAccess_of_ok i w haccess, hnext]
  change (prepared w).run (Flow.call (.transition r.id .active .consumed
    (some (issued i w x r generation))) >>= _) = _
  congr 2
  funext o
  rcases o with _ | (_ | _ | _) | _ | _ <;> rfl

/-- The record that the exchange of another one issues. -/
def successor (r : Record) : Record :=
  Record.issue (w.instant 1) ⟨w.uuid 1⟩ r.subject r.family (r.generation + 1) w.secret
    i.refreshLifetime

theorem gives_exchange {x : Subject} {access : Credential} {t : Table}
    (hgeneration : r.generation < maxGeneration) (hsubject : x.id = r.subject)
    (haccess : i.issueAccess (w.instant 0) ⟨w.uuid 0⟩ x.id x.admin (some r.family) = .ok access)
    (htransition : w.store.tokens.transition (w.instant 2) r.id .active .consumed
      (some (successor i w r)) = .ok (.applied, t)) :
    w.Gives (exchange i x r)
      (.ok ⟨r.subject, r.family, r.generation + 1, r.id, access, w.secret,
        (successor i w r).expiresAt⟩)
      { w.store with tokens := t } := by
  have hnext : nextGeneration r.generation = .ok (r.generation + 1) := by
    unfold nextGeneration
    rw [if_pos hgeneration]
  have hissued : issued i w x r (r.generation + 1) = successor i w r := by
    unfold issued
    rw [hsubject]
    rfl
  have hperform : (prepared w).store.perform ((prepared w).instant 0)
      (.transition r.id .active .consumed (some (successor i w r))) =
      .ok (.applied, { w.store with tokens := t }) := by
    change w.store.perform (w.instant 2) _ = _
    simp only [Store.perform, htransition]
    rfl
  unfold Gives
  rw [run_exchange_of_signed i w hnext haccess, hissued, run_call hperform, ← hsubject]
  exact ⟨rfl, rfl⟩

/-! # The whole decision -/

section Decision

variable {w} (ht : w.store.tokens.Coherent) {id : RecordId}
  (hr : w.store.tokens.records.get? id = some r) (hhash : r.tokenHash = p.hash)

theorem gives_rotate_of_unknown (ht : w.store.tokens.Coherent)
    (h : ∀ id r, w.store.tokens.records.get? id = some r → r.tokenHash ≠ p.hash) :
    w.Gives (rotate i p) (.error .unknown) w.store := by
  have hnone : w.store.tokens.findByHash p.hash = none := by
    cases hfound : w.store.tokens.findByHash p.hash with
    | none => rfl
    | some r =>
        rcases ht.get?_of_findByHash hfound with ⟨hstored, hhash⟩
        exact absurd hhash (h _ r hstored)
  unfold Gives
  rw [run_rotate_of_unknown i w hnone]
  exact ⟨rfl, rfl⟩

include ht hr hhash

theorem findByHash_presented :
    w.store.tokens.findByHash p.hash = some r ∧ r.belongsTo p = true := by
  refine ⟨?_, ?_⟩
  · rw [← hhash]
    exact ht.findByHash_of_get? hr
  · simp [Record.belongsTo, hhash]

theorem gives_rotate_of_revoked (hstate : r.state = .revoked) :
    w.Gives (rotate i p) (.error (.familyRevoked r.subject r.family)) w.store := by
  rcases findByHash_presented ht hr hhash with ⟨hfound, hown⟩
  unfold Gives
  rw [run_rotate_of_revoked i w hfound hown hstate]
  exact ⟨rfl, rfl⟩

theorem gives_rotate_of_expired (hstate : r.state ≠ .revoked)
    (hexpired : r.expiresAt ≤ w.instant 1) :
    w.Gives (rotate i p) (.error (.expired r.subject r.family)) w.store := by
  rcases findByHash_presented ht hr hhash with ⟨hfound, hown⟩
  have htime : r.isExpired (w.instant 1) = true := decide_eq_true hexpired
  unfold Gives
  rw [run_rotate_of_found i w hfound hown hstate, if_pos htime]
  exact ⟨rfl, rfl⟩

theorem gives_rotate_of_consumed (hstate : r.state = .consumed)
    (hfresh : ¬ r.expiresAt ≤ w.instant 1) :
    ∃ t, w.Gives (rotate i p)
        (.error (.reuseDetected r.subject r.family (w.store.tokens.differing t)))
        { w.store with tokens := t } ∧
      Table.Withdrawal w.store.tokens t r.family (w.instant 2) .reuseDetected := by
  rcases findByHash_presented ht hr hhash with ⟨hfound, hown⟩
  have hne : r.state ≠ .revoked := by simp [hstate]
  rcases ht.live_of_get? hr hne with ⟨g, hg, hlive⟩
  have htime : r.isExpired (w.instant 1) = false := decide_eq_false hfresh
  refine ⟨_, ?_, ht.withdrawal hg hlive _ _⟩
  rw [← ht.revokeFamily_fst]
  unfold Gives
  rw [run_rotate_of_found i w hfound hown hne, htime, if_neg Bool.false_ne_true, if_pos hstate]
  exact gives_revokeForReuse w.tick.tick

theorem run_rotate_of_active (hstate : r.state = .active) (hfresh : ¬ r.expiresAt ≤ w.instant 1) :
    w.run (rotate i p) = w.tick.tick.run (advance i r) := by
  rcases findByHash_presented ht hr hhash with ⟨hfound, hown⟩
  have htime : r.isExpired (w.instant 1) = false := decide_eq_false hfresh
  rw [run_rotate_of_found i w hfound hown (by simp [hstate]), htime, if_neg Bool.false_ne_true,
    if_neg (by simp [hstate])]

theorem gives_rotate_of_unusable (hstate : r.state = .active)
    (hfresh : ¬ r.expiresAt ≤ w.instant 1)
    (hunusable : ∀ x, w.store.subjects.get? r.subject = some x → x.isUsable = false) :
    ∃ t, w.Gives (rotate i p) (.error (.subjectInactive r.subject r.family))
        { w.store with tokens := t } ∧
      Table.Withdrawal w.store.tokens t r.family (w.instant 3) .subjectRevoked := by
  rcases ht.live_of_get? hr (by simp [hstate]) with ⟨g, hg, hlive⟩
  have hnone : ∀ x, w.store.subjects.findById r.subject = some x → x.isUsable = false := by
    intro x hx
    exact hunusable x (Option.filter_eq_some_iff.mp hx).left
  refine ⟨_, ?_, ht.withdrawal hg hlive _ _⟩
  unfold Gives
  rw [run_rotate_of_active i ht hr hhash hstate hfresh, run_advance_of_unusable i w.tick.tick hnone]
  exact gives_revokeForSubject (w.tick.tick.called w.store)

theorem gives_rotate_of_usable (hkeyed : w.store.subjects.Keyed) (hstate : r.state = .active)
    (hfresh : ¬ r.expiresAt ≤ w.instant 1) {x : Subject} {access : Credential}
    (hx : w.store.subjects.get? r.subject = some x) (husable : x.isUsable = true)
    (hgeneration : r.generation < maxGeneration)
    (haccess : i.issueAccess (w.instant 3) ⟨w.uuid 0⟩ r.subject x.admin (some r.family) =
      .ok access)
    (hid : w.store.tokens.records.get? ⟨w.uuid 1⟩ = none)
    (hnew : w.store.tokens.byHash.get? w.secret.hash = none) {next : Record}
    (hnext : next = Record.issue (w.instant 4) ⟨w.uuid 1⟩ r.subject r.family (r.generation + 1)
      w.secret i.refreshLifetime) :
    ∃ t, w.Gives (rotate i p)
        (.ok ⟨r.subject, r.family, r.generation + 1, r.id, access, w.secret, next.expiresAt⟩)
        { w.store with tokens := t } ∧
      Table.Succession w.store.tokens t r next (w.instant 5) := by
  subst hnext
  have hsubject : x.id = r.subject := hkeyed r.subject x hx
  have hfound : w.store.subjects.findById r.subject = some x := by
    unfold Directory.findById
    rw [hx, Option.filter_some, if_pos]
    unfold Subject.isUsable at husable
    exact (Bool.and_eq_true_iff.mp husable).right
  have hstored : w.store.tokens.records.get? r.id = some r := by
    rw [ht.keyed id r hr]
    exact hr
  have htransition : w.store.tokens.transition (w.instant 5) r.id .active .consumed
      (some (successor i (w.tick.tick.called w.store) r)) = .ok (.applied, _) :=
    ht.transition_of_active hstored hstate rfl hnew
  refine ⟨_, ?_, Table.succession hstored hid rfl⟩
  rw [← hsubject] at haccess
  unfold Gives
  rw [run_rotate_of_active i ht hr hhash hstate hfresh, run_advance_of_usable i w.tick.tick
    hfound husable]
  exact gives_exchange i (w.tick.tick.called w.store) hgeneration hsubject haccess htransition

end Decision

/-- In every state that a service comes to, a rotation that nothing interrupts decides on what it
finds.  The hash of a secret is the digest of its text in hexadecimal digits.  A secret whose hash
no record has is unknown, and one whose record is withdrawn is refused.  Then comes the age of the
record, even if it has been exchanged.  A record that has been exchanged takes its family down, and
so does an active one whose subject is not there or may not act.  Any other record is exchanged for
a successor of the next generation. -/
theorem rotate_decides {f : Facade} {s : Service} (hs : Service.Reachable f s)
    (hd : s.DistinctIds) (i : Issuer) (w : World) (hw : w.store = s.world.store) (p : Secret) :
    ((∀ id r, w.store.tokens.records.get? id = some r →
        r.tokenHash ≠ String.ofList (Hex.encode (Sha256.digest p.text.toUTF8.toList))) →
      w.Gives (rotate i p) (.error .unknown) w.store) ∧
    ∀ id r, w.store.tokens.records.get? id = some r →
      r.tokenHash = String.ofList (Hex.encode (Sha256.digest p.text.toUTF8.toList)) →
      (r.state = .revoked →
        w.Gives (rotate i p) (.error (.familyRevoked r.subject r.family)) w.store) ∧
      (r.state ≠ .revoked → r.expiresAt ≤ w.instant 1 →
        w.Gives (rotate i p) (.error (.expired r.subject r.family)) w.store) ∧
      (r.state = .consumed → ¬ r.expiresAt ≤ w.instant 1 →
        ∃ t, w.Gives (rotate i p)
            (.error (.reuseDetected r.subject r.family (w.store.tokens.differing t)))
            { w.store with tokens := t } ∧
          Table.Withdrawal w.store.tokens t r.family (w.instant 2) .reuseDetected) ∧
      (r.state = .active → ¬ r.expiresAt ≤ w.instant 1 →
        (∀ x, w.store.subjects.get? r.subject = some x → x.isUsable = false) →
        ∃ t, w.Gives (rotate i p) (.error (.subjectInactive r.subject r.family))
            { w.store with tokens := t } ∧
          Table.Withdrawal w.store.tokens t r.family (w.instant 3) .subjectRevoked) ∧
      ∀ x access next, r.state = .active → ¬ r.expiresAt ≤ w.instant 1 →
        w.store.subjects.get? r.subject = some x → x.isUsable = true →
        r.generation < maxGeneration →
        i.issueAccess (w.instant 3) ⟨w.uuid 0⟩ r.subject x.admin (some r.family) = .ok access →
        w.store.tokens.records.get? ⟨w.uuid 1⟩ = none →
        w.store.tokens.byHash.get? w.secret.hash = none →
        next = Record.issue (w.instant 4) ⟨w.uuid 1⟩ r.subject r.family (r.generation + 1) w.secret
          i.refreshLifetime →
        ∃ t, w.Gives (rotate i p)
            (.ok ⟨r.subject, r.family, r.generation + 1, r.id, access, w.secret, next.expiresAt⟩)
            { w.store with tokens := t } ∧
          Table.Succession w.store.tokens t r next (w.instant 5) := by
  have hinv := hs.invariant hd
  have ht : w.store.tokens.Coherent := by
    rw [hw]
    exact hinv.coherent
  have hkeyed : w.store.subjects.Keyed := by
    rw [hw]
    exact hinv.keyed
  refine ⟨gives_rotate_of_unknown i ht, ?_⟩
  intro id r hr hhash
  refine ⟨?_, ?_, ?_, ?_, ?_⟩
  · exact gives_rotate_of_revoked i ht hr hhash
  · exact gives_rotate_of_expired i ht hr hhash
  · exact gives_rotate_of_consumed i ht hr hhash
  · exact gives_rotate_of_unusable i ht hr hhash
  · intro x access next hstate hfresh hx husable hgeneration haccess hid hnew hnext
    exact gives_rotate_of_usable i ht hr hhash hkeyed hstate hfresh hx husable hgeneration haccess
      hid hnew hnext

open Service

/-- A secret that has been exchanged takes its family down when it comes back. -/
theorem rotate_decides_reused :
    ∃ r, Sample.rotated.tokens.findByHash Sample.secret.hash = some r ∧ r.state = .consumed ∧
      ∃ t, Sample.rotated.world.Gives (rotate Sample.issuer Sample.secret)
          (.error (.reuseDetected r.subject r.family (Sample.rotated.tokens.differing t)))
          { Sample.rotated.world.store with tokens := t } ∧
        Table.Withdrawal Sample.rotated.tokens t r.family (Sample.rotated.world.instant 2)
          .reuseDetected := by
  have hs : Reachable Sample.facade Sample.rotated := Sample.reachable_run _
  have hobserved : Sample.rotated.world.drawn.ids ≤ Nat.pow 256 16 ∧
      (Sample.rotated.tokens.findByHash Sample.secret.hash).any
        (fun r => r.state == .consumed && !r.isExpired (Sample.rotated.world.instant 1)) =
        true := by
    decide +kernel
  rcases hobserved with ⟨hdrawn, hfound⟩
  have hd : Sample.rotated.DistinctIds := Sample.distinctIds_run hdrawn
  rcases (Option.any_eq_true _ _).mp hfound with ⟨r, hr, hshape⟩
  rw [Bool.and_eq_true, beq_iff_eq, Bool.not_eq_true'] at hshape
  rcases (hs.invariant hd).coherent.get?_of_findByHash hr with ⟨hstored, hhash⟩
  rcases (rotate_decides hs hd Sample.issuer Sample.rotated.world rfl Sample.secret).right _ r
    hstored hhash with ⟨_, _, hreused, _⟩
  exact ⟨r, hr, hshape.left, hreused hshape.left (of_decide_eq_false hshape.right)⟩

end Session
end SessionAuth
