import SessionAuth.Proofs.Password.RoundTrip
import SessionAuth.Proofs.Service.Runs
import SessionAuth.Proofs.Service.Scripts

/-!
# Requests that nothing interrupts

A request that takes some turns in a row goes on as its flow does alone in the world.  In this way
a login and a change of a password come to the point where the password has been verified, without
a look at what the hash function computes.
-/

namespace SessionAuth

open Time Refresh

namespace World

/-- What a flow does in its next turns if nothing interrupts it: the turns, the rest of the flow
and the world that they leave. -/
def turns {α : Type} : Nat → World → Flow α → List Turn × Flow α × World
  | n + 1, w, .step e next =>
      let (r, w) := w.answer e
      let (later, rest) := w.turns n (next r)
      (⟨e, r⟩ :: later, rest)
  | _, w, x => ([], x, w)

theorem turns_zero {α : Type} (w : World) (x : Flow α) : w.turns 0 x = ([], x, w) := by
  cases x <;> rfl

theorem turns_done {α : Type} (n : Nat) (w : World) (a : α) :
    w.turns n (.done a) = ([], .done a, w) := by
  cases n <;> rfl

theorem turns_halt {α : Type} (n : Nat) (w : World) (h : Halt) :
    w.turns n (.halt h : Flow α) = ([], .halt h, w) := by
  cases n <;> rfl

end World

namespace Service

variable {f : Session.Facade}

/-! # Turns in a row -/

theorem step_advance {s : Service} {i : Nat} {q : Request} {e : Effect}
    {next : e.Reply → Flow q.Reply} (h : s.tasks[i]? = some ⟨q, .step e next⟩) :
    s.step f (.advance i) = s.turn i q e next (s.world.answer e) := by
  simp only [step, h]

theorem run_replicate (n : Nat) (w : World) (tasks : List Task) (q : Request) (x : Flow q.Reply)
    (history : List Entry) :
    run f ⟨w, tasks ++ [⟨q, x⟩], history⟩ (List.replicate n (.advance tasks.length)) =
      ⟨(w.turns n x).2.2, tasks ++ [⟨q, (w.turns n x).2.1⟩],
        history ++ (w.turns n x).1.map (Entry.mk tasks.length)⟩ := by
  induction n generalizing w x history with
  | zero =>
      rw [World.turns_zero]
      simp [run]
  | succ n ih =>
      have htask : (tasks ++ [(⟨q, x⟩ : Task)])[tasks.length]? = some ⟨q, x⟩ :=
        List.getElem?_concat_length
      cases x with
      | step e next =>
          have hset : ∀ t : Task, (tasks ++ [(⟨q, .step e next⟩ : Task)]).set tasks.length t =
              tasks ++ [t] := by
            intro t
            rw [List.set_append_right _ _ (Nat.le_refl _), Nat.sub_self, List.set_cons_zero]
          change run f (step f _ (.advance tasks.length)) _ = _
          rw [step_advance htask]
          simp only [turn, hset, ih]
          simp [World.turns]
      | done a =>
          change run f (step f _ (.advance tasks.length)) _ = _
          simp only [step, htask]
          rw [ih, World.turns_done, World.turns_done]
      | halt h =>
          change run f (step f _ (.advance tasks.length)) _ = _
          simp only [step, htask]
          rw [ih, World.turns_halt, World.turns_halt]

theorem run_start (n : Nat) (s : Service) (q : Request) :
    s.run f (.start q :: List.replicate n (.advance s.tasks.length)) =
      ⟨(s.world.turns n (q.flow f)).2.2, s.tasks ++ [⟨q, (s.world.turns n (q.flow f)).2.1⟩],
        s.history ++ (s.world.turns n (q.flow f)).1.map (Entry.mk s.tasks.length)⟩ :=
  run_replicate n s.world s.tasks q (q.flow f) s.history

/-! # The right password -/

section Verified

variable {w : World} {x : Subject}

theorem answer_verify {password stored : String}
    (h : Password.verify password stored = .same) :
    w.answer (.verify password stored) = (.same, w) := by
  simp [World.answer, World.verify, World.noticesOf, h]

theorem turns_login {identifier password : String}
    (hfound : w.store.subjects.findByIdentifier identifier = some x)
    (hverify : Password.verify password x.passwordHash = .same) (husable : x.isUsable = true) :
    w.turns 2 (f.login identifier password) =
      ([named identifier (some x), verified password x.passwordHash], f.openSession x,
        w.readClock.2) := by
  have hanswer : w.answer (.store (.findByIdentifier identifier)) =
      (.ok (some x), w.readClock.2) := by
    rw [← hfound]
    rfl
  simp [Session.Facade.login, Flow.call, Flow.perform, World.turns, hanswer,
    answer_verify hverify, Password.Verification.accepts, husable]

theorem turns_changePassword {subject : SubjectId} {current new : String}
    (hfound : w.store.subjects.findById subject = some x)
    (hverify : Password.verify current x.passwordHash = .same) (husable : x.isUsable = true)
    (hnew : current ≠ new) (hvalid : f.policy.validate new = .ok ()) :
    w.turns 2 (f.changePassword subject current new) =
      ([knows subject (some x), verified current x.passwordHash],
        f.replacePassword subject new, w.readClock.2) := by
  have hanswer : w.answer (.store (.findById subject)) = (.ok (some x), w.readClock.2) := by
    rw [← hfound]
    rfl
  simp [Session.Facade.changePassword, Flow.call, Flow.perform, World.turns, hanswer,
    answer_verify hverify, Password.Verification.accepts, husable, hnew, hvalid]

end Verified

/-! # Observations -/

def answer? (s : Service) (i : Nat) (q : Request) : Option q.Reply :=
  match s.tasks[i]? with
  | some ⟨q', .done a⟩ => if h : q' = q then some (h ▸ a) else none
  | _ => none

theorem answered_of_answer? {s : Service} {i : Nat} {q : Request} {a : q.Reply}
    (h : s.answer? i q = some a) : s.Answered i q a := by
  unfold answer? at h
  split at h
  case h_1 q' a' htask =>
      split at h
      case isTrue heq =>
          subst heq
          cases h
          exact htask
      case isFalse => cases h
  case h_2 => cases h

/-!
# A service with two requests

A subject logs in and changes its password at the same time.  Both requests have verified the old
password, and neither has gone any further.
-/

namespace Sample

def issuer : Access.Issuer where
  keys := [⟨"key", "a secret of at least thirty-two octets", false⟩]
  activeKeyId := "key"
  name := "service"
  accessLifetime := ⟨900 * nanosPerSecond, by decide⟩
  refreshLifetime := ⟨604800 * nanosPerSecond, by decide⟩

def facade : Session.Facade where
  cost := ⟨19456, 2, 1⟩
  issuer := issuer
  policy := .standard

def salt (n : Nat) : Password.Salt :=
  ⟨List.replicate 16 (UInt8.ofNat n)⟩

def subject : Subject where
  id := ⟨Uuid.ofNat 1000⟩
  email := "ada@example.org"
  username := "ada"
  passwordHash := (Password.hash facade.cost (salt 0) "old password").text
  active := true
  admin := false
  deletedAt := none
  lastAuthenticatedAt := none
  passwordChangedAt := none
  createdAt := .epoch

def supply : Supply where
  clock := fun _ => .epoch
  ids := Uuid.ofNat
  secrets := fun n => .ofOctets [UInt8.ofNat n]
  salts := salt

def world : World :=
  ⟨supply, ⟨0, 0, 0, 0⟩, ⟨⟨[(subject.id, subject)], by simp⟩, .empty, .empty⟩, [], []⟩

def login : Request :=
  .login "ada@example.org" "old password"

def change : Request :=
  .changePassword subject.id "old password" "new password"

def family : FamilyId :=
  ⟨Uuid.ofNat 0⟩

def secret : Secret :=
  supply.secrets 0

/-- The service after both verifications. -/
def underway : Service where
  world := { world with drawn := ⟨2, 0, 0, 0⟩ }
  tasks := [⟨login, facade.openSession subject⟩,
    ⟨change, facade.replacePassword subject.id "new password"⟩]
  history := [⟨0, named "ada@example.org" (some subject)⟩,
    ⟨0, verified "old password" subject.passwordHash⟩,
    ⟨1, knows subject.id (some subject)⟩,
    ⟨1, verified "old password" subject.passwordHash⟩]

theorem verify_passwordHash : Password.verify "old password" subject.passwordHash = .same :=
  Password.verify_text_hash facade.cost (salt 0) "old password" rfl (by decide) (by decide)
    (by decide) (by decide)

theorem fresh_world : Fresh world where
  tokens := rfl
  keyed := by
    intro id s h
    change List.lookup id [(subject.id, subject)] = some s at h
    rw [List.lookup_cons] at h
    split at h
    · rename_i heq
      cases h
      exact (beq_iff_eq.mp heq).symm
    · cases h

theorem findByIdentifier_world :
    world.store.subjects.findByIdentifier "ada@example.org" = some subject := by
  have hemail : subject.matchesEmail "ada@example.org" = true :=
    beq_self_eq_true (foldIdentifier "ada@example.org")
  have hpresent : subject.isDeleted = false := rfl
  simp [world, Directory.findByIdentifier, Registry.values, Subject.findNamed?, hemail, hpresent]

theorem findById_world : world.store.subjects.findById subject.id = some subject := by
  have hpresent : subject.isDeleted = false := rfl
  simp [world, Directory.findById, Registry.get?, hpresent]

/-- Whatever is drawn, the first login comes to the point where the password has been verified. -/
theorem run_verified (f : Session.Facade) (drawing : Supply) :
    run f (idle { world with supply := drawing })
        (.start login :: List.replicate 2 (.advance 0)) =
      ⟨{ world.readClock.2 with supply := drawing }, [⟨login, f.openSession subject⟩],
        [⟨0, named "ada@example.org" (some subject)⟩,
          ⟨0, verified "old password" subject.passwordHash⟩]⟩ := by
  have hlogin := turns_login (f := f) (w := { world with supply := drawing })
    findByIdentifier_world verify_passwordHash rfl
  refine (run_start 2 (idle { world with supply := drawing }) login).trans ?_
  simp only [idle, login, Request.flow, hlogin]
  rfl

theorem reaches_verified : Reaches facade (idle world)
    ⟨world.readClock.2, [⟨login, facade.openSession subject⟩],
      [⟨0, named "ada@example.org" (some subject)⟩,
        ⟨0, verified "old password" subject.passwordHash⟩]⟩ :=
  ⟨_, run_verified facade supply⟩

theorem reaches_underway : Reaches facade (idle world) underway := by
  have hvalid : facade.policy.validate "new password" = .ok () := by decide +kernel
  have hfound : world.readClock.2.store.subjects.findById subject.id = some subject :=
    findById_world
  have hchange := turns_changePassword (f := facade) hfound verify_passwordHash rfl (by decide)
    hvalid
  refine reaches_verified.trans ⟨_, (run_start 2 _ change).trans ?_⟩
  simp only [change, Request.flow, hchange]
  rfl

theorem reachable_run (actions : List Action) :
    Reachable facade (underway.run facade actions) :=
  ⟨world, fresh_world, reaches_underway.trans ⟨actions, rfl⟩⟩

theorem distinctIds_of_supply {s : Service} (hids : s.world.supply.ids = Uuid.ofNat)
    (h : s.world.drawn.ids ≤ Nat.pow 256 16) : s.DistinctIds := by
  intro m n hm hn heq
  rw [hids] at heq
  have hoctets : Encoding.littleEndian 16 m = Encoding.littleEndian 16 n :=
    List.reverse_inj.mp (congrArg Uuid.octets heq)
  have hm' := Encoding.ofLittleEndian_littleEndian 16 m (Nat.lt_of_lt_of_le hm h)
  have hn' := Encoding.ofLittleEndian_littleEndian 16 n (Nat.lt_of_lt_of_le hn h)
  rw [← hm', ← hn', hoctets]

theorem distinctIds_run {actions : List Action}
    (h : (underway.run facade actions).world.drawn.ids ≤ Nat.pow 256 16) :
    (underway.run facade actions).DistinctIds :=
  distinctIds_of_supply
    (congrArg Supply.ids (Reaches.supply_eq (f := facade) (s := underway) ⟨actions, rfl⟩)) h

end Sample

end Service

end SessionAuth
