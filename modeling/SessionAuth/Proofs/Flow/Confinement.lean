import SessionAuth.Proofs.Flow.Uninterrupted
import SessionAuth.Proofs.Refresh.Locality

/-!
# Flows that stay within a scope

A flow stays within a scope if every call that it makes on its way is about one family and about
what is new in it.  Such a flow runs alike in all worlds that agree on the scope, and it leaves
everything else as it was.
-/

namespace SessionAuth

open Time Refresh

namespace Refresh.Scope

/-! # Calls -/

/-- The calls that a scope permits. -/
inductive Permits (σ : Scope) (t : Table) : Store.Call → Prop where
  | findById (id : SubjectId) : Permits σ t (.findById id)
  | findByHash {r : Record} (hfound : t.findByHash σ.presented = some r)
      (hfamily : r.family = σ.family) : Permits σ t (.findByHash σ.presented)
  | revokeFamily (reason : Reason) : Permits σ t (.revokeFamily σ.family reason)
  | exchange {r s : Record} (hallows : σ.Allows t r s) :
      Permits σ t (.transition r.id .active .consumed (some s))

/-- Stores with the same accounts and shares that agree on a scope. -/
structure Alike (σ : Scope) (s s' : Store) : Prop where
  subjects : s.subjects = s'.subjects
  shares : s.shares = s'.shares
  tokens : σ.Agree s.tokens s'.tokens

/-- A store and a later one in which nothing beyond a scope has changed. -/
structure Within (σ : Scope) (s u : Store) : Prop where
  subjects : u.subjects = s.subjects
  shares : u.shares = s.shares
  tokens : σ.Confined s.tokens u.tokens

variable {σ : Scope} {s s' u v : Store}

theorem Within.refl (σ : Scope) (s : Store) : σ.Within s s :=
  ⟨rfl, rfl, Confined.refl σ s.tokens⟩

theorem Within.trans (h : σ.Within s u) (h' : σ.Within u v) : σ.Within s v where
  subjects := h'.subjects.trans h.subjects
  shares := h'.shares.trans h.shares
  tokens := h.tokens.trans h'.tokens

/-- How two stores answer a call: both fail alike, or both give the same answer and have changed
within a scope only, on which they still agree. -/
def AnswersAlike (σ : Scope) (s s' : Store) (now : Instant) (c : Store.Call) : Prop :=
  (∃ e, s.perform now c = .error e ∧ s'.perform now c = .error e) ∨
  ∃ a u u', s.perform now c = .ok (a, u) ∧ s'.perform now c = .ok (a, u') ∧
    u.tokens.Owns σ.family ∧ σ.Alike u u' ∧ σ.Within s u ∧ σ.Within s' u'

theorem Alike.answersAlike_of_unchanged {now : Instant} {c : Store.Call} {a : c.Reply}
    (h : σ.Alike s s') (howns : s.tokens.Owns σ.family) (hperform : s.perform now c = .ok (a, s))
    (hperform' : s'.perform now c = .ok (a, s')) : σ.AnswersAlike s s' now c :=
  Or.inr ⟨a, s, s', hperform, hperform', howns, h, Within.refl σ s, Within.refl σ s'⟩

theorem Alike.perform_revokeFamily (h : σ.Alike s s') (howns : s.tokens.Owns σ.family)
    (now : Instant) (reason : Reason) :
    σ.AnswersAlike s s' now (.revokeFamily σ.family reason) := by
  rcases h.tokens.revokeFamily now reason howns with ⟨hcount, hagree⟩
  refine Or.inr ⟨(s.tokens.revokeFamily now σ.family reason).1,
    { s with tokens := (s.tokens.revokeFamily now σ.family reason).2 },
    { s' with tokens := (s'.tokens.revokeFamily now σ.family reason).2 },
    rfl, ?_, owns_revokeFamily now reason howns, ⟨h.subjects, h.shares, hagree⟩,
    ⟨rfl, rfl, confined_revokeFamily now reason howns⟩,
    ⟨rfl, rfl, confined_revokeFamily now reason (h.tokens.owns howns)⟩⟩
  rw [hcount]
  rfl

theorem Alike.perform_exchange (h : σ.Alike s s') (howns : s.tokens.Owns σ.family) (now : Instant)
    {r next : Record} (ha : σ.Allows s.tokens r next) :
    σ.AnswersAlike s s' now (.transition r.id .active .consumed (some next)) := by
  have ha' := h.tokens.allows ha
  rcases h.tokens.transition now ha with ⟨e, he, he'⟩ | ⟨o, ho, ho'⟩ | ⟨happlied, happlied'⟩
  · refine Or.inl ⟨e, ?_, ?_⟩
    · simp only [Store.perform, he]
      rfl
    · simp only [Store.perform, he']
      rfl
  · refine h.answersAlike_of_unchanged (a := o) howns ?_ ?_
    · simp only [Store.perform, ho]
      rfl
    · simp only [Store.perform, ho']
      rfl
  · refine Or.inr ⟨.applied, { s with tokens := s.tokens.exchanged now r.id next },
      { s' with tokens := s'.tokens.exchanged now r.id next }, ?_, ?_,
      owns_exchanged now ha howns, ⟨h.subjects, h.shares, h.tokens.exchanged now ha⟩,
      ⟨rfl, rfl, confined_exchanged now ha⟩, ⟨rfl, rfl, confined_exchanged now ha'⟩⟩
    · simp only [Store.perform, happlied]
      rfl
    · simp only [Store.perform, happlied']
      rfl

/-- A call that a scope permits is answered alike wherever the scope is the same. -/
theorem Alike.perform (h : σ.Alike s s') (howns : s.tokens.Owns σ.family) (now : Instant)
    {c : Store.Call} (hc : σ.Permits s.tokens c) : σ.AnswersAlike s s' now c := by
  cases hc with
  | findById id =>
      refine h.answersAlike_of_unchanged (a := s.subjects.findById id) howns rfl ?_
      rw [h.subjects]
      rfl
  | findByHash hfound hfamily =>
      refine h.answersAlike_of_unchanged (a := s.tokens.findByHash σ.presented) howns rfl ?_
      rw [hfound, ← h.tokens.findByHash hfound hfamily]
      rfl
  | revokeFamily reason => exact h.perform_revokeFamily howns now reason
  | exchange hallows => exact h.perform_exchange howns now hallows

/-! # Flows -/

/-- A flow that makes none but permitted calls on its way through a world. -/
def Stays {α : Type} (σ : Scope) : Flow α → World → Prop
  | .done _, _ => True
  | .halt _, _ => True
  | .step e next, w =>
      (∀ c, e = .store c → σ.Permits w.store.tokens c) ∧
        Stays σ (next (w.answer e).1) (w.answer e).2

section Rules

variable {α β : Type} {w : World}

theorem Stays.bind {x : Flow α} {f : α → Flow β} (hx : σ.Stays x w)
    (hf : ∀ a w', w.run x = (.ok a, w') → σ.Stays (f a) w') : σ.Stays (x >>= f) w := by
  induction x generalizing w with
  | done a => exact hf a w rfl
  | halt h => trivial
  | step e next ih =>
      constructor
      · exact hx.left
      · exact ih _ hx.right hf

theorem stays_call {c : Store.Call} {f : c.Reply → Flow β} (hc : σ.Permits w.store.tokens c)
    (hf : ∀ a u, w.store.perform (w.instant 0) c = .ok (a, u) → σ.Stays (f a) (w.called u)) :
    σ.Stays (Flow.call c >>= f) w := by
  constructor
  · intro c' heq
    cases heq
    exact hc
  · cases hperform : w.store.perform (w.instant 0) c with
    | error e =>
        rw [World.answer_store_of_error hperform]
        trivial
    | ok x =>
        rcases x with ⟨a, u⟩
        rw [World.answer_store hperform]
        exact hf a u hperform

theorem stays_step {e : Effect} {next : e.Reply → Flow α} (he : ∀ c, e ≠ .store c)
    (hnext : σ.Stays (next (w.answer e).1) (w.answer e).2) : σ.Stays (.step e next) w :=
  ⟨fun c heq => absurd heq (he c), hnext⟩

theorem stays_now {f : Instant → Flow α} (hf : σ.Stays (f (w.instant 0)) w.tick) :
    σ.Stays (Flow.now >>= f) w :=
  stays_step (fun _ => nofun) hf

theorem stays_newId {k : Entity} {f : Id k → Flow α} (hf : σ.Stays (f ⟨w.uuid 0⟩) w.drawId.2) :
    σ.Stays (Flow.newId k >>= f) w :=
  stays_step (fun _ => nofun) hf

theorem stays_note {n : Notice} {f : Unit → Flow α} (hf : σ.Stays (f ()) (w.note n)) :
    σ.Stays (Flow.note n >>= f) w :=
  stays_step (fun _ => nofun) hf

theorem stays_report (kind : Audit.Kind) (subject : Option SubjectId) (outcome : Audit.Outcome)
    (context : List (String × JsonValue)) :
    σ.Stays (Flow.report kind subject outcome context) w := by
  apply stays_newId
  apply stays_now
  exact stays_step (fun _ => nofun) trivial

end Rules

/-! # Worlds side by side -/

/-- Worlds that draw alike, and whose stores agree on a scope. -/
structure Beside (σ : Scope) (w v : World) : Prop where
  supply : w.supply = v.supply
  drawn : w.drawn = v.drawn
  owns : w.store.tokens.Owns σ.family
  store : σ.Alike w.store v.store

/-- Two worlds, and what has become of them in the meantime: they are still side by side, nothing
beyond the scope has changed in either, and the same events have been reported. -/
structure Lockstep (σ : Scope) (w v w' v' : World) : Prop where
  beside : σ.Beside w' v'
  left : σ.Within w.store w'.store
  right : σ.Within v.store v'.store
  trail : ∃ events, w'.trail = w.trail ++ events ∧ v'.trail = v.trail ++ events

theorem nothing_reported (trail trail' : List Audit.Event) :
    ∃ events, trail = trail ++ events ∧ trail' = trail' ++ events :=
  ⟨[], (List.append_nil _).symm, (List.append_nil _).symm⟩

theorem Beside.lockstep {w v : World} (h : σ.Beside w v) : σ.Lockstep w v w v where
  beside := h
  left := Within.refl σ w.store
  right := Within.refl σ v.store
  trail := nothing_reported w.trail v.trail

theorem Lockstep.trans {w v w' v' w'' v'' : World} (h : σ.Lockstep w v w' v')
    (h' : σ.Lockstep w' v' w'' v'') : σ.Lockstep w v w'' v'' where
  beside := h'.beside
  left := h.left.trans h'.left
  right := h.right.trans h'.right
  trail := by
    rcases h.trail with ⟨events, hw, hv⟩
    rcases h'.trail with ⟨later, hw', hv'⟩
    refine ⟨events ++ later, ?_, ?_⟩
    · rw [hw', hw, List.append_assoc]
    · rw [hv', hv, List.append_assoc]

theorem Beside.of_store_eq {w v w' v' : World} (h : σ.Beside w v) (hsupply : w'.supply = v'.supply)
    (hdrawn : w'.drawn = v'.drawn) (hw : w'.store = w.store) (hv : v'.store = v.store)
    (htrail : ∃ events, w'.trail = w.trail ++ events ∧ v'.trail = v.trail ++ events) :
    σ.Lockstep w v w' v' := by
  refine ⟨⟨hsupply, hdrawn, ?_, ?_⟩, ?_, ?_, htrail⟩
  · rw [hw]
    exact h.owns
  · rw [hw, hv]
    exact h.store
  · rw [hw]
    exact Within.refl σ w.store
  · rw [hv]
    exact Within.refl σ v.store

theorem Beside.call {w v : World} (h : σ.Beside w v) {c : Store.Call}
    (hc : σ.Permits w.store.tokens c) :
    (w.call c).1 = (v.call c).1 ∧ σ.Lockstep w v (w.call c).2 (v.call c).2 := by
  rcases w with ⟨supply, drawn, s, log, trail⟩
  rcases v with ⟨supply', drawn', s', log', trail'⟩
  rcases h with ⟨rfl, rfl, howns, hstore⟩
  have hnothing := nothing_reported trail trail'
  simp only [World.call, World.readClock]
  rcases hstore.perform howns (supply.clock drawn.times) hc with
    ⟨e, he, he'⟩ | ⟨a, u, u', hu, hu', howns', hstore', hleft, hright⟩
  · rw [he, he']
    exact ⟨rfl, ⟨rfl, rfl, howns, hstore⟩, Within.refl σ s, Within.refl σ s', hnothing⟩
  · rw [hu, hu']
    exact ⟨rfl, ⟨rfl, rfl, howns', hstore'⟩, hleft, hright, hnothing⟩

theorem Beside.answer {w v : World} (h : σ.Beside w v) (e : Effect)
    (he : ∀ c, e = .store c → σ.Permits w.store.tokens c) :
    (w.answer e).1 = (v.answer e).1 ∧ σ.Lockstep w v (w.answer e).2 (v.answer e).2 := by
  have hnothing := nothing_reported w.trail v.trail
  cases e with
  | store c => exact h.call (he c rfl)
  | audit event =>
      exact ⟨rfl, h.of_store_eq h.supply h.drawn rfl rfl ⟨[event], rfl, rfl⟩⟩
  | clock =>
      simp only [World.answer, World.readClock, h.supply, h.drawn]
      exact ⟨trivial, h.of_store_eq rfl rfl rfl rfl hnothing⟩
  | freshId =>
      simp only [World.answer, World.drawId, h.supply, h.drawn]
      exact ⟨trivial, h.of_store_eq rfl rfl rfl rfl hnothing⟩
  | freshSecret =>
      simp only [World.answer, World.drawSecret, h.supply, h.drawn]
      exact ⟨trivial, h.of_store_eq rfl rfl rfl rfl hnothing⟩
  | freshSalt =>
      simp only [World.answer, World.drawSalt, h.supply, h.drawn]
      exact ⟨trivial, h.of_store_eq rfl rfl rfl rfl hnothing⟩
  | verify password stored =>
      exact ⟨rfl, h.of_store_eq h.supply h.drawn rfl rfl hnothing⟩
  | notice n => exact ⟨rfl, h.of_store_eq h.supply h.drawn rfl rfl hnothing⟩

/-- A flow that stays within a scope runs alike in worlds side by side. -/
theorem Stays.run {α : Type} {x : Flow α} {w v : World} (hx : σ.Stays x w) (h : σ.Beside w v) :
    (w.run x).1 = (v.run x).1 ∧ σ.Lockstep w v (w.run x).2 (v.run x).2 := by
  induction x generalizing w v with
  | done a => exact ⟨rfl, h.lockstep⟩
  | halt e => exact ⟨rfl, h.lockstep⟩
  | step e next ih =>
      rcases h.answer e hx.left with ⟨hreply, hstep⟩
      -- The replies are the same, so both worlds go on with the same flow.
      rcases ih _ hx.right hstep.beside with ⟨hresult, hrest⟩
      change ((w.answer e).2.run (next (w.answer e).1)).1 = ((v.answer e).2.run (next _)).1 ∧
        σ.Lockstep w v ((w.answer e).2.run (next (w.answer e).1)).2
          ((v.answer e).2.run (next _)).2
      rw [← hreply]
      exact ⟨hresult, hstep.trans hrest⟩

end Refresh.Scope

end SessionAuth
