import SessionAuth.Proofs.Flow.Traces
import SessionAuth.Proofs.Service.Runs
import SessionAuth.Proofs.Store.Calls

/-!
# Moments of a run

Every turn in the past of a task was taken at some moment, between two states of the run.  What a
turn says about the world can be looked up there: the directory that it read or changed, the hash
that it compared a password with, the salt that it drew, and the event that it added to the trail.
-/

namespace SessionAuth

open Time

def Turn.event? : Turn → Option Audit.Event
  | ⟨.audit e, _⟩ => some e
  | _ => none

namespace Service

variable {f : Session.Facade}

/-! # Looking up a turn -/

/-- The turns of one task stand in the history in the order in which they were taken. -/
theorem Reaches.exists_split {s t : Service} (h : Reaches f s t) {i : Nat} {xs ys : List Turn}
    {turn : Turn} (hpast : t.past i = s.past i ++ xs ++ turn :: ys) :
    ∃ before after, t.history = s.history ++ before ++ ⟨i, turn⟩ :: after ∧
      (before.filter (fun e => e.task == i)).map Entry.turn = xs := by
  rcases h.history_prefix with ⟨new, hnew⟩
  have hmap : (new.filter (fun e => e.task == i)).map Entry.turn = xs ++ turn :: ys := by
    unfold past at hpast
    rw [hnew, List.filter_append, List.map_append, List.append_assoc] at hpast
    exact List.append_cancel_left hpast
  rcases List.map_eq_append_iff.mp hmap with ⟨first, second, hfilter, hxs, hrest⟩
  rcases List.map_eq_cons_iff.mp hrest with ⟨e, rest, rfl, he, _⟩
  rcases List.filter_eq_append_iff.mp hfilter with ⟨l₁, l₂, rfl, hfirst, hsecond⟩
  rcases List.filter_eq_cons_iff.mp hsecond with ⟨l₃, l₄, rfl, hnone, htask, _⟩
  have hentry : e = ⟨i, turn⟩ := by
    rw [beq_iff_eq] at htask
    cases e
    cases htask
    cases he
    rfl
  refine ⟨l₁ ++ l₃, l₄, ?_, ?_⟩
  · rw [hnew, hentry]
    simp
  · rw [List.filter_append, List.filter_eq_nil_iff.mpr hnone, List.append_nil, hfirst, hxs]

theorem Reaches.moment {s t : Service} (h : Reaches f s t) {i : Nat} {xs ys : List Turn}
    {turn : Turn} (hpast : t.past i = s.past i ++ xs ++ turn :: ys) :
    ∃ u v, Reaches f s u ∧ u.past i = s.past i ++ xs ∧ Takes u ⟨i, turn⟩ v ∧ Reaches f v t := by
  rcases h.exists_split hpast with ⟨before, after, hist, hxs⟩
  rcases h.split hist with ⟨u, v, hsu, hu, htakes, _, hvt⟩
  refine ⟨u, v, hsu, ?_, htakes, hvt⟩
  unfold past
  rw [hu, List.filter_append, List.map_append, hxs]

theorem Takes.past_eq {s t : Service} {i : Nat} {turn : Turn} (h : Takes s ⟨i, turn⟩ t) :
    t.past i = s.past i ++ [turn] := by
  rw [past_of_history_append h.history_eq, if_pos rfl]

/-- The moment at which a task takes a turn, on the way to some state. -/
structure Moment (f : Session.Facade) (s : Service) (i : Nat) (turn : Turn) (u v : Service) :
    Prop where
  before : Reachable f u
  takes : Takes u ⟨i, turn⟩ v
  after : Reaches f v s

theorem Takes.reaches {s t : Service} {e : Entry} (h : Takes s e t) : Reaches f s t := by
  cases h with
  | mk htask hmeets =>
      cases hmeets with
      | answer =>
          rename_i i q effect next
          refine ⟨[.advance i], ?_⟩
          change s.step f (.advance i) = _
          simp only [Service.step, htask]
      | fail c error =>
          rename_i i q next
          refine ⟨[.fail i error], ?_⟩
          change s.step f (.fail i error) = _
          simp only [Service.step, htask]

namespace Moment

variable {s u v : Service} {i : Nat} {turn : Turn} (h : Moment f s i turn u v)
include h

theorem reachable_after : Reachable f v :=
  h.before.trans h.takes.reaches

theorem reaches : Reaches f u s :=
  h.takes.reaches.trans h.after

theorem reachable : Reachable f s :=
  h.before.trans h.reaches

theorem mem_past : turn ∈ s.past i := by
  rw [Service.mem_past]
  apply h.after.mem_history
  rw [h.takes.history_eq]
  exact List.mem_append_right _ List.mem_cons_self

theorem next {xs ys zs : List Turn} {turn' : Turn} (hu : u.past i = xs)
    (hpast : s.past i = xs ++ turn :: ys ++ turn' :: zs) :
    ∃ u' v', Moment f s i turn' u' v' ∧ u'.past i = xs ++ turn :: ys ∧ Reaches f v u' := by
  have hv : s.past i = v.past i ++ ys ++ turn' :: zs := by
    rw [h.takes.past_eq, hu, hpast]
    simp
  rcases h.after.moment hv with ⟨u', v', hvu, hpast', htakes, hs⟩
  refine ⟨u', v', ⟨h.reachable_after.trans hvu, htakes, hs⟩, ?_, hvu⟩
  rw [hpast', h.takes.past_eq, hu]
  simp

end Moment

theorem Reachable.moment {s : Service} (hs : Reachable f s) {i : Nat} {xs ys : List Turn}
    {turn : Turn} (hpast : s.past i = xs ++ turn :: ys) :
    ∃ u v, Moment f s i turn u v ∧ u.past i = xs := by
  rcases hs with ⟨w, hw, hrun⟩
  have hidle : s.past i = (idle w).past i ++ xs ++ turn :: ys := hpast
  rcases hrun.moment hidle with ⟨u, v, hu, hxs, htakes, hv⟩
  exact ⟨u, v, ⟨⟨w, hw, hu⟩, htakes, hv⟩, hxs⟩

theorem Reachable.moment_of_mem {s : Service} (hs : Reachable f s) {i : Nat} {turn : Turn}
    (h : turn ∈ s.past i) : ∃ u v, Moment f s i turn u v := by
  rcases List.append_of_mem h with ⟨xs, ys, hpast⟩
  rcases hs.moment hpast with ⟨u, v, hmoment, _⟩
  exact ⟨u, v, hmoment⟩

/-- An answered call was carried out at some moment. -/
theorem Reachable.performed_of_mem {s : Service} (hs : Reachable f s) {i : Nat} {c : Store.Call}
    {a : c.Reply} (h : Turn.answered c a ∈ s.past i) :
    ∃ u v now, Moment f s i (Turn.answered c a) u v ∧
      u.world.store.perform now c = .ok (a, v.world.store) := by
  rcases hs.moment_of_mem h with ⟨u, v, hmoment⟩
  rcases hmoment.takes.perform with ⟨now, hperform⟩
  exact ⟨u, v, now, hmoment, hperform⟩

theorem taken_since {s : Service} {actions : List Action} {i : Nat} (hbegun : s.past i = [])
    {turn : Turn} (h : turn ∈ (s.run f actions).past i) :
    ∃ pre, pre <+: actions ∧ ∃ v, Takes (s.run f pre) ⟨i, turn⟩ v ∧
      Reaches f v (s.run f actions) := by
  have hnew : ⟨i, turn⟩ ∉ s.history := by
    intro hold
    have hpast := mem_past.mpr hold
    rw [hbegun] at hpast
    cases hpast
  rcases run_split_of_mem (mem_past.mp h) hnew with ⟨pre, a, post, hactions, htakes⟩
  rcases run_between (f := f) (s := s) hactions with ⟨_, hafter⟩
  exact ⟨pre, ⟨a :: post, hactions.symm⟩, _, htakes, hafter⟩

/-! # Traces -/

/-- What a task goes on to do, after what it has done, is a trace of its request. -/
theorem Reachable.yields_of_rest {s : Service} (hs : Reachable f s) {i : Nat} {q : Request}
    {x : Flow q.Reply} (htask : s.tasks[i]? = some ⟨q, x⟩) {turns : List Turn} {a : q.Reply}
    (hx : x.Yields turns a) : (q.flow f).Yields (s.past i ++ turns) a := by
  have htasks : OfTasks (fun q past x => ∀ turns a, x.Yields turns a →
      (q.flow f).Yields (past ++ turns) a) s := by
    apply hs.ofTasks
    · intro q turns a h
      exact h
    · intro q past e next r h turns a hnext
      rw [List.append_assoc]
      exact h _ a ⟨r, turns, rfl, hnext⟩
  exact htasks.holds i q x htask turns a hx

/-- The turns of a request that has been answered are a trace of it. -/
theorem Reachable.yields {s : Service} (hs : Reachable f s) {i : Nat} {q : Request} {a : q.Reply}
    (h : s.Answered i q a) : (q.flow f).Yields (s.past i) a := by
  have hdone : (Flow.done a : Flow q.Reply).Yields [] a := ⟨rfl, rfl⟩
  have htrace := hs.yields_of_rest h hdone
  rw [List.append_nil] at htrace
  exact htrace

/-- The turns of a request that has halted are those of one of its ways to halt. -/
theorem Reachable.halts {s : Service} (hs : Reachable f s) {i : Nat} {q : Request} {h : Halt}
    (htask : s.tasks[i]? = some ⟨q, .halt h⟩) : (q.flow f).Halts (s.past i) h := by
  have htasks : OfTasks (fun q past x => ∀ turns h, x.Halts turns h →
      (q.flow f).Halts (past ++ turns) h) s := by
    apply hs.ofTasks
    · intro q turns h hx
      exact hx
    · intro q past e next r hx turns h hnext
      rw [List.append_assoc]
      exact hx _ h ⟨r, turns, rfl, hnext⟩
  have hhalt : (Flow.halt h : Flow q.Reply).Halts [] h := ⟨rfl, rfl⟩
  have hhalts := htasks.holds i q _ htask [] h hhalt
  rw [List.append_nil] at hhalts
  exact hhalts

/-! # What a turn says about the world -/

theorem Takes.meets {s t : Service} {i : Nat} {e : Effect} {r : e.Reply}
    (h : Takes s ⟨i, ⟨e, r⟩⟩ t) : Meets s.world e r t.world := by
  cases h with
  | mk _ hmeets => exact hmeets

theorem Takes.store_eq {s t : Service} {e : Entry} (h : Takes s e t)
    (hreads : ∀ c (a : c.Reply), e.turn = Turn.answered c a → reads c = true) :
    t.world.store = s.world.store := by
  rcases e with ⟨i, effect, r⟩
  cases effect with
  | store c =>
      rcases h.meets.store_cases with ⟨_, _, hstore⟩ | ⟨now, a, rfl, hperform⟩
      · exact hstore
      · exact Store.perform_of_reads (hreads c a rfl) hperform
  | _ => exact h.meets.store_eq rfl

theorem Moment.store_eq {s u v : Service} {i : Nat} {turn : Turn} (h : Moment f s i turn u v)
    {c : Store.Call} {a : c.Reply} (hcalls : Turn.calls (s.past i) = [Turn.answered c a])
    (hreads : reads c = true) : v.world.store = u.world.store := by
  apply h.takes.store_eq
  rintro call b rfl
  have hmem := Turn.mem_calls_store.mpr h.mem_past
  rw [hcalls] at hmem
  cases List.mem_singleton.mp hmem
  exact hreads

theorem Takes.reply_eq {s t : Service} {i : Nat} {e : Effect} {r : e.Reply}
    (h : Takes s ⟨i, ⟨e, r⟩⟩ t) (he : e.isCall = false) : r = (s.world.answer e).1 := by
  have hmeets := h.meets
  generalize t.world = w at hmeets
  cases hmeets with
  | answer => rfl
  | fail c error => cases he

theorem Reachable.verify_of_verified {s : Service} (hs : Reachable f s) {i : Nat}
    {password stored : String} {r : Password.Verification}
    (h : ⟨.verify password stored, r⟩ ∈ s.past i) : Password.verify password stored = r := by
  rcases hs.moment_of_mem h with ⟨u, v, hmoment⟩
  exact (hmoment.takes.reply_eq rfl).symm

theorem Reachable.exists_salt {s : Service} (hs : Reachable f s) {i : Nat} {salt : Password.Salt}
    (h : ⟨.freshSalt, salt⟩ ∈ s.past i) : ∃ n, s.world.supply.salts n = salt := by
  rcases hs.moment_of_mem h with ⟨u, v, hmoment⟩
  rw [hmoment.reaches.supply_eq]
  exact ⟨u.world.drawn.salts, (hmoment.takes.reply_eq rfl).symm⟩

theorem Reachable.exists_instant {s : Service} (hs : Reachable f s) {i : Nat} {t : Instant}
    (h : ⟨.clock, t⟩ ∈ s.past i) : ∃ n, s.world.supply.clock n = t := by
  rcases hs.moment_of_mem h with ⟨u, v, hmoment⟩
  rw [hmoment.reaches.supply_eq]
  exact ⟨u.world.drawn.times, (hmoment.takes.reply_eq rfl).symm⟩

/-! # The trail -/

theorem Meets.trail_eq {w w' : World} {e : Effect} {r : e.Reply} (h : Meets w e r w') :
    w'.trail = w.trail ++ (Turn.event? ⟨e, r⟩).toList := by
  cases h with
  | fail c error => simp [Turn.event?]
  | answer =>
      cases e with
      | store c =>
          simp only [World.answer, World.call, Turn.event?]
          split <;> simp [World.readClock]
      | audit event => rfl
      | _ => simp [Turn.event?, World.answer, World.readClock, World.drawId, World.drawSecret,
          World.drawSalt, World.verify, World.note]

theorem Step.trail_eq {s t : Service} (h : Step f s t) :
    ∃ new, t.history = s.history ++ new ∧
      t.world.trail = s.world.trail ++ new.filterMap (fun e => e.turn.event?) := by
  cases h with
  | idle => exact ⟨[], by simp⟩
  | start q => exact ⟨[], by simp [Service.start]⟩
  | operate o => exact ⟨[], (List.append_nil _).symm, (List.append_nil _).symm⟩
  | turn h =>
      rename_i e
      refine ⟨[e], h.history_eq, ?_⟩
      rw [h.meets.trail_eq]
      cases hevent : e.turn.event? with
      | none => simp [hevent]
      | some event => simp [hevent]

/-- The trail grows by the events of the turns that are taken, in their order. -/
theorem Reaches.trail_eq {s t : Service} (h : Reaches f s t) :
    ∃ new, t.history = s.history ++ new ∧
      t.world.trail = s.world.trail ++ new.filterMap (fun e => e.turn.event?) := by
  apply h.induction (P := fun t => ∃ new, t.history = s.history ++ new ∧
    t.world.trail = s.world.trail ++ new.filterMap (fun e => e.turn.event?)) ⟨[], by simp⟩
  intro u v _ ih hstep _
  rcases ih with ⟨xs, hist, htrail⟩
  rcases hstep.trail_eq with ⟨ys, hist', htrail'⟩
  refine ⟨xs ++ ys, ?_, ?_⟩
  · rw [hist', hist, List.append_assoc]
  · rw [htrail', htrail, List.filterMap_append, List.append_assoc]

theorem Reachable.mem_trail {s : Service} (hs : Reachable f s) {i : Nat} {event : Audit.Event}
    (h : ⟨.audit event, ()⟩ ∈ s.past i) : event ∈ s.world.trail := by
  rcases hs with ⟨w, _, hrun⟩
  rcases hrun.trail_eq with ⟨new, hist, htrail⟩
  have hmem : ⟨i, ⟨.audit event, ()⟩⟩ ∈ new := by
    have hpast := mem_past.mp h
    rw [hist] at hpast
    exact hpast
  rw [htrail]
  exact List.mem_append_right _ (List.mem_filterMap.mpr ⟨_, hmem, rfl⟩)

end Service

end SessionAuth
