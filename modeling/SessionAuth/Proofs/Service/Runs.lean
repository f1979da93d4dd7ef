import Mathlib.Data.List.Induction
import SessionAuth.Proofs.Service.Basic

/-!
# Runs of a service

What one action can do, what a run of actions does to the history, and how a turn in the history
leads back to the moment at which it was taken.
-/

namespace SessionAuth

namespace Service

variable {f : Session.Facade}

/-!
# Single actions

A turn is answered by the world, or else it is a call of the store that fails.  Everything that an
action does to a service is one of four things.
-/

/-- The answers that an effect may get, and the worlds that they leave. -/
inductive Meets (w : World) : (e : Effect) → e.Reply → World → Prop where
  | answer (e : Effect) : Meets w e (w.answer e).1 (w.answer e).2
  | fail (c : Store.Call) (error : StoreError) : Meets w (.store c) (.error error) w

/-- A turn of a task that leads from one state of a service to another. -/
inductive Takes (s : Service) : Entry → Service → Prop where
  | mk {i : Nat} {q : Request} {e : Effect} {next : e.Reply → Flow q.Reply} {r : e.Reply}
      {w : World} (htask : s.tasks[i]? = some ⟨q, .step e next⟩) (hmeets : Meets s.world e r w) :
      Takes s ⟨i, ⟨e, r⟩⟩ (s.turn i q e next (r, w))

inductive Step (f : Session.Facade) (s : Service) : Service → Prop where
  | idle : Step f s s
  | start (q : Request) : Step f s (s.start f q)
  | turn {e : Entry} {t : Service} (h : Takes s e t) : Step f s t
  | operate (o : Operation) : Step f s (s.operate o)

theorem step_cases (f : Session.Facade) (s : Service) (a : Action) : Step f s (s.step f a) := by
  cases a with
  | start q => exact Step.start q
  | operate o => exact Step.operate o
  | advance i =>
      simp only [step]
      split
      · rename_i q e next htask
        exact Step.turn (Takes.mk htask (Meets.answer e))
      · exact Step.idle
  | fail i error =>
      simp only [step]
      split
      · rename_i q c next htask
        exact Step.turn (Takes.mk htask (Meets.fail c error))
      · exact Step.idle

theorem Takes.history_eq {s t : Service} {e : Entry} (h : Takes s e t) :
    t.history = s.history ++ [e] := by
  cases h
  rfl

theorem Takes.length_tasks {s t : Service} {e : Entry} (h : Takes s e t) :
    t.tasks.length = s.tasks.length := by
  cases h
  exact List.length_set

theorem Takes.task_lt {s t : Service} {e : Entry} (h : Takes s e t) :
    e.task < s.tasks.length := by
  cases h with
  | mk htask _ => exact (List.getElem?_eq_some_iff.mp htask).choose

/-!
# Turns of one task

The turns of a task are those of its number in the history.
-/

theorem past_of_history_append {s t : Service} {e : Entry}
    (h : t.history = s.history ++ [e]) (i : Nat) :
    t.past i = if e.task = i then s.past i ++ [e.turn] else s.past i := by
  unfold past
  rw [h, List.filter_append, List.map_append]
  by_cases hi : e.task = i
  · simp [hi]
  · simp [hi]

theorem mem_past {s : Service} {i : Nat} {t : Turn} :
    t ∈ s.past i ↔ ⟨i, t⟩ ∈ s.history := by
  simp only [past, List.mem_map, List.mem_filter, beq_iff_eq]
  constructor
  · intro h
    rcases h with ⟨e, ⟨hmem, rfl⟩, rfl⟩
    exact hmem
  · intro hmem
    exact ⟨⟨i, t⟩, ⟨hmem, rfl⟩, rfl⟩

theorem exists_split_of_calls {s : Service} {i : Nat} {xs ys : List Turn} {t : Turn}
    (h : Turn.calls (s.past i) = xs ++ t :: ys) :
    ∃ before after, s.history = before ++ ⟨i, t⟩ :: after ∧ ∀ x ∈ xs, ⟨i, x⟩ ∈ before := by
  have hmap : (s.history.filter (fun e => e.turn.effect.isCall && e.task == i)).map Entry.turn =
      xs ++ t :: ys := by
    rw [← h]
    unfold Turn.calls past
    rw [List.filter_map, List.filter_filter]
    rfl
  rcases List.map_eq_append_iff.mp hmap with ⟨first, second, hfilter, hxs, hrest⟩
  rcases List.map_eq_cons_iff.mp hrest with ⟨e, rest, rfl, he, _⟩
  rcases List.filter_eq_append_iff.mp hfilter with ⟨l₁, l₂, hhist, hfirst, hsecond⟩
  rcases List.filter_eq_cons_iff.mp hsecond with ⟨l₃, l₄, rfl, _, hcall, _⟩
  have htask : e = ⟨i, t⟩ := by
    simp only [Bool.and_eq_true, beq_iff_eq] at hcall
    cases e
    cases hcall.right
    cases he
    rfl
  refine ⟨l₁ ++ l₃, l₄, by rw [hhist, htask, List.append_assoc], ?_⟩
  intro x hx
  rw [← hxs, ← hfirst] at hx
  rcases List.mem_map.mp hx with ⟨e', he', rfl⟩
  rcases List.mem_filter.mp he' with ⟨hmem, hown⟩
  simp only [Bool.and_eq_true, beq_iff_eq] at hown
  apply List.mem_append_left _
  rw [← hown.right]
  exact hmem

/-!
# Runs

A run is a list of actions.  Its history only grows, and every turn that it adds was taken between
two states that lie on the run.
-/

theorem run_append (s : Service) (xs ys : List Action) :
    s.run f (xs ++ ys) = (s.run f xs).run f ys :=
  List.foldl_append

theorem Reaches.refl (s : Service) : Reaches f s s :=
  ⟨[], rfl⟩

theorem Reaches.trans {s t u : Service} (hst : Reaches f s t) (htu : Reaches f t u) :
    Reaches f s u := by
  rcases hst with ⟨xs, rfl⟩
  rcases htu with ⟨ys, rfl⟩
  exact ⟨xs ++ ys, run_append s xs ys⟩

theorem Reaches.step (s : Service) (a : Action) : Reaches f s (s.step f a) :=
  ⟨[a], rfl⟩

theorem Reachable.trans {s t : Service} (hs : Reachable f s) (hst : Reaches f s t) :
    Reachable f t := by
  rcases hs with ⟨w, hw, hrun⟩
  exact ⟨w, hw, hrun.trans hst⟩

/-- What holds at the start of a run and is kept by every action on it holds at its end. -/
theorem Reaches.induction {P : Service → Prop} {s t : Service} (h : Reaches f s t) (hs : P s)
    (hstep : ∀ u v, Reaches f s u → P u → Step f u v → Reaches f s v → P v) : P t := by
  rcases h with ⟨actions, rfl⟩
  induction actions using List.reverseRecOn with
  | nil => exact hs
  | append_singleton xs a ih =>
      have hu : Reaches f s (s.run f xs) := ⟨xs, rfl⟩
      have hv : Reaches f s ((s.run f xs).step f a) := hu.trans (Reaches.step _ a)
      rw [run_append]
      exact hstep _ _ hu ih (step_cases f _ a) hv

theorem Step.history_prefix {s t : Service} (h : Step f s t) :
    ∃ new, t.history = s.history ++ new := by
  cases h with
  | idle => exact ⟨[], (List.append_nil _).symm⟩
  | start q => exact ⟨[], (List.append_nil _).symm⟩
  | turn h => exact ⟨_, h.history_eq⟩
  | operate o => exact ⟨[], (List.append_nil _).symm⟩

theorem Reaches.history_prefix {s t : Service} (h : Reaches f s t) :
    ∃ new, t.history = s.history ++ new := by
  refine h.induction (P := fun u => ∃ new, u.history = s.history ++ new)
    ⟨[], (List.append_nil _).symm⟩ ?_
  intro u v _ hx hstep _
  rcases hx with ⟨xs, hu⟩
  rcases hstep.history_prefix with ⟨ys, hv⟩
  exact ⟨xs ++ ys, by rw [hv, hu, List.append_assoc]⟩

theorem Reaches.mem_history {s t : Service} (h : Reaches f s t) {e : Entry}
    (he : e ∈ s.history) : e ∈ t.history := by
  rcases h.history_prefix with ⟨new, hnew⟩
  rw [hnew]
  exact List.mem_append_left new he

/-- A turn that a run has added was taken by one action of the run. -/
theorem run_split {s : Service} {actions : List Action} {xs ys : List Entry} {e : Entry}
    (hist : (s.run f actions).history = s.history ++ xs ++ e :: ys) :
    ∃ pre a post, actions = pre ++ a :: post ∧ (s.run f pre).history = s.history ++ xs ∧
      Takes (s.run f pre) e ((s.run f pre).step f a) := by
  induction actions using List.reverseRecOn generalizing ys with
  | nil =>
      have hlen := congrArg List.length hist
      simp [run] at hlen
  | append_singleton as a ih =>
      have extend : ∀ zs, (s.run f as).history = s.history ++ xs ++ e :: zs →
          ∃ pre b post, as ++ [a] = pre ++ b :: post ∧
            (s.run f pre).history = s.history ++ xs ∧
            Takes (s.run f pre) e ((s.run f pre).step f b) := by
        intro zs hzs
        rcases ih hzs with ⟨pre, b, post, rfl, hpre, htake⟩
        exact ⟨pre, b, post ++ [a], by simp, hpre, htake⟩
      have hcases : Step f (s.run f as) ((s.run f as).step f a) := step_cases f _ a
      rw [run_append] at hist
      change ((s.run f as).step f a).history = _ at hist
      generalize hlast : (s.run f as).step f a = last at hist hcases
      cases hcases with
      | idle => exact extend ys hist
      | start q => exact extend ys hist
      | operate o => exact extend ys hist
      | turn htake =>
          rename_i e'
          have hnew := htake.history_eq.symm.trans hist
          rcases List.eq_nil_or_concat ys with rfl | ⟨zs, z, rfl⟩
          · have hparts := List.append_inj' hnew rfl
            have he : e' = e := by simpa using hparts.right
            rw [he, ← hlast] at htake
            exact ⟨as, a, [], rfl, hparts.left, htake⟩
          · have hnew' : (s.run f as).history ++ [e'] =
                (s.history ++ xs ++ e :: zs) ++ [z] := by
              rw [hnew]
              simp
            exact extend zs (List.append_inj' hnew' rfl).left

theorem run_split_of_mem {s : Service} {actions : List Action} {e : Entry}
    (he : e ∈ (s.run f actions).history) (hnot : e ∉ s.history) :
    ∃ pre a post, actions = pre ++ a :: post ∧
      Takes (s.run f pre) e ((s.run f pre).step f a) := by
  have hreach : Reaches f s (s.run f actions) := ⟨actions, rfl⟩
  rcases hreach.history_prefix with ⟨new, hnew⟩
  have hmem : e ∈ new := by
    rw [hnew] at he
    exact (List.mem_append.mp he).resolve_left hnot
  rcases List.append_of_mem hmem with ⟨xs, ys, rfl⟩
  have hist : (s.run f actions).history = s.history ++ xs ++ e :: ys := by
    rw [hnew, List.append_assoc]
  rcases run_split hist with ⟨pre, a, post, hactions, _, htake⟩
  exact ⟨pre, a, post, hactions, htake⟩

theorem run_between {s : Service} {actions pre post : List Action} {a : Action}
    (h : actions = pre ++ a :: post) :
    Reaches f s (s.run f pre) ∧ Reaches f ((s.run f pre).step f a) (s.run f actions) := by
  refine ⟨⟨pre, rfl⟩, ⟨post, ?_⟩⟩
  rw [h, run_append]
  rfl

theorem Reaches.split {s t : Service} (h : Reaches f s t) {xs ys : List Entry} {e : Entry}
    (hist : t.history = s.history ++ xs ++ e :: ys) :
    ∃ u v, Reaches f s u ∧ u.history = s.history ++ xs ∧ Takes u e v ∧ Reaches f u v ∧
      Reaches f v t := by
  rcases h with ⟨actions, rfl⟩
  rcases run_split hist with ⟨pre, a, post, hactions, hpre, htake⟩
  rcases run_between (f := f) (s := s) hactions with ⟨hbefore, hafter⟩
  exact ⟨_, _, hbefore, hpre, htake, Reaches.step _ a, hafter⟩

theorem Reaches.split_of_mem {s t : Service} (h : Reaches f s t) {e : Entry}
    (he : e ∈ t.history) (hnot : e ∉ s.history) :
    ∃ u v, Reaches f s u ∧ Takes u e v ∧ Reaches f u v ∧
      Reaches f v t := by
  rcases h with ⟨actions, rfl⟩
  rcases run_split_of_mem he hnot with ⟨pre, a, post, hactions, htake⟩
  rcases run_between (f := f) (s := s) hactions with ⟨hbefore, hafter⟩
  exact ⟨_, _, hbefore, htake, Reaches.step _ a, hafter⟩

/-!
# Tasks along a run

A task stays the request that it was.  What holds of the flow of a request at its start, and goes
on to hold at each turn, holds of every task.
-/

theorem Step.task {s t : Service} (h : Step f s t) {i : Nat} {q : Request} {x : Flow q.Reply}
    (hi : s.tasks[i]? = some ⟨q, x⟩) : ∃ y, t.tasks[i]? = some ⟨q, y⟩ := by
  cases h with
  | idle => exact ⟨x, hi⟩
  | operate o => exact ⟨x, hi⟩
  | start q' =>
      refine ⟨x, ?_⟩
      have hlt := (List.getElem?_eq_some_iff.mp hi).choose
      exact (List.getElem?_append_left hlt).trans hi
  | turn h =>
      cases h with
      | mk htask hmeets =>
          rename_i j q' e next r w
          by_cases hij : j = i
          · subst hij
            rw [htask] at hi
            cases hi
            have hlt := (List.getElem?_eq_some_iff.mp htask).choose
            exact ⟨next r, List.getElem?_set_self hlt⟩
          · exact ⟨x, (List.getElem?_set_ne hij).trans hi⟩

theorem Reaches.task {s t : Service} (h : Reaches f s t) {i : Nat} {q : Request}
    {x : Flow q.Reply} (hi : s.tasks[i]? = some ⟨q, x⟩) : ∃ y, t.tasks[i]? = some ⟨q, y⟩ := by
  apply h.induction (P := fun u => ∃ y, u.tasks[i]? = some ⟨q, y⟩) ⟨x, hi⟩
  intro u v _ ih hstep _
  rcases ih with ⟨y, hy⟩
  exact hstep.task hy

section Tasks

variable {P : (q : Request) → List Turn → Flow q.Reply → Prop} {s t : Service}

/-- What is said of all tasks, each with the turns that it has taken. -/
structure OfTasks (P : (q : Request) → List Turn → Flow q.Reply → Prop) (s : Service) : Prop where
  begun : ∀ e ∈ s.history, e.task < s.tasks.length
  holds : ∀ i q x, s.tasks[i]? = some ⟨q, x⟩ → P q (s.past i) x

theorem OfTasks.takes (hs : OfTasks P s)
    (hturn : ∀ q past e (next : e.Reply → Flow q.Reply) r, P q past (.step e next) →
      P q (past ++ [⟨e, r⟩]) (next r)) {e : Entry} (h : Takes s e t) : OfTasks P t where
  begun := by
    intro x hx
    rw [h.history_eq, List.mem_append, List.mem_singleton] at hx
    rw [h.length_tasks]
    rcases hx with hold | rfl
    · exact hs.begun x hold
    · exact h.task_lt
  holds := by
    intro i q x hi
    rw [past_of_history_append h.history_eq]
    cases h with
    | mk htask hmeets =>
        rename_i j q' effect next r w
        have hset : (s.tasks.set j ⟨q', next r⟩)[i]? = some ⟨q, x⟩ := hi
        by_cases hij : j = i
        · subst hij
          have hlt := (List.getElem?_eq_some_iff.mp htask).choose
          rw [List.getElem?_set_self hlt] at hset
          cases hset
          rw [if_pos rfl]
          exact hturn _ _ _ _ r (hs.holds _ _ _ htask)
        · rw [List.getElem?_set_ne hij] at hset
          rw [if_neg hij]
          exact hs.holds i q x hset

theorem OfTasks.start (hs : OfTasks P s) (hstart : ∀ q, P q [] (q.flow f)) (q : Request) :
    OfTasks P (s.start f q) where
  begun := by
    intro e he
    apply Nat.lt_of_lt_of_le (hs.begun e he)
    simp [Service.start]
  holds := by
    intro i q' x hi
    have happend : (s.tasks ++ [⟨q, q.flow f⟩])[i]? = some ⟨q', x⟩ := hi
    rcases Nat.lt_or_ge i s.tasks.length with hlt | hge
    · rw [List.getElem?_append_left hlt] at happend
      exact hs.holds i q' x happend
    · rw [List.getElem?_append_right hge] at happend
      have heq := List.mem_singleton.mp (List.mem_of_getElem? happend)
      cases heq
      have hpast : s.past i = [] := by
        unfold past
        rw [List.map_eq_nil_iff, List.filter_eq_nil_iff]
        intro e he
        have hlt := hs.begun e he
        simp only [beq_iff_eq]
        omega
      change P q (s.past i) (q.flow f)
      rw [hpast]
      exact hstart q

theorem Reachable.ofTasks (hs : Reachable f s) (hstart : ∀ q, P q [] (q.flow f))
    (hturn : ∀ q past e (next : e.Reply → Flow q.Reply) r, P q past (.step e next) →
      P q (past ++ [⟨e, r⟩]) (next r)) : OfTasks P s := by
  rcases hs with ⟨w, _, hrun⟩
  refine hrun.induction (P := OfTasks P) ⟨?_, ?_⟩ ?_
  · intro e he
    cases he
  · intro i q x hi
    cases hi
  · intro u v _ hu hstep _
    cases hstep with
    | idle => exact hu
    | start q => exact hu.start hstart q
    | turn h => exact hu.takes hturn h
    | operate o => exact ⟨hu.begun, hu.holds⟩

end Tasks

/-!
# What a turn does to the world

Only an answered call changes the store, and it does so in one step.  Only the drawing of an
identifier uses one up.
-/

theorem Meets.store_cases {w w' : World} {c : Store.Call} {r : Except StoreError c.Reply}
    (h : Meets w (.store c) r w') :
    (∃ error, r = .error error ∧ w'.store = w.store) ∨
      ∃ now a, r = .ok a ∧ w.store.perform now c = .ok (a, w'.store) := by
  cases h with
  | fail c error => exact Or.inl ⟨error, rfl, rfl⟩
  | answer =>
      simp only [World.answer, World.call, World.readClock]
      cases hperform : w.store.perform (w.supply.clock w.drawn.times) c with
      | error error => exact Or.inl ⟨error, rfl, rfl⟩
      | ok x => exact Or.inr ⟨w.supply.clock w.drawn.times, x.1, rfl, hperform⟩

theorem Meets.store_eq {w w' : World} {e : Effect} {r : e.Reply} (h : Meets w e r w')
    (he : e.isCall = false) : w'.store = w.store := by
  cases h with
  | fail c error => rfl
  | answer =>
      cases e with
      | store c => cases he
      | _ => rfl

theorem Meets.freshId_eq {w w' : World} {u : Uuid} (h : Meets w .freshId u w') :
    u = w.supply.ids w.drawn.ids ∧ w'.drawn.ids = w.drawn.ids + 1 := by
  cases h
  exact ⟨rfl, rfl⟩

theorem Takes.perform {s t : Service} {i : Nat} {c : Store.Call} {a : c.Reply}
    (h : Takes s ⟨i, Turn.answered c a⟩ t) :
    ∃ now, s.world.store.perform now c = .ok (a, t.world.store) := by
  cases h with
  | mk _ hmeets =>
      rcases hmeets.store_cases with ⟨error, herror, _⟩ | ⟨now, b, hok, hperform⟩
      · cases herror
      · cases hok
        exact ⟨now, hperform⟩

/-!
# Identifiers along a run

The sequences from which a world draws never change, and what has been drawn stays drawn.  So the
identifiers drawn up to some moment are distinct if those drawn up to a later one are.
-/

theorem Meets.supply_eq {w w' : World} {e : Effect} {r : e.Reply} (h : Meets w e r w') :
    w'.supply = w.supply := by
  cases h with
  | fail c error => rfl
  | answer =>
      cases e with
      | store c =>
          simp only [World.answer, World.call]
          split <;> rfl
      | _ => rfl

structure Precedes (d d' : Drawn) : Prop where
  ids : d.ids ≤ d'.ids
  secrets : d.secrets ≤ d'.secrets

theorem Precedes.refl (d : Drawn) : Precedes d d :=
  ⟨Nat.le_refl _, Nat.le_refl _⟩

theorem Precedes.trans {d d' d'' : Drawn} (h : Precedes d d') (h' : Precedes d' d'') :
    Precedes d d'' :=
  ⟨Nat.le_trans h.ids h'.ids, Nat.le_trans h.secrets h'.secrets⟩

theorem Meets.precedes {w w' : World} {e : Effect} {r : e.Reply} (h : Meets w e r w') :
    Precedes w.drawn w'.drawn := by
  cases h with
  | fail c error => exact Precedes.refl _
  | answer =>
      cases e with
      | store c =>
          simp only [World.answer, World.call]
          split <;> exact ⟨Nat.le_refl _, Nat.le_refl _⟩
      | freshId => exact ⟨Nat.le_succ _, Nat.le_refl _⟩
      | freshSecret => exact ⟨Nat.le_refl _, Nat.le_succ _⟩
      | _ => exact ⟨Nat.le_refl _, Nat.le_refl _⟩

theorem Step.supply_eq {s t : Service} (h : Step f s t) :
    t.world.supply = s.world.supply := by
  cases h with
  | idle => rfl
  | start q => rfl
  | operate o => rfl
  | turn h =>
      cases h with
      | mk _ hmeets => exact hmeets.supply_eq

theorem Step.precedes {s t : Service} (h : Step f s t) :
    Precedes s.world.drawn t.world.drawn := by
  cases h with
  | idle => exact Precedes.refl _
  | start q => exact Precedes.refl _
  | operate o => exact ⟨Nat.le_refl _, Nat.le_refl _⟩
  | turn h =>
      cases h with
      | mk _ hmeets => exact hmeets.precedes

theorem Reaches.supply_eq {s t : Service} (h : Reaches f s t) :
    t.world.supply = s.world.supply := by
  apply h.induction (P := fun u => u.world.supply = s.world.supply) rfl
  intro u v _ ih hstep _
  exact hstep.supply_eq.trans ih

theorem Reaches.precedes {s t : Service} (h : Reaches f s t) :
    Precedes s.world.drawn t.world.drawn := by
  apply h.induction (P := fun u => Precedes s.world.drawn u.world.drawn) (Precedes.refl _)
  intro u v _ ih hstep _
  exact ih.trans hstep.precedes

theorem DistinctIds.of_step {s t : Service} (h : Step f s t) (ht : t.DistinctIds) :
    s.DistinctIds := by
  intro m n hm hn heq
  have hle := h.precedes.ids
  apply ht m n (Nat.lt_of_lt_of_le hm hle) (Nat.lt_of_lt_of_le hn hle)
  rw [h.supply_eq]
  exact heq

theorem DistinctIds.of_reaches {s t : Service} (h : Reaches f s t) :
    t.DistinctIds → s.DistinctIds := by
  apply h.induction (P := fun u => u.DistinctIds → s.DistinctIds) id
  intro u v _ ih hstep _ hv
  exact ih (hv.of_step hstep)

end Service

end SessionAuth
