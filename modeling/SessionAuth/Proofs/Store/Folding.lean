import SessionAuth.Proofs.Store.Identifiers
import SessionAuth.Proofs.Text.Lowercase
import SessionAuth.Session.Facade

/-!
# The spelling of identifiers

An identifier is looked up by its folded form, and a folded form is its own.  So it does not matter
whether an identifier is folded before it is looked up, nor whether a store keeps the names of a
subject as they were given or folded.
-/

namespace SessionAuth

open Time

theorem foldIdentifier_foldIdentifier (identifier : String) :
    foldIdentifier (foldIdentifier identifier) = foldIdentifier identifier :=
  Text.lowercase_lowercase identifier

namespace Subject

variable {identifier other : String}

/-! # Spellings of an identifier -/

theorem matchesEmail_congr (h : foldIdentifier identifier = foldIdentifier other) (s : Subject) :
    s.matchesEmail identifier = s.matchesEmail other := by
  unfold matchesEmail
  rw [h]

theorem matchesIdentifier_congr (h : foldIdentifier identifier = foldIdentifier other)
    (s : Subject) : s.matchesIdentifier identifier = s.matchesIdentifier other := by
  unfold matchesIdentifier
  rw [matchesEmail_congr h, h]

theorem findNamed?_congr (h : foldIdentifier identifier = foldIdentifier other)
    (subjects : List Subject) : findNamed? identifier subjects = findNamed? other subjects := by
  unfold findNamed?
  simp only [matchesEmail_congr h, matchesIdentifier_congr h]

/-! # Spellings of the names of a subject -/

def folded (s : Subject) : Subject :=
  { s with email := foldIdentifier s.email, username := foldIdentifier s.username }

/-- Tells that a change of subjects touches no more than the spelling of their names, as far as a
search can see. -/
structure Respells (g : Subject → Subject) : Prop where
  deleted : ∀ s, (g s).isDeleted = s.isDeleted
  email : ∀ s, foldIdentifier (g s).email = foldIdentifier s.email
  username : ∀ s, foldIdentifier (g s).username = foldIdentifier s.username

theorem respells_folded (p : Subject → Prop) [DecidablePred p] :
    Respells (fun s => if p s then s.folded else s) := by
  constructor
  case deleted =>
      intro s
      split
      · rfl
      · rfl
  case email =>
      intro s
      split
      · exact foldIdentifier_foldIdentifier s.email
      · rfl
  case username =>
      intro s
      split
      · exact foldIdentifier_foldIdentifier s.username
      · rfl

namespace Respells

variable {g : Subject → Subject}

theorem matchesEmail (hg : Respells g) (s : Subject) :
    (g s).matchesEmail identifier = s.matchesEmail identifier := by
  unfold Subject.matchesEmail
  rw [hg.email]

theorem matchesIdentifier (hg : Respells g) (s : Subject) :
    (g s).matchesIdentifier identifier = s.matchesIdentifier identifier := by
  unfold Subject.matchesIdentifier
  rw [hg.matchesEmail, hg.username]

/-- A search finds the same subject, in its other spelling. -/
theorem findNamed? (hg : Respells g) (subjects : List Subject) :
    findNamed? identifier (subjects.map g) = (findNamed? identifier subjects).map g := by
  unfold Subject.findNamed?
  simp only [List.filter_map, List.find?_map, Function.comp_def, hg.deleted, hg.matchesEmail,
    hg.matchesIdentifier, Option.map_or]

end Respells

/-! # Names that are kept folded -/

/-- A subject with its names folded beside it. -/
structure Row where
  subject : Subject
  emailKey : String
  usernameKey : String

def row (s : Subject) : Row :=
  ⟨s, foldIdentifier s.email, foldIdentifier s.username⟩

def findKeyed? (key : String) (rows : List Row) : Option Subject :=
  let present := rows.filter (fun r => !r.subject.isDeleted)
  ((present.find? (fun r => r.emailKey == key)).or
    (present.find? (fun r => r.emailKey == key || r.usernameKey == key))).map Row.subject

/-- A store that keeps the folded names finds whom a store finds that folds them in the search. -/
theorem findKeyed?_row (subjects : List Subject) :
    findKeyed? (foldIdentifier identifier) (subjects.map row) = findNamed? identifier subjects := by
  unfold findKeyed? findNamed?
  have hsubject : (Row.subject ∘ row) = (fun s => s) := rfl
  simp only [List.filter_map, List.find?_map, Option.map_or, Option.map_map, hsubject,
    Option.map_id']
  rfl

end Subject

namespace Directory

variable {d : Directory} {identifier other : String}

/-! # Stored subjects -/

theorem keyed_empty : Keyed .empty := by
  intro id s hs
  cases hs

theorem Keyed.values_put_folded (hd : d.Keyed) (s : Subject) :
    (d.put s.folded).values =
      (d.put s).values.map (fun x => if x.id = s.id then x.folded else x) := by
  have hother : ∀ e ∈ d.entries, e.1 ≠ s.id → e.2.id ≠ s.id := by
    intro e he hkey
    rw [hd e.1 e.2 (Registry.mem_entries.mp he)]
    exact hkey
  have hid : s.folded.id = s.id := rfl
  unfold Directory.put Registry.insert Registry.values
  rw [hid]
  by_cases hmem : s.id ∈ d.entries.map Prod.fst
  · rw [dif_pos hmem, dif_pos hmem]
    unfold Registry.modify Registry.modifyEntries
    rw [List.map_map, List.map_map, List.map_map]
    refine List.map_congr_left ?_
    intro e he
    by_cases hkey : e.1 = s.id
    · simp [hkey]
    · simp [hkey, hother e he hkey]
  · rw [dif_neg hmem, dif_neg hmem, List.map_append, List.map_append, List.map_append,
      List.map_map]
    congr 1
    · refine List.map_congr_left ?_
      intro e he
      have hkey : e.1 ≠ s.id := by
        intro heq
        exact hmem (heq ▸ List.mem_map_of_mem he)
      simp [hother e he hkey]
    · simp

theorem Keyed.findByIdentifier_put_folded (hd : d.Keyed) (s : Subject) :
    (d.put s.folded).findByIdentifier identifier =
      ((d.put s).findByIdentifier identifier).map
        (fun x => if x.id = s.id then x.folded else x) := by
  unfold Directory.findByIdentifier
  rw [hd.values_put_folded]
  exact (Subject.respells_folded (fun x => x.id = s.id)).findNamed? _

theorem Keyed.found_put_folded (hd : d.Keyed) (s : Subject) :
    (d.put s.folded).findByIdentifier identifier = some s.folded ↔
      (d.put s).findByIdentifier identifier = some s := by
  rw [hd.findByIdentifier_put_folded]
  constructor
  · intro h
    rcases Option.map_eq_some_iff.mp h with ⟨x, hx, hfolded⟩
    have hid : x.id = s.id := by
      have hkept := congrArg Subject.id hfolded
      split at hkept
      · exact hkept
      · exact hkept
    have hget := ((hd.put s).findByIdentifier hx).left
    unfold Directory.put at hget
    rw [hid, Registry.get?_insert, if_pos rfl] at hget
    rw [hx, hget]
  · intro h
    rw [h, Option.map_some, if_pos rfl]

theorem Keyed.found_put_folded_other (hd : d.Keyed) {s x : Subject} (hx : x.id ≠ s.id) :
    (d.put s.folded).findByIdentifier identifier = some x ↔
      (d.put s).findByIdentifier identifier = some x := by
  rw [hd.findByIdentifier_put_folded]
  constructor
  · intro h
    rcases Option.map_eq_some_iff.mp h with ⟨y, hy, rfl⟩
    split at hx
    case isTrue heq => exact absurd heq hx
    case isFalse hne =>
        rw [if_neg hne]
        exact hy
  · intro h
    rw [h, Option.map_some, if_neg hx]

end Directory

/-! # Logging in -/

namespace Session

theorem Facade.login_eq_step (f : Facade) (identifier other password : String) :
    ∃ next : Except StoreError (Option Subject) → Flow (Except Failure Tokens),
      f.login identifier password = .step (.store (.findByIdentifier identifier)) next ∧
        f.login other password = .step (.store (.findByIdentifier other)) next := by
  refine ⟨_, rfl, congrArg (Flow.step (.store (.findByIdentifier other))) (funext ?_)⟩
  intro answer
  cases answer with
  | error e => rfl
  | ok found =>
      cases found with
      | none => rfl
      | some s => rfl

/-- Two spellings of an identifier log in alike. -/
theorem run_login_congr {identifier other : String}
    (h : foldIdentifier identifier = foldIdentifier other) (w : World) (f : Facade)
    (password : String) : w.run (f.login identifier password) = w.run (f.login other password) := by
  rcases f.login_eq_step identifier other password with ⟨next, hlogin, hother⟩
  have hfind : w.store.subjects.findByIdentifier identifier =
      w.store.subjects.findByIdentifier other := Subject.findNamed?_congr h _
  have hanswer : w.call (.findByIdentifier identifier) = w.call (.findByIdentifier other) := by
    unfold World.call World.readClock
    dsimp only [Store.perform]
    rw [hfind]
  rw [hlogin, hother]
  unfold World.run
  rw [Flow.run_step, Flow.run_step]
  exact congrArg (fun r : Except StoreError (Option Subject) × World =>
    Flow.run World.answer (next r.1) r.2) hanswer

end Session

namespace Directory

/-- Folding an identifier twice is folding it once.  So an identifier and its folded form find the
same subject, in whatever order the subjects are visited, in every directory and in a store that
keeps folded names; a login gives the same answer and leaves the same world; and a subject whose
names are stored folded is found by exactly the identifiers by which it is found otherwise, and so
is everybody else. -/
theorem folding_stable (identifier : String) :
    foldIdentifier (foldIdentifier identifier) = foldIdentifier identifier ∧
      (∀ subjects, Subject.scan (foldIdentifier identifier) none subjects =
        Subject.scan identifier none subjects) ∧
      (∀ d : Directory, d.findByIdentifier (foldIdentifier identifier) =
        d.findByIdentifier identifier) ∧
      (∀ subjects,
        Subject.findKeyed? (foldIdentifier identifier) (subjects.map Subject.row) =
            Subject.findNamed? identifier subjects ∧
          Subject.findKeyed? (foldIdentifier (foldIdentifier identifier))
            (subjects.map Subject.row) = Subject.findNamed? identifier subjects) ∧
      (∀ (w : World) (f : Session.Facade) (password : String),
        w.run (f.login (foldIdentifier identifier) password) =
          w.run (f.login identifier password)) ∧
      (∀ (p : Subject → Prop) [DecidablePred p] (subjects : List Subject),
        Subject.scan identifier none (subjects.map (fun s => if p s then s.folded else s)) =
          (Subject.scan identifier none subjects).map (fun s => if p s then s.folded else s)) ∧
      ∀ d : Directory, d.Keyed → ∀ s,
        ((d.put s.folded).findByIdentifier identifier = some s.folded ↔
          (d.put s).findByIdentifier identifier = some s) ∧
        ∀ x : Subject, x.id ≠ s.id →
          ((d.put s.folded).findByIdentifier identifier = some x ↔
            (d.put s).findByIdentifier identifier = some x) := by
  have hfold := foldIdentifier_foldIdentifier identifier
  refine ⟨hfold, ?_, ?_, ?_, ?_, ?_, ?_⟩
  · intro subjects
    rw [Subject.scan_none, Subject.scan_none]
    exact Subject.findNamed?_congr hfold subjects
  · intro d
    exact Subject.findNamed?_congr hfold d.values
  · intro subjects
    rw [hfold]
    exact ⟨Subject.findKeyed?_row subjects, Subject.findKeyed?_row subjects⟩
  · intro w f password
    exact Session.run_login_congr hfold w f password
  · intro p _ subjects
    rw [Subject.scan_none, Subject.scan_none]
    exact (Subject.respells_folded p).findNamed? subjects
  · intro d hd s
    refine ⟨hd.found_put_folded s, ?_⟩
    intro x hx
    exact hd.found_put_folded_other hx

namespace Sample

def traveller : Subject :=
  { owner with email := "ΟΔΟΣ@Example.org", username := "İda" }

end Sample

theorem folding_stable_sigma :
    foldIdentifier Sample.traveller.email = "οδος@example.org" ∧
      Keyed .empty ∧
      (put .empty Sample.traveller.folded).findByIdentifier "ΟΔΟΣ@EXAMPLE.ORG" =
        some Sample.traveller.folded ∧
      (put .empty Sample.traveller.folded).findByIdentifier (foldIdentifier "İDA") =
        some Sample.traveller.folded := by
  have hemail : (put .empty Sample.traveller).findByIdentifier "ΟΔΟΣ@EXAMPLE.ORG" =
      some Sample.traveller := by
    decide +kernel
  have hname : (put .empty Sample.traveller).findByIdentifier "İDA" = some Sample.traveller := by
    decide +kernel
  rcases folding_stable "ΟΔΟΣ@EXAMPLE.ORG" with ⟨_, _, _, _, _, _, hputEmail⟩
  rcases folding_stable "İDA" with ⟨_, _, hfind, _, _, _, hputName⟩
  refine ⟨by decide +kernel, keyed_empty, ?_, ?_⟩
  · exact (hputEmail .empty keyed_empty Sample.traveller).left.mpr hemail
  · rw [hfind]
    exact (hputName .empty keyed_empty Sample.traveller).left.mpr hname

end Directory

end SessionAuth
