import SessionAuth.Proofs.Store.Calls

/-!
# Whom an identifier names

An email goes before a username, in whatever order the subjects are visited.
-/

namespace SessionAuth

namespace Subject

/-! # The search in one pass -/

/-- One pass over some subjects.  It ends at the first email.  The first username is remembered and
counts if no email comes after it. -/
def scan (identifier : String) (remembered : Option Subject) : List Subject → Option Subject
  | [] => remembered
  | s :: rest =>
      if s.isDeleted then scan identifier remembered rest
      else if s.matchesEmail identifier then some s
      else if remembered.isNone && s.matchesIdentifier identifier then
        scan identifier (some s) rest
      else scan identifier remembered rest

variable {identifier : String}

theorem scan_eq (remembered : Option Subject) (subjects : List Subject) :
    scan identifier remembered subjects =
      ((subjects.filter (fun s => !s.isDeleted)).find? (fun s => s.matchesEmail identifier)).or
        (remembered.or
          ((subjects.filter (fun s => !s.isDeleted)).find?
            (fun s => s.matchesIdentifier identifier))) := by
  induction subjects generalizing remembered with
  | nil => simp [scan]
  | cons s rest ih =>
      by_cases hdeleted : s.isDeleted
      · simp [scan, hdeleted, ih]
      by_cases hemail : s.matchesEmail identifier
      · simp [scan, hdeleted, hemail]
      by_cases hname : s.matchesIdentifier identifier
      · cases remembered with
        | none => simp [scan, hdeleted, hemail, hname, ih]
        | some x => simp [scan, hdeleted, hemail, ih]
      · simp [scan, hdeleted, hemail, hname, ih]

theorem scan_none (subjects : List Subject) :
    scan identifier none subjects = findNamed? identifier subjects :=
  scan_eq none subjects

theorem matchesEmail_iff {s : Subject} :
    s.matchesEmail identifier = true ↔ foldIdentifier s.email = foldIdentifier identifier :=
  beq_iff_eq

theorem matchesIdentifier_iff {s : Subject} :
    s.matchesIdentifier identifier = true ↔
      foldIdentifier s.email = foldIdentifier identifier ∨
        foldIdentifier s.username = foldIdentifier identifier := by
  simp [matchesIdentifier, matchesEmail]

end Subject

namespace Directory

variable {d : Directory} {identifier : String} {order : List Subject}

/-- A subject that is stored and not deleted. -/
def Present (d : Directory) (s : Subject) : Prop :=
  (∃ id, d.get? id = some s) ∧ s.isDeleted = false

theorem mem_present (horder : order.Perm d.values) {s : Subject} :
    s ∈ order.filter (fun s => !s.isDeleted) ↔ d.Present s := by
  rw [List.mem_filter, horder.mem_iff, Registry.values, List.mem_map]
  constructor
  · rintro ⟨⟨⟨id, x⟩, hentry, rfl⟩, hpresent⟩
    exact ⟨⟨id, Registry.mem_entries.mp hentry⟩, by simpa using hpresent⟩
  · rintro ⟨⟨id, hs⟩, hpresent⟩
    exact ⟨⟨(id, s), Registry.mem_entries.mpr hs, rfl⟩, by simpa using hpresent⟩

variable {p : Subject → Bool}

theorem present_of_find? (horder : order.Perm d.values) {x : Subject}
    (hx : (order.filter (fun s => !s.isDeleted)).find? p = some x) : d.Present x ∧ p x = true :=
  ⟨(mem_present horder).mp (List.mem_of_find?_eq_some hx), List.find?_some hx⟩

theorem exists_find?_present (horder : order.Perm d.values) {s : Subject} (hs : d.Present s)
    (p : Subject → Bool) (hp : p s = true) :
    ∃ x, (order.filter (fun s => !s.isDeleted)).find? p = some x :=
  Option.isSome_iff_exists.mp (List.find?_isSome.mpr ⟨s, (mem_present horder).mpr hs, hp⟩)

theorem find?_present_eq_none (horder : order.Perm d.values)
    (h : ∀ s, d.Present s → p s ≠ true) :
    (order.filter (fun s => !s.isDeleted)).find? p = none := by
  rw [List.find?_eq_none]
  intro s hs
  exact h s ((mem_present horder).mp hs)

/-! # The answer to a search -/

/-- What an identifier may be answered with: a subject with this email, or else a subject with this
username, or else nobody.  No answer is a deleted subject. -/
structure Names (d : Directory) (identifier : String) (found : Option Subject) : Prop where
  present : ∀ x, found = some x → d.Present x
  email : ∀ s, d.Present s → foldIdentifier s.email = foldIdentifier identifier →
    ∃ x, found = some x ∧ foldIdentifier x.email = foldIdentifier identifier
  username : (∀ s, d.Present s → foldIdentifier s.email ≠ foldIdentifier identifier) →
    ∀ s, d.Present s → foldIdentifier s.username = foldIdentifier identifier →
      ∃ x, found = some x ∧ foldIdentifier x.username = foldIdentifier identifier
  nobody : (∀ s, d.Present s → foldIdentifier s.email ≠ foldIdentifier identifier) →
    (∀ s, d.Present s → foldIdentifier s.username ≠ foldIdentifier identifier) → found = none

/-- The subjects visited in any order, the search gives one of the answers that are allowed. -/
theorem names_scan (horder : order.Perm d.values) :
    d.Names identifier (Subject.scan identifier none order) := by
  rw [Subject.scan_none, Subject.findNamed?]
  constructor
  case present =>
      intro x hx
      rcases Option.or_eq_some_iff.mp hx with hemail | ⟨_, hname⟩
      · exact (present_of_find? horder hemail).left
      · exact (present_of_find? horder hname).left
  case email =>
      intro s hs hemail
      rcases exists_find?_present horder hs (fun s => s.matchesEmail identifier)
        (Subject.matchesEmail_iff.mpr hemail) with ⟨x, hx⟩
      have hmatches := (present_of_find? horder hx).right
      exact ⟨x, by simp [hx], Subject.matchesEmail_iff.mp hmatches⟩
  case username =>
      intro hnoemail s hs hname
      have hnone := find?_present_eq_none horder fun x hx hmatches =>
        hnoemail x hx (Subject.matchesEmail_iff.mp hmatches)
      rcases exists_find?_present horder hs (fun s => s.matchesIdentifier identifier)
        (Subject.matchesIdentifier_iff.mpr (.inr hname)) with ⟨x, hx⟩
      rcases present_of_find? horder hx with ⟨hpresent, hmatches⟩
      refine ⟨x, by simp [hnone, hx], ?_⟩
      rcases Subject.matchesIdentifier_iff.mp hmatches with hemail | hname'
      · exact absurd hemail (hnoemail x hpresent)
      · exact hname'
  case nobody =>
      intro hnoemail hnoname
      rw [Option.or_eq_none_iff]
      constructor
      · exact find?_present_eq_none horder fun x hx hmatches =>
          hnoemail x hx (Subject.matchesEmail_iff.mp hmatches)
      · refine find?_present_eq_none horder ?_
        intro x hx hmatches
        rcases Subject.matchesIdentifier_iff.mp hmatches with hemail | hname
        · exact hnoemail x hx hemail
        · exact hnoname x hx hname

/-! # A single answer -/

/-- Tells that at most one subject goes by an email and, if none does, at most one by the
username. -/
structure Unambiguous (d : Directory) (identifier : String) : Prop where
  email : ∀ s x, d.Present s → d.Present x →
    foldIdentifier s.email = foldIdentifier identifier →
    foldIdentifier x.email = foldIdentifier identifier → s = x
  username : (∀ s, d.Present s → foldIdentifier s.email ≠ foldIdentifier identifier) →
    ∀ s x, d.Present s → d.Present x →
      foldIdentifier s.username = foldIdentifier identifier →
      foldIdentifier x.username = foldIdentifier identifier → s = x

theorem Names.of_email {found : Option Subject} (h : d.Names identifier found) {s : Subject}
    (hs : d.Present s) (hemail : foldIdentifier s.email = foldIdentifier identifier)
    (honly : ∀ x, d.Present x → foldIdentifier x.email = foldIdentifier identifier → x = s) :
    found = some s := by
  rcases h.email s hs hemail with ⟨x, hfound, hx⟩
  rw [hfound, honly x (h.present x hfound) hx]

theorem Names.unique {a b : Option Subject} (ha : d.Names identifier a)
    (hb : d.Names identifier b) (h : d.Unambiguous identifier) : a = b := by
  by_cases hemail : ∃ s, d.Present s ∧ foldIdentifier s.email = foldIdentifier identifier
  · rcases hemail with ⟨s, hs, hmatches⟩
    have honly : ∀ x, d.Present x → foldIdentifier x.email = foldIdentifier identifier → x = s :=
      fun x hx hmatches' => h.email x s hx hs hmatches' hmatches
    rw [ha.of_email hs hmatches honly, hb.of_email hs hmatches honly]
  have hnoemail : ∀ s, d.Present s → foldIdentifier s.email ≠ foldIdentifier identifier :=
    fun s hs hmatches => hemail ⟨s, hs, hmatches⟩
  by_cases hname : ∃ s, d.Present s ∧ foldIdentifier s.username = foldIdentifier identifier
  · rcases hname with ⟨s, hs, hmatches⟩
    rcases ha.username hnoemail s hs hmatches with ⟨x, rfl, hx⟩
    rcases hb.username hnoemail s hs hmatches with ⟨y, rfl, hy⟩
    rw [h.username hnoemail x y (ha.present x rfl) (hb.present y rfl) hx hy]
  · have hnoname : ∀ s, d.Present s → foldIdentifier s.username ≠ foldIdentifier identifier :=
      fun s hs hmatches => hname ⟨s, hs, hmatches⟩
    rw [ha.nobody hnoemail hnoname, hb.nobody hnoemail hnoname]

/-- An identifier is looked up in one pass over the subjects.  In whatever order they come, the
pass finds a subject with this email if there is one, or else a subject with this username if there
is one, or else nobody, and never a deleted subject.  If the identifier is not ambiguous the answer
does not depend on the order.  The only owner of an email is found by it, even if it is the username
of somebody else. -/
theorem identifier_precedence (d : Directory) (identifier : String) :
    d.findByIdentifier identifier = Subject.scan identifier none d.values ∧
    ∀ order : List Subject, order.Perm d.values →
      d.Names identifier (Subject.scan identifier none order) ∧
      (d.Unambiguous identifier →
        Subject.scan identifier none order = d.findByIdentifier identifier) ∧
      ∀ s, d.Present s → foldIdentifier s.email = foldIdentifier identifier →
        (∀ x, d.Present x → foldIdentifier x.email = foldIdentifier identifier → x = s) →
          Subject.scan identifier none order = some s := by
  have hscan : d.findByIdentifier identifier = Subject.scan identifier none d.values :=
    (Subject.scan_none d.values).symm
  refine ⟨hscan, ?_⟩
  intro order horder
  have hnames : d.Names identifier (Subject.scan identifier none order) := names_scan horder
  refine ⟨hnames, ?_, ?_⟩
  · intro hunambiguous
    rw [hscan]
    exact hnames.unique (names_scan (List.Perm.refl _)) hunambiguous
  · intro s hs hemail honly
    exact hnames.of_email hs hemail honly

namespace Sample

def owner : Subject where
  id := ⟨Uuid.ofNat 1⟩
  email := "Ada@Example.org"
  username := "ada"
  passwordHash := ""
  active := true
  admin := false
  deletedAt := none
  lastAuthenticatedAt := none
  passwordChangedAt := none
  createdAt := .epoch

def namesake : Subject :=
  { owner with id := ⟨Uuid.ofNat 2⟩, email := "eve@example.org", username := "ada@example.org" }

def pair : Directory :=
  ⟨[(namesake.id, namesake), (owner.id, owner)], by decide⟩

theorem present_pair {s : Subject} (hs : pair.Present s) : s = namesake ∨ s = owner := by
  rcases hs with ⟨⟨id, hs⟩, _⟩
  simpa [pair] using List.mem_map_of_mem (f := Prod.snd) (Registry.mem_entries.mpr hs)

end Sample

/-- The owner of the email is found in both orders. -/
theorem identifier_precedence_pair :
    Sample.pair.Present Sample.owner ∧
      foldIdentifier Sample.namesake.username = foldIdentifier "ADA@example.org" ∧
      Subject.scan "ADA@example.org" none [Sample.namesake, Sample.owner] = some Sample.owner ∧
      Subject.scan "ADA@example.org" none [Sample.owner, Sample.namesake] = some Sample.owner := by
  have howner : Sample.pair.Present Sample.owner := ⟨⟨Sample.owner.id, by decide⟩, rfl⟩
  have hemail : foldIdentifier Sample.owner.email = foldIdentifier "ADA@example.org" := by
    decide +kernel
  have hother : foldIdentifier Sample.namesake.email ≠ foldIdentifier "ADA@example.org" := by
    decide +kernel
  have honly : ∀ x, Sample.pair.Present x →
      foldIdentifier x.email = foldIdentifier "ADA@example.org" → x = Sample.owner := by
    intro x hx hmatches
    rcases Sample.present_pair hx with rfl | rfl
    · exact absurd hmatches hother
    · rfl
  have hfound := (identifier_precedence Sample.pair "ADA@example.org").right
  exact ⟨howner, by decide +kernel,
    (hfound _ (List.Perm.refl _)).right.right Sample.owner howner hemail honly,
    (hfound _ (List.Perm.swap ..)).right.right Sample.owner howner hemail honly⟩

end Directory

end SessionAuth
