/-!
# Registries

Finite maps that remember the order in which their keys came.  A key occurs once.
-/

namespace SessionAuth

structure Registry (κ ν : Type) where
  entries : List (κ × ν)
  nodup_keys : (entries.map Prod.fst).Nodup

namespace Registry

variable {κ ν : Type}

def empty : Registry κ ν :=
  ⟨[], List.nodup_nil⟩

def values (r : Registry κ ν) : List ν :=
  r.entries.map Prod.snd

variable [DecidableEq κ]

def get? (r : Registry κ ν) (k : κ) : Option ν :=
  r.entries.lookup k

def contains (r : Registry κ ν) (k : κ) : Bool :=
  (r.get? k).isSome

def modifyEntries (k : κ) (f : ν → ν) (entries : List (κ × ν)) : List (κ × ν) :=
  entries.map (fun e => if e.1 = k then (e.1, f e.2) else e)

@[simp] theorem map_fst_modifyEntries (k : κ) (f : ν → ν) (entries : List (κ × ν)) :
    (modifyEntries k f entries).map Prod.fst = entries.map Prod.fst := by
  simp only [modifyEntries, List.map_map]
  refine List.map_congr_left (fun e _ => ?_)
  simp only [Function.comp]
  split <;> rfl

def modify (r : Registry κ ν) (k : κ) (f : ν → ν) : Registry κ ν :=
  ⟨modifyEntries k f r.entries, by rw [map_fst_modifyEntries]; exact r.nodup_keys⟩

/-- Gives a key a value in place of the one it had.  A new key comes last. -/
def insert (r : Registry κ ν) (k : κ) (v : ν) : Registry κ ν :=
  if h : k ∈ r.entries.map Prod.fst then r.modify k (fun _ => v)
  else
    ⟨r.entries ++ [(k, v)], by
      rw [List.map_append]
      refine List.nodup_append.mpr ⟨r.nodup_keys, by simp, ?_⟩
      rintro a ha b hb rfl
      simp at hb
      exact h (hb ▸ ha)⟩

/-! # Looking up -/

@[simp] theorem get?_empty (k : κ) : (empty : Registry κ ν).get? k = none := rfl

theorem lookup_modifyEntries (k k' : κ) (f : ν → ν) (entries : List (κ × ν)) :
    (modifyEntries k f entries).lookup k' =
      if k' = k then (entries.lookup k').map f else entries.lookup k' := by
  induction entries with
  | nil => simp [modifyEntries]
  | cons e rest ih =>
      obtain ⟨a, v⟩ := e
      simp only [modifyEntries, List.map_cons] at ih ⊢
      by_cases hk : k' = a
      · subst hk
        by_cases h : k' = k <;> simp [h]
      · have hne : (k' == a) = false := by simpa using hk
        by_cases ha : a = k
        · simp [ha, List.lookup_cons, ha ▸ hk, ih, show (k' == k) = false by simpa using ha ▸ hk]
        · simp [ha, List.lookup_cons, hne, ih]

theorem get?_modify (r : Registry κ ν) (k k' : κ) (f : ν → ν) :
    (r.modify k f).get? k' = if k' = k then (r.get? k').map f else r.get? k' :=
  lookup_modifyEntries k k' f r.entries

theorem lookup_eq_none_of_not_mem {k : κ} {entries : List (κ × ν)}
    (h : k ∉ entries.map Prod.fst) : entries.lookup k = none := by
  induction entries with
  | nil => rfl
  | cons e rest ih =>
      obtain ⟨a, v⟩ := e
      simp only [List.map_cons, List.mem_cons, not_or] at h
      have hne : (k == a) = false := by simpa using h.1
      rw [List.lookup_cons, hne]
      exact ih h.2

theorem exists_lookup_of_mem {k : κ} {entries : List (κ × ν)}
    (h : k ∈ entries.map Prod.fst) : ∃ v, entries.lookup k = some v := by
  induction entries with
  | nil => simp at h
  | cons e rest ih =>
      obtain ⟨a, v⟩ := e
      by_cases hk : k = a
      · exact ⟨v, by simp [hk]⟩
      · have hne : (k == a) = false := by simpa using hk
        simp only [List.map_cons, List.mem_cons, hk, false_or] at h
        rw [List.lookup_cons, hne]
        exact ih h

theorem lookup_append (k : κ) (xs ys : List (κ × ν)) :
    (xs ++ ys).lookup k = (xs.lookup k).or (ys.lookup k) := by
  induction xs with
  | nil => simp
  | cons e rest ih =>
      obtain ⟨a, v⟩ := e
      by_cases hk : k = a
      · simp [hk]
      · have hne : (k == a) = false := by simpa using hk
        simp [List.lookup_cons, hne, ih]

/-- What a key has after a value was inserted. -/
theorem get?_insert (r : Registry κ ν) (k k' : κ) (v : ν) :
    (r.insert k v).get? k' = if k' = k then some v else r.get? k' := by
  unfold insert
  split
  case isTrue h =>
      rw [get?_modify]
      by_cases hk : k' = k
      · subst hk
        obtain ⟨w, hw⟩ := exists_lookup_of_mem h
        simp [get?, hw]
      · simp [hk]
  case isFalse h =>
      simp only [get?, lookup_append]
      by_cases hk : k' = k
      · subst hk
        simp [lookup_eq_none_of_not_mem h]
      · have hne : (k' == k) = false := by simpa using hk
        simp [List.lookup_cons, hne, hk]

end Registry
end SessionAuth
