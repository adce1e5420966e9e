/-!
# `DiveSchool.Table` — finite maps with distinct keys

A table is a list of entries with distinct keys, in the order in which the keys came in. Its view
is the look-up `get?`: each operation has one equation through it.

## Contents
- **Tables.** `Table`, `Table.empty`, `Table.get?`, `Table.contains`, `Table.size`.
- **Changes.** `Table.insert` replaces in place or adds at the end, `Table.erase` removes.
- **Equations.** `get?_insert`, `get?_erase`, `insert_insert`, and what membership has to do with `get?`.
- **Values.** What `insert` adds to the values and `erase` takes from them; `erase_insert`.
-/

namespace DiveSchool

/-! ## Tables -/

/-- A finite map from keys to values. -/
structure Table (κ ν : Type) where
  entries : List (κ × ν)
  distinct : (entries.map Prod.fst).Nodup

namespace Table

variable {κ ν : Type} [DecidableEq κ]

/-- The table without entries. -/
def empty : Table κ ν := ⟨[], List.nodup_nil⟩

instance : Inhabited (Table κ ν) := ⟨empty⟩

/-- The value stored under a key. -/
def get? (t : Table κ ν) (k : κ) : Option ν :=
  (t.entries.find? (·.1 = k)).map Prod.snd

/-- Whether a key is in use. -/
def contains (t : Table κ ν) (k : κ) : Bool := (t.get? k).isSome

/-- The number of entries. -/
def size (t : Table κ ν) : Nat := t.entries.length

/-- The values, in the order in which their keys came in. -/
def values (t : Table κ ν) : List ν := t.entries.map Prod.snd

/-! ## Changes -/

/-- Put a value under a key, in place of the old value or as the last entry. -/
def insertList (k : κ) (v : ν) : List (κ × ν) → List (κ × ν)
  | [] => [(k, v)]
  | e :: rest => if e.1 = k then (k, v) :: rest else e :: insertList k v rest

theorem mem_keys_insertList {k j : κ} {v : ν} {l : List (κ × ν)} :
    j ∈ (insertList k v l).map Prod.fst ↔ j = k ∨ j ∈ l.map Prod.fst := by
  induction l with
  | nil => simp [insertList]
  | cons e rest ih =>
    simp only [insertList]
    split
    · next h => simp [h]
    · simp only [List.map_cons, List.mem_cons, ih]
      constructor
      · rintro (h | h | h) <;> simp [h]
      · rintro (h | h | h) <;> simp [h]

theorem nodup_insertList {k : κ} {v : ν} {l : List (κ × ν)} (h : (l.map Prod.fst).Nodup) :
    ((insertList k v l).map Prod.fst).Nodup := by
  induction l with
  | nil => simp [insertList]
  | cons e rest ih =>
    simp only [List.map_cons, List.nodup_cons] at h
    simp only [insertList]
    split
    · next hk =>
      simp only [List.map_cons, List.nodup_cons]
      exact ⟨hk ▸ h.1, h.2⟩
    · next hk =>
      simp only [List.map_cons, List.nodup_cons, mem_keys_insertList, not_or]
      exact ⟨⟨hk, h.1⟩, ih h.2⟩

/-- Put a value under a key. -/
def insert (t : Table κ ν) (k : κ) (v : ν) : Table κ ν :=
  ⟨insertList k v t.entries, nodup_insertList t.distinct⟩

/-- Remove a key. -/
def erase (t : Table κ ν) (k : κ) : Table κ ν :=
  ⟨t.entries.filter (·.1 ≠ k), (t.distinct.sublist (List.filter_sublist.map Prod.fst))⟩

/-- The table of a list of entries; of two with one key the later stays. -/
def ofList (l : List (κ × ν)) : Table κ ν :=
  l.foldl (fun t e => t.insert e.1 e.2) empty

/-! ## Equations -/

@[simp] theorem get?_empty (k : κ) : (empty : Table κ ν).get? k = none := rfl

theorem get?_insert (t : Table κ ν) (k j : κ) (v : ν) :
    (t.insert k v).get? j = if j = k then some v else t.get? j := by
  simp only [get?, insert]
  induction t.entries with
  | nil =>
    by_cases h : j = k
    · simp [insertList, h]
    · simp [insertList, h, Ne.symm h]
  | cons e rest ih =>
    simp only [insertList]
    by_cases hk : e.1 = k
    · by_cases h : j = k
      · simp [hk, h]
      · simp [hk, h, Ne.symm h]
    · simp only [hk, if_false]
      by_cases hj : e.1 = j
      · have : j ≠ k := fun h => hk (hj.trans h)
        simp [hj, this]
      · simp only [List.find?_cons, hj, decide_false]
        exact ih

@[simp] theorem get?_insert_self (t : Table κ ν) (k : κ) (v : ν) :
    (t.insert k v).get? k = some v := by simp [get?_insert]

theorem get?_insert_of_ne (t : Table κ ν) {k j : κ} (v : ν) (h : j ≠ k) :
    (t.insert k v).get? j = t.get? j := by simp [get?_insert, h]

theorem get?_erase (t : Table κ ν) (k j : κ) :
    (t.erase k).get? j = if j = k then none else t.get? j := by
  simp only [get?, erase]
  induction t.entries with
  | nil => simp
  | cons e rest ih =>
    by_cases hk : e.1 = k
    · by_cases h : j = k
      · simp [h] at ih ⊢
      · simp only [h, if_false] at ih ⊢
        simp [hk, Ne.symm h] at ih ⊢
        exact ih
    · by_cases hj : e.1 = j
      · have : j ≠ k := fun h => hk (hj.trans h)
        simp [hj, this]
      · simp only [ne_eq, decide_not, List.filter_cons, hk, decide_false, Bool.not_false, if_true,
          List.find?_cons, hj] at ih ⊢
        exact ih

@[simp] theorem get?_erase_self (t : Table κ ν) (k : κ) : (t.erase k).get? k = none := by
  simp [get?_erase]

/-- A key has a value exactly when the entry is in the table. -/
theorem get?_eq_some_iff {t : Table κ ν} {k : κ} {v : ν} :
    t.get? k = some v ↔ (k, v) ∈ t.entries := by
  obtain ⟨l, hl⟩ := t
  simp only [get?]
  induction l with
  | nil => simp
  | cons e rest ih =>
    simp only [List.map_cons, List.nodup_cons] at hl
    by_cases h : e.1 = k
    · simp only [List.find?_cons, h, decide_true, Option.map_some, Option.some.injEq,
        List.mem_cons]
      constructor
      · intro hv
        left
        rw [← h, ← hv]
      · rintro (hv | hv)
        · rw [← hv]
        · exact absurd (List.mem_map_of_mem (f := Prod.fst) hv) (h ▸ hl.1)
    · simp only [List.find?_cons, h, decide_false, List.mem_cons]
      rw [ih hl.2]
      constructor
      · exact Or.inr
      · rintro (hv | hv)
        · exact absurd (by rw [← hv]) h
        · exact hv

theorem insertList_insertList (k : κ) (v w : ν) (l : List (κ × ν)) :
    insertList k v (insertList k w l) = insertList k v l := by
  induction l with
  | nil => simp [insertList]
  | cons e rest ih =>
    simp only [insertList]
    split
    · simp [insertList]
    · next h => rw [insertList, if_neg h, ih]

/-- Of two values put under one key the later stays. -/
theorem insert_insert (t : Table κ ν) (k : κ) (v w : ν) : (t.insert k w).insert k v = t.insert k v := by
  simp only [insert, insertList_insertList]

/-! ## Values -/

theorem get?_eq_none_iff {t : Table κ ν} {k : κ} : t.get? k = none ↔ ∀ e ∈ t.entries, e.1 ≠ k := by
  simp [get?, List.find?_eq_none]

/-- Removing a key that is not there changes nothing. -/
theorem erase_of_get?_eq_none {t : Table κ ν} {k : κ} (h : t.get? k = none) : t.erase k = t := by
  obtain ⟨l, hl⟩ := t
  simp only [erase, mk.injEq, List.filter_eq_self, decide_eq_true_eq]
  exact get?_eq_none_iff.mp h

theorem insertList_of_forall_ne {k : κ} {v : ν} {l : List (κ × ν)} (h : ∀ e ∈ l, e.1 ≠ k) :
    insertList k v l = l ++ [(k, v)] := by
  induction l with
  | nil => rfl
  | cons e rest ih =>
    rw [insertList, if_neg (h e List.mem_cons_self), ih fun e he => h e (List.mem_cons_of_mem _ he),
      List.cons_append]

/-- A new key that is removed again leaves the table as it was. -/
theorem erase_insert {t : Table κ ν} {k : κ} (h : t.get? k = none) (v : ν) :
    (t.insert k v).erase k = t := by
  have hkept : t.entries.filter (·.1 ≠ k) = t.entries := by
    simpa [List.filter_eq_self] using get?_eq_none_iff.mp h
  obtain ⟨l, hl⟩ := t
  simp only [erase, insert, mk.injEq] at hkept ⊢
  rw [insertList_of_forall_ne (get?_eq_none_iff.mp h), List.filter_append, hkept]
  simp

/-- A new key brings one value more. -/
theorem values_insert {t : Table κ ν} {k : κ} {v : ν} (h : t.get? k = none) :
    (t.insert k v).values = t.values ++ [v] := by
  simp [values, insert, insertList_of_forall_ne (get?_eq_none_iff.mp h)]

/-- A key removed takes one value with it. -/
theorem countP_values_erase {t : Table κ ν} {k : κ} {v : ν} (p : ν → Bool) (h : t.get? k = some v) :
    (t.erase k).values.countP p + (if p v then 1 else 0) = t.values.countP p := by
  obtain ⟨l, hl⟩ := t
  replace h := get?_eq_some_iff.mp h
  simp only [values, erase, List.countP_map]
  induction l with
  | nil => cases h
  | cons e rest ih =>
    simp only [List.map_cons, List.nodup_cons] at hl
    by_cases hk : e.1 = k
    · -- no other entry has the key
      have hrest : ∀ e' ∈ rest, e'.1 ≠ k := fun e' he' hkey =>
        hl.1 (List.mem_map.mpr ⟨e', he', hkey.trans hk.symm⟩)
      have hv : e = (k, v) := by
        rcases List.mem_cons.mp h with h | h
        · exact h.symm
        · exact absurd rfl (hrest _ h)
      have hkept : rest.filter (·.1 ≠ k) = rest := by
        simpa [List.filter_eq_self] using hrest
      rw [List.filter_cons, if_neg (by simp [hk]), hkept, List.countP_cons, hv]
      rfl
    · have hmem : (k, v) ∈ rest := by
        rcases List.mem_cons.mp h with h | h
        · exact absurd (by rw [← h]) hk
        · exact h
      rw [List.filter_cons, if_pos (by simp [hk]), List.countP_cons, List.countP_cons,
        ← ih hl.2 hmem]
      omega

end Table

end DiveSchool
