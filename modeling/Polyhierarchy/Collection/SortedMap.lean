import Polyhierarchy.Collection.SortedSet
/-!
# Finite maps in sorted form

A finite map with ranked keys is kept as the list of its entries in ascending order of the keys,
one entry a key. Two maps that look up alike are equal.

## Main definitions

* `SortedMap` — the entries in strictly ascending order of their keys.
* `SortedMap.get?`, `SortedMap.insert`, `SortedMap.erase` — look-up, replacement and removal.
* `SortedMap.values` — the values in the order of their keys.

## Main statements

* `SortedMap.get?_insert_self`, `SortedMap.get?_insert_ne`, `SortedMap.get?_erase_self`,
  `SortedMap.get?_erase_ne` — look-up after each operation.
* `SortedMap.mem_entries_iff` — the entries are exactly what look-up finds.
* `SortedMap.ext` — maps with the same look-ups are equal.
-/

namespace Polyhierarchy

variable {κ ν : Type} [Ranked κ]

/-- A finite map: its entries in strictly ascending order of their keys. -/
structure SortedMap (κ ν : Type) [Ranked κ] where
  /-- The entries in ascending order of the keys. -/
  entries : List (κ × ν)
  /-- The keys ascend strictly. -/
  sorted : (entries.map (·.1)).Pairwise Ranked.lt

namespace SortedMap

/-- The map without entries. -/
def empty : SortedMap κ ν := ⟨[], by simp⟩

instance : EmptyCollection (SortedMap κ ν) := ⟨empty⟩

instance : Inhabited (SortedMap κ ν) := ⟨∅⟩

/-- The number of entries. -/
def size (m : SortedMap κ ν) : Nat := m.entries.length

/-- The values in ascending order of their keys. -/
def values (m : SortedMap κ ν) : List ν := m.entries.map (·.2)

/-! ### Look-up -/

/-- The value of the first entry with the given key. -/
def findIn (k : κ) : List (κ × ν) → Option ν
  | [] => none
  | (k', v) :: l => if rank k' = rank k then some v else findIn k l

/-- The value stored under a key. -/
def get? (m : SortedMap κ ν) (k : κ) : Option ν := findIn k m.entries

/-- Whether a key has a value. -/
def contains (m : SortedMap κ ν) (k : κ) : Bool := (m.get? k).isSome

@[simp] theorem get?_empty (k : κ) : (∅ : SortedMap κ ν).get? k = none := rfl

/-! ### Replacement -/

/-- Sets the value of a key in an ascending list of entries. -/
def insertIn (k : κ) (v : ν) : List (κ × ν) → List (κ × ν)
  | [] => [(k, v)]
  | (k', v') :: l =>
    if rank k < rank k' then (k, v) :: (k', v') :: l
    else if rank k' < rank k then (k', v') :: insertIn k v l
    else (k, v) :: l

theorem keys_insertIn (k : κ) (v : ν) (l : List (κ × ν)) :
    (insertIn k v l).map (·.1) = SortedSet.insertIn k (l.map (·.1)) := by
  induction l with
  | nil => rfl
  | cons e l ih =>
    obtain ⟨k', v'⟩ := e
    simp only [insertIn, SortedSet.insertIn, List.map_cons]
    split
    · rfl
    · split
      · simp [ih]
      · next h h' => simp [Ranked.eq_of_not_lt h h']

theorem findIn_insertIn_self (k : κ) (v : ν) (l : List (κ × ν)) :
    findIn k (insertIn k v l) = some v := by
  induction l with
  | nil => simp [insertIn, findIn]
  | cons e l ih =>
    obtain ⟨k', v'⟩ := e
    simp only [insertIn]
    split
    · simp [findIn]
    · split
      · next h => simp [findIn, Nat.ne_of_lt h, ih]
      · simp [findIn]

theorem findIn_insertIn_ne {k k' : κ} (v : ν) (l : List (κ × ν)) (h : k' ≠ k) :
    findIn k' (insertIn k v l) = findIn k' l := by
  have hr : rank k ≠ rank k' := fun e => h (rank_injective e.symm)
  induction l with
  | nil => simp [insertIn, findIn, hr]
  | cons e l ih =>
    obtain ⟨j, w⟩ := e
    simp only [insertIn]
    split
    · simp [findIn, hr]
    · split
      · simp [findIn, ih]
      · next h₁ h₂ =>
        have : j = k := Ranked.eq_of_not_lt h₂ h₁
        subst this
        simp [findIn, hr]

/-- Sets the value of a key, new or not. -/
def insert (m : SortedMap κ ν) (k : κ) (v : ν) : SortedMap κ ν :=
  ⟨insertIn k v m.entries, by rw [keys_insertIn]; exact SortedSet.sorted_insertIn m.sorted⟩

@[simp] theorem get?_insert_self (m : SortedMap κ ν) (k : κ) (v : ν) :
    (m.insert k v).get? k = some v := findIn_insertIn_self k v m.entries

theorem get?_insert_ne (m : SortedMap κ ν) {k k' : κ} (v : ν) (h : k' ≠ k) :
    (m.insert k v).get? k' = m.get? k' := findIn_insertIn_ne v m.entries h

/-! ### Removal -/

/-- Takes a key and its value out. -/
def erase (m : SortedMap κ ν) (k : κ) : SortedMap κ ν :=
  ⟨m.entries.filter fun e => rank e.1 != rank k, by
    have : (m.entries.filter fun e => rank e.1 != rank k).map (·.1) =
        (m.entries.map (·.1)).filter fun j => rank j != rank k := by
      rw [List.filter_map]; rfl
    rw [this]
    exact m.sorted.filter _⟩

theorem findIn_filter_self (k : κ) (l : List (κ × ν)) :
    findIn k (l.filter fun e => rank e.1 != rank k) = none := by
  induction l with
  | nil => rfl
  | cons e l ih =>
    by_cases h : rank e.1 = rank k
    · simp [h, ih]
    · simp [h, findIn, ih]

theorem findIn_filter_ne {k k' : κ} (l : List (κ × ν)) (h : k' ≠ k) :
    findIn k' (l.filter fun e => rank e.1 != rank k) = findIn k' l := by
  have hr : rank k ≠ rank k' := fun e => h (rank_injective e.symm)
  induction l with
  | nil => rfl
  | cons e l ih =>
    by_cases h' : rank e.1 = rank k
    · simp [h', findIn, ih, hr]
    · simp [h', findIn, ih]

@[simp] theorem get?_erase_self (m : SortedMap κ ν) (k : κ) : (m.erase k).get? k = none :=
  findIn_filter_self k m.entries

theorem get?_erase_ne (m : SortedMap κ ν) {k k' : κ} (h : k' ≠ k) :
    (m.erase k).get? k' = m.get? k' := findIn_filter_ne m.entries h

/-! ### Entries and extensionality -/

theorem findIn_eq_some_iff {l : List (κ × ν)} (h : (l.map (·.1)).Pairwise Ranked.lt) {k : κ}
    {v : ν} : findIn k l = some v ↔ (k, v) ∈ l := by
  induction l with
  | nil => simp [findIn]
  | cons e l ih =>
    obtain ⟨j, w⟩ := e
    simp only [List.map_cons, List.pairwise_cons] at h
    by_cases hj : rank j = rank k
    · have hjk : j = k := rank_injective hj
      subst hjk
      simp only [findIn, if_true, Option.some.injEq, List.mem_cons, Prod.mk.injEq, true_and]
      constructor
      · exact fun hv => Or.inl hv.symm
      · rintro (hv | hmem)
        · exact hv.symm
        · exact absurd (h.1 j (List.mem_map.2 ⟨_, hmem, rfl⟩)) (Nat.lt_irrefl _)
    · have hne : k ≠ j := fun hkj => hj (hkj ▸ rfl)
      simp [findIn, hj, ih h.2, hne]

/-- The entries are exactly what look-up finds. -/
theorem mem_entries_iff {m : SortedMap κ ν} {k : κ} {v : ν} :
    (k, v) ∈ m.entries ↔ m.get? k = some v := (findIn_eq_some_iff m.sorted).symm

theorem mem_values_iff {m : SortedMap κ ν} {v : ν} :
    v ∈ m.values ↔ ∃ k, m.get? k = some v := by
  simp only [values, List.mem_map]
  constructor
  · rintro ⟨⟨k, w⟩, hm, rfl⟩
    exact ⟨k, mem_entries_iff.1 hm⟩
  · rintro ⟨k, hk⟩
    exact ⟨(k, v), mem_entries_iff.2 hk, rfl⟩

theorem entries_eq_of_sorted {l m : List (κ × ν)} (hl : (l.map (·.1)).Pairwise Ranked.lt)
    (hm : (m.map (·.1)).Pairwise Ranked.lt) (h : ∀ e, e ∈ l ↔ e ∈ m) : l = m := by
  induction l generalizing m with
  | nil =>
    cases m with
    | nil => rfl
    | cons b m => exact absurd ((h b).2 (by simp)) (by simp)
  | cons a l ih =>
    cases m with
    | nil => exact absurd ((h a).1 (by simp)) (by simp)
    | cons b m =>
      simp only [List.map_cons, List.pairwise_cons, List.mem_map, forall_exists_index,
        and_imp, forall_apply_eq_imp_iff₂] at hl hm
      have hab : a = b := by
        rcases List.mem_cons.1 ((h a).1 (by simp)) with e | ha
        · exact e
        · rcases List.mem_cons.1 ((h b).2 (by simp)) with e | hb
          · exact e.symm
          · exact absurd (Nat.lt_trans (hl.1 b hb) (hm.1 a ha)) (Nat.lt_irrefl _)
      subst hab
      congr 1
      refine ih hl.2 hm.2 fun c => ⟨fun hc => ?_, fun hc => ?_⟩
      · rcases List.mem_cons.1 ((h c).1 (List.mem_cons_of_mem _ hc)) with e | hc'
        · exact absurd (hl.1 c hc) (by rw [e]; exact Nat.lt_irrefl _)
        · exact hc'
      · rcases List.mem_cons.1 ((h c).2 (List.mem_cons_of_mem _ hc)) with e | hc'
        · exact absurd (hm.1 c hc) (by rw [e]; exact Nat.lt_irrefl _)
        · exact hc'

/-- Maps with the same look-ups are equal. -/
@[ext] theorem ext {l m : SortedMap κ ν} (h : ∀ k, l.get? k = m.get? k) : l = m := by
  have he : l.entries = m.entries := by
    refine entries_eq_of_sorted l.sorted m.sorted fun e => ?_
    obtain ⟨k, v⟩ := e
    rw [mem_entries_iff, mem_entries_iff, h]
  cases l
  cases m
  cases he
  rfl

/-- A key that has a value already keeps it if it is set to it once more. -/
theorem insert_of_get? {m : SortedMap κ ν} {k : κ} {v : ν} (h : m.get? k = some v) :
    m.insert k v = m := by
  ext j : 1
  by_cases hj : j = k
  · rw [hj, get?_insert_self, h]
  · rw [get?_insert_ne _ _ hj]

end SortedMap

end Polyhierarchy
