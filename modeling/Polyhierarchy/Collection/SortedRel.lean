import Polyhierarchy.Collection.SortedMap
/-!
# Finite relations stored by rows

A finite relation between ranked types is kept as the map from each left element to the set of
right elements it is related to. Empty rows are never stored, so relations that hold of the same
pairs are equal.

## Main definitions

* `SortedRel` — the stored rows, none of them empty.
* `SortedRel.row`, `SortedRel.column` — what an element is related to, in both directions.
* `SortedRel.insert`, `SortedRel.erase`, `SortedRel.setRow`, `SortedRel.eraseRight` — the edits.

## Main statements

* `SortedRel.mem_row_setRow` — a row after a row has been replaced.
* `SortedRel.mem_row_insert`, `SortedRel.mem_row_erase`, `SortedRel.mem_row_eraseRight` — the
  related pairs after each edit.
* `SortedRel.mem_column` — a column lists exactly the rows that hold the element.
* `SortedRel.ext` — relations that hold of the same pairs are equal.
-/

namespace Polyhierarchy

variable {α β : Type} [Ranked α] [Ranked β]

/-- A finite relation: for each left element with partners, the set of them. -/
structure SortedRel (α β : Type) [Ranked α] [Ranked β] where
  /-- The partners of each left element that has any. -/
  rows : SortedMap α (SortedSet β)
  /-- No stored row is empty. -/
  rows_ne_empty : ∀ a s, rows.get? a = some s → s ≠ ∅

namespace SortedRel

/-- The relation that holds of no pair. -/
def empty : SortedRel α β := ⟨∅, fun _ _ h => by simp at h⟩

instance : EmptyCollection (SortedRel α β) := ⟨empty⟩

instance : Inhabited (SortedRel α β) := ⟨∅⟩

/-- The right elements that a left element is related to. -/
def row (r : SortedRel α β) (a : α) : SortedSet β := (r.rows.get? a).getD ∅

/-- Whether the relation holds of a pair. -/
def holds (r : SortedRel α β) (a : α) (b : β) : Bool := (r.row a).contains b

/-- The left elements that are related to a right element. -/
def column (r : SortedRel α β) (b : β) : SortedSet α :=
  SortedSet.ofList (r.rows.entries.filterMap fun e => if e.2.contains b then some e.1 else none)

/-- The related pairs, by left and then by right element. -/
def pairs (r : SortedRel α β) : List (α × β) :=
  r.rows.entries.flatMap fun e => e.2.toList.map fun b => (e.1, b)

/-- The number of related pairs. -/
def size (r : SortedRel α β) : Nat := r.pairs.length

@[simp] theorem not_mem_row_empty (a : α) (b : β) : ¬ b ∈ (∅ : SortedRel α β).row a :=
  SortedSet.not_mem_empty b

theorem holds_iff {r : SortedRel α β} {a : α} {b : β} : r.holds a b = true ↔ b ∈ r.row a :=
  SortedSet.contains_iff

theorem get?_eq_some_iff {r : SortedRel α β} {a : α} {s : SortedSet β} :
    r.rows.get? a = some s ↔ r.row a = s ∧ s ≠ ∅ := by
  constructor
  · intro h
    exact ⟨by simp [row, h], r.rows_ne_empty a s h⟩
  · rintro ⟨h, hs⟩
    cases hg : r.rows.get? a with
    | none => exact absurd (by rw [← h]; simp [row, hg]) hs
    | some t => simp [row, hg] at h; rw [h]

/-- A column lists exactly the rows that hold the element. -/
@[simp] theorem mem_column {r : SortedRel α β} {a : α} {b : β} :
    a ∈ r.column b ↔ b ∈ r.row a := by
  simp only [column, SortedSet.mem_ofList, List.mem_filterMap]
  constructor
  · rintro ⟨⟨c, s⟩, hm, h⟩
    by_cases hb : s.contains b = true
    · simp [hb] at h
      subst h
      rw [(get?_eq_some_iff.1 (SortedMap.mem_entries_iff.1 hm)).1]
      exact SortedSet.contains_iff.1 hb
    · simp [hb] at h
  · intro h
    have hg : r.rows.get? a = some (r.row a) :=
      get?_eq_some_iff.2 ⟨rfl, fun e => SortedSet.not_mem_empty b (e ▸ h)⟩
    exact ⟨(a, r.row a), SortedMap.mem_entries_iff.2 hg, by
      simp [SortedSet.contains_iff.2 h]⟩

/-! ### Replacing a row -/

/-- Gives a left element exactly the partners of a set. -/
def setRow (r : SortedRel α β) (a : α) (s : SortedSet β) : SortedRel α β :=
  if h : s.isEmpty then
    ⟨r.rows.erase a, fun c t hc => by
      by_cases hca : c = a
      · subst hca; simp at hc
      · exact r.rows_ne_empty c t (by rwa [SortedMap.get?_erase_ne _ hca] at hc)⟩
  else
    ⟨r.rows.insert a s, fun c t hc => by
      by_cases hca : c = a
      · subst hca
        simp only [SortedMap.get?_insert_self, Option.some.injEq] at hc
        subst hc
        rintro rfl
        exact h rfl
      · exact r.rows_ne_empty c t (by rwa [SortedMap.get?_insert_ne _ _ hca] at hc)⟩

@[simp] theorem row_setRow_self (r : SortedRel α β) (a : α) (s : SortedSet β) :
    (r.setRow a s).row a = s := by
  unfold setRow
  split
  · next h => simp [row, SortedSet.eq_empty_of_isEmpty h]
  · simp [row]

theorem row_setRow_ne (r : SortedRel α β) {a c : α} (s : SortedSet β) (h : c ≠ a) :
    (r.setRow a s).row c = r.row c := by
  unfold setRow
  split
  · simp [row, SortedMap.get?_erase_ne _ h]
  · simp [row, SortedMap.get?_insert_ne _ _ h]

/-- A row after a row has been replaced. -/
theorem mem_row_setRow {r : SortedRel α β} {a c : α} {s : SortedSet β} {b : β} :
    b ∈ (r.setRow a s).row c ↔ (c = a ∧ b ∈ s) ∨ (c ≠ a ∧ b ∈ r.row c) := by
  by_cases h : c = a
  · subst h; simp
  · simp [row_setRow_ne _ _ h, h]

/-! ### Single pairs -/

/-- Relates a pair. -/
def insert (r : SortedRel α β) (a : α) (b : β) : SortedRel α β := r.setRow a ((r.row a).insert b)

@[simp] theorem mem_row_insert {r : SortedRel α β} {a c : α} {b d : β} :
    d ∈ (r.insert a b).row c ↔ (c = a ∧ d = b) ∨ d ∈ r.row c := by
  by_cases h : c = a
  · subst h; simp [insert]
  · simp [insert, row_setRow_ne _ _ h, h]

/-- Unrelates a pair. -/
def erase (r : SortedRel α β) (a : α) (b : β) : SortedRel α β := r.setRow a ((r.row a).erase b)

@[simp] theorem mem_row_erase {r : SortedRel α β} {a c : α} {b d : β} :
    d ∈ (r.erase a b).row c ↔ d ∈ r.row c ∧ ¬ (c = a ∧ d = b) := by
  by_cases h : c = a
  · subst h; simp [erase]
  · simp [erase, row_setRow_ne _ _ h, h]

/-! ### Removing a right element everywhere -/

/-- Unrelates a right element from every left element. -/
def eraseRight (r : SortedRel α β) (b : β) : SortedRel α β :=
  (r.column b).toList.foldl (fun t a => t.erase a b) r

theorem mem_row_foldl_erase {l : List α} {r : SortedRel α β} {b d : β} {c : α} :
    d ∈ (l.foldl (fun t a => t.erase a b) r).row c ↔ d ∈ r.row c ∧ ¬ (c ∈ l ∧ d = b) := by
  induction l generalizing r with
  | nil => simp
  | cons a l ih =>
    rw [List.foldl_cons, ih, mem_row_erase, List.mem_cons]
    constructor
    · rintro ⟨⟨h, h₁⟩, h₂⟩
      refine ⟨h, ?_⟩
      rintro ⟨rfl | hl, hd⟩
      · exact h₁ ⟨rfl, hd⟩
      · exact h₂ ⟨hl, hd⟩
    · rintro ⟨h, h₁⟩
      exact ⟨⟨h, fun e => h₁ ⟨Or.inl e.1, e.2⟩⟩, fun e => h₁ ⟨Or.inr e.1, e.2⟩⟩

@[simp] theorem mem_row_eraseRight {r : SortedRel α β} {b d : β} {c : α} :
    d ∈ (r.eraseRight b).row c ↔ d ∈ r.row c ∧ d ≠ b := by
  rw [eraseRight, mem_row_foldl_erase]
  constructor
  · rintro ⟨h, h'⟩
    refine ⟨h, ?_⟩
    rintro rfl
    exact h' ⟨SortedSet.mem_def.1 (mem_column.2 h), rfl⟩
  · rintro ⟨h, h'⟩
    exact ⟨h, fun e => h' e.2⟩

/-! ### Extensionality -/

/-- Relations that hold of the same pairs are equal. -/
@[ext] theorem ext {r t : SortedRel α β} (h : ∀ a b, b ∈ r.row a ↔ b ∈ t.row a) : r = t := by
  have hrow : ∀ a, r.row a = t.row a := fun a => SortedSet.ext (h a)
  have hrows : r.rows = t.rows := by
    refine SortedMap.ext fun a => Option.ext fun s => ?_
    rw [get?_eq_some_iff, get?_eq_some_iff, hrow]
  cases r
  cases t
  cases hrows
  rfl

end SortedRel

end Polyhierarchy
