import Polyhierarchy.Collection.Ranked
/-!
# Finite sets in sorted form

A finite set of ranked elements is kept as the list of its elements in ascending order, each
listed once. The form is canonical: two sets with the same members are equal.

## Main definitions

* `SortedSet` — a strictly ascending list.
* `SortedSet.insert`, `SortedSet.erase`, `SortedSet.union`, `SortedSet.filter` — the operations.
* `SortedSet.ofList` — the set of the members of a list.

## Main statements

* `SortedSet.mem_insert`, `SortedSet.mem_erase`, `SortedSet.mem_union`, `SortedSet.mem_filter`,
  `SortedSet.mem_ofList` — membership after each operation.
* `SortedSet.ext` — sets with the same members are equal.
-/

namespace Polyhierarchy

variable {α : Type} [Ranked α]

/-- A finite set: its elements in strictly ascending order. -/
structure SortedSet (α : Type) [Ranked α] where
  /-- The elements in ascending order, each once. -/
  toList : List α
  /-- The list ascends strictly. -/
  sorted : toList.Pairwise Ranked.lt

namespace SortedSet

instance : Membership α (SortedSet α) := ⟨fun s a => a ∈ s.toList⟩

theorem mem_def {a : α} {s : SortedSet α} : a ∈ s ↔ a ∈ s.toList := Iff.rfl

/-- Whether an element belongs to the set. -/
def contains (s : SortedSet α) (a : α) : Bool := s.toList.any fun b => rank a == rank b

theorem contains_iff {s : SortedSet α} {a : α} : s.contains a = true ↔ a ∈ s := by
  simp only [contains, List.any_eq_true, beq_iff_eq, mem_def]
  constructor
  · rintro ⟨b, hb, h⟩
    exact rank_injective h ▸ hb
  · exact fun h => ⟨a, h, rfl⟩

instance (a : α) (s : SortedSet α) : Decidable (a ∈ s) :=
  decidable_of_iff (s.contains a = true) contains_iff

/-- The set without elements. -/
def empty : SortedSet α := ⟨[], List.Pairwise.nil⟩

instance : EmptyCollection (SortedSet α) := ⟨empty⟩

instance : Inhabited (SortedSet α) := ⟨∅⟩

@[simp] theorem not_mem_empty (a : α) : ¬ a ∈ (∅ : SortedSet α) := by
  intro h
  cases h

/-- The number of elements. -/
def size (s : SortedSet α) : Nat := s.toList.length

/-- Whether the set has no element. -/
def isEmpty (s : SortedSet α) : Bool := s.toList.isEmpty

theorem eq_empty_of_isEmpty {s : SortedSet α} (h : s.isEmpty = true) : s = ∅ := by
  cases s with
  | mk l hl =>
    cases l with
    | nil => rfl
    | cons b l => simp [isEmpty] at h

/-! ### Insertion -/

/-- Puts an element at its place in an ascending list that may hold it already. -/
def insertIn (a : α) : List α → List α
  | [] => [a]
  | b :: l =>
    if rank a < rank b then a :: b :: l
    else if rank b < rank a then b :: insertIn a l
    else b :: l

theorem mem_insertIn {a c : α} {l : List α} : c ∈ insertIn a l ↔ c = a ∨ c ∈ l := by
  induction l with
  | nil => simp [insertIn]
  | cons b l ih =>
    simp only [insertIn]
    split
    · simp
    · split
      · simp [ih, or_left_comm]
      · next h h' =>
        have : a = b := Ranked.eq_of_not_lt h h'
        simp [this]

theorem sorted_insertIn {a : α} {l : List α} (h : l.Pairwise Ranked.lt) :
    (insertIn a l).Pairwise Ranked.lt := by
  induction l with
  | nil => simp [insertIn]
  | cons b l ih =>
    rw [List.pairwise_cons] at h
    simp only [insertIn]
    split
    · next hab =>
      refine List.pairwise_cons.2 ⟨?_, List.pairwise_cons.2 h⟩
      intro c hc
      rcases List.mem_cons.1 hc with rfl | hc
      · exact hab
      · exact Nat.lt_trans hab (h.1 c hc)
    · split
      · next hba =>
        refine List.pairwise_cons.2 ⟨?_, ih h.2⟩
        intro c hc
        rcases mem_insertIn.1 hc with rfl | hc
        · exact hba
        · exact h.1 c hc
      · exact List.pairwise_cons.2 h

/-- Adds an element. -/
def insert (a : α) (s : SortedSet α) : SortedSet α :=
  ⟨insertIn a s.toList, sorted_insertIn s.sorted⟩

@[simp] theorem mem_insert {a c : α} {s : SortedSet α} : c ∈ s.insert a ↔ c = a ∨ c ∈ s :=
  mem_insertIn

/-- The set with a single element. -/
def singleton (a : α) : SortedSet α := ⟨[a], by simp⟩

@[simp] theorem mem_singleton {a c : α} : c ∈ singleton a ↔ c = a := by
  simp [mem_def, singleton]

/-- The members of a list. -/
def ofList (l : List α) : SortedSet α := l.foldl (fun s a => s.insert a) ∅

theorem mem_foldl_insert {l : List α} {s : SortedSet α} {c : α} :
    c ∈ l.foldl (fun s a => s.insert a) s ↔ c ∈ l ∨ c ∈ s := by
  induction l generalizing s with
  | nil => simp
  | cons a l ih => simp [ih, or_left_comm, or_assoc]

@[simp] theorem mem_ofList {l : List α} {c : α} : c ∈ ofList l ↔ c ∈ l := by
  simp [ofList, mem_foldl_insert]

/-! ### Removal and selection -/

/-- The elements that satisfy a test. -/
def filter (p : α → Bool) (s : SortedSet α) : SortedSet α :=
  ⟨s.toList.filter p, s.sorted.filter p⟩

@[simp] theorem mem_filter {p : α → Bool} {s : SortedSet α} {c : α} :
    c ∈ s.filter p ↔ c ∈ s ∧ p c = true := by
  simp [mem_def, filter]

/-- Takes an element out. -/
def erase (a : α) (s : SortedSet α) : SortedSet α := s.filter fun b => rank b != rank a

@[simp] theorem mem_erase {a c : α} {s : SortedSet α} : c ∈ s.erase a ↔ c ∈ s ∧ c ≠ a := by
  simp only [erase, mem_filter, bne_iff_ne, ne_eq, and_congr_right_iff]
  exact fun _ => not_congr ⟨rank_injective, fun h => h ▸ rfl⟩

/-- The elements of the first set that the second lacks. -/
def difference (s t : SortedSet α) : SortedSet α := s.filter fun a => !t.contains a

@[simp] theorem mem_difference {s t : SortedSet α} {c : α} :
    c ∈ s.difference t ↔ c ∈ s ∧ ¬ c ∈ t := by
  rw [difference, mem_filter, ← contains_iff (s := t)]
  simp

/-! ### Union -/

/-- Adds every element of the second set to the first. -/
def union (s t : SortedSet α) : SortedSet α := t.toList.foldl (fun u a => u.insert a) s

instance : Union (SortedSet α) := ⟨union⟩

@[simp] theorem mem_union {s t : SortedSet α} {c : α} : c ∈ s ∪ t ↔ c ∈ s ∨ c ∈ t := by
  show c ∈ t.toList.foldl (fun u a => u.insert a) s ↔ _
  rw [mem_foldl_insert, ← mem_def, or_comm]

/-! ### Extensionality -/

theorem toList_eq_of_sorted {l m : List α} (hl : l.Pairwise Ranked.lt)
    (hm : m.Pairwise Ranked.lt) (h : ∀ a, a ∈ l ↔ a ∈ m) : l = m := by
  induction l generalizing m with
  | nil =>
    cases m with
    | nil => rfl
    | cons b m => exact absurd ((h b).2 (by simp)) (by simp)
  | cons a l ih =>
    cases m with
    | nil => exact absurd ((h a).1 (by simp)) (by simp)
    | cons b m =>
      rw [List.pairwise_cons] at hl hm
      have hab : a = b := by
        apply Ranked.eq_of_not_lt
        · intro hlt
          rcases List.mem_cons.1 ((h a).1 (by simp)) with e | hm'
          · exact Ranked.ne_of_lt hlt e
          · exact Nat.lt_asymm hlt (hm.1 a hm')
        · intro hlt
          rcases List.mem_cons.1 ((h b).2 (by simp)) with e | hl'
          · exact Ranked.ne_of_lt hlt e
          · exact Nat.lt_asymm hlt (hl.1 b hl')
      subst hab
      congr 1
      refine ih hl.2 hm.2 fun c => ⟨fun hc => ?_, fun hc => ?_⟩
      · rcases List.mem_cons.1 ((h c).1 (List.mem_cons_of_mem _ hc)) with e | hc'
        · exact absurd e.symm (Ranked.ne_of_lt (hl.1 c hc))
        · exact hc'
      · rcases List.mem_cons.1 ((h c).2 (List.mem_cons_of_mem _ hc)) with e | hc'
        · exact absurd e.symm (Ranked.ne_of_lt (hm.1 c hc))
        · exact hc'

/-- Sets with the same members are equal. -/
@[ext] theorem ext {s t : SortedSet α} (h : ∀ a, a ∈ s ↔ a ∈ t) : s = t := by
  cases s with
  | mk l hl =>
    cases t with
    | mk m hm =>
      have : l = m := toList_eq_of_sorted hl hm h
      subst this
      rfl

end SortedSet

end Polyhierarchy
