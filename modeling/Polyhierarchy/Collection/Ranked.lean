/-!
# Ranked types

A ranked type embeds into the natural numbers. The embedding gives the one order in which
the elements are listed, so a finite collection of ranked elements has a single sorted form.

## Main definitions

* `Ranked` — a type with an injective rank.
* `Ranked.lt` — the strict order of the ranks.

## Main statements

* `Ranked.eq_of_not_lt` — two elements of which neither comes first are equal.
-/

namespace Polyhierarchy

/-- A type whose elements are told apart, and put in order, by a natural number. -/
class Ranked (α : Type) where
  /-- The place of an element in the order. -/
  rank : α → Nat
  /-- Different elements have different ranks. -/
  rank_injective : ∀ {a b : α}, rank a = rank b → a = b

export Ranked (rank rank_injective)

/-- A natural number is its own rank. -/
instance : Ranked Nat := ⟨id, id⟩

namespace Ranked

variable {α : Type} [Ranked α]

/-- The order of the ranks. -/
protected abbrev lt (a b : α) : Prop := rank a < rank b

theorem eq_of_not_lt {a b : α} (h : ¬ Ranked.lt a b) (h' : ¬ Ranked.lt b a) : a = b :=
  rank_injective (Nat.le_antisymm (Nat.le_of_not_lt h') (Nat.le_of_not_lt h))

theorem ne_of_lt {a b : α} (h : Ranked.lt a b) : a ≠ b := fun e => Nat.lt_irrefl _ (e ▸ h)

end Ranked

end Polyhierarchy
