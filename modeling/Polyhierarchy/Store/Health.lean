/-!
# Health of a store

A store may be out of reach, for instance because it is another program. Whoever depends on it can
find out.

## Main definitions

* `Store.Health` — how a store is found to be reachable.
* `Store.Health.certain` — the health of a store that is always there.
-/

namespace Polyhierarchy.Store

/-- How a store is found to be reachable. -/
structure Health (σ : Type) where
  /-- Tries to reach the store. -/
  probe : σ → Bool × σ
  /-- The greatest number of connections to the store, if it is reached over connections. -/
  connections : Option Nat

/-- The health of a store that is always there. -/
def Health.certain {σ : Type} : Health σ := ⟨fun s => (true, s), none⟩

end Polyhierarchy.Store
