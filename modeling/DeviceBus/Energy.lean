/-!
# Energy

A store of energy with a fixed capacity, and the energy a bus draws in one tick.

A store holds at most its capacity, by its type.
-/

namespace DeviceBus

/-- Energy with a fixed capacity. -/
structure EnergyStore where
  capacity : Nat
  stored : Nat
  stored_le : stored ≤ capacity
  deriving DecidableEq, Repr

namespace EnergyStore

/-- An empty store. -/
def empty (capacity : Nat) : EnergyStore := ⟨capacity, 0, Nat.zero_le _⟩

/-- A store filled to its capacity. -/
def full (capacity : Nat) : EnergyStore := ⟨capacity, capacity, Nat.le_refl _⟩

/-- How much of `amount` the store has room for. -/
def room (s : EnergyStore) (amount : Nat) : Nat := min amount (s.capacity - s.stored)

/-- Adds what there is room for and returns that amount; a simulated call only reports it. -/
def insert (s : EnergyStore) (amount : Nat) (simulate : Bool) : Nat × EnergyStore :=
  (s.room amount,
    if simulate then s
    else ⟨s.capacity, s.stored + s.room amount, by
      have := s.stored_le; simp only [room]; omega⟩)

/-- Takes `amount` if so much is stored; a simulated call only reports whether it is. -/
def consume (s : EnergyStore) (amount : Nat) (simulate : Bool) : Bool × EnergyStore :=
  if s.stored < amount then (false, s)
  else if simulate then (true, s)
  else (true, ⟨s.capacity, s.stored - amount, by have := s.stored_le; omega⟩)

end EnergyStore

/-- Where a machine's energy comes from. -/
inductive EnergySource where
  /-- Grants every request. -/
  | unmetered
  /-- Grants what it holds. -/
  | metered (store : EnergyStore)
  deriving DecidableEq, Repr

namespace EnergySource

/-- Tries to take `amount`; a simulated call changes nothing. -/
def consume (source : EnergySource) (amount : Nat) (simulate : Bool) : Bool × EnergySource :=
  match source with
  | unmetered => (true, unmetered)
  | metered store =>
    let (granted, store) := store.consume amount simulate
    (granted, metered store)

/-- The energy held, of a source that holds any. -/
def stored? : EnergySource → Option Nat
  | unmetered => none
  | metered store => some store.stored

/-- Adds energy to a source that holds any, and returns how much it accepted. -/
def insert (source : EnergySource) (amount : Nat) (simulate : Bool) : Option Nat × EnergySource :=
  match source with
  | unmetered => (none, unmetered)
  | metered store =>
    let (accepted, store) := store.insert amount simulate
    (some accepted, metered store)

end EnergySource

/-! ## Consumption -/

namespace Consumption

/-- The largest consumption that can be stated; sums stay there instead of passing it. -/
def limit : Nat := UInt32.size - 1

/-- The base draw and the draws of the devices.  A device that claims to give energy counts as
drawing none. -/
def total (base : Nat) (draws : List Int) : Nat :=
  draws.foldl (fun sum draw => min limit (sum + draw.toNat)) base

end Consumption

end DeviceBus
