import DeviceBus.Json.Decode
import DeviceBus.Terminal

/-!
# Configuration

The settings of one machine and its bus, and their JSON form.  Every setting has a default, so a
document that gives some of them, or none, is a configuration.
-/

namespace DeviceBus

/-- Settings of a machine and its bus. -/
structure Config where
  /-- Cycles granted to the worker each tick. -/
  cyclesPerTick : UInt64 := 1250000
  /-- Cycles run between two looks at the cancellation flag. -/
  sliceCycles : UInt64 := 100000
  /-- Energy the machine itself draws each tick. -/
  energyPerTick : UInt32 := 20
  /-- Absolute address of bus address 0. -/
  mmioBase : UInt64 := 0x10000000
  /-- Size of the device window. -/
  mmioSize : UInt64 := 0x10000000
  /-- Interrupt lines for devices, numbered from 1. -/
  interruptLines : UInt32 := 31
  /-- How many elements a bus may span. -/
  maxElements : UInt64 := 512
  terminal : TerminalConfig := {}
  deriving DecidableEq, Inhabited, Repr

open Json in
/-- The buffer sizes that a document gives; those it leaves out keep their default. -/
def TerminalConfig.ofJson? (j : Json) : Option TerminalConfig := do
  let ms ← members? ["history_capacity", "output_capacity", "input_capacity"] true j
  let missing : TerminalConfig := {}
  return {
    historyCapacity := ← ms.optional? "history_capacity" missing.historyCapacity word64?
    outputCapacity := ← ms.optional? "output_capacity" missing.outputCapacity word64?
    inputCapacity := ← ms.optional? "input_capacity" missing.inputCapacity word64? }

/-- The buffer sizes as a document. -/
def TerminalConfig.toJson (c : TerminalConfig) : Json := .ofFields [
  ("history_capacity", .ofNat c.historyCapacity.toNat),
  ("output_capacity", .ofNat c.outputCapacity.toNat),
  ("input_capacity", .ofNat c.inputCapacity.toNat)]

namespace Config

open Json in
/-- The settings that a document gives; those it leaves out keep their default. -/
def ofJson? (j : Json) : Option Config := do
  let ms ← members? ["cycles_per_tick", "slice_cycles", "energy_per_tick", "mmio_base", "mmio_size",
    "interrupt_lines", "max_elements", "terminal"] true j
  let missing : Config := {}
  return {
    cyclesPerTick := ← ms.optional? "cycles_per_tick" missing.cyclesPerTick word64?
    sliceCycles := ← ms.optional? "slice_cycles" missing.sliceCycles word64?
    energyPerTick := ← ms.optional? "energy_per_tick" missing.energyPerTick word32?
    mmioBase := ← ms.optional? "mmio_base" missing.mmioBase word64?
    mmioSize := ← ms.optional? "mmio_size" missing.mmioSize word64?
    interruptLines := ← ms.optional? "interrupt_lines" missing.interruptLines word32?
    maxElements := ← ms.optional? "max_elements" missing.maxElements word64?
    terminal := ← ms.optional? "terminal" missing.terminal TerminalConfig.ofJson? }

/-- The settings as a document. -/
def toJson (c : Config) : Json := .ofFields [
  ("cycles_per_tick", .ofNat c.cyclesPerTick.toNat),
  ("slice_cycles", .ofNat c.sliceCycles.toNat),
  ("energy_per_tick", .ofNat c.energyPerTick.toNat),
  ("mmio_base", .ofNat c.mmioBase.toNat),
  ("mmio_size", .ofNat c.mmioSize.toNat),
  ("interrupt_lines", .ofNat c.interruptLines.toNat),
  ("max_elements", .ofNat c.maxElements.toNat),
  ("terminal", c.terminal.toJson)]

end Config

end DeviceBus
