import DeviceBus.Proofs.Machine.Loads
import Mathlib.Data.List.Nodup

/-!
# Attaching and releasing

Each device takes turns: it is attached, then suspended, and only then attached again; it is finalized
while it is not attached.  `attached? h` reads the journal as such a sequence of turns of the device
`h`: it tells whether the device is attached, and nothing if some call came out of turn.

A piece of a machine's program keeps the turns of every device if the device's state follows from a
list of handles that the piece updates.  `Hardware.Tracks h elsewhere hs hw` says that `h` is attached
exactly if it is in the list `hs`, or bound elsewhere.
-/

namespace DeviceBus

open Event (Plain Outside Own)

/-! ## Turns -/

/-- What a call makes of a device that is attached, or is not; nothing if it comes out of turn. -/
def DeviceCall.turn : DeviceCall → Bool → Option Bool
  | .attach .., attached => if attached then none else some true
  | .refuse _, attached => if attached then none else some false
  | .suspend, attached => if attached then some false else none
  | .finalize, attached => if attached then none else some false
  | _, attached => some attached

/-- What a call makes of the device `h`. -/
def Event.turn (h : Handle) : Event → Bool → Option Bool
  | .device h' call, attached => if h' = h then call.turn attached else some attached
  | _, attached => some attached

/-- Whether a device is attached after the calls of a journal, the latest first; nothing if a call came
out of turn. -/
def attached? (h : Handle) : List Event → Option Bool
  | [] => some false
  | e :: earlier => (attached? h earlier).bind (e.turn h)

/-- A call that is not a turn of the device `h`. -/
def Event.Spares (h : Handle) (e : Event) : Prop := ∀ attached, e.turn h attached = some attached

namespace Event

variable {h h' : Handle}

theorem Plain.spares {e : Event} (he : e.Plain) (h : Handle) : e.Spares h := by
  intro attached
  cases e with
  | device h' call =>
    show (if h' = h then call.turn attached else some attached) = _
    split
    · cases call with
      | attach => cases he.1
      | refuse => cases he.1
      | suspend => cases he.2
      | finalize => cases he.2
      | _ => rfl
    · rfl
  | _ => rfl

end Event

theorem Hardware.Adds.attached?_eq {h : Handle} {hw hw' : Hardware} (hadds : hw.Adds (Event.Spares h) hw') :
    attached? h hw'.journal = attached? h hw.journal := by
  obtain ⟨es, he, hspares⟩ := hadds
  rw [he]
  clear he
  induction es with
  | nil => rfl
  | cons e es ih =>
    have htail := ih fun e he => hspares e (List.mem_cons_of_mem _ he)
    show (attached? h (es ++ hw.journal)).bind (e.turn h) = _
    rw [htail]
    cases attached? h hw.journal with
    | none => rfl
    | some attached => exact hspares e List.mem_cons_self attached

theorem Hardware.Adds.plain_attached?_eq {h : Handle} {hw hw' : Hardware} (hadds : hw.Adds Plain hw') :
    attached? h hw'.journal = attached? h hw.journal :=
  (hadds.mono fun _ he => he.spares h).attached?_eq

/-! ## Lists of handles -/

/-- The device objects of some mappings. -/
def mappedHandles (mappings : List Mapping) : List Handle := mappings.map (·.device.handle)

/-- The device objects of a bus. -/
def busHandles (devices : List BusDevice) : List Handle := devices.map (·.device.handle)

namespace Hardware

/-- The device `h` is attached exactly if it is listed, or bound elsewhere. -/
def Tracks (h : Handle) (elsewhere : Bool) (hs : List Handle) (hw : Hardware) : Prop :=
  attached? h hw.journal = some (elsewhere || decide (h ∈ hs))

variable {h : Handle} {elsewhere : Bool} {hs : List Handle} {hw hw' : Hardware}

theorem Tracks.plain (ht : hw.Tracks h elsewhere hs) (hadds : hw.Adds Plain hw') :
    hw'.Tracks h elsewhere hs := hadds.plain_attached?_eq.trans ht

/-- The order of a list does not matter. -/
theorem Tracks.congr {hs' : List Handle} (ht : hw.Tracks h elsewhere hs) (hmem : h ∈ hs ↔ h ∈ hs') :
    hw.Tracks h elsewhere hs' := by
  unfold Tracks at ht ⊢
  rw [ht]
  simp only [hmem]

/-- A device that is bound elsewhere is not listed. -/
def Apart (h : Handle) (elsewhere : Bool) (hs : List Handle) : Prop := h ∈ hs → elsewhere = false

theorem Apart.mono {hs' : List Handle} (ha : Apart h elsewhere hs') (hsub : ∀ x, x ∈ hs → x ∈ hs') :
    Apart h elsewhere hs := fun hmem => ha (hsub h hmem)

/-- Suspending the first device of a list takes it from the list. -/
theorem Tracks.suspend {h' : Handle} (ht : hw.Tracks h elsewhere (h' :: hs)) (hnodup : (h' :: hs).Nodup)
    (ha : Apart h elsewhere (h' :: hs)) : (hw.suspend h').Tracks h elsewhere hs := by
  show (attached? h hw.journal).bind (Event.turn h (.device h' .suspend)) = _
  rw [ht]
  by_cases heq : h' = h
  · subst heq
    have hfree : elsewhere = false := ha List.mem_cons_self
    have hrest : h' ∉ hs := (List.nodup_cons.1 hnodup).1
    simp [hfree, hrest, Event.turn, DeviceCall.turn]
  · have hne : h ≠ h' := fun e => heq e.symm
    simp [Event.turn, heq, hne]

/-- Finalizing a device that is not listed. -/
theorem Tracks.finalize {h' : Handle} (ht : hw.Tracks h elsewhere hs) (hmem : h' ∉ hs)
    (ha : h = h' → elsewhere = false) : (hw.finalize h').Tracks h elsewhere hs := by
  show (attached? h hw.journal).bind (Event.turn h (.device h' .finalize)) = _
  rw [ht]
  by_cases heq : h' = h
  · subst heq
    simp [ha rfl, hmem, Event.turn, DeviceCall.turn]
  · simp [Event.turn, heq]

/-- Attaching a device that is not listed lists it, unless it refuses. -/
theorem Tracks.attach {h' : Handle} (ht : hw.Tracks h elsewhere hs) (hmem : h' ∉ hs)
    (ha : h = h' → elsewhere = false) (machine : MachineId) (base : Option Nat) (lines : List Nat)
    (idle : Bool) :
    match hw.attach h' machine base lines idle with
    | (.ok (), hw') => hw'.Tracks h elsewhere (hs ++ [h'])
    | (.error _, hw') => hw'.Tracks h elsewhere hs := by
  unfold Hardware.attach
  split
  · next hs' hw' he =>
    split at he
    · cases he
    · cases he
      show (attached? h hw.journal).bind (Event.turn h (.device h' (.attach machine base lines idle))) = _
      rw [ht]
      by_cases heq : h' = h
      · subst heq
        simp [ha rfl, hmem, Event.turn, DeviceCall.turn]
      · have hne : h ≠ h' := fun e => heq e.symm
        simp [Event.turn, heq, hne]
  · next fault hw' he =>
    split at he
    · cases he
      show (attached? h hw.journal).bind (Event.turn h (.device h' (.refuse machine))) = _
      rw [ht]
      by_cases heq : h' = h
      · subst heq
        simp [ha rfl, hmem, Event.turn, DeviceCall.turn]
      · simp [Event.turn, heq]
    · cases he

end Hardware

open Hardware (Apart)

section

variable {h : Handle} {elsewhere : Bool}

/-- Releasing devices one after the other leaves none of them attached. -/
theorem suspendAll_tracks {mappings : List Mapping} {hw : Hardware}
    (ht : hw.Tracks h elsewhere (mappedHandles mappings)) (hnodup : (mappedHandles mappings).Nodup)
    (ha : Apart h elsewhere (mappedHandles mappings)) :
    (suspendAll mappings hw).Tracks h elsewhere [] := by
  induction mappings generalizing hw with
  | nil => exact ht
  | cons m rest ih =>
    have hsuspended := ht.suspend hnodup ha
    exact ih hsuspended (List.nodup_cons.1 hnodup).2 (ha.mono fun _ => List.mem_cons_of_mem _)

theorem AttachContext.abort_tracks {ctx : AttachContext} {hw : Hardware}
    (ht : hw.Tracks h elsewhere (mappedHandles ctx.mappings))
    (hnodup : (mappedHandles ctx.mappings).Nodup) (ha : Apart h elsewhere (mappedHandles ctx.mappings)) :
    (ctx.abort hw).Tracks h elsewhere [] := by
  have hreverse : mappedHandles ctx.mappings.reverse = (mappedHandles ctx.mappings).reverse :=
    List.map_reverse
  refine suspendAll_tracks ?_ ?_ ?_
  · rw [hreverse]
    exact ht.congr List.mem_reverse.symm
  · rw [hreverse]
    exact List.nodup_reverse.2 hnodup
  · rw [hreverse]
    exact ha.mono fun _ => List.mem_reverse.1

/-- Attaching one more device of a load. -/
theorem AttachContext.attach_tracks {ctx : AttachContext} {entry : BusDevice} {hw : Hardware}
    (ht : hw.Tracks h elsewhere (mappedHandles ctx.mappings))
    (hmem : entry.device.handle ∉ mappedHandles ctx.mappings)
    (ha : h = entry.device.handle → elsewhere = false) (machine : MachineId) (idle : Bool) :
    match ctx.attach machine idle entry hw with
    | (.ok ctx', hw') =>
      mappedHandles ctx'.mappings = mappedHandles ctx.mappings ++ [entry.device.handle] ∧
        hw'.Tracks h elsewhere (mappedHandles ctx'.mappings)
    | (.error _, hw') => hw'.Tracks h elsewhere (mappedHandles ctx.mappings) := by
  unfold attach
  dsimp only
  split
  · next ctx' hw' he =>
    split at he
    · cases he
    · next base _ =>
      split at he
      · cases he
      · next lines _ =>
        have hattach := ht.attach hmem ha machine base lines idle
        split at he
        · cases he
        · next hw'' hcall =>
          cases he
          rw [hcall] at hattach
          have happend : mappedHandles (ctx.mappings ++
              [⟨entry.device, base, (hw.device entry.device.handle).size, lines⟩]) =
              mappedHandles ctx.mappings ++ [entry.device.handle] := List.map_append
          exact ⟨happend, by rw [happend]; exact hattach⟩
  · next e hw' he =>
    split at he
    · cases he
      exact ht
    · next base _ =>
      split at he
      · cases he
        exact ht
      · next lines _ =>
        have hattach := ht.attach hmem ha machine base lines idle
        split at he
        · next hcall =>
          cases he
          rw [hcall] at hattach
          exact hattach
        · cases he

namespace Machine

/-- Attaching the rest of the devices of a load: all of them, or none and those before them neither. -/
theorem attachEach_tracks (entries : List BusDevice) (ctx : AttachContext) (m : Machine)
    {hw : Hardware} (ht : hw.Tracks h elsewhere (mappedHandles ctx.mappings))
    (hnodup : (mappedHandles ctx.mappings ++ busHandles entries).Nodup)
    (ha : Apart h elsewhere (mappedHandles ctx.mappings ++ busHandles entries)) :
    match attachEach entries ctx m hw with
    | (.ok ctx', _, hw') =>
      mappedHandles ctx'.mappings = mappedHandles ctx.mappings ++ busHandles entries ∧
        hw'.Tracks h elsewhere (mappedHandles ctx'.mappings)
    | (.error _, _, hw') => hw'.Tracks h elsewhere [] := by
  induction entries generalizing ctx m hw with
  | nil => exact ⟨(List.append_nil _).symm, ht⟩
  | cons entry rest ih =>
    have hctx : (mappedHandles ctx.mappings).Nodup := (List.nodup_append.1 hnodup).1
    have hctxApart : Apart h elsewhere (mappedHandles ctx.mappings) :=
      ha.mono fun _ => List.mem_append_left _
    have hmem : entry.device.handle ∉ mappedHandles ctx.mappings := fun hmem =>
      (List.nodup_append.1 hnodup).2.2 _ hmem _ List.mem_cons_self rfl
    have hentry : h = entry.device.handle → elsewhere = false := by
      rintro rfl
      exact ha (List.mem_append_right _ List.mem_cons_self)
    have hrestore := (m.restoreDevice_acts entry hw).adds
    unfold attachEach
    cases hr : m.restoreDevice entry hw with
    | mk result p =>
      obtain ⟨m', hw'⟩ := p
      rw [hr] at hrestore
      have ht' := ht.plain hrestore
      cases result with
      | error e => exact AttachContext.abort_tracks ht' hctx hctxApart
      | ok _ =>
        dsimp only
        have hattach := AttachContext.attach_tracks ht' hmem hentry m'.id m'.worker.isIdle
        cases hc : ctx.attach m'.id m'.worker.isIdle entry hw' with
        | mk result hw'' =>
          rw [hc] at hattach
          cases result with
          | error e => exact AttachContext.abort_tracks hattach hctx hctxApart
          | ok ctx' =>
            obtain ⟨hctx', ht''⟩ := hattach
            have happend : mappedHandles ctx'.mappings ++ busHandles rest =
                mappedHandles ctx.mappings ++ busHandles (entry :: rest) := by
              rw [hctx', List.append_assoc]
              rfl
            rw [← happend] at hnodup ha ⊢
            exact ih ctx' m' ht'' hnodup ha

theorem installDevices_tracks (m : Machine) (keepState : Bool) (map : DeviceMap) {hw : Hardware}
    (ht : hw.Tracks h elsewhere (mappedHandles map.mappings))
    (hnodup : (mappedHandles map.mappings).Nodup)
    (ha : Apart h elsewhere (mappedHandles map.mappings)) :
    match m.installDevices keepState map hw with
    | (.ok map', _, hw') => map' = map ∧ hw'.Tracks h elsewhere (mappedHandles map.mappings)
    | (.error _, _, hw') => hw'.Tracks h elsewhere [] := by
  have hreset : hw.Adds Plain (if keepState then (m, hw) else m.resetEmulator hw).2 := by
    split
    · exact .refl _ _
    · exact (m.resetEmulator_acts hw).adds
  unfold installDevices
  generalize (if keepState then (m, hw) else m.resetEmulator hw) = p at hreset
  obtain ⟨m', hw'⟩ := p
  have hemulator := ((ht.plain hreset).plain (m'.emulator.install_adds (fun _ _ _ => ⟨rfl, rfl⟩)
    (fun _ _ _ => ⟨rfl, rfl⟩) map hw'))
  have hinstall : (m'.install map hw').2.2.Tracks h elsewhere (mappedHandles map.mappings) := by
    refine (Hardware.Adds.attached?_eq (.one rfl fun _ => rfl)).trans hemulator
  dsimp only
  cases hi : m'.install map hw' with
  | mk result p =>
    obtain ⟨m'', hw''⟩ := p
    rw [hi] at hinstall
    cases result with
    | ok _ => exact ⟨rfl, hinstall⟩
    | error fault => exact suspendAll_tracks hinstall hnodup ha

/-- Loading attaches all devices of the bus, or none. -/
theorem attachAll_tracks (m : Machine) (keepState : Bool) {hw : Hardware}
    (ht : hw.Tracks h elsewhere []) (hnodup : (busHandles m.controller.devices).Nodup)
    (ha : Apart h elsewhere (busHandles m.controller.devices)) :
    match m.attachAll keepState hw with
    | (.ok map, _, hw') =>
      mappedHandles map.mappings = busHandles m.controller.devices ∧
        hw'.Tracks h elsewhere (mappedHandles map.mappings)
    | (.error _, _, hw') => hw'.Tracks h elsewhere [] := by
  have hattach := attachEach_tracks m.controller.devices (.new m.config) m ht hnodup ha
  unfold attachAll
  cases hc : attachEach m.controller.devices (.new m.config) m hw with
  | mk result p =>
    obtain ⟨m', hw'⟩ := p
    rw [hc] at hattach
    cases result with
    | error e => exact hattach
    | ok ctx =>
      obtain ⟨hctx, ht'⟩ := hattach
      replace hctx : mappedHandles ctx.finish.mappings = busHandles m.controller.devices := hctx
      rw [← hctx] at hnodup ha
      have hinstall := m'.installDevices_tracks keepState ctx.finish ht' hnodup ha
      dsimp only
      cases hi : m'.installDevices keepState ctx.finish hw' with
      | mk result p =>
        obtain ⟨m'', hw''⟩ := p
        rw [hi] at hinstall
        cases result with
        | error e => exact hinstall
        | ok map =>
          obtain ⟨rfl, ht''⟩ := hinstall
          exact ⟨hctx, ht''⟩

end Machine

end

end DeviceBus
