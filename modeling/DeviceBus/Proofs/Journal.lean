import DeviceBus.World

/-!
# The journal

Every call of a device or an emulator is written into the journal, so what a piece of the program
asked of them is what it added.  `Hardware.Adds P hw hw'` says that `hw'` came from `hw` by calls of
the kind `P` only; it composes, and one lemma for each call says which kind it is.

Two kinds matter to a machine's life: the calls that make up a load (`Event.loader?` names the
machine that loads), and those that let a device go (`Event.isRelease`).  All others are plain, and
those of a scan only ask (`Hardware.Asks`).
-/

namespace DeviceBus

namespace Event

/-- The machine whose load a call is part of: it asks a device to bind itself, or gives its emulator
the devices. -/
def loader? : Event → Option MachineId
  | .device _ (.attach machine ..) => some machine
  | .device _ (.refuse machine) => some machine
  | .emulator machine (.install ..) => some machine
  | _ => none

/-- Whether a call lets a device go, or ends its life. -/
def isRelease : Event → Bool
  | .device _ .suspend => true
  | .device _ .finalize => true
  | _ => false

/-- A call that is neither part of a load nor lets a device go. -/
def Plain (e : Event) : Prop := e.loader? = none ∧ e.isRelease = false

/-- A call that is not part of a load. -/
def Outside (e : Event) : Prop := e.loader? = none

/-- A call that is not part of the load of another machine. -/
def Own (id : MachineId) (e : Event) : Prop := e.loader? = none ∨ e.loader? = some id

end Event

namespace Hardware

/-- Only calls of the kind `P` were made between two states of the devices. -/
def Adds (P : Event → Prop) (hw hw' : Hardware) : Prop :=
  ∃ es, hw'.journal = es ++ hw.journal ∧ ∀ e ∈ es, P e

section Adds

variable {P Q : Event → Prop} {hw hw' hw'' : Hardware}

theorem Adds.refl (P : Event → Prop) (hw : Hardware) : hw.Adds P hw := ⟨[], rfl, by simp⟩

theorem Adds.trans (h₁ : hw.Adds P hw') (h₂ : hw'.Adds P hw'') : hw.Adds P hw'' := by
  obtain ⟨es₁, he₁, hP₁⟩ := h₁
  obtain ⟨es₂, he₂, hP₂⟩ := h₂
  refine ⟨es₂ ++ es₁, by rw [he₂, he₁, List.append_assoc], ?_⟩
  intro e he
  rcases List.mem_append.1 he with he | he
  · exact hP₂ e he
  · exact hP₁ e he

theorem Adds.mono (h : hw.Adds P hw') (hPQ : ∀ e, P e → Q e) : hw.Adds Q hw' := by
  obtain ⟨es, he, hP⟩ := h
  exact ⟨es, he, fun e hm => hPQ e (hP e hm)⟩

/-- One call, whatever it does to the devices. -/
theorem Adds.one {e : Event} (he : hw'.journal = e :: hw.journal) (hP : P e) : hw.Adds P hw' :=
  ⟨[e], he, by simpa using hP⟩

end Adds

/-! ## What each call is -/

variable {P : Event → Prop} {hw : Hardware} {h : Handle}

theorem attach_adds {machine : MachineId} {base : Option Nat} {lines : List Nat} {idle : Bool}
    (hattach : P (.device h (.attach machine base lines idle))) (hrefuse : P (.device h (.refuse machine))) :
    hw.Adds P (hw.attach h machine base lines idle).2 := by
  unfold attach
  split
  · exact .one rfl hrefuse
  · exact .one rfl hattach

theorem suspend_adds (hP : P (.device h .suspend)) : hw.Adds P (hw.suspend h) := .one rfl hP

theorem finalize_adds (hP : P (.device h .finalize)) : hw.Adds P (hw.finalize h) := .one rfl hP

theorem save_adds (hP : P (.device h .save)) : hw.Adds P (hw.save h).2 := .one rfl hP

theorem restore_adds {state : Bytes} (hP : ∀ ok, P (.device h (.restore state ok))) :
    hw.Adds P (hw.restore h state).2 := by
  unfold restore
  split
  · exact .one rfl (hP true)
  · exact .one rfl (hP false)

theorem readMemory_adds {offset count : Nat} (hP : P (.device h (.readMemory offset count))) :
    hw.Adds P (hw.readMemory h offset count).2 := .one rfl hP

theorem writeMemory_adds {offset : Nat} {data : Bytes} (hP : P (.device h (.writeMemory offset data))) :
    hw.Adds P (hw.writeMemory h offset data) := .one rfl hP

theorem foldl_adds {α : Type} {f : Hardware → α → Hardware} (hf : ∀ (hw : Hardware) (a : α), hw.Adds P (f hw a))
    (as : List α) (hw : Hardware) : hw.Adds P (as.foldl f hw) := by
  induction as generalizing hw with
  | nil => exact .refl P hw
  | cons a as ih => exact (hf hw a).trans (ih (f hw a))

end Hardware

theorem suspendAll_adds {P : Event → Prop} {mappings : List Mapping} {hw : Hardware}
    (hP : ∀ h, P (.device h .suspend)) : hw.Adds P (suspendAll mappings hw) := by
  unfold suspendAll
  exact Hardware.foldl_adds (fun _ _ => Hardware.suspend_adds (hP _)) mappings hw

namespace AttachContext

theorem attach_adds {P : Event → Prop} (ctx : AttachContext) (machine : MachineId) (idle : Bool)
    (entry : BusDevice) (hw : Hardware)
    (hattach : ∀ h base lines, P (.device h (.attach machine base lines idle)))
    (hrefuse : ∀ h, P (.device h (.refuse machine))) :
    hw.Adds P (ctx.attach machine idle entry hw).2 := by
  have h (base lines) : hw.Adds P (hw.attach entry.device.handle machine base lines idle).2 :=
    Hardware.attach_adds (hattach _ base lines) (hrefuse _)
  unfold attach
  dsimp only
  split
  · exact .refl _ hw
  · next base _ =>
    split
    · exact .refl _ hw
    · next lines _ =>
      split <;> next he => have := h base lines; rwa [he] at this

theorem abort_adds {P : Event → Prop} (ctx : AttachContext) (hw : Hardware)
    (hP : ∀ h, P (.device h .suspend)) : hw.Adds P (ctx.abort hw) := suspendAll_adds hP

end AttachContext

/-! ## Scans -/

/-- A call that asks a provider. -/
def Event.Query (e : Event) : Prop := ∃ element entry, e = .query element entry

theorem Event.Query.plain {e : Event} (h : e.Query) : e.Plain := by
  obtain ⟨element, entry, rfl⟩ := h
  exact ⟨rfl, rfl⟩

/-- Providers were asked, and no device was touched. -/
structure Hardware.Asks (hw hw' : Hardware) : Prop where
  devices : hw'.devices = hw.devices
  adds : hw.Adds Event.Query hw'

theorem Hardware.Asks.refl (hw : Hardware) : hw.Asks hw := ⟨rfl, .refl _ hw⟩

theorem Hardware.Asks.trans {hw hw' hw'' : Hardware} (h₁ : hw.Asks hw') (h₂ : hw'.Asks hw'') :
    hw.Asks hw'' := ⟨h₂.devices.trans h₁.devices, h₁.adds.trans h₂.adds⟩

theorem Scan.listDevices_asks (t : Topology) (visits : List Scan.Visit) (l : Scan.Listing)
    (hw : Hardware) : hw.Asks (Scan.listDevices t visits l hw).2 := by
  induction visits generalizing l hw with
  | nil => exact .refl hw
  | cons visit rest ih =>
    have hquery : hw.Asks
        (if t.provider.isSome then hw.record (.query visit.element visit.entry) else hw) := by
      split
      · exact ⟨rfl, .one rfl ⟨visit.element, visit.entry, rfl⟩⟩
      · exact .refl hw
    unfold listDevices
    dsimp only
    split
    · exact hquery
    · split
      · exact hquery
      · exact hquery.trans (ih _ _)

namespace Controller

theorem scan_asks (c : Controller) (s : Site) : s.hardware.Asks (c.scan s).2.hardware := by
  unfold scan
  dsimp only
  split
  · exact .refl _
  · exact .refl _
  · next visits _ =>
    have h := Scan.listDevices_asks s.topology visits ⟨[], 0⟩ s.hardware
    split <;> exact h

theorem revive_hardware (c : Controller) (s : Site) : (c.revive s).2.hardware = s.hardware := by
  unfold revive
  split <;> rfl

theorem absorbInvalidation_hardware (c : Controller) (s : Site) :
    (c.absorbInvalidation s).2.hardware = s.hardware := by
  unfold absorbInvalidation
  split <;> rfl

theorem absorbScanRequest_hardware (c : Controller) (s : Site) :
    (c.absorbScanRequest s).2.hardware = s.hardware := by
  unfold absorbScanRequest
  split <;> rfl

/-- Polling asks the provider, and nothing of any device. -/
theorem poll_asks (c : Controller) (s : Site) : s.hardware.Asks (c.poll s).2.hardware := by
  unfold poll
  rw [← c.revive_hardware s]
  generalize c.revive s = p
  obtain ⟨c, s⟩ := p
  dsimp only
  rw [← c.absorbInvalidation_hardware s]
  generalize c.absorbInvalidation s = p
  obtain ⟨c, s⟩ := p
  dsimp only
  rw [← c.absorbScanRequest_hardware s]
  generalize c.absorbScanRequest s = p
  obtain ⟨c, s⟩ := p
  dsimp only
  split
  · exact c.scan_asks s
  · exact .refl _

theorem poll_adds (c : Controller) (s : Site) :
    s.hardware.Adds Event.Plain (c.poll s).2.hardware :=
  (c.poll_asks s).adds.mono fun _ => Event.Query.plain

theorem step_adds (c : Controller) (s : Site) (op : ControllerOp) :
    s.hardware.Adds Event.Plain (c.step s op).2.2.hardware := by
  cases op with
  | poll => exact c.poll_adds s
  | scan => exact (c.scan_asks s).adds.mono fun _ => Event.Query.plain
  | scheduleScan => exact .refl _ _
  | dispose => exact .refl _ _
  | takeChanges => exact .refl _ _

end Controller

end DeviceBus
