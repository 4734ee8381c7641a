import DeviceBus.Proofs.Settling

/-!
# Scans that do not complete

A scan takes over all that it finds, at its end, or nothing.  One that is deferred leaves everything as
it was but for the note that a scan is under way (`Controller.Awaiting`).  One that fails takes the bus
of its own controller, which records all its devices as removed, and of the topology changes no more
than the claims of that controller (`Controller.Forgoes`).

    c.scan s defers  ↔  Scan.walk s.topology c.root c.maxElements = .error .deferred
    c.scan s fails   ↔  c.flaw? s = some fault                                        (scan_atomic)
-/

namespace DeviceBus

/-! ## Changes -/

namespace DeviceChanges

/-- No changes. -/
def empty : DeviceChanges := ⟨[], [], []⟩

@[simp] theorem append_empty (a : DeviceChanges) : a.append empty = a := by simp [append, empty]

@[simp] theorem empty_append (a : DeviceChanges) : empty.append a = a := by simp [append, empty]

theorem eq_empty_of_isEmpty {a : DeviceChanges} (h : a.isEmpty = true) : a = empty := by
  obtain ⟨added, removed, moved⟩ := a
  simp only [isEmpty, Bool.and_eq_true, List.isEmpty_iff] at h
  obtain ⟨⟨rfl, rfl⟩, rfl⟩ := h
  rfl

/-- Against an empty list all devices are removed. -/
theorem between_nil (devices : List BusDevice) :
    between devices [] = ⟨[], devices.map BusDevice.id, []⟩ := by
  have hgone : devices.filter (fun d => (find? [] d.id).isNone) = devices :=
    List.filter_eq_self.2 fun _ _ => rfl
  unfold between
  rw [hgone]
  rfl

end DeviceChanges

namespace Controller

/-- The changes that were recorded and not taken yet. -/
def recorded (c : Controller) : DeviceChanges := c.changes.getD .empty

/-- What is different in a list of devices comes after what was recorded before. -/
theorem recordChanges_recorded (c : Controller) (devices : List BusDevice) :
    (c.recordChanges devices).recorded = c.recorded.append (.between c.devices devices) := by
  unfold recordChanges
  dsimp only
  split
  · next hempty => rw [DeviceChanges.eq_empty_of_isEmpty hempty, DeviceChanges.append_empty]
  · unfold recorded
    split
    · next hnone => rw [hnone, Option.getD_none, DeviceChanges.empty_append, Option.getD_some]
    · next earlier hearlier => rw [hearlier, Option.getD_some, Option.getD_some]

/-- A controller that fails records all its devices as removed. -/
theorem fail_recorded (c : Controller) (fault : BusFault) :
    (c.fail fault).recorded = c.recorded.append ⟨[], c.devices.map BusDevice.id, []⟩ := by
  rw [← DeviceChanges.between_nil]
  exact c.recordChanges_recorded []

/-! ## How a scan ends -/

/-- What a scan would find wrong with the bus: it is too large, or its devices cannot be listed. -/
def flaw? (c : Controller) (s : Site) : Option BusFault :=
  match Scan.walk s.topology c.root c.maxElements with
  | .error .deferred => none
  | .error .tooComplex => some (.tooComplex c.maxElements)
  | .ok visits =>
    match (Scan.enumerate s.topology s.hardware visits).1 with
    | .error fault => some fault
    | .ok _ => none

/-- A controller whose scan is under way, or waits, has all that it had before. -/
structure Awaiting (c c' : Controller) : Prop where
  id : c'.id = c.id
  members : c'.members = c.members
  devices : c'.devices = c.devices
  changes : c'.changes = c.changes
  fault : c'.fault = none
  scanPending : c'.scanPending = true

/-- A controller gives up its bus and its claims, and nothing else happens. -/
structure Forgoes (c : Controller) (t : Topology) (c' : Controller) (t' : Topology) : Prop where
  members : c'.members = []
  devices : c'.devices = []
  recorded : c'.recorded = c.recorded.append ⟨[], c.devices.map BusDevice.id, []⟩
  scanPending : c'.scanPending = false
  owner : ∀ e id, t'.owner? e = some id ↔ t.owner? e = some id ∧ id ≠ c.id
  others : t' = { t with claims := t'.claims }

variable {c : Controller} {s : Site} {fault : BusFault}

theorem scanning_awaiting (c : Controller) :
    c.Awaiting { c with state := .scanning, fault := none, scanPending := true } :=
  ⟨rfl, rfl, rfl, rfl, rfl, rfl⟩

/-- A scan under way that fails. -/
theorem Awaiting.fail_forgoes {c' : Controller} (h : c.Awaiting c') (fault : BusFault) (t : Topology) :
    c.Forgoes t (c'.fail fault) (t.releaseClaims c.id) := by
  refine ⟨rfl, rfl, ?_, rfl, fun _ _ => Topology.owner?_releaseClaims, rfl⟩
  rw [fail_recorded, recorded, h.changes, h.devices, recorded]

/-- A scan that finds something wrong. -/
theorem scan_of_flaw (h : c.flaw? s = some fault) : ∃ hardware, c.scan s =
    (fail { c with state := .scanning, fault := none, scanPending := true } fault,
      ⟨s.topology.releaseClaims c.id, hardware⟩) := by
  unfold flaw? at h
  unfold scan
  dsimp only
  generalize Scan.walk s.topology c.root c.maxElements = walked at h ⊢
  cases walked with
  | error setback => cases setback with
    | deferred => cases h
    | tooComplex =>
      cases h
      exact ⟨s.hardware, rfl⟩
  | ok visits =>
    dsimp only at h ⊢
    generalize Scan.enumerate s.topology s.hardware visits = found at h ⊢
    obtain ⟨fault' | devices, hardware⟩ := found
    · cases h
      exact ⟨hardware, rfl⟩
    · cases h

/-- A scan that finds nothing wrong is deferred, or completes. -/
theorem scan_of_sound (h : c.flaw? s = none) :
    Scan.walk s.topology c.root c.maxElements = .error .deferred ∨
      Scan.walk s.topology c.root c.maxElements ≠ .error .deferred ∧ (c.scan s).1.state = .ready := by
  unfold flaw? at h
  cases hwalk : Scan.walk s.topology c.root c.maxElements with
  | error setback => cases setback with
    | deferred => exact .inl rfl
    | tooComplex =>
      rw [hwalk] at h
      cases h
  | ok visits =>
    rw [hwalk] at h
    dsimp only at h
    cases hdevices : (Scan.enumerate s.topology s.hardware visits).1 with
    | error fault =>
      rw [hdevices] at h
      cases h
    | ok devices => exact .inr ⟨fun heq => (nomatch heq), (scan_finds hwalk hdevices).1⟩

theorem flaw?_of_deferred (h : Scan.walk s.topology c.root c.maxElements = .error .deferred) :
    c.flaw? s = none := by
  unfold flaw?
  rw [h]

/-- That the bus was lost to another controller is for a poll to find, not for a scan. -/
theorem flaw?_ne_invalidated (c : Controller) (s : Site) : c.flaw? s ≠ some .invalidated := by
  unfold flaw?
  split
  · exact fun h => nomatch h
  · exact fun h => nomatch h
  · next visits _ =>
    split
    · next fault hfault =>
      rintro ⟨⟩
      exact Scan.enumerate_fault hfault
    · exact fun h => nomatch h

/-- A scan is deferred exactly if its walk is, and then the controller has what it had before and the
site is the same: all claims and marks, and of the other controllers the registrations, requests and
notices.  It fails exactly if there is something wrong with the bus, which is never that the bus was
lost, and then the controller is left with nothing but the changes it recorded, its claims are gone, and
the rest of the topology is the same. -/
theorem scan_atomic (c : Controller) (s : Site) :
    ((c.scan s).1.state = .scanning ↔
        Scan.walk s.topology c.root c.maxElements = .error .deferred) ∧
      ((c.scan s).1.state = .scanning → c.Awaiting (c.scan s).1 ∧ (c.scan s).2 = s) ∧
      ((c.scan s).1.state = .error ↔ ∃ fault, c.flaw? s = some fault ∧ fault ≠ .invalidated) ∧
      ((c.scan s).1.state = .error → (c.scan s).1.fault = c.flaw? s ∧
        c.Forgoes s.topology (c.scan s).1 (c.scan s).2.topology) := by
  cases hflaw : c.flaw? s with
  | some fault =>
    obtain ⟨hardware, he⟩ := scan_of_flaw hflaw
    have hwalk : Scan.walk s.topology c.root c.maxElements ≠ .error .deferred := fun hwalk => by
      rw [flaw?_of_deferred hwalk] at hflaw
      cases hflaw
    have hfault : fault ≠ .invalidated := fun heq => c.flaw?_ne_invalidated s (heq ▸ hflaw)
    rw [he]
    exact ⟨iff_of_false (fun h => (nomatch h)) hwalk, fun h => (nomatch h),
      iff_of_true rfl ⟨fault, rfl, hfault⟩,
      fun _ => ⟨rfl, c.scanning_awaiting.fail_forgoes fault s.topology⟩⟩
  | none =>
    have hsound : ¬ ∃ fault, (none : Option BusFault) = some fault ∧ fault ≠ .invalidated :=
      fun ⟨_, h, _⟩ => (nomatch h)
    rcases scan_of_sound hflaw with hwalk | ⟨hwalk, hready⟩
    · rw [scan_of_deferred hwalk]
      exact ⟨iff_of_true rfl hwalk, fun _ => ⟨c.scanning_awaiting, rfl⟩,
        iff_of_false (fun h => (nomatch h)) hsound, fun h => (nomatch h)⟩
    · rw [hready]
      exact ⟨iff_of_false (fun h => (nomatch h)) hwalk, fun h => (nomatch h),
        iff_of_false (fun h => (nomatch h)) hsound, fun h => (nomatch h)⟩

end Controller

end DeviceBus
