import DeviceBus.Controller

/-!
# What a controller does

A scan is deferred, fails, or completes (`Controller.scan_cases`), and a poll is what is left of a
scan after the controller was registered anew and took note of what the topology has to tell.  A poll
that records no changes leaves every name at its address (`Controller.poll_notes`).
-/

namespace DeviceBus

/-! ## Changes -/

namespace DeviceChanges

theorem find?_of_mem {devices : List BusDevice} (h : (devices.map BusDevice.id).Nodup) {d : BusDevice}
    (hd : d ∈ devices) : find? devices d.id = some d := by
  induction devices with
  | nil => cases hd
  | cons first rest ih =>
    rw [List.map_cons, List.nodup_cons] at h
    unfold find?
    rw [List.find?_cons]
    rcases List.mem_cons.1 hd with rfl | hmem
    · rw [decide_eq_true rfl]
    · have hne : first.id ≠ d.id := fun heq => h.1 (heq ▸ List.mem_map_of_mem hmem)
      rw [decide_eq_false hne]
      exact ih h.2 hmem

theorem of_find?_eq_some {devices : List BusDevice} {id : DeviceId} {d : BusDevice}
    (h : find? devices id = some d) : d ∈ devices ∧ d.id = id := by
  unfold find? at h
  have hid := List.find?_some h
  exact ⟨List.mem_of_find?_eq_some h, by simpa using hid⟩

theorem between_self {devices : List BusDevice} (h : (devices.map BusDevice.id).Nodup) :
    (between devices devices).isEmpty = true := by
  have hfound : devices.filter (fun d => (find? devices d.id).isNone) = [] := by
    rw [List.filter_eq_nil_iff]
    intro d hd
    simp [find?_of_mem h hd]
  have hmoved : devices.filter (isMoved devices) = [] := by
    rw [List.filter_eq_nil_iff]
    intro d hd
    simp [isMoved, find?_of_mem h hd]
  simp [between, isEmpty, hfound, hmoved]

/-- The same names at the same addresses. -/
def SamePlaces (old new : List BusDevice) : Prop :=
  ∀ id, (find? old id).map BusDevice.address = (find? new id).map BusDevice.address

theorem SamePlaces.refl (devices : List BusDevice) : SamePlaces devices devices := fun _ => rfl

theorem SamePlaces.trans {old mid new : List BusDevice} (h₁ : SamePlaces old mid)
    (h₂ : SamePlaces mid new) : SamePlaces old new := fun id => (h₁ id).trans (h₂ id)

/-- Where nothing is different, all devices are where they were. -/
theorem samePlaces_of_isEmpty {old new : List BusDevice} (h : (between old new).isEmpty = true) :
    SamePlaces old new := by
  simp only [isEmpty, between, Bool.and_eq_true, List.isEmpty_iff, List.map_eq_nil_iff,
    List.filter_eq_nil_iff] at h
  obtain ⟨⟨hadded, hremoved⟩, hmoved⟩ := h
  intro id
  cases hold : find? old id with
  | none =>
    cases hnew : find? new id with
    | none => rfl
    | some d =>
      -- a name on the new list only would have been added
      obtain ⟨hmem, rfl⟩ := of_find?_eq_some hnew
      have hfound := hadded d hmem
      rw [hold] at hfound
      exact absurd rfl hfound
  | some d =>
    cases hnew : find? new id with
    | none =>
      obtain ⟨hmem, rfl⟩ := of_find?_eq_some hold
      have hfound := hremoved d hmem
      rw [hnew] at hfound
      exact absurd rfl hfound
    | some d' =>
      obtain ⟨hmem, rfl⟩ := of_find?_eq_some hnew
      have hsame := hmoved d' hmem
      rw [isMoved, hold] at hsame
      simpa using hsame

end DeviceChanges

/-! ## Operations -/

namespace Controller

theorem recordChanges_eq (c : Controller) (devices : List BusDevice) :
    ∃ changes, c.recordChanges devices = { c with changes } := by
  unfold recordChanges
  dsimp only
  split
  · exact ⟨c.changes, rfl⟩
  · split
    · exact ⟨_, rfl⟩
    · exact ⟨_, rfl⟩

theorem fail_eq (c : Controller) (fault : BusFault) :
    ∃ changes, c.fail fault = { c with
      changes
      members := []
      devices := []
      scanPending := false
      state := .error
      fault := some fault } := by
  obtain ⟨changes, h⟩ := c.recordChanges_eq []
  exact ⟨changes, by rw [fail, h]⟩

/-- A scan is deferred, or fails and gives up the bus, or completes and claims what it visited. -/
theorem scan_cases (c : Controller) (s : Site) :
    c.scan s = ({ c with state := .scanning, fault := none, scanPending := true }, s) ∨
      (∃ changes fault hardware, c.scan s =
        ({ c with
            changes
            members := []
            devices := []
            scanPending := false
            state := .error
            fault := some fault }, ⟨s.topology.releaseClaims c.id, hardware⟩)) ∨
      ∃ visits devices changes hardware, Scan.walk s.topology c.root c.maxElements = .ok visits ∧
        Scan.enumerate s.topology s.hardware visits = (.ok devices, hardware) ∧
        c.scan s = ({ c with
            changes
            members := visits.map Query.element
            devices
            scanPending := false
            state := .ready
            fault := none }, ⟨s.topology.claim c.id (visits.map Query.element), hardware⟩) := by
  unfold scan
  dsimp only
  split
  · exact .inl rfl
  · obtain ⟨changes, h⟩ := fail_eq { c with state := .scanning, fault := none, scanPending := true }
      (.tooComplex c.maxElements)
    exact .inr (.inl ⟨changes, .tooComplex c.maxElements, s.hardware, by rw [h]⟩)
  · next visits hwalk =>
    generalize henumerate : Scan.enumerate s.topology s.hardware visits = found
    obtain ⟨result, hardware⟩ := found
    cases result with
    | error fault =>
      obtain ⟨changes, h⟩ := fail_eq { c with state := .scanning, fault := none, scanPending := true }
        fault
      exact .inr (.inl ⟨changes, fault, hardware, by dsimp only; rw [h]⟩)
    | ok devices =>
      obtain ⟨changes, h⟩ := recordChanges_eq
        { c with state := .scanning, fault := none, scanPending := true } devices
      exact .inr (.inr ⟨visits, devices, changes, hardware, hwalk, henumerate, by dsimp only; rw [adopt, h]⟩)

theorem scan_id (c : Controller) (s : Site) : (c.scan s).1.id = c.id := by
  rcases c.scan_cases s with h | ⟨_, _, _, h⟩ | ⟨_, _, _, _, -, -, h⟩ <;> rw [h]

theorem scan_disposed (c : Controller) (s : Site) : (c.scan s).1.disposed = c.disposed := by
  rcases c.scan_cases s with h | ⟨_, _, _, h⟩ | ⟨_, _, _, _, -, -, h⟩ <;> rw [h]

/-- A controller with a notice that it lost its bus gives up what it has. -/
theorem absorbInvalidation_cases (c : Controller) (s : Site) :
    (c.id ∈ s.topology.invalidations ∧ ∃ changes, c.absorbInvalidation s =
      ({ c with
          changes
          members := []
          devices := []
          scanPending := false
          state := .error
          fault := some .invalidated },
        { s with topology := (s.topology.takeInvalidation c.id).2.releaseClaims c.id })) ∨
      (c.id ∉ s.topology.invalidations ∧
        c.absorbInvalidation s = (c, { s with topology := (s.topology.takeInvalidation c.id).2 })) := by
  unfold absorbInvalidation
  split
  · next t he =>
    obtain ⟨changes, h⟩ := c.fail_eq .invalidated
    exact .inl ⟨of_decide_eq_true (congrArg Prod.fst he), changes, by rw [h, he]⟩
  · next t he =>
    exact .inr ⟨of_decide_eq_false (congrArg Prod.fst he), by rw [he]⟩

theorem absorbScanRequest_cases (c : Controller) (s : Site) :
    (c.id ∈ s.topology.scanRequests ∧ c.absorbScanRequest s =
      (c.scheduleScan, { s with topology := (s.topology.takeScanRequest c.id).2 })) ∨
      (c.id ∉ s.topology.scanRequests ∧ c.absorbScanRequest s =
        (c, { s with topology := (s.topology.takeScanRequest c.id).2 })) := by
  unfold absorbScanRequest
  split
  · next t he => exact .inl ⟨of_decide_eq_true (congrArg Prod.fst he), by rw [he]⟩
  · next t he => exact .inr ⟨of_decide_eq_false (congrArg Prod.fst he), by rw [he]⟩

theorem absorbInvalidation_id (c : Controller) (s : Site) : (c.absorbInvalidation s).1.id = c.id := by
  rcases c.absorbInvalidation_cases s with ⟨-, _, h⟩ | ⟨-, h⟩ <;> rw [h]

theorem absorbScanRequest_id (c : Controller) (s : Site) : (c.absorbScanRequest s).1.id = c.id := by
  rcases c.absorbScanRequest_cases s with ⟨-, h⟩ | ⟨-, h⟩
  · rw [h]
    rfl
  · rw [h]

theorem dispose_id (c : Controller) (t : Topology) : (c.dispose t).1.id = c.id := by
  unfold dispose
  split <;> rfl

theorem absorbInvalidation_disposed (c : Controller) (s : Site) :
    (c.absorbInvalidation s).1.disposed = c.disposed := by
  rcases c.absorbInvalidation_cases s with ⟨-, _, h⟩ | ⟨-, h⟩ <;> rw [h]

theorem absorbScanRequest_disposed (c : Controller) (s : Site) :
    (c.absorbScanRequest s).1.disposed = c.disposed := by
  rcases c.absorbScanRequest_cases s with ⟨-, h⟩ | ⟨-, h⟩ <;> rw [h] <;> rfl

theorem revive_disposed (c : Controller) (s : Site) : (c.revive s).1.disposed = false := by
  unfold revive
  split
  · rfl
  · next h => exact eq_false_of_ne_true h

/-- A controller in office is registered already. -/
theorem revive_of_live {c : Controller} (hlive : c.disposed = false) (s : Site) : c.revive s = (c, s) :=
  if_neg (ne_true_of_eq_false hlive)

/-- What a poll does after the controller took note of what the topology has to tell. -/
def scanIfDue (c : Controller) (s : Site) : Controller × Site :=
  if c.scanPending then c.scan s else (c, s)

/-- What a poll does to a controller that is registered. -/
def pollRegistered (c : Controller) (s : Site) : Controller × Site :=
  let (c, s) := c.absorbInvalidation s
  let (c, s) := c.absorbScanRequest s
  c.scanIfDue s

theorem poll_eq (c : Controller) (s : Site) :
    c.poll s = (c.revive s).1.pollRegistered (c.revive s).2 := rfl

/-- A controller and the site once it took what it has to be told, registered anew if it must be. -/
def absorb (c : Controller) (s : Site) : Controller × Site :=
  let (c, s) := c.revive s
  let (c, s) := c.absorbInvalidation s
  c.absorbScanRequest s

theorem poll_eq_absorb (c : Controller) (s : Site) :
    c.poll s = (c.absorb s).1.scanIfDue (c.absorb s).2 := rfl

theorem scanIfDue_id (c : Controller) (s : Site) : (c.scanIfDue s).1.id = c.id := by
  unfold scanIfDue
  split
  · exact c.scan_id s
  · rfl

theorem absorb_id_eq (c : Controller) (s : Site) : (c.absorb s).1.id = (c.revive s).1.id := by
  unfold absorb
  dsimp only
  rw [absorbScanRequest_id, absorbInvalidation_id]

theorem poll_id_eq_absorb (c : Controller) (s : Site) : (c.poll s).1.id = (c.absorb s).1.id := by
  rw [poll_eq_absorb, scanIfDue_id]

/-- A poll keeps the name that the controller is registered under. -/
theorem poll_id_eq (c : Controller) (s : Site) : (c.poll s).1.id = (c.revive s).1.id :=
  (c.poll_id_eq_absorb s).trans (c.absorb_id_eq s)

theorem scanIfDue_disposed (c : Controller) (s : Site) :
    (c.scanIfDue s).1.disposed = c.disposed := by
  unfold scanIfDue
  split
  · exact c.scan_disposed s
  · rfl

theorem pollRegistered_disposed (c : Controller) (s : Site) :
    (c.pollRegistered s).1.disposed = c.disposed := by
  unfold pollRegistered
  dsimp only
  rw [scanIfDue_disposed, absorbScanRequest_disposed, absorbInvalidation_disposed]

/-- A poll whose scan is due. -/
theorem poll_of_due {c : Controller} {s : Site} (h : (c.absorb s).1.scanPending = true) :
    c.poll s = (c.absorb s).1.scan (c.absorb s).2 := if_pos h

/-- A poll without a scan. -/
theorem poll_of_idle {c : Controller} {s : Site} (h : (c.absorb s).1.scanPending ≠ true) :
    c.poll s = c.absorb s := if_neg h

/-- A poll brings a disposed controller back. -/
theorem poll_disposed (c : Controller) (s : Site) : (c.poll s).1.disposed = false := by
  rw [poll_eq, pollRegistered_disposed, revive_disposed]

/-- The draw of the machine itself is settled when its controller is made. -/
theorem poll_baseDraw (c : Controller) (s : Site) : (c.poll s).1.baseDraw = c.baseDraw := by
  have hrevive : (c.revive s).1.baseDraw = c.baseDraw := by
    unfold revive
    split <;> rfl
  have hinvalidation (c : Controller) (s : Site) : (c.absorbInvalidation s).1.baseDraw = c.baseDraw := by
    rcases c.absorbInvalidation_cases s with ⟨-, _, h⟩ | ⟨-, h⟩ <;> rw [h]
  have hrequest (c : Controller) (s : Site) : (c.absorbScanRequest s).1.baseDraw = c.baseDraw := by
    rcases c.absorbScanRequest_cases s with ⟨-, h⟩ | ⟨-, h⟩ <;> rw [h] <;> rfl
  have hscan (c : Controller) (s : Site) : (c.scanIfDue s).1.baseDraw = c.baseDraw := by
    unfold scanIfDue
    split
    · rcases c.scan_cases s with h | ⟨_, _, _, h⟩ | ⟨_, _, _, _, -, -, h⟩ <;> rw [h]
    · rfl
  rw [poll_eq, ← hrevive]
  exact (hscan _ _).trans ((hrequest _ _).trans (hinvalidation _ _))

/-- Devices, changes that wait to be taken and base draw are as they were. -/
structure SameBus (c c' : Controller) : Prop where
  devices : c'.devices = c.devices
  changes : c'.changes = c.changes
  baseDraw : c'.baseDraw = c.baseDraw

theorem SameBus.refl (c : Controller) : c.SameBus c := ⟨rfl, rfl, rfl⟩

theorem dispose_sameBus (c : Controller) (t : Topology) : c.SameBus (c.dispose t).1 := by
  unfold dispose
  split <;> exact ⟨rfl, rfl, rfl⟩

theorem dispose_disposed (c : Controller) (t : Topology) : (c.dispose t).1.disposed = true := by
  unfold dispose
  split
  · assumption
  · rfl

/-- Who gave up its bus has nothing more to give up. -/
theorem dispose_twice (c : Controller) (t t' : Topology) :
    (c.dispose t).1.dispose t' = ((c.dispose t).1, t') := if_pos (c.dispose_disposed t)

/-! ### What is recorded -/

/-- Every difference of names and addresses is among the changes that wait to be taken. -/
def Notes (c c' : Controller) : Prop :=
  c'.changes = none → c.changes = none ∧ DeviceChanges.SamePlaces c.devices c'.devices

theorem Notes.refl (c : Controller) : c.Notes c := fun h => ⟨h, .refl _⟩

theorem Notes.trans {c c' c'' : Controller} (h₁ : c.Notes c') (h₂ : c'.Notes c'') : c.Notes c'' := by
  intro hnone
  obtain ⟨hnone', hsame'⟩ := h₂ hnone
  obtain ⟨hnone, hsame⟩ := h₁ hnone'
  exact ⟨hnone, hsame.trans hsame'⟩

theorem recordChanges_notes (c : Controller) (devices : List BusDevice)
    (h : (c.recordChanges devices).changes = none) :
    c.changes = none ∧ DeviceChanges.SamePlaces c.devices devices := by
  unfold recordChanges at h
  dsimp only at h
  split at h
  · next hempty => exact ⟨h, DeviceChanges.samePlaces_of_isEmpty hempty⟩
  · split at h
    · cases h
    · cases h

theorem fail_notes (c : Controller) (fault : BusFault) : c.Notes (c.fail fault) :=
  c.recordChanges_notes []

theorem adopt_notes (c : Controller) (members : List ElementId) (devices : List BusDevice) :
    c.Notes (c.adopt members devices) := c.recordChanges_notes devices

theorem scan_notes (c : Controller) (s : Site) : c.Notes (c.scan s).1 := by
  have hscanning : c.Notes { c with state := .scanning, fault := none, scanPending := true } :=
    fun h => ⟨h, .refl _⟩
  unfold scan
  dsimp only
  split
  · exact hscanning
  · exact hscanning.trans (fail_notes _ _)
  · split
    · exact hscanning.trans (fail_notes _ _)
    · exact hscanning.trans (adopt_notes _ _ _)

/-- A poll records what it makes different. -/
theorem poll_notes (c : Controller) (s : Site) : c.Notes (c.poll s).1 := by
  have hrevive : c.Notes (c.revive s).1 := by
    unfold revive
    split
    · exact fun h => ⟨h, .refl _⟩
    · exact .refl c
  have hinvalidation (c : Controller) (s : Site) : c.Notes (c.absorbInvalidation s).1 := by
    unfold absorbInvalidation
    split
    · exact c.fail_notes .invalidated
    · exact .refl c
  have hrequest (c : Controller) (s : Site) : c.Notes (c.absorbScanRequest s).1 := by
    unfold absorbScanRequest
    split
    · exact fun h => ⟨h, .refl _⟩
    · exact .refl c
  have hscan (c : Controller) (s : Site) : c.Notes (c.scanIfDue s).1 := by
    unfold scanIfDue
    split
    · exact c.scan_notes s
    · exact .refl c
  exact ((hrevive.trans (hinvalidation _ _)).trans (hrequest _ _)).trans (hscan _ _)

end Controller

end DeviceBus
