import DeviceBus.Proofs.Disposal
import DeviceBus.Proofs.Machine.Charts
import Mathlib.Algebra.GroupWithZero.Nat

/-!
# Listing again

What a bus lists depends on the sizes of the devices in one way only: the addresses are the running sums
of the sizes (`Scan.enumerate_places`).  So a scan that finds the same elements lists the same devices at
the same elements, at the running sums of the sizes they have then (`Scan.enumerate_again`).

A controller keeps that it has what a scan found for as long as it is ready and has nothing to be told,
whatever becomes of the devices and whatever stands in for the members (`Controller.Found`).  Once it was
disposed and is registered anew, its next poll lists what it had (`Controller.poll_relists`).
-/

namespace DeviceBus

/-- What a listing says of a device besides its address and its draw. -/
def BusDevice.placement (d : BusDevice) : DeviceRef × ElementId := (d.device, d.element)

namespace Scan

/-! ## Addresses -/

/-- The addresses of devices of the given sizes, if `next` is the first that is free. -/
def addresses : Nat → List Nat → List (Option Nat)
  | _, [] => []
  | next, size :: rest => (if size = 0 then none else some next) :: addresses (next + size) rest

theorem addresses_append (next : Nat) (sizes sizes' : List Nat) :
    addresses next (sizes ++ sizes') = addresses next sizes ++ addresses (next + sizes.sum) sizes' := by
  induction sizes generalizing next with
  | nil => rfl
  | cons size rest ih =>
    rw [List.cons_append, addresses, ih, List.sum_cons, Nat.add_assoc]
    rfl

/-- Ranges that all end before a limit take no more than that. -/
theorem sum_le_of_addresses {next limit : Nat} {sizes : List Nat} (hnext : next ≤ limit)
    (h : ∀ p ∈ (addresses next sizes).zip sizes, ∀ address, p.1 = some address → address + p.2 ≤ limit) :
    next + sizes.sum ≤ limit := by
  induction sizes generalizing next with
  | nil => exact hnext
  | cons size rest ih =>
    have hrest : next + size ≤ limit := by
      by_cases hsize : size = 0
      · omega
      · refine h (some next, size) ?_ next rfl
        rw [addresses, if_neg hsize]
        exact List.mem_cons_self
    rw [List.sum_cons, ← Nat.add_assoc]
    exact ih hrest fun p hp => h p (List.mem_cons_of_mem _ hp)

/-! ## Listings -/

variable {t : Topology} {size : Handle → Nat}

/-- What every device that is added to a listing keeps, a listing of more elements keeps. -/
theorem Listing.addAll_induction (I : Listing → Prop) {hw : Hardware} {element : ElementId}
    (hadd : ∀ {l l' : Listing} {offer : Offer}, l.add hw element offer = .ok l' → I l → I l')
    {offers : List Offer} {l l' : Listing} (h : Listing.addAll hw element offers l = .ok l') (hl : I l) :
    I l' := by
  induction offers generalizing l with
  | nil =>
    cases h
    exact hl
  | cons offer rest ih =>
    unfold Listing.addAll at h
    split at h
    · cases h
    · next l₁ hfirst => exact ih h (hadd hfirst hl)

theorem listDevices_induction (I : Listing → Prop)
    (hadd : ∀ {hw : Hardware} {element : ElementId} {l l' : Listing} {offer : Offer}, hw.sizeAt = size →
      l.add hw element offer = .ok l' → I l → I l')
    {visits : List Visit} {hw : Hardware} {l l' : Listing}
    (h : (listDevices t visits l hw).1 = .ok l') (hsize : hw.sizeAt = size) (hl : I l) : I l' := by
  induction visits generalizing l hw with
  | nil =>
    cases h
    exact hl
  | cons visit rest ih =>
    have hasked : (if t.provider.isSome then hw.record (.query visit.element visit.entry) else hw).sizeAt =
        size := by
      split
      · exact hsize
      · exact hsize
    unfold listDevices at h
    dsimp only at h
    split at h
    · cases h
    · split at h
      · cases h
      · next l₁ hall => exact ih h hasked (Listing.addAll_induction I (hadd hasked) hall hl)

/-- A device that is added is the last, and it was not listed before. -/
theorem Listing.add_eq_ok {l l' : Listing} {hw : Hardware} {element : ElementId} {offer : Offer}
    (h : l.add hw element offer = .ok l') :
    (l.devices.any (·.id = offer.device.id)) = false ∧ ∃ d, l'.devices = l.devices ++ [d] ∧
      d.placement = (offer.device, element) ∧
      [d.address] = addresses l.next [hw.sizeAt d.device.handle] ∧
      l'.next = l.next + hw.sizeAt d.device.handle ∧ (l.next ≤ lastAddress → l'.next ≤ lastAddress) := by
  unfold Listing.add at h
  dsimp only at h
  split at h
  · cases h
  · next hnew =>
    refine ⟨eq_false_of_ne_true hnew, ?_⟩
    split at h
    · next hsize =>
      cases h
      refine ⟨_, rfl, rfl, ?_, ?_, id⟩
      · exact (congrArg (fun address => [address]) (if_pos hsize)).symm
      · exact (congrArg (l.next + ·) hsize).symm
    · next hsize =>
      split at h
      · cases h
      · next hroom =>
        cases h
        refine ⟨_, rfl, rfl, ?_, rfl, fun _ => Nat.le_of_not_lt hroom⟩
        exact (congrArg (fun address => [address]) (if_neg hsize)).symm

/-- The devices of a listing have the running sums of their sizes for addresses. -/
structure Listing.Placed (size : Handle → Nat) (l : Listing) : Prop where
  addresses : l.devices.map BusDevice.address =
    Scan.addresses 0 (l.devices.map fun d => size d.device.handle)
  next : l.next = (l.devices.map fun d => size d.device.handle).sum
  room : l.next ≤ lastAddress

theorem Listing.Placed.add {hw : Hardware} {element : ElementId} {l l' : Listing} {offer : Offer}
    (hsize : hw.sizeAt = size) (hadd : l.add hw element offer = .ok l') (h : l.Placed size) :
    l'.Placed size := by
  obtain ⟨-, d, hdevices, -, haddress, hnext, hroom⟩ := add_eq_ok hadd
  subst hsize
  refine ⟨?_, ?_, hroom h.room⟩
  · rw [hdevices, List.map_append, List.map_append, addresses_append, h.addresses, Nat.zero_add, ← h.next]
    exact congrArg _ haddress
  · rw [hnext, hdevices, h.next, List.map_append, List.sum_append]
    rfl

theorem Listing.placed_nil (size : Handle → Nat) : (⟨[], 0⟩ : Listing).Placed size :=
  ⟨rfl, rfl, Nat.zero_le _⟩

/-- A scan that completes gives the devices the running sums of their sizes for addresses. -/
theorem enumerate_places {hw : Hardware} {visits : List Visit} {devices : List BusDevice}
    (h : (enumerate t hw visits).1 = .ok devices) :
    devices.map BusDevice.address = addresses 0 (devices.map fun d => hw.sizeAt d.device.handle) := by
  unfold enumerate at h
  dsimp only at h
  cases hlist : (listDevices t visits ⟨[], 0⟩ hw).1 with
  | error fault =>
    rw [hlist] at h
    cases h
  | ok l =>
    rw [hlist] at h
    cases h
    exact (listDevices_induction (Listing.Placed _) Listing.Placed.add hlist rfl (Listing.placed_nil _)).addresses

/-! ## Listing again -/

theorem Listing.add_extends {hw : Hardware} {element : ElementId} {l l' : Listing} {offer : Offer}
    {devices : List BusDevice} (hadd : l.add hw element offer = .ok l') (h : devices <+: l.devices) :
    devices <+: l'.devices := by
  obtain ⟨-, d, hdevices, -⟩ := add_eq_ok hadd
  exact h.trans ⟨[d], hdevices.symm⟩

/-- The sizes of more devices take up no less. -/
theorem sum_sizes_le {devices devices' : List BusDevice} (h : devices <+: devices') :
    (devices.map fun d => size d.device.handle).sum ≤ (devices'.map fun d => size d.device.handle).sum := by
  obtain ⟨new, rfl⟩ := h
  rw [List.map_append, List.sum_append]
  exact Nat.le_add_right _ _

/-- The same devices have the same sizes. -/
theorem sizes_of_placements {devices devices' : List BusDevice}
    (h : devices'.map BusDevice.placement = devices.map BusDevice.placement) :
    (devices'.map fun d => size d.device.handle) = devices.map fun d => size d.device.handle := by
  have hsizes := congrArg (List.map fun p => size p.1.handle) h
  rwa [List.map_map, List.map_map] at hsizes

/-- Another listing of the same devices at the same elements lists one more of them, as long as there are
addresses for all. -/
theorem Listing.add_again {hw hw' : Hardware} {l l₁ l' : Listing} {element : ElementId}
    {offer offer' : Offer} (h : l.add hw element offer = .ok l₁) (hoffer : offer'.device = offer.device)
    (hsame : l'.devices.map BusDevice.placement = l.devices.map BusDevice.placement)
    (hplaced : l'.Placed hw'.sizeAt)
    (hroom : (l₁.devices.map fun d => hw'.sizeAt d.device.handle).sum ≤ lastAddress) :
    ∃ l₁', l'.add hw' element offer' = .ok l₁' ∧
      l₁'.devices.map BusDevice.placement = l₁.devices.map BusDevice.placement := by
  obtain ⟨hnew, d, hdevices, hplacement, -⟩ := add_eq_ok h
  have hids : l'.devices.any (·.id = offer.device.id) = l.devices.any (·.id = offer.device.id) := by
    have hany := congrArg (List.any · fun p => decide (p.1.id = offer.device.id)) hsame
    rwa [List.any_map, List.any_map] at hany
  have hplacements (d' : BusDevice) (hd' : d'.placement = (offer.device, element)) :
      (l'.devices ++ [d']).map BusDevice.placement = l₁.devices.map BusDevice.placement := by
    rw [hdevices, List.map_append, List.map_append, hsame, List.map_singleton, List.map_singleton, hd',
      hplacement]
  rw [hdevices, List.map_append, List.sum_append, ← sizes_of_placements hsame, ← hplaced.next,
    List.map_singleton, List.sum_singleton,
    show d.device = offer.device from congrArg Prod.fst hplacement] at hroom
  replace hroom : l'.next + (hw'.device offer.device.handle).size ≤ lastAddress := hroom
  unfold Listing.add
  dsimp only
  rw [hoffer, if_neg (by rw [hids, hnew]; exact Bool.false_ne_true)]
  split
  · exact ⟨_, rfl, hplacements _ rfl⟩
  · rw [if_neg (Nat.not_lt.2 hroom)]
    exact ⟨_, rfl, hplacements _ rfl⟩

theorem Listing.addAll_again {hw hw' : Hardware} {l l₁ l' : Listing} {element : ElementId}
    {offers offers' : List Offer} (h : Listing.addAll hw element offers l = .ok l₁)
    (hoffers : offers'.map Offer.device = offers.map Offer.device)
    (hsame : l'.devices.map BusDevice.placement = l.devices.map BusDevice.placement)
    (hplaced : l'.Placed hw'.sizeAt)
    (hroom : (l₁.devices.map fun d => hw'.sizeAt d.device.handle).sum ≤ lastAddress) :
    ∃ l₁', Listing.addAll hw' element offers' l' = .ok l₁' ∧
      l₁'.devices.map BusDevice.placement = l₁.devices.map BusDevice.placement := by
  induction offers generalizing offers' l l' with
  | nil =>
    cases h
    rw [List.map_nil, List.map_eq_nil_iff] at hoffers
    subst hoffers
    exact ⟨l', rfl, hsame⟩
  | cons offer rest ih =>
    obtain ⟨offer', rest', rfl, hoffer, hoffers⟩ := List.map_eq_cons_iff.1 hoffers
    unfold Listing.addAll at h
    split at h
    · cases h
    · next l₂ hadd =>
      have hmore : l₂.devices <+: l₁.devices :=
        addAll_induction (l₂.devices <+: ·.devices) add_extends h (List.prefix_refl _)
      obtain ⟨l₂', hadd', hsame'⟩ :=
        add_again hadd hoffer hsame hplaced (Nat.le_trans (sum_sizes_le hmore) hroom)
      rw [Listing.addAll, hadd']
      exact ih h hoffers hsame' (hplaced.add rfl hadd')

theorem ownOffers_devices (t : Topology) (hw hw' : Hardware) (e : ElementId) :
    (ownOffers t hw' e).map Offer.device = (ownOffers t hw e).map Offer.device := by
  unfold ownOffers
  split
  · rfl
  · rw [List.map_map, List.map_map]
    rfl

theorem listDevices_again {hw hw' : Hardware} {visits : List Visit} {l l₁ l' : Listing}
    (h : (listDevices t visits l hw).1 = .ok l₁)
    (hsame : l'.devices.map BusDevice.placement = l.devices.map BusDevice.placement)
    (hsize : hw'.sizeAt = size) (hplaced : l'.Placed size)
    (hroom : (l₁.devices.map fun d => size d.device.handle).sum ≤ lastAddress) :
    ∃ l₁', (listDevices t visits l' hw').1 = .ok l₁' ∧
      l₁'.devices.map BusDevice.placement = l₁.devices.map BusDevice.placement := by
  induction visits generalizing l l' hw hw' with
  | nil =>
    cases h
    exact ⟨l', rfl, hsame⟩
  | cons visit rest ih =>
    have hasked : (if t.provider.isSome then hw'.record (.query visit.element visit.entry)
        else hw').sizeAt = size := by
      split
      · exact hsize
      · exact hsize
    unfold listDevices at h ⊢
    dsimp only at h ⊢
    generalize (if t.provider.isSome then hw.record (.query visit.element visit.entry) else hw) = hw₁ at h
    generalize (if t.provider.isSome then hw'.record (.query visit.element visit.entry) else hw') = hw₁'
      at hasked
    subst hasked
    cases hoffered : t.offers visit with
    | error fault =>
      rw [hoffered] at h
      cases h
    | ok offered =>
      rw [hoffered] at h
      dsimp only at h ⊢
      split at h
      · cases h
      · next l₂ hall =>
        have hoffers : (ownOffers t hw₁' visit.element ++ offered).map Offer.device =
            (ownOffers t hw₁ visit.element ++ offered).map Offer.device := by
          rw [List.map_append, List.map_append, ownOffers_devices]
        have hmore : l₂.devices <+: l₁.devices :=
          listDevices_induction (l₂.devices <+: ·.devices) (fun _ => Listing.add_extends) h rfl
            (List.prefix_refl _)
        obtain ⟨l₂', hall', hsame'⟩ :=
          Listing.addAll_again hall hoffers hsame hplaced (Nat.le_trans (sum_sizes_le hmore) hroom)
        rw [hall']
        exact ih h hsame' rfl (Listing.addAll_induction _ (Listing.Placed.add rfl) hall' hplaced)

/-- The devices at the same elements, when they have other sizes. -/
theorem enumerate_again {hw : Hardware} (hw' : Hardware) {visits : List Visit} {devices : List BusDevice}
    (h : (enumerate t hw visits).1 = .ok devices)
    (hroom : (devices.map fun d => hw'.sizeAt d.device.handle).sum ≤ lastAddress) :
    ∃ devices', (enumerate t hw' visits).1 = .ok devices' ∧
      devices'.map BusDevice.placement = devices.map BusDevice.placement ∧
      devices'.map BusDevice.address = addresses 0 (devices.map fun d => hw'.sizeAt d.device.handle) := by
  have hfound : ∃ devices', (enumerate t hw' visits).1 = .ok devices' ∧
      devices'.map BusDevice.placement = devices.map BusDevice.placement := by
    unfold enumerate at h ⊢
    dsimp only at h ⊢
    cases hlist : (listDevices t visits ⟨[], 0⟩ hw).1 with
    | error fault =>
      rw [hlist] at h
      cases h
    | ok l =>
      rw [hlist] at h
      cases h
      obtain ⟨l', hlist', hsame⟩ :=
        listDevices_again hlist rfl (Eq.refl hw'.sizeAt) (Listing.placed_nil _) hroom
      rw [hlist']
      exact ⟨l'.devices, rfl, hsame⟩
  obtain ⟨devices', hfound, hsame⟩ := hfound
  exact ⟨devices', hfound, hsame, (enumerate_places hfound).trans (congrArg _ (sizes_of_placements hsame))⟩

end Scan

/-! ## What a scan found -/

namespace Controller

/-- The controller is as fresh as when the devices were those of its last scan, whatever stands in for
its members since. -/
def Found (c : Controller) (t : Topology) : Prop :=
  ∃ hw members, ({ c with members } : Controller).Fresh t hw

variable {c : Controller} {t t' : Topology} {hw : Hardware} {s : Site}

theorem Fresh.found (h : c.Fresh t hw) : c.Found t := ⟨hw, c.members, h⟩

theorem Found.serial (h : c.Found t) : c.id.serial ≤ t.lastSerial := by
  obtain ⟨hw, members, h⟩ := h
  exact h.serial

theorem Found.registered (h : c.Found t) : t.isRegistered c.id = !c.disposed := by
  obtain ⟨hw, members, h⟩ := h
  exact h.registered

theorem Found.topology_step (h : c.Found t) (hedges : t.EdgesKnown) (op : TopologyOp) :
    c.Found (t.step op).2 := by
  obtain ⟨hw, members, h⟩ := h
  exact ⟨hw, members, h.topology_step hedges op⟩

theorem Found.yields (h : c.Found t) {id : ControllerId} (hyields : t.Yields id t') (hne : c.id ≠ id) :
    c.Found t' := by
  obtain ⟨hw, members, h⟩ := h
  exact ⟨hw, members, h.yields hyields hne⟩

theorem Found.dispose (h : c.Found t) : (c.dispose t).1.Found (c.dispose t).2 := by
  obtain ⟨hw, members, h⟩ := h
  have hsame : ({ c with members } : Controller).dispose t =
      ({ (c.dispose t).1 with members }, (c.dispose t).2) := by
    unfold Controller.dispose
    dsimp only
    split <;> rfl
  have hdisposed := dispose_fresh h
  rw [hsame] at hdisposed
  exact ⟨hw, members, hdisposed⟩

/-- A ready controller with nothing to be told lists what a walk from its root leads to. -/
theorem Found.sees (h : c.Found t) (hlive : c.disposed = false) (hready : c.state = .ready)
    (htold : c.id ∉ t.invalidations) (hasked : c.id ∉ t.scanRequests) :
    ∃ hw visits, Scan.walk t c.root c.maxElements = .ok visits ∧
      (Scan.enumerate t hw visits).1 = .ok c.devices := by
  obtain ⟨hw, members, h⟩ := h
  obtain ⟨-, visits, hwalk, -, hdevices⟩ := h.current hlive hready htold hasked
  exact ⟨hw, visits, hwalk, hdevices⟩

/-! ## Polls -/

theorem fail_members (c : Controller) (members : List ElementId) (fault : BusFault) :
    ({ c with members } : Controller).fail fault = c.fail fault := by
  unfold fail recordChanges
  dsimp only
  split
  · rfl
  · split <;> rfl

theorem revive_members (c : Controller) (members : List ElementId) (t : Topology) (hw hw' : Hardware) :
    ({ c with members } : Controller).revive ⟨t, hw'⟩ =
      ({ (c.revive ⟨t, hw⟩).1 with members }, ⟨(c.revive ⟨t, hw⟩).2.topology, hw'⟩) := by
  unfold revive
  dsimp only
  split <;> rfl

theorem absorbInvalidation_members (c : Controller) (members : List ElementId) (s : Site) (hw : Hardware) :
    ∃ members', ({ c with members } : Controller).absorbInvalidation ⟨s.topology, hw⟩ =
      ({ (c.absorbInvalidation s).1 with members := members' },
        ⟨(c.absorbInvalidation s).2.topology, hw⟩) := by
  unfold absorbInvalidation
  dsimp only
  generalize s.topology.takeInvalidation c.id = p
  obtain ⟨lost, t⟩ := p
  cases lost with
  | true => exact ⟨(c.fail .invalidated).members, by rw [fail_members]⟩
  | false => exact ⟨members, rfl⟩

theorem absorbScanRequest_members (c : Controller) (members : List ElementId) (s : Site) (hw : Hardware) :
    ({ c with members } : Controller).absorbScanRequest ⟨s.topology, hw⟩ =
      ({ (c.absorbScanRequest s).1 with members }, ⟨(c.absorbScanRequest s).2.topology, hw⟩) := by
  unfold absorbScanRequest
  dsimp only
  generalize s.topology.takeScanRequest c.id = p
  obtain ⟨asked, t⟩ := p
  cases asked <;> rfl

/-- What a poll takes note of does not depend on the members, nor on the devices. -/
theorem absorb_members (c : Controller) (members : List ElementId) (t : Topology) (hw hw' : Hardware) :
    ∃ members', ({ c with members } : Controller).absorb ⟨t, hw'⟩ =
      ({ (c.absorb ⟨t, hw⟩).1 with members := members' }, ⟨(c.absorb ⟨t, hw⟩).2.topology, hw'⟩) := by
  unfold absorb
  rw [c.revive_members members t hw hw']
  generalize c.revive ⟨t, hw⟩ = p
  obtain ⟨c₁, s₁⟩ := p
  dsimp only
  obtain ⟨members', he⟩ := c₁.absorbInvalidation_members members s₁ hw'
  rw [he]
  exact ⟨members', absorbScanRequest_members _ members' _ hw'⟩

theorem Found.poll (h : c.Found s.topology) : (c.poll s).1.Found (c.poll s).2.topology := by
  obtain ⟨hw, members, h⟩ := h
  obtain ⟨hpoised, -⟩ := absorb_poised (s := ⟨s.topology, hw⟩) h
  obtain ⟨members', habsorb⟩ := c.absorb_members members s.topology s.hardware hw
  rw [habsorb] at hpoised
  rw [poll_eq_absorb]
  dsimp only at hpoised
  generalize c.absorb s = p at *
  obtain ⟨c₁, s₁⟩ := p
  have hregistered : s₁.topology.isRegistered c₁.id = !c₁.disposed := by
    rw [show s₁.topology.isRegistered c₁.id = true from hpoised.registered,
      show c₁.disposed = false from hpoised.live]
    rfl
  dsimp only
  unfold scanIfDue
  split
  · exact (scan_fresh hregistered hpoised.serial).found
  · next hidle =>
    refine ⟨hw, members', hregistered, hpoised.serial, fun _ => ?_⟩
    exact hpoised.current (eq_false_of_ne_true hidle)

/-- The poll that registers a disposed controller anew lists the devices that it had, at their addresses,
if these are the running sums of the sizes now. -/
theorem poll_relists {visits : List Query} (ht : s.topology.Numbered) (hdisposed : c.disposed = true)
    (hlooks : t.Looks s.topology) (hwalk : Scan.walk t c.root c.maxElements = .ok visits)
    (hdevices : (Scan.enumerate t hw visits).1 = .ok c.devices)
    (haddresses : c.devices.map BusDevice.address =
      Scan.addresses 0 (c.devices.map fun d => s.hardware.sizeAt d.device.handle))
    (hroom : (c.devices.map fun d => s.hardware.sizeAt d.device.handle).sum ≤ Scan.lastAddress) :
    (c.poll s).1.state = .ready ∧
      (c.poll s).1.devices.map BusDevice.device = c.devices.map BusDevice.device ∧
      (c.poll s).1.devices.map BusDevice.address = c.devices.map BusDevice.address := by
  have hdue := absorb_due_of_disposed ht hdisposed
  have hhears := c.absorb_hears s
  rw [poll_eq_absorb]
  generalize c.absorb s = p at hdue hhears
  obtain ⟨c₁, s₁⟩ := p
  have hlooks₁ : t.Looks s₁.topology := hlooks.trans hhears.looks
  have hwalk₁ : Scan.walk s₁.topology c₁.root c₁.maxElements = .ok visits := by
    rw [show c₁.root = c.root from hhears.root, show c₁.maxElements = c.maxElements from hhears.maxElements,
      Scan.walk_looks hlooks₁, hwalk]
  have hdevices₁ : (Scan.enumerate s₁.topology hw visits).1 = .ok c.devices := by
    rw [Scan.enumerate_looks hlooks₁, hdevices]
  rw [← show s₁.hardware = s.hardware from hhears.hardware] at haddresses hroom
  obtain ⟨devices, hfound, hsame, hfoundAt⟩ := Scan.enumerate_again s₁.hardware hdevices₁ hroom
  obtain ⟨hready, hlisted⟩ := scan_finds hwalk₁ hfound
  unfold scanIfDue
  rw [if_pos hdue, hlisted]
  refine ⟨hready, ?_, hfoundAt.trans haddresses.symm⟩
  have hdevice := congrArg (List.map Prod.fst) hsame
  rwa [List.map_map, List.map_map] at hdevice

end Controller

/-! ## Runs -/

/-- All controllers have what their scans found, and no two share a name. -/
structure Network.Found (n : Network) : Prop where
  distinct : n.Distinct
  controllers : ∀ seat c, n.controllers seat = some c → c.Found n.topology

namespace Network

variable {n : Network}

/-- A controller takes a seat under a name that is new or was its own before. -/
theorem Found.put (h : n.Found) {seat : Seat} {c : Controller} {t : Topology} (hc : c.Found t)
    (hyields : n.topology.Yields c.id t)
    (hname : n.topology.lastSerial < c.id.serial ∨ ∃ c₀, n.controllers seat = some c₀ ∧ c.id = c₀.id) :
    (n.put seat c t).Found := by
  have happart := h.distinct.apart (fun s d hd => (h.controllers s d hd).serial) hname
  refine ⟨h.distinct.put happart t, ?_⟩
  intro s d hd
  rw [put_controllers] at hd
  split at hd
  · cases hd
    exact hc
  · next hs => exact (h.controllers s d hd).yields hyields (happart s d hd hs)

theorem Found.act (h : n.Found) (hw : Hardware) {a : Action}
    (hedges : ∀ op, a = .topology op → n.topology.EdgesKnown) : (n.act hw a).Found := by
  cases a with
  | topology op =>
    exact ⟨h.distinct, fun seat c hc => (h.controllers seat c hc).topology_step (hedges op rfl) op⟩
  | restore seat members =>
    cases hc : n.controllers seat with
    | none => simpa only [Network.act, hc] using h
    | some c =>
      rw [act_restore hc]
      exact h.put (h.controllers seat c hc) (.refl _ _) (.inr ⟨c, hc, rfl⟩)
  | join seat root config =>
    cases hseat : n.controllers seat with
    | some c => simpa only [Network.act, hseat] using h
    | none =>
      rw [act_join hseat]
      have hfresh : (Controller.new n.topology root config).1.Fresh
          (Controller.new n.topology root config).2 hw := Controller.new_fresh n.topology root config
      exact h.put hfresh.found (n.topology.register_yields root) (.inl (Nat.lt_succ_self _))
  | control seat op =>
    cases hc : n.controllers seat with
    | none => simpa only [Network.act, hc] using h
    | some c =>
      have hfound := h.controllers seat c hc
      rw [act_control hc]
      cases op with
      | poll =>
        have hpolled := Controller.Found.poll (s := ⟨n.topology, hw⟩) hfound
        exact h.put hpolled (c.poll_yields ⟨n.topology, hw⟩)
          ((c.poll_named ⟨n.topology, hw⟩).symm.imp_right fun hid => ⟨c, hc, hid⟩)
      | scan =>
        have hid := c.scan_id ⟨n.topology, hw⟩
        have hyields := c.scan_yields ⟨n.topology, hw⟩
        rw [← hid] at hyields
        exact h.put (Controller.scan_fresh (s := ⟨n.topology, hw⟩) hfound.registered hfound.serial).found
          hyields (.inr ⟨c, hc, hid⟩)
      | dispose =>
        have hid := c.dispose_id n.topology
        have hyields := Controller.dispose_yields hfound.registered
        rw [← hid] at hyields
        exact h.put hfound.dispose hyields (.inr ⟨c, hc, hid⟩)
      | scheduleScan =>
        obtain ⟨hw, members, hfresh⟩ := hfound
        exact h.put (c := c.scheduleScan)
          ⟨hw, members, hfresh.registered, hfresh.serial, hfresh.current⟩ (.refl _ _) (.inr ⟨c, hc, rfl⟩)
      | takeChanges =>
        obtain ⟨hw, members, hfresh⟩ := hfound
        exact h.put (c := c.takeChanges.2)
          ⟨hw, members, hfresh.registered, hfresh.serial, hfresh.current⟩ (.refl _ _) (.inr ⟨c, hc, rfl⟩)

end Network

namespace World

variable {w : World} {ops : List Op}

theorem step_found (h : w.network.Found) (hedges : w.site.topology.EdgesKnown) (op : Op) :
    (w.step op).2.network.Found := by
  by_cases htopology : ∃ top, op = .topology top
  · obtain ⟨top, rfl⟩ := htopology
    exact h.act w.site.hardware (a := .topology top) fun _ _ => hedges
  -- no other operation acts on the elements
  · refine w.step_induction (fun n a ha hn => hn.act _ fun top heq => ?_) h
    subst heq
    exact absurd ⟨top, eq_of_topology_mem_actions ha⟩ htopology

/-- As long as no edge leads to an unknown element, all controllers have what their scans found, whatever
becomes of the devices and whatever records are taken over. -/
theorem run_found (hedges : ∀ pre, pre <+: ops → (empty.run pre).site.topology.EdgesKnown) :
    (empty.run ops).network.Found := by
  induction ops using List.reverseRecOn with
  | nil =>
    refine ⟨?_, ?_⟩
    · intro seat seat' c c' hc
      cases seat <;> cases hc
    · intro seat c hc
      cases seat <;> cases hc
  | append_singleton ops op ih =>
    rw [run_snoc]
    exact step_found (ih fun pre hpre => hedges pre (hpre.trans (List.prefix_append _ _)))
      (hedges ops (List.prefix_append _ _)) op

end World

end DeviceBus
