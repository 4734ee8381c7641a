import DeviceBus.Proofs.Relisting

/-!
# Addressing

A scan lists the devices of the elements that it visits, element by element: the devices of an element
itself, then those that the provider offers there (`Scan.offered`).  It succeeds exactly if the provider
answers everywhere, no name comes twice and there are addresses for all (`Scan.enumerate_eq_ok_iff`):

    (Scan.enumerate t hw visits).1 = .ok devices ↔ Scan.Listable t hw visits ∧ devices = ...

The devices fill the addresses from zero on without a gap (`Scan.Tiles`), and so do those of every
controller that is ready (`World.addresses_assigned`).
-/

namespace DeviceBus

/-- What a listing says of a device besides its address: its element, and the offer made there. -/
def BusDevice.offer (d : BusDevice) : ElementId × Offer := (d.element, ⟨d.device, d.draw⟩)

/-- The addresses of a device with an extent: the first, and the one behind the last. -/
def BusDevice.range? (size : Handle → Nat) (d : BusDevice) : Option (Nat × Nat) :=
  d.address.map fun address => (address, address + size d.device.handle)

namespace Scan

variable {t : Topology} {hw : Hardware} {size : Handle → Nat}

/-! ## What there is to list -/

/-- The devices at an element: its own, then those that the provider offers there. -/
def offeredAt (t : Topology) (hw : Hardware) (v : Visit) : List (ElementId × Offer) :=
  (ownOffers t hw v.element ++ (t.offers v).toOption.getD []).map fun o => (v.element, o)

/-- The devices at the visited elements, in the order of the visits. -/
def offered (t : Topology) (hw : Hardware) (visits : List Visit) : List (ElementId × Offer) :=
  visits.flatMap (offeredAt t hw)

/-- What it takes that all devices at the visited elements can be listed. -/
structure Listable (t : Topology) (hw : Hardware) (visits : List Visit) : Prop where
  /-- The provider answers at every element. -/
  answers : ∀ v ∈ visits, ∃ offers, t.offers v = .ok offers
  /-- No two devices share a name. -/
  distinct : ((offered t hw visits).map fun o => o.2.device.id).Nodup
  /-- There are addresses for all. -/
  room : ((offered t hw visits).map fun o => hw.sizeAt o.2.device.handle).sum ≤ 2 ^ 64 - 1

/-! ## Listings -/

namespace Listing

/-- A listing with one more device, at the first address that is free. -/
def put (size : Handle → Nat) (l : Listing) (o : ElementId × Offer) : Listing :=
  ⟨l.devices ++ [⟨o.2.device, o.1, if size o.2.device.handle = 0 then none else some l.next, o.2.draw⟩],
    l.next + size o.2.device.handle⟩

/-- More devices can be listed: they have names of their own, and there are addresses for them. -/
structure Takes (size : Handle → Nat) (l : Listing) (os : List (ElementId × Offer)) : Prop where
  nodup : (l.devices.map BusDevice.id ++ os.map fun o => o.2.device.id).Nodup
  room : l.next + (os.map fun o => size o.2.device.handle).sum ≤ lastAddress

variable {l l' : Listing} {element : ElementId} {os os' : List (ElementId × Offer)}

theorem foldl_put_offers (size : Handle → Nat) (os : List (ElementId × Offer)) (l : Listing) :
    (os.foldl (put size) l).devices.map BusDevice.offer = l.devices.map BusDevice.offer ++ os := by
  induction os generalizing l with
  | nil => exact (List.append_nil _).symm
  | cons o os ih =>
    rw [List.foldl_cons, ih]
    simp [put, BusDevice.offer]

theorem foldl_put_ids (size : Handle → Nat) (os : List (ElementId × Offer)) (l : Listing) :
    (os.foldl (put size) l).devices.map BusDevice.id =
      l.devices.map BusDevice.id ++ os.map fun o => o.2.device.id := by
  have hids := congrArg (List.map fun o : ElementId × Offer => o.2.device.id) (foldl_put_offers size os l)
  rwa [List.map_append, List.map_map, List.map_map] at hids

theorem foldl_put_next (os : List (ElementId × Offer)) (l : Listing) :
    (os.foldl (put size) l).next = l.next + (os.map fun o => size o.2.device.handle).sum := by
  induction os generalizing l with
  | nil => rfl
  | cons o os ih =>
    rw [List.foldl_cons, ih, List.map_cons, List.sum_cons, ← Nat.add_assoc]
    rfl

/-- Devices can be listed in two parts. -/
theorem takes_append :
    l.Takes size (os ++ os') ↔ l.Takes size os ∧ (os.foldl (put size) l).Takes size os' := by
  constructor
  · rintro ⟨hnodup, hroom⟩
    rw [List.map_append, ← List.append_assoc] at hnodup
    rw [List.map_append, List.sum_append, ← Nat.add_assoc] at hroom
    refine ⟨⟨hnodup.sublist (List.sublist_append_left _ _), Nat.le_of_add_right_le hroom⟩, ?_, ?_⟩
    · rwa [foldl_put_ids]
    · rwa [foldl_put_next]
  · rintro ⟨-, hnodup, hroom⟩
    refine ⟨?_, ?_⟩
    · rwa [List.map_append, ← List.append_assoc, ← foldl_put_ids size]
    · rwa [List.map_append, List.sum_append, ← Nat.add_assoc, ← foldl_put_next]

theorem takes_nil (size : Handle → Nat) : (⟨[], 0⟩ : Listing).Takes size [] :=
  ⟨List.nodup_nil, Nat.zero_le _⟩

/-- Once they are listed there is nothing amiss with the listing. -/
theorem Takes.foldl_put (h : l.Takes size os) : (os.foldl (put size) l).Takes size [] := by
  rw [← List.append_nil os, takes_append] at h
  exact h.2

/-- One device is listed if its name is new and there are addresses for it. -/
theorem add_eq_ok_iff {offer : Offer} (h : l.Takes hw.sizeAt []) :
    l.add hw element offer = .ok l' ↔
      l.Takes hw.sizeAt [(element, offer)] ∧ l' = l.put hw.sizeAt (element, offer) := by
  have hnodup := h.nodup
  rw [List.map_nil, List.append_nil] at hnodup
  have hnew : (l.devices.any (·.id = offer.device.id)) = false ↔
      (l.devices.map BusDevice.id ++ [offer.device.id]).Nodup := by
    rw [List.nodup_append, List.any_eq_false]
    simp only [decide_eq_true_iff, List.mem_singleton, forall_eq, List.forall_mem_map]
    exact ⟨fun hnew => ⟨hnodup, List.nodup_singleton _, hnew⟩, fun h => h.2.2⟩
  have hput : l.put hw.sizeAt (element, offer) = ⟨l.devices ++ [⟨offer.device, element,
      if (hw.device offer.device.handle).size = 0 then none else some l.next, offer.draw⟩],
      l.next + (hw.device offer.device.handle).size⟩ := rfl
  have hroom : l.next + (hw.device offer.device.handle).size ≤ lastAddress ↔
      l.next + ([(element, offer)].map fun o => hw.sizeAt o.2.device.handle).sum ≤ lastAddress := .rfl
  unfold Listing.add
  dsimp only
  split
  · next hlisted =>
    refine ⟨nofun, fun htakes => ?_⟩
    rw [hnew.2 htakes.1.nodup] at hlisted
    cases hlisted
  · next hnotListed =>
    have hdistinct := hnew.1 (eq_false_of_ne_true hnotListed)
    split
    · next hsize =>
      rw [hsize, if_pos rfl] at hput
      rw [hput, Except.ok.injEq, eq_comm]
      exact ⟨fun heq => ⟨⟨hdistinct, hroom.1 (hsize ▸ h.room)⟩, heq⟩, fun htakes => htakes.2⟩
    · next hsize =>
      rw [if_neg hsize] at hput
      split
      · next hfull =>
        exact ⟨nofun, fun htakes => absurd (hroom.2 htakes.1.room) (Nat.not_le_of_lt hfull)⟩
      · next hfits =>
        rw [hput, Except.ok.injEq, eq_comm]
        exact ⟨fun heq => ⟨⟨hdistinct, hroom.1 (Nat.le_of_not_lt hfits)⟩, heq⟩, fun htakes => htakes.2⟩

/-- The devices of one element are listed if they can all be listed. -/
theorem addAll_eq_ok_iff {offers : List Offer} (h : l.Takes hw.sizeAt []) :
    addAll hw element offers l = .ok l' ↔
      l.Takes hw.sizeAt (offers.map (element, ·)) ∧
        l' = (offers.map (element, ·)).foldl (put hw.sizeAt) l := by
  induction offers generalizing l with
  | nil =>
    rw [addAll, Except.ok.injEq, eq_comm]
    exact ⟨fun heq => ⟨h, heq⟩, fun htakes => htakes.2⟩
  | cons offer rest ih =>
    rw [addAll, List.map_cons, ← List.singleton_append, takes_append, List.foldl_append]
    cases hadd : l.add hw element offer with
    | error fault =>
      constructor
      · rintro ⟨⟩
      · intro htakes
        rw [(add_eq_ok_iff h).2 ⟨htakes.1.1, rfl⟩] at hadd
        cases hadd
    | ok l₁ =>
      obtain ⟨htakes, rfl⟩ := (add_eq_ok_iff h).1 hadd
      have hlisted : (l.put hw.sizeAt (element, offer)).Takes hw.sizeAt [] := htakes.foldl_put
      dsimp only [List.foldl_cons, List.foldl_nil]
      rw [ih hlisted]
      exact ⟨fun hrest => ⟨⟨htakes, hrest.1⟩, hrest.2⟩, fun hall => ⟨hall.1.2, hall.2⟩⟩

end Listing

/-! ## Scans -/

theorem listDevices_eq_ok_iff {visits : List Visit} {l l' : Listing} (h : l.Takes hw.sizeAt []) :
    (listDevices t visits l hw).1 = .ok l' ↔ (∀ v ∈ visits, ∃ offers, t.offers v = .ok offers) ∧
      l.Takes hw.sizeAt (offered t hw visits) ∧
        l' = (offered t hw visits).foldl (Listing.put hw.sizeAt) l := by
  induction visits generalizing l hw with
  | nil =>
    rw [listDevices, Except.ok.injEq, eq_comm]
    exact ⟨fun heq => ⟨nofun, h, heq⟩, fun htakes => htakes.2.2⟩
  | cons v rest ih =>
    unfold listDevices
    dsimp only
    -- the query is written into the journal, and changes no device
    have hasked : ∃ hw', (if t.provider.isSome then hw.record (.query v.element v.entry) else hw) = hw' ∧
        hw'.sizeAt = hw.sizeAt ∧ ownOffers t hw' v.element = ownOffers t hw v.element ∧
        offered t hw' rest = offered t hw rest := by
      split
      · exact ⟨_, rfl, rfl, rfl, rfl⟩
      · exact ⟨_, rfl, rfl, rfl, rfl⟩
    obtain ⟨hw', hrecord, hsize, hown, hrest⟩ := hasked
    rw [hrecord, List.forall_mem_cons]
    cases hoffers : t.offers v with
    | error fault =>
      refine ⟨nofun, fun hall => ?_⟩
      obtain ⟨⟨offers, hanswer⟩, -⟩ := hall.1
      cases hanswer
    | ok offers =>
      have hat : offeredAt t hw v = (ownOffers t hw' v.element ++ offers).map (v.element, ·) := by
        rw [offeredAt, hoffers, hown]
        rfl
      rw [← hsize] at h ⊢
      rw [offered, List.flatMap_cons, ← offered, Listing.takes_append, List.foldl_append, hat]
      dsimp only
      cases hadd : Listing.addAll hw' v.element (ownOffers t hw' v.element ++ offers) l with
      | error fault =>
        refine ⟨nofun, fun hall => ?_⟩
        rw [(Listing.addAll_eq_ok_iff h).2 ⟨hall.2.1.1, rfl⟩] at hadd
        cases hadd
      | ok l₁ =>
        obtain ⟨htakes, rfl⟩ := (Listing.addAll_eq_ok_iff h).1 hadd
        dsimp only
        rw [ih htakes.foldl_put, hrest]
        exact ⟨fun hlist => ⟨⟨⟨offers, rfl⟩, hlist.1⟩, ⟨htakes, hlist.2.1⟩, hlist.2.2⟩,
          fun hlist => ⟨hlist.1.2, hlist.2.1.2, hlist.2.2⟩⟩

/-- A scan lists the devices of the elements that it visited exactly if they can all be listed. -/
theorem enumerate_eq_ok_iff {visits : List Visit} {devices : List BusDevice} :
    (enumerate t hw visits).1 = .ok devices ↔ Listable t hw visits ∧
      devices = ((offered t hw visits).foldl (Listing.put hw.sizeAt) ⟨[], 0⟩).devices := by
  have hlist (l : Listing) : (listDevices t visits ⟨[], 0⟩ hw).1 = .ok l ↔ _ :=
    listDevices_eq_ok_iff (Listing.takes_nil hw.sizeAt)
  have htakes : (⟨[], 0⟩ : Listing).Takes hw.sizeAt (offered t hw visits) ↔
      ((offered t hw visits).map fun o => o.2.device.id).Nodup ∧
        ((offered t hw visits).map fun o => hw.sizeAt o.2.device.handle).sum ≤ 2 ^ 64 - 1 := by
    refine ⟨fun h => ⟨h.nodup, ?_⟩, fun h => ⟨h.1, ?_⟩⟩
    · have hroom := h.room
      rwa [Nat.zero_add] at hroom
    · rw [Nat.zero_add]
      exact h.2
  have hmap : (enumerate t hw visits).1 = .ok devices ↔
      ∃ l, (listDevices t visits ⟨[], 0⟩ hw).1 = .ok l ∧ l.devices = devices := by
    show (listDevices t visits ⟨[], 0⟩ hw).1.map Listing.devices = .ok devices ↔ _
    cases (listDevices t visits ⟨[], 0⟩ hw).1 with
    | error fault => exact ⟨nofun, fun ⟨_, h, _⟩ => nomatch h⟩
    | ok l => simp [Except.map]
  rw [hmap]
  constructor
  · rintro ⟨l, h, rfl⟩
    obtain ⟨hanswers, hall, rfl⟩ := (hlist l).1 h
    exact ⟨⟨hanswers, (htakes.1 hall).1, (htakes.1 hall).2⟩, rfl⟩
  · rintro ⟨h, rfl⟩
    exact ⟨_, (hlist _).2 ⟨h.answers, htakes.2 ⟨h.distinct, h.room⟩, rfl⟩, rfl⟩

/-! ## Ranges -/

/-- Ranges that follow each other without a gap, none of them empty, the first from `first` on and the last
up to `last`. -/
def Contiguous : Nat → Nat → List (Nat × Nat) → Prop
  | first, last, [] => first = last
  | first, last, r :: rest => r.1 = first ∧ r.1 < r.2 ∧ Contiguous r.2 last rest

theorem Contiguous.bounds {first last : Nat} {rs : List (Nat × Nat)} (h : Contiguous first last rs) :
    first ≤ last ∧ ∀ r ∈ rs, first ≤ r.1 ∧ r.1 < r.2 ∧ r.2 ≤ last := by
  induction rs generalizing first with
  | nil => exact ⟨Nat.le_of_eq h, nofun⟩
  | cons r rest ih =>
    obtain ⟨rfl, hr, hrest⟩ := h
    obtain ⟨hlast, hbounds⟩ := ih hrest
    refine ⟨by omega, fun r' hr' => ?_⟩
    rcases List.mem_cons.1 hr' with rfl | hr'
    · exact ⟨Nat.le_refl _, hr, hlast⟩
    · have hr' := hbounds r' hr'
      exact ⟨by omega, hr'.2⟩

/-- Of two such ranges the earlier one ends before the later one starts. -/
theorem Contiguous.disjoint {first last : Nat} {rs : List (Nat × Nat)} (h : Contiguous first last rs) :
    rs.Pairwise fun r r' => r.1 < r'.1 ∧ r.2 ≤ r'.1 := by
  induction rs generalizing first with
  | nil => exact .nil
  | cons r rest ih =>
    obtain ⟨rfl, hr, hrest⟩ := h
    refine .cons (fun r' hr' => ?_) (ih hrest)
    have hle := (hrest.bounds.2 r' hr').1
    exact ⟨Nat.lt_of_lt_of_le hr hle, hle⟩

/-- The devices fill the addresses from zero on without a gap. -/
structure Tiles (size : Handle → Nat) (devices : List BusDevice) : Prop where
  /-- A device with an extent starts where the sizes before it add up to; one without has no address. -/
  address : ∀ before d after, devices = before ++ d :: after → d.address =
    if size d.device.handle = 0 then none else some (before.map fun b => size b.device.handle).sum
  contiguous : Contiguous 0 (devices.map fun d => size d.device.handle).sum
    (devices.filterMap (BusDevice.range? size))
  disjoint : (devices.filterMap (BusDevice.range? size)).Pairwise fun r r' => r.1 < r'.1 ∧ r.2 ≤ r'.1
  room : ∀ r ∈ devices.filterMap (BusDevice.range? size), r.2 ≤ 2 ^ 64 - 1

theorem contiguous_of_addresses {devices : List BusDevice} {next : Nat}
    (h : devices.map BusDevice.address = addresses next (devices.map fun d => size d.device.handle)) :
    Contiguous next (next + (devices.map fun d => size d.device.handle).sum)
      (devices.filterMap (BusDevice.range? size)) := by
  induction devices generalizing next with
  | nil => exact rfl
  | cons d rest ih =>
    rw [List.map_cons, List.map_cons, addresses] at h
    obtain ⟨haddress, hrest⟩ := List.cons.inj h
    have hlater := ih hrest
    rw [Nat.add_assoc, ← List.sum_cons, ← List.map_cons (f := fun d : BusDevice => size d.device.handle)]
      at hlater
    split at haddress
    · next hsize =>
      rw [hsize, Nat.add_zero] at hlater
      rwa [List.filterMap_cons_none (by rw [BusDevice.range?, haddress]; rfl)]
    · next hsize =>
      rw [List.filterMap_cons_some (by rw [BusDevice.range?, haddress]; rfl)]
      exact ⟨rfl, Nat.lt_add_of_pos_right (Nat.pos_of_ne_zero hsize), hlater⟩

theorem length_addresses (next : Nat) (sizes : List Nat) : (addresses next sizes).length = sizes.length := by
  induction sizes generalizing next with
  | nil => rfl
  | cons size rest ih => exact congrArg (· + 1) (ih _)

theorem address_of_addresses {devices before after : List BusDevice} {d : BusDevice}
    (h : devices.map BusDevice.address = addresses 0 (devices.map fun d => size d.device.handle))
    (hdevices : devices = before ++ d :: after) : d.address =
      if size d.device.handle = 0 then none else some (before.map fun b => size b.device.handle).sum := by
  have hbefore : (before.map BusDevice.address).length =
      (addresses 0 (before.map fun d => size d.device.handle)).length := by
    rw [length_addresses, List.length_map, List.length_map]
  rw [hdevices, List.map_append, List.map_append, addresses_append, List.map_cons, List.map_cons, addresses,
    Nat.zero_add] at h
  exact (List.cons.inj (List.append_inj h hbefore).2).1

theorem tiles_of_enumerate {visits : List Visit} {devices : List BusDevice}
    (h : (enumerate t hw visits).1 = .ok devices) : Tiles hw.sizeAt devices := by
  have haddresses := enumerate_places h
  have hcontiguous := contiguous_of_addresses haddresses
  rw [Nat.zero_add] at hcontiguous
  obtain ⟨hlistable, hdevices⟩ := enumerate_eq_ok_iff.1 h
  have hoffers : devices.map BusDevice.offer = offered t hw visits := by
    rw [hdevices]
    exact Listing.foldl_put_offers _ _ _
  have hsizes := congrArg (List.map fun o : ElementId × Offer => hw.sizeAt o.2.device.handle) hoffers
  rw [List.map_map] at hsizes
  have hroom := hlistable.room
  rw [← hsizes] at hroom
  exact ⟨fun before d after => address_of_addresses haddresses, hcontiguous, hcontiguous.disjoint,
    fun r hr => Nat.le_trans (hcontiguous.bounds.2 r hr).2.2 hroom⟩

end Scan

/-! ## Ready buses -/

/-- What a ready controller lists was listed by a scan, when the devices were as in one of some states. -/
def Controller.Listed (H : Hardware → Prop) (c : Controller) : Prop :=
  c.state = .ready → ∃ hw t visits, H hw ∧ (Scan.enumerate t hw visits).1 = .ok c.devices

namespace Controller

variable {H : Hardware → Prop} {c : Controller} {s : Site}

theorem Listed.mono {H' : Hardware → Prop} (h : c.Listed H) (hH : ∀ hw, H hw → H' hw) : c.Listed H' := by
  intro hready
  obtain ⟨hw, t, visits, hhw, hdevices⟩ := h hready
  exact ⟨hw, t, visits, hH hw hhw, hdevices⟩

theorem scan_listed (c : Controller) (hH : H s.hardware) : (c.scan s).1.Listed H := by
  rcases c.scan_cases s with he | ⟨_, _, _, he⟩ | ⟨visits, devices, _, _, -, henumerate, he⟩
  · rw [he]
    exact nofun
  · rw [he]
    exact nofun
  · rw [he]
    exact fun _ => ⟨s.hardware, s.topology, visits, hH, congrArg Prod.fst henumerate⟩

theorem Listed.absorb (h : c.Listed H) (s : Site) : (c.absorb s).1.Listed H := by
  have hrevive : (c.revive s).1.Listed H := by
    unfold revive
    split
    · exact h
    · exact h
  unfold Controller.absorb
  generalize c.revive s = p at hrevive
  obtain ⟨c₁, s₁⟩ := p
  have hnotice : (c₁.absorbInvalidation s₁).1.Listed H := by
    rcases c₁.absorbInvalidation_cases s₁ with ⟨-, _, he⟩ | ⟨-, he⟩
    · rw [he]
      exact nofun
    · rw [he]
      exact hrevive
  dsimp only
  rcases (c₁.absorbInvalidation s₁).1.absorbScanRequest_cases (c₁.absorbInvalidation s₁).2 with
    ⟨-, he⟩ | ⟨-, he⟩ <;>
  · rw [he]
    exact hnotice

theorem Listed.step (h : c.Listed H) (hH : H s.hardware) (op : ControllerOp) : (c.step s op).2.1.Listed H := by
  cases op with
  | poll =>
    show (c.poll s).1.Listed H
    rw [poll_eq_absorb]
    unfold scanIfDue
    split
    · refine scan_listed _ ?_
      rwa [(c.absorb_hears s).hardware]
    · exact h.absorb s
  | scan => exact c.scan_listed hH
  | scheduleScan => exact h
  | takeChanges => exact h
  | dispose =>
    show (c.dispose s.topology).1.Listed H
    unfold dispose
    split
    · exact h
    · exact nofun

end Controller

/-- What a ready controller lists was listed by a scan, for every controller. -/
def Network.Listed (H : Hardware → Prop) (n : Network) : Prop :=
  ∀ seat c, n.controllers seat = some c → c.Listed H

theorem Network.Listed.act {H : Hardware → Prop} {n : Network} (h : n.Listed H) {hw : Hardware} (hH : H hw)
    (a : Network.Action) : (n.act hw a).Listed H := by
  have hput {seat : Seat} {c : Controller} {t : Topology} (hc : c.Listed H) : (n.put seat c t).Listed H := by
    intro s d hd
    rw [put_controllers] at hd
    split at hd
    · cases hd
      exact hc
    · exact h s d hd
  cases a with
  | topology op => exact h
  | join seat root config =>
    cases hseat : n.controllers seat with
    | some c => simpa only [Network.act, hseat] using h
    | none =>
      rw [act_join hseat]
      refine hput fun hready => ?_
      cases hready
  | restore seat members =>
    cases hseat : n.controllers seat with
    | none => simpa only [Network.act, hseat] using h
    | some c =>
      rw [act_restore hseat]
      exact hput (h seat c hseat)
  | control seat op =>
    cases hseat : n.controllers seat with
    | none => simpa only [Network.act, hseat] using h
    | some c =>
      rw [act_control hseat]
      exact hput ((h seat c hseat).step (s := ⟨n.topology, hw⟩) hH op)

namespace World

/-- In every run what a ready controller lists was listed by a scan at some point of the run. -/
theorem run_listed (ops : List Op) :
    (empty.run ops).network.Listed fun hw => ∃ pre, pre <+: ops ∧ hw = (empty.run pre).site.hardware := by
  induction ops using List.reverseRecOn with
  | nil =>
    intro seat c hc
    cases seat <;> cases hc
  | append_singleton ops op ih =>
    rw [run_snoc]
    have hbefore : (empty.run ops).network.Listed
        fun hw => ∃ pre, pre <+: ops ++ [op] ∧ hw = (empty.run pre).site.hardware := by
      refine fun seat c hc => (ih seat c hc).mono ?_
      rintro _ ⟨pre, hpre, rfl⟩
      exact ⟨pre, hpre.trans (List.prefix_append _ _), rfl⟩
    exact (empty.run ops).step_induction (fun n a _ hn => hn.act ⟨ops, List.prefix_append _ _, rfl⟩ a) hbefore

/-- A scan succeeds exactly if the provider answers at all visited elements, no two devices share a name and
there are addresses for all.  It lists the devices of the elements one after the other, the devices of an
element before those that the provider offers there, and they fill the addresses from zero on.  What a
controller that is ready has was listed by such a scan at some point of the run, so its devices fill the
addresses with the sizes that they had then. -/
theorem addresses_assigned :
    (∀ (t : Topology) (hw : Hardware) (visits : List Scan.Visit),
      ((∃ devices, (Scan.enumerate t hw visits).1 = .ok devices) ↔ Scan.Listable t hw visits) ∧
        ∀ devices, (Scan.enumerate t hw visits).1 = .ok devices →
          devices.map BusDevice.offer = Scan.offered t hw visits ∧ Scan.Tiles hw.sizeAt devices) ∧
    ∀ (ops : List Op) (seat : Seat) (c : Controller), (empty.run ops).controllerAt seat = some c →
      c.state = .ready → ∃ pre t visits, pre <+: ops ∧
        (Scan.enumerate t (empty.run pre).site.hardware visits).1 = .ok c.devices ∧
          Scan.Tiles (empty.run pre).site.hardware.sizeAt c.devices := by
  refine ⟨fun t hw visits => ⟨⟨?_, ?_⟩, ?_⟩, ?_⟩
  · rintro ⟨devices, h⟩
    exact (Scan.enumerate_eq_ok_iff.1 h).1
  · exact fun h => ⟨_, Scan.enumerate_eq_ok_iff.2 ⟨h, rfl⟩⟩
  · intro devices h
    refine ⟨?_, Scan.tiles_of_enumerate h⟩
    rw [(Scan.enumerate_eq_ok_iff.1 h).2]
    exact Scan.Listing.foldl_put_offers _ _ _
  · intro ops seat c hc hready
    obtain ⟨_, t, visits, ⟨pre, hpre, rfl⟩, h⟩ := run_listed ops seat c hc hready
    exact ⟨pre, t, visits, hpre, h, Scan.tiles_of_enumerate h⟩

end World

end DeviceBus
