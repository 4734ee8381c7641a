import DeviceBus.Hardware
import DeviceBus.Text.Number
import DeviceBus.Topology

/-!
# Scans

A scan walks the topology breadth first from a root, over edges that leave through open sides, and
lists the devices of the elements it visits.  Every device with an extent gets the sum of the sizes
before it as its address.
-/

namespace DeviceBus

/-- Why a bus is in its error state. -/
inductive BusFault where
  /-- The bus spans more elements than allowed. -/
  | tooComplex (limit : Nat)
  /-- A device was reported twice, the second time at this element. -/
  | deviceConflict (device : DeviceId) (element : ElementId)
  /-- The sizes of the devices do not fit in 64 bits. -/
  | addressSpaceExhausted
  /-- The provider failed at this element. -/
  | enumerationFailed (element : ElementId) (fault : Fault)
  /-- Another controller claimed part of the bus. -/
  | invalidated
  deriving DecidableEq, Repr

/-- The fault in words. -/
def BusFault.message : BusFault → String
  | tooComplex limit => "bus too complex: more than " ++ toString limit ++ " elements"
  | deviceConflict device element =>
    "device " ++ device.render ++ " appears on the bus twice (again at " ++ element.render ++ ")"
  | addressSpaceExhausted => "device sizes exceed the address space"
  | enumerationFailed element fault =>
    "device enumeration failed at " ++ element.render ++ ": " ++ fault.message
  | invalidated => "bus claimed by another controller"

/-- A device in its place on the bus. -/
structure BusDevice where
  device : DeviceRef
  /-- The element that reported the device. -/
  element : ElementId
  /-- Where its addresses start; nothing for a device without an extent. -/
  address : Option Nat
  /-- The energy per tick declared for it. -/
  draw : Int
  deriving DecidableEq, Repr

/-- The name of the device. -/
def BusDevice.id (d : BusDevice) : DeviceId := d.device.id

namespace Scan

/-! ## Traversal -/

/-- An element that a scan visits, and the side it came in through. -/
abbrev Visit := Query

/-- Why a traversal ends before it saw everything. -/
inductive Setback where
  /-- Something is not loaded, so the scan has to wait. -/
  | deferred
  /-- There are too many elements. -/
  | tooComplex
  deriving DecidableEq, Repr

/-- A traversal under way. -/
structure Search where
  /-- The elements found, in order. -/
  visited : List Visit
  /-- Those of them whose edges were not followed yet, in order. -/
  queue : List ElementId

/-- Whether an element was found already. -/
def Search.hasSeen (s : Search) (id : ElementId) : Bool := s.visited.any (·.element = id)

/-- Follows one edge of the element `source`. -/
def followEdge (t : Topology) (limit : Nat) (source : Element) (s : Search) (edge : Edge) :
    Except Setback Search :=
  if !source.isOpen edge.side || s.hasSeen edge.target then .ok s
  else if t.isUnloaded edge.target then .error .deferred
  else
    match t.get? edge.target with
    | none => .ok s
    | some next =>
      if limit < s.visited.length + 1 then .error .tooComplex
      else .ok ⟨s.visited ++ [⟨edge.target, next.sideTowards source.id⟩], s.queue ++ [edge.target]⟩

/-- Follows edges of the element `source` in order. -/
def followEdges (t : Topology) (limit : Nat) (source : Element) : List Edge → Search →
    Except Setback Search
  | [], s => .ok s
  | edge :: rest, s =>
    match followEdge t limit source s edge with
    | .error setback => .error setback
    | .ok s => followEdges t limit source rest s

/-- Follows the edges of queued elements, at most `steps` of them. -/
def explore (t : Topology) (limit : Nat) : Nat → Search → Except Setback Search
  | 0, s => .ok s
  | steps + 1, s =>
    match s.queue with
    | [] => .ok s
    | id :: queue =>
      match t.get? id with
      | none => explore t limit steps { s with queue }
      | some e =>
        match followEdges t limit e e.edges { s with queue } with
        | .error setback => .error setback
        | .ok s => explore t limit steps s

/-- The elements to be reached from a root, in the order of the traversal.  Every element is queued
once at most, so there are no more steps than loaded elements. -/
def walk (t : Topology) (root : ElementId) (limit : Nat) : Except Setback (List Visit) :=
  if t.loaded.contains root then
    (explore t limit t.size ⟨[⟨root, none⟩], [root]⟩).map Search.visited
  else .error .deferred

/-! ## Enumeration -/

/-- The largest address. -/
def lastAddress : Nat := UInt64.size - 1

/-- The devices listed so far, and the sum of their sizes. -/
structure Listing where
  devices : List BusDevice
  next : Nat

/-- Lists one more device. -/
def Listing.add (l : Listing) (hw : Hardware) (element : ElementId) (offer : Offer) :
    Except BusFault Listing :=
  let id := offer.device.id
  if l.devices.any (·.id = id) then .error (.deviceConflict id element)
  else
    let size := (hw.device offer.device.handle).size
    if size = 0 then .ok ⟨l.devices ++ [⟨offer.device, element, none, offer.draw⟩], l.next⟩
    else if lastAddress < l.next + size then .error .addressSpaceExhausted
    else .ok ⟨l.devices ++ [⟨offer.device, element, some l.next, offer.draw⟩], l.next + size⟩

/-- Lists more devices of one element. -/
def Listing.addAll (hw : Hardware) (element : ElementId) : List Offer → Listing →
    Except BusFault Listing
  | [], l => .ok l
  | offer :: rest, l =>
    match l.add hw element offer with
    | .error fault => .error fault
    | .ok l => addAll hw element rest l

/-- The devices of an element itself, with the energy they draw. -/
def ownOffers (t : Topology) (hw : Hardware) (id : ElementId) : List Offer :=
  match t.get? id with
  | none => []
  | some e => e.devices.map fun d => ⟨d, (hw.device d.handle).draw⟩

/-- Lists the devices at more elements: those of an element itself, then those that the provider
offers there. -/
def listDevices (t : Topology) : List Visit → Listing → Hardware → Except BusFault Listing × Hardware
  | [], l, hw => (.ok l, hw)
  | visit :: rest, l, hw =>
    let hw := if t.provider.isSome then hw.record (.query visit.element visit.entry) else hw
    match t.offers visit with
    | .error fault => (.error (.enumerationFailed visit.element fault), hw)
    | .ok offered =>
      match Listing.addAll hw visit.element (ownOffers t hw visit.element ++ offered) l with
      | .error fault => (.error fault, hw)
      | .ok l => listDevices t rest l hw

/-- The devices at the visited elements, with their addresses. -/
def enumerate (t : Topology) (hw : Hardware) (visits : List Visit) :
    Except BusFault (List BusDevice) × Hardware :=
  let (result, hw) := listDevices t visits ⟨[], 0⟩ hw
  (result.map Listing.devices, hw)

end Scan

end DeviceBus
