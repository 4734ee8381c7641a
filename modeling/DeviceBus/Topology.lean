import DeviceBus.Element

/-!
# Topology

The registry of all elements.  It tells which controller owns which element, and routes every
change to the controllers that have to scan again.
-/

namespace DeviceBus

/-- The element that a scan visits, and the side it came in through. -/
structure Query where
  element : ElementId
  entry : Option Side
  deriving DecidableEq, Repr

/-- A device that a provider offers, with the energy it draws per tick. -/
structure Offer where
  device : DeviceRef
  draw : Int
  deriving DecidableEq, Repr

/-- What a host offers at each element: devices, or a failure. -/
abbrev Provider := Query → Except Fault (List Offer)

/-- An offer that is made at one element only, and, if a side is given, only to a scan that comes in
through that side. -/
structure PlacedOffer where
  element : ElementId
  entry : Option Side
  offer : Offer
  deriving DecidableEq, Repr

/-- Whether an offer is made in answer to a query. -/
def PlacedOffer.answers (p : PlacedOffer) (q : Query) : Bool :=
  p.element = q.element && (p.entry.isNone || p.entry = q.entry)

/-- The provider that makes the placed offers in order, and fails at the listed elements. -/
def Provider.ofOffers (offers : List PlacedOffer) (failures : List (ElementId × Fault)) : Provider :=
  fun q =>
    match failures.find? (·.1 = q.element) with
    | some (_, fault) => .error fault
    | none => .ok ((offers.filter (·.answers q)).map PlacedOffer.offer)

/-- What the topology knows of a registered controller. -/
structure Registration where
  root : ElementId
  /-- Whether another controller claimed part of its bus since it completed a scan. -/
  invalidated : Bool
  deriving DecidableEq, Repr

/-- The registry of elements and of the controllers' claims on them. -/
structure Topology where
  loaded : Table ElementId Element
  unloaded : Table ElementId Element
  /-- The owner of each claimed element. -/
  claims : Table ElementId ControllerId
  controllers : Table ControllerId Registration
  /-- Controllers that have to scan again and were not told yet. -/
  scanRequests : List ControllerId
  /-- Controllers that lost their bus and were not told yet. -/
  invalidations : List ControllerId
  provider : Option Provider
  /-- The serial number given to a controller last. -/
  lastSerial : Nat

namespace Topology

/-- The topology without elements. -/
def empty : Topology := ⟨.empty, .empty, .empty, .empty, [], [], none, 0⟩

instance : Inhabited Topology := ⟨empty⟩

/-! ## Look-ups -/

/-- A loaded element. -/
def get? (t : Topology) (id : ElementId) : Option Element := t.loaded.get? id

/-- An element, loaded or not. -/
def known? (t : Topology) (id : ElementId) : Option Element := t.loaded.get? id <|> t.unloaded.get? id

/-- Whether an element is known and not loaded. -/
def isUnloaded (t : Topology) (id : ElementId) : Bool := t.unloaded.contains id

/-- The controller that owns an element. -/
def owner? (t : Topology) (id : ElementId) : Option ControllerId := t.claims.get? id

/-- How many elements are loaded. -/
def size (t : Topology) : Nat := t.loaded.size

/-- What the provider offers. -/
def offers (t : Topology) (q : Query) : Except Fault (List Offer) :=
  match t.provider with
  | none => .ok []
  | some provider => provider q

/-! ## Requests -/

/-- Adds a controller to a set of controllers. -/
def enlist (ids : List ControllerId) (id : ControllerId) : List ControllerId :=
  if id ∈ ids then ids else ids ++ [id]

/-- Removes a controller from a set of controllers. -/
def strike (ids : List ControllerId) (id : ControllerId) : List ControllerId := ids.filter (· ≠ id)

/-- The registered controllers whose root is an element. -/
def rootedAt (t : Topology) (id : ElementId) : List ControllerId :=
  (t.controllers.filter fun _ r => r.root = id).keys

/-- Asks some controllers to scan again. -/
def requestScans (t : Topology) (ids : List ControllerId) : Topology :=
  { t with scanRequests := ids.foldl enlist t.scanRequests }

/-- Asks the owner of an element, and the controllers rooted at it, to scan again. -/
def requestOwnerScan (t : Topology) (id : ElementId) : Topology :=
  t.requestScans ((t.owner? id).toList ++ t.rootedAt id)

/-- Marks an element as changed and asks for scans. -/
def markDirty (t : Topology) (id : ElementId) : Topology :=
  { t with loaded := t.loaded.modify id (·.setScanPending true) }.requestOwnerScan id

/-! ## Elements -/

/-- Adds an element, in place of the one with its name, and returns the loaded one it replaces. -/
def insert (t : Topology) (e : Element) : Option Element × Topology :=
  (t.get? e.id,
    { t with loaded := t.loaded.insert e.id e, unloaded := t.unloaded.erase e.id }.markDirty e.id)

/-- Sets an element aside; it keeps its edges and devices. -/
def unload (t : Topology) (id : ElementId) : Bool × Topology :=
  match t.get? id with
  | none => (false, t)
  | some e =>
    (true,
      { t with loaded := t.loaded.erase id, unloaded := t.unloaded.insert id e }.requestOwnerScan id)

/-- Brings an element back. -/
def reload (t : Topology) (id : ElementId) : Bool × Topology :=
  match t.unloaded.get? id with
  | none => (false, t)
  | some e =>
    (true, { t with loaded := t.loaded.insert id e, unloaded := t.unloaded.erase id }.markDirty id)

/-- Changes an element, loaded or not. -/
def modifyKnown (t : Topology) (id : ElementId) (f : Element → Element) : Topology :=
  if t.loaded.contains id then { t with loaded := t.loaded.modify id f }
  else { t with unloaded := t.unloaded.modify id f }

/-- Removes the edges from a neighbour to an element that goes away. -/
def dropEdge (id : ElementId) (t : Topology) (edge : Edge) : Topology :=
  (t.modifyKnown edge.target (·.unlink id)).markDirty edge.target

/-- Removes an element and the edges of its neighbours to it. -/
def remove (t : Topology) (id : ElementId) : Option Element × Topology :=
  match t.known? id with
  | none => (none, t)
  | some e =>
    let t :=
      if t.loaded.contains id then { t with loaded := t.loaded.erase id }
      else { t with unloaded := t.unloaded.erase id }
    let t := (e.edges.foldl (dropEdge id) t).requestOwnerScan id
    (some e, { t with claims := t.claims.erase id })

/-! ## Edges -/

/-- Connects two loaded elements through the given sides, if there is no edge yet. -/
def connect (t : Topology) (a : ElementId) (aSide : Option Side) (b : ElementId)
    (bSide : Option Side) : Bool × Topology :=
  match t.get? a, t.get? b with
  | some ea, some eb =>
    if a = b ∨ ea.hasEdge b ∧ eb.hasEdge a then (false, t)
    else
      let loaded := (t.loaded.insert a (ea.link aSide b)).insert b (eb.link bSide a)
      (true, ({ t with loaded := loaded }.markDirty a).markDirty b)
  | _, _ => (false, t)

/-- Removes the edge between two elements, as far as they are loaded. -/
def disconnect (t : Topology) (a b : ElementId) : Bool × Topology :=
  let changed :=
    (t.get? a).any (·.hasEdge b) || ((t.loaded.modify a (·.unlink b)).get? b).any (·.hasEdge a)
  if changed then
    let loaded := (t.loaded.modify a (·.unlink b)).modify b (·.unlink a)
    (true, ({ t with loaded := loaded }.markDirty a).markDirty b)
  else (false, t)

/-! ## Devices -/

/-- Adds a device to a loaded element. -/
def addDevice (t : Topology) (id : ElementId) (d : DeviceRef) : Bool × Topology :=
  match t.get? id with
  | none => (false, t)
  | some e => (true, { t with loaded := t.loaded.insert id (e.addDevice d) }.markDirty id)

/-- Removes a device from a loaded element. -/
def removeDevice (t : Topology) (id : ElementId) (device : DeviceId) : Option DeviceRef × Topology :=
  match t.get? id with
  | none => (none, t)
  | some e =>
    match e.removeDevice device with
    | (none, _) => (none, t)
    | (some d, e) => (some d, { t with loaded := t.loaded.insert id e }.markDirty id)

/-- Installs a provider; every element may have other devices now. -/
def setProvider (t : Topology) (provider : Provider) : Topology :=
  t.loaded.keys.foldl markDirty { t with provider := some provider }

/-! ## Controllers -/

/-- Registers a controller under a new name. -/
def register (t : Topology) (root : ElementId) : ControllerId × Topology :=
  let id : ControllerId := ⟨t.lastSerial + 1⟩
  (id, { t with controllers := t.controllers.insert id ⟨root, false⟩, lastSerial := t.lastSerial + 1 })

/-- Gives up every claim of a controller. -/
def releaseClaims (t : Topology) (id : ControllerId) : Topology :=
  { t with claims := t.claims.filter fun _ owner => owner ≠ id }

/-- Drops a controller.  Controllers that lost their bus may now adopt what it owned. -/
def unregister (t : Topology) (id : ControllerId) : Topology :=
  if t.controllers.contains id then
    let t := { t with controllers := t.controllers.erase id }.releaseClaims id
    let t := { t with
      scanRequests := strike t.scanRequests id
      invalidations := strike t.invalidations id }
    t.requestScans (t.controllers.filter fun _ r => r.invalidated).keys
  else t

/-- Takes the bus of a controller away from it. -/
def invalidate (t : Topology) (id : ControllerId) : Topology :=
  let t := t.releaseClaims id
  { t with
    controllers := t.controllers.modify id fun r => { r with invalidated := true }
    scanRequests := strike t.scanRequests id
    invalidations := enlist t.invalidations id }

/-- The registered controllers, other than `id`, that own one of the elements. -/
def rivals (t : Topology) (id : ControllerId) (elements : List ElementId) : List ControllerId :=
  (elements.filterMap t.owner?).foldl
    (fun ids owner => if owner ≠ id ∧ t.controllers.contains owner then enlist ids owner else ids) []

/-- Makes a controller the owner of one element. -/
def claimOne (id : ControllerId) (t : Topology) (element : ElementId) : Topology :=
  { t with
    claims := t.claims.insert element id
    loaded := t.loaded.modify element (·.setScanPending false) }

/-- Makes a controller the owner of exactly the given elements.  Whoever owned one of them loses all
of its bus. -/
def claim (t : Topology) (id : ControllerId) (elements : List ElementId) : Topology :=
  let t := (t.rivals id elements).foldl invalidate t
  let t := elements.foldl (claimOne id) (t.releaseClaims id)
  { t with controllers := t.controllers.modify id fun r => { r with invalidated := false } }

/-- Whether a controller has to scan again; asking takes the request away. -/
def takeScanRequest (t : Topology) (id : ControllerId) : Bool × Topology :=
  (decide (id ∈ t.scanRequests), { t with scanRequests := strike t.scanRequests id })

/-- Whether a controller lost its bus; asking takes the notice away. -/
def takeInvalidation (t : Topology) (id : ControllerId) : Bool × Topology :=
  (decide (id ∈ t.invalidations), { t with invalidations := strike t.invalidations id })

end Topology

end DeviceBus
