import DeviceBus.Ident

/-!
# Elements

An element is a node of the topology: its edges to other elements, its own devices, and the sides
through which no scan leaves it.
-/

namespace DeviceBus

/-- A face of an element. -/
inductive Side where
  | down
  | up
  | north
  | south
  | west
  | east
  deriving DecidableEq, Inhabited, Repr

namespace Side

/-- All sides, in their order. -/
def all : List Side := [down, up, north, south, west, east]

/-- The side of a neighbour that faces a side. -/
def opposite : Side → Side
  | down => up
  | up => down
  | north => south
  | south => north
  | west => east
  | east => west

/-- The name of a side. -/
def name : Side → String
  | down => "down"
  | up => "up"
  | north => "north"
  | south => "south"
  | west => "west"
  | east => "east"

/-- The side of a name. -/
def ofName? (s : String) : Option Side := all.find? fun side => side.name = s

end Side

/-- A relation to another element.  An edge without a side is an inner link. -/
structure Edge where
  side : Option Side
  target : ElementId
  deriving DecidableEq, Repr

/-- A node of the topology. -/
structure Element where
  id : ElementId
  /-- Edges in the order they were made. -/
  edges : List Edge
  /-- The element's own devices. -/
  devices : List DeviceRef
  /-- Sides through which no scan goes on. -/
  blocked : List Side
  /-- Whether a change touched the element since its last scan. -/
  scanPending : Bool
  deriving DecidableEq, Repr

namespace Element

/-- An element without edges. -/
def new (id : ElementId) (blocked : List Side) (devices : List DeviceRef) : Element :=
  ⟨id, [], devices, blocked, true⟩

/-- Whether a scan may leave through a side; through an inner link it always may. -/
def isOpen (e : Element) : Option Side → Bool
  | none => true
  | some side => !e.blocked.contains side

/-- Whether there is an edge to an element. -/
def hasEdge (e : Element) (target : ElementId) : Bool := e.edges.any (·.target = target)

/-- The side of the first edge to an element. -/
def sideTowards (e : Element) (target : ElementId) : Option Side :=
  (e.edges.find? (·.target = target)).bind Edge.side

/-- Adds an edge. -/
def link (e : Element) (side : Option Side) (target : ElementId) : Element :=
  if e.hasEdge target then e else { e with edges := e.edges ++ [⟨side, target⟩] }

/-- Removes the edges to an element. -/
def unlink (e : Element) (target : ElementId) : Element :=
  { e with edges := e.edges.filter (·.target ≠ target) }

/-- Adds a device. -/
def addDevice (e : Element) (d : DeviceRef) : Element := { e with devices := e.devices ++ [d] }

/-- Removes the first device of a name. -/
def removeDevice (e : Element) (id : DeviceId) : Option DeviceRef × Element :=
  (e.devices.find? (·.id = id), { e with devices := e.devices.eraseP (·.id = id) })

/-- Sets or clears the mark of a change. -/
def setScanPending (e : Element) (pending : Bool) : Element := { e with scanPending := pending }

end Element

end DeviceBus
