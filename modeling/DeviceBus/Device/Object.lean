import DeviceBus.Ident
import DeviceBus.Json.Basic

/-!
# Objects

An object answers calls of named methods with JSON values.
-/

namespace DeviceBus

/-- What a method does with its arguments. -/
inductive Method where
  /-- Returns the list of its arguments. -/
  | echo
  /-- Adds the arguments that are integers of 64 bits, and ignores the others. -/
  | sum
  /-- Returns the number of arguments. -/
  | count
  /-- Fails. -/
  | refuse (fault : Fault)
  deriving DecidableEq, Repr

namespace Method

/-- An argument that is a signed integer of 64 bits. -/
def addend? : Json → Option Int
  | .number n => n.int?.filter fun i => Int64.minValue.toInt ≤ i && i ≤ Int64.maxValue.toInt
  | _ => none

/-- The result of a call. -/
def call (m : Method) (arguments : List Json) : Except Fault Json :=
  match m with
  | echo => .ok (.array arguments)
  | sum => .ok (.ofInt (((arguments.filterMap addend?).foldl (· + ·) 0).bmod UInt64.size))
  | count => .ok (.ofNat arguments.length)
  | refuse fault => .error fault

end Method

/-- A device that answers calls. -/
structure Object where
  id : DeviceId
  typeName : String
  draw : Int
  /-- The methods in the order of their names, each name once. -/
  methods : List (String × Method)
  deriving DecidableEq, Repr

namespace Object

/-- Puts a method in its place, instead of one with its name. -/
def register (name : String) (m : Method) : List (String × Method) → List (String × Method)
  | [] => [(name, m)]
  | (name', m') :: rest =>
    if name < name' then (name, m) :: (name', m') :: rest
    else if name = name' then (name, m) :: rest
    else (name', m') :: register name m rest

/-- An object with the given methods; of two with one name the later counts. -/
def new (id : DeviceId) (typeName : String) (draw : Int) (methods : List (String × Method)) : Object :=
  ⟨id, typeName, draw, methods.foldl (fun ms m => register m.1 m.2 ms) []⟩

/-- The names of the methods, in order. -/
def methodNames (o : Object) : List String := o.methods.map (·.1)

/-- Calls a method. -/
def invoke (o : Object) (method : String) (arguments : List Json) : Except Fault Json :=
  match o.methods.lookup method with
  | none => .error ⟨"no such method: " ++ method⟩
  | some m => m.call arguments

end Object

end DeviceBus
