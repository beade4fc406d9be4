import ExMM.Model.Live

namespace ExMM

variable {Request State Object Step : Type}

def Access.at (base : Nat) : Access → Access
  | .load address width => .load (base + address) width
  | .store address width value => .store (base + address) width value

/-- A controller as its driver sees it: registers that are loaded and stored as a whole, and a thread that
    goes on by itself. Addresses are offsets in the register structure. -/
structure RegisterSet (Request State Step : Type) where
  access : Request → Access
  respond : Request → State → State × Loaded
  background : Step → State → Option State

abbrev Driver (Request : Type) := List Loaded → Option (ControllerPtr × Request)

structure Driven (State : Type) where
  objects : ControllerPtr → State
  history : List Loaded

namespace RegisterSet

def program (set : RegisterSet Request State Step) (registry : Registry) (driver : Driver Request)
    (t : ThreadId) : Program := fun history =>
  if t = 0 then do
    let (controller, request) ← driver history
    let ioSpace ← registry.ioMap[controller]?
    let space ← registry.ioSpaces[ioSpace]?
    some [(set.access request).at space.publicArea]
  else none

def step (set : RegisterSet Request State Step) (registry : Registry) (driver : Driver Request)
    (d : Driven State) : ReferenceAction Step → Option (Driven State)
  | .instruction _ => do
    let (controller, request) ← driver d.history
    let _ ← registry.ioMap[controller]?
    let result := set.respond request (d.objects controller)
    some { objects := Function.update d.objects controller result.1, history := d.history ++ [result.2] }
  | .background controller step => do
    let _ ← registry.ioMap[controller]?
    let next ← set.background step (d.objects controller)
    some { d with objects := Function.update d.objects controller next }

end RegisterSet

namespace DeviceModel

def load (model : DeviceModel Object Step) (file : Nat → Byte) (offset : Nat) (object : Object) :
    (Nat → Byte) × Object :=
  if model.getHookTypes.and .read then model.hookRead file offset object else (file, object)

def store (model : DeviceModel Object Step) (file : Nat → Byte) (offset width : Nat) (value : Nat → Byte)
    (object : Object) : (Nat → Byte) × Object :=
  let stored := Bytes.write file offset width value
  if model.getHookTypes.and .write then model.hookWrite stored offset object else (stored, object)

end DeviceModel

def registerFile (size : Nat) (file : Nat → Byte) : Nat → Byte := fun k => if k < size then file k else 0

end ExMM
