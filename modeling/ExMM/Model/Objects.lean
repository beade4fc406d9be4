import ExMM.Model.Live

namespace ExMM

variable {Area Step State : Type}

/-- What happens to one object of a device model: its hooks, and its thread. The register file is the one in
    memory at that time. -/
inductive ObjectAction (Step : Type)
  | hookRead (file : Nat → Byte) (offset : Nat)
  | hookWrite (file : Nat → Byte) (offset : Nat)
  | background (step : Step) (file : Nat → Byte)

def DeviceModel.object (model : DeviceModel State Step) (state : State) : ObjectAction Step → Option State
  | .hookRead file offset =>
    if model.holdsMemoryLock state then none else some (model.hookRead file offset state).2
  | .hookWrite file offset =>
    if model.holdsMemoryLock state then none else some (model.hookWrite file offset state).2
  | .background step file => (model.background step file state).map Prod.snd

namespace Machine

variable {Device : Type}

def objectAction (s : Machine Area Device) (controller : ControllerPtr) :
    LiveAction Step → Option (ObjectAction Step)
  | .processor t _ =>
    match (s.threads t).control with
    | .doHookRead found =>
      if found.controller = controller then
        s.registry.ioSpaces[found.ioSpace]?.map fun space => .hookRead (space.file s.world.memory) found.offset
      else none
    | .doHookWrite ioSpace target offset =>
      if target = controller then
        s.registry.ioSpaces[ioSpace]?.map fun space => .hookWrite (space.file s.world.memory) offset
      else none
    | _ => none
  | .background target step =>
    if target = controller then
      (s.registry.ioMap[controller]?.bind fun ioSpace => s.registry.ioSpaces[ioSpace]?).map fun space =>
        .background step (space.file s.world.memory)
    else none

def performed (cfg : Config Area Device) (background : Background Device Step) (controller : ControllerPtr) :
    Machine Area Device → List (LiveAction Step) → List (ObjectAction Step)
  | _, [] => []
  | s, action :: rest =>
    (s.objectAction controller action).toList ++
      ((live cfg background s action).map fun next => performed cfg background controller next rest).getD []

end Machine

end ExMM
