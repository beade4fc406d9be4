import ExMM.Model.Reference

namespace ExMM

/-- The threads that device models start. A step works on the register file of its controller and on the
    state of the devices, as a hook does; `none` where the thread is not at that step. -/
structure Background (Device Step : Type) where
  step : ControllerPtr → Step → (Nat → Byte) → Device → Option ((Nat → Byte) × Device)
  holdsMemoryLock : ControllerPtr → Device → Bool

inductive LiveAction (Step : Type)
  | processor (thread : ThreadId) (report : Report)
  | background (controller : ControllerPtr) (step : Step)

variable {Area Device Step : Type}

def LiveAction.backgrounds : LiveAction Step → List (ControllerPtr × Step)
  | .background controller step => [(controller, step)]
  | .processor _ _ => []

def World.background (background : Background Device Step) (registry : Registry) (controller : ControllerPtr)
    (step : Step) (world : World Device) : Option (World Device) := do
  let ioSpace ← registry.ioMap[controller]?
  let space ← registry.ioSpaces[ioSpace]?
  let result ← background.step controller step (space.file world.memory) world.device
  some { world with
    memory := Bytes.write world.memory space.publicArea space.size result.1
    device := result.2 }

namespace Machine

/-- `DoHookRead` and `DoHookWrite` wait for `memoryLockMutex`. -/
def waits (background : Background Device Step) (s : Machine Area Device) (t : ThreadId) : Bool :=
  match (s.threads t).control with
  | .doHookRead found => background.holdsMemoryLock found.controller s.world.device
  | .doHookWrite _ controller _ => background.holdsMemoryLock controller s.world.device
  | _ => false

def live (cfg : Config Area Device) (background : Background Device Step) (s : Machine Area Device) :
    LiveAction Step → Option (Machine Area Device)
  | .processor t report => if s.waits background t then none else step cfg s (t, report)
  | .background controller step =>
    if s.process = .killed then none
    else (s.world.background background s.registry controller step).map fun world => { s with world }

end Machine

def hookedBy (controllers : ControllerPtr → Controller Device) (registry : Registry) (access : Access) :
    Option Found :=
  match registry.owner access.address with
  | some found =>
    let asked : HookTypes := if access.kind = .load then .read else .write
    if (controllers found.controller).getHookTypes.and asked then some found else none
  | none => none

inductive Pending
  | nothing
  | load
  | hookWrite (found : Found)
  deriving DecidableEq, Repr

def Pending.before : AccessKind → Option Found → Pending
  | .load, some _ => .load
  | _, _ => .nothing

def Pending.after : AccessKind → Option Found → Pending
  | .store, some found => .hookWrite found
  | _, _ => .nothing

inductive BareAction (Step : Type)
  | hookRead (thread : ThreadId)
  | access (thread : ThreadId)
  | hookWrite (thread : ThreadId)
  | background (controller : ControllerPtr) (step : Step)

def BareAction.backgrounds : BareAction Step → List (ControllerPtr × Step)
  | .background controller step => [(controller, step)]
  | _ => []

/-- The devices without handlers and protections: hooks, accesses and the threads of the devices interleave,
    but every hooked load follows a `HookRead` of its thread and a hooked store is followed by its `HookWrite`
    before the thread goes on. -/
structure Bare (Device : Type) where
  world : World Device
  history : ThreadId → List Loaded
  pending : ThreadId → Pending

namespace Bare

def start (world : World Device) : Bare Device :=
  { world, history := fun _ => [], pending := fun _ => .nothing }

def step (controllers : ControllerPtr → Controller Device) (program : ThreadId → Program) (registry : Registry)
    (background : Background Device Step) (r : Bare Device) :
    BareAction Step → Option (Bare Device)
  | .hookRead t =>
    match program t (r.history t), r.pending t with
    | some [_], .hookWrite _ => none
    | some [.load address width], _ =>
      match hookedBy controllers registry (.load address width) with
      | some found =>
        if background.holdsMemoryLock found.controller r.world.device then none
        else some { r with
          world := Reference.readHook controllers registry t found r.world
          pending := Function.update r.pending t .load }
      | none => none
    | _, _ => none
  | .access t =>
    match program t (r.history t) with
    | some [] =>
      if r.pending t = .nothing then
        some { r with history := Function.update r.history t (r.history t ++ [[]]) }
      else none
    | some [access] =>
      let found := hookedBy controllers registry access
      if r.pending t = .before access.kind found then
        let result := World.access t (r.world, []) access
        some {
          world := result.1
          history := Function.update r.history t (r.history t ++ [result.2])
          pending := Function.update r.pending t (.after access.kind found) }
      else none
    | _ => none
  | .hookWrite t =>
    match r.pending t with
    | .hookWrite found =>
      if background.holdsMemoryLock found.controller r.world.device then none
      else some { r with
        world := Reference.writeHook controllers registry t found r.world
        pending := Function.update r.pending t .nothing }
    | _ => none
  | .background controller step =>
    (r.world.background background registry controller step).map fun world => { r with world }

end Bare

inductive ReferenceAction (Step : Type)
  | instruction (thread : ThreadId)
  | background (controller : ControllerPtr) (step : Step)

def ReferenceAction.backgrounds : ReferenceAction Step → List (ControllerPtr × Step)
  | .background controller step => [(controller, step)]
  | .instruction _ => []

def Reference.live (controllers : ControllerPtr → Controller Device) (program : ThreadId → Program)
    (registry : Registry) (background : Background Device Step) (r : Reference Device) :
    ReferenceAction Step → Option (Reference Device)
  | .instruction t => Reference.step controllers program registry r t
  | .background controller step =>
    (r.world.background background registry controller step).map fun world => { r with world }

structure DeviceModel (State Step : Type) extends Controller State where
  background : Step → (Nat → Byte) → State → Option ((Nat → Byte) × State)
  holdsMemoryLock : State → Bool

namespace DeviceModel

variable {State : Type}

def controllers (model : DeviceModel State Step) (controller : ControllerPtr) :
    Controller (ControllerPtr → State) where
  getHookTypes := model.getHookTypes
  hookRead := fun file offset objects =>
    let result := model.hookRead file offset (objects controller)
    (result.1, Function.update objects controller result.2)
  hookWrite := fun file offset objects =>
    let result := model.hookWrite file offset (objects controller)
    (result.1, Function.update objects controller result.2)

def backgrounds (model : DeviceModel State Step) : Background (ControllerPtr → State) Step where
  step := fun controller step file objects =>
    (model.background step file (objects controller)).map fun result =>
      (result.1, Function.update objects controller result.2)
  holdsMemoryLock := fun controller objects => model.holdsMemoryLock (objects controller)

end DeviceModel

end ExMM
