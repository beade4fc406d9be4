import ExMM.Model.Machine

namespace ExMM

/-- The device as its documentation describes it: a load is `HookRead`, then load, and a store is store,
    then `HookWrite`, with nothing in between. -/
structure Reference (Device : Type) where
  world : World Device
  history : ThreadId → List Loaded

namespace Reference

variable {Device : Type}

def start (world : World Device) : Reference Device := { world, history := fun _ => [] }

def readHook (controllers : ControllerPtr → Controller Device) (registry : Registry) (t : ThreadId)
    (found : Found) (world : World Device) : World Device :=
  match registry.ioSpaces[found.ioSpace]? with
  | some space =>
    let hooked := (controllers found.controller).hookRead (space.file world.memory) found.offset world.device
    { memory := Bytes.write world.memory space.publicArea space.size hooked.1
      device := hooked.2
      trace := world.trace ++ [.hookRead t found.controller found.offset] }
  | none => world

def writeHook (controllers : ControllerPtr → Controller Device) (registry : Registry) (t : ThreadId)
    (found : Found) (world : World Device) : World Device :=
  match registry.ioSpaces[found.ioSpace]? with
  | some space =>
    let hooked := (controllers found.controller).hookWrite (space.file world.memory) found.offset world.device
    { memory := Bytes.write world.memory space.publicArea space.size hooked.1
      device := hooked.2
      trace := world.trace ++ [.hookWrite t found.controller found.offset] }
  | none => world

theorem doHookRead_eq {controllers : ControllerPtr → Controller Device} {registry : Registry} {found : Found}
    {space : IoSpace} (present : registry.ioSpaces[found.ioSpace]? = some space) (t : ThreadId) (world : World Device) :
    world.doHookRead (controllers found.controller) t found.controller space found.offset =
      readHook controllers registry t found world := by
  simp only [readHook, present]
  rfl

theorem doHookWrite_eq {controllers : ControllerPtr → Controller Device} {registry : Registry} {found : Found}
    {space : IoSpace} (present : registry.ioSpaces[found.ioSpace]? = some space) (t : ThreadId) (world : World Device) :
    world.doHookWrite (controllers found.controller) t found.controller space found.offset =
      writeHook controllers registry t found world := by
  simp only [writeHook, present]
  rfl

def access (controllers : ControllerPtr → Controller Device) (registry : Registry) (t : ThreadId)
    (state : World Device × Loaded) (access : Access) : World Device × Loaded :=
  match registry.owner access.address with
  | some found =>
    let hookTypes := (controllers found.controller).getHookTypes
    match access.kind with
    | .load =>
      World.access t
        (if hookTypes.and .read then readHook controllers registry t found state.1 else state.1, state.2)
        access
    | .store =>
      let result := World.access t state access
      (if hookTypes.and .write then writeHook controllers registry t found result.1 else result.1, result.2)
  | none => World.access t state access

def step (controllers : ControllerPtr → Controller Device) (program : ThreadId → Program)
    (registry : Registry) (r : Reference Device) (t : ThreadId) : Option (Reference Device) :=
  (program t (r.history t)).map fun instruction =>
    let result := instruction.foldl (access controllers registry t) (r.world, [])
    { world := result.1, history := Function.update r.history t (r.history t ++ [result.2]) }

end Reference

end ExMM
