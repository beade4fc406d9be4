import ExMM.Model.Machine

namespace ExMM.Interrupts

/-- A connected interrupt handler. What it stores and how it goes on may depend on what it has loaded. -/
inductive Routine
  | done
  | load (address width : Nat) (rest : List Byte → Routine)
  | store (address width : Nat) (value : Nat → Byte) (rest : Routine)

def Routine.access : Routine → Option Access
  | .done => none
  | .load address width _ => some (.load address width)
  | .store address width value _ => some (.store address width fun _ => value)

def Routine.resume : Routine → Loaded → Routine
  | .done, _ => .done
  | .load _ _ rest, loaded => rest (loaded.headD [])
  | .store _ _ _ rest, _ => rest

/-- The body of a hook: work on the register file behind the private pointer and on the state of the
    devices, and calls of `TriggerInterrupt`. -/
inductive Body (Device : Type)
  | done
  | work (change : (Nat → Byte) → Device → (Nat → Byte) × Device)
      (rest : (Nat → Byte) → Device → Body Device)
  | triggerInterrupt (vector : Int) (rest : Body Device)

/-- `interrupts` is the map that `ConnectInterruptHandler` fills; an empty callback counts as absent. -/
structure Controller (Device : Type) where
  getHookTypes : HookTypes
  interrupts : Int → Option Routine
  hookRead : Nat → Body Device
  hookWrite : Nat → Body Device

inductive Signal
  | sigsegv
  | sigtrap
  deriving DecidableEq, Repr

/-- What a context executes next: an access of the program, a statement of a handler, the rest of a hook,
    or the rest of an interrupt routine inside a hook. `next` is where the hook returns to. -/
inductive Code (Device : Type)
  | program
  | findController (siAddr : Nat) (write : Bool)
  | doHookRead (found : Found)
  | unprotect (found : Found) (write : Bool)
  | installBreakPoint (found : Found) (write : Bool)
  | getBreakPoint
  | doHookWrite (found : Found)
  | uninstallBreakPoint (ioSpace : IoSpacePtr)
  | restoreProtection (ioSpace : IoSpacePtr)
  | sigreturn
  | hook (found : Found) (body : Body Device) (next : Code Device)
  | routine (rest : Routine) (found : Found) (body : Body Device) (next : Code Device)

structure Context (Device : Type) where
  code : Code Device
  trapFlag : Bool
  blocked : List Signal

structure Config (Device : Type) where
  registry : Registry
  controllers : ControllerPtr → Controller Device
  program : List Loaded → Option Access

structure State (Device : Type) where
  areas : IoSpacePtr → Posix.IoSpace
  world : World Device
  history : List Loaded
  breakPoint : BreakPointData Unit
  context : Context Device
  interrupted : List (Context Device)
  process : Process

variable {Device : Type}

def permitted (registry : Registry) (areas : IoSpacePtr → Posix.IoSpace) (kind : AccessKind) (a : Nat) : Bool :=
  match registry.mapping a with
  | some ioSpace => (areas ioSpace).protection.allows kind
  | none => false

def denied (registry : Registry) (areas : IoSpacePtr → Posix.IoSpace) (access : Access) : Option Nat :=
  access.bytes.find? fun a => !permitted registry areas access.kind a

namespace State

def goto (s : State Device) (code : Code Device) : State Device :=
  { s with context := { s.context with code } }

/-- A synchronous signal. The handlers are installed with `SA_SIGINFO` only, so a signal is blocked in its
    own handler; a synchronous signal that is blocked kills the process. TF is clear in a handler. -/
def raise (s : State Device) (signal : Signal) (handler : Code Device) : State Device :=
  if signal ∈ s.context.blocked ∨ (signal = .sigsegv ∧ s.process = .defaultAction) then
    { s with process := .killed }
  else
    { s with
      context := { code := handler, trapFlag := false, blocked := signal :: s.context.blocked }
      interrupted := s.context :: s.interrupted }

def setTrapFlag (s : State Device) (trapFlag : Bool) : State Device :=
  match s.interrupted with
  | [] => s
  | context :: rest => { s with interrupted := { context with trapFlag } :: rest }

def issue (cfg : Config Device) (s : State Device) (access : Access)
    (resume : Loaded → State Device → State Device) : State Device :=
  match denied cfg.registry s.areas access with
  | some siAddr => s.raise .sigsegv (.findController siAddr (access.kind == .store))
  | none =>
    let result := World.access 0 (s.world, []) access
    let next := resume result.2 { s with world := result.1 }
    if s.context.trapFlag then next.raise .sigtrap .getBreakPoint else next

def call (s : State Device) (event : DeviceEvent) (found : Found) (body : Body Device) (next : Code Device) :
    State Device :=
  { s.goto (.hook found body next) with world := { s.world with trace := s.world.trace ++ [event] } }

def step (cfg : Config Device) (s : State Device) : Option (State Device) :=
  if s.process = .killed then none else
    match s.context.code with
    | .program => (cfg.program s.history).map fun access =>
        s.issue cfg access fun loaded s => { s with history := s.history ++ [loaded] }
    | .findController siAddr write =>
      match cfg.registry.findController siAddr with
      | none => none
      | some none => some { s.goto .sigreturn with process := .defaultAction }
      | some (some found) => some (s.goto (if write then .unprotect found write else .doHookRead found))
    | .doHookRead found =>
      some (s.call (.hookRead 0 found.controller found.offset) found
        ((cfg.controllers found.controller).hookRead found.offset) (.unprotect found false))
    | .unprotect found write => do
      let _ ← cfg.registry.ioSpaces[found.ioSpace]?
      some { s.goto (.installBreakPoint found write) with
        areas := Function.update s.areas found.ioSpace (s.areas found.ioSpace).unprotect }
    | .installBreakPoint found write =>
      let breakPoint :=
        if write then s.breakPoint.set found.ioSpace (some found.controller) found.offset
        else s.breakPoint.setIoSpace found.ioSpace
      some ({ s.goto .sigreturn with breakPoint }.setTrapFlag true)
    | .getBreakPoint =>
      let data := s.breakPoint
      if data.active then do
        let ioSpace ← data.ioSpace
        match data.controller with
        | some controller =>
          if (cfg.controllers controller).getHookTypes.and .write then
            some (s.goto (.doHookWrite { controller, ioSpace, offset := data.offset }))
          else some (s.goto (.uninstallBreakPoint ioSpace))
        | none => some (s.goto (.uninstallBreakPoint ioSpace))
      else some (s.goto .sigreturn)
    | .doHookWrite found =>
      some (s.call (.hookWrite 0 found.controller found.offset) found
        ((cfg.controllers found.controller).hookWrite found.offset) (.uninstallBreakPoint found.ioSpace))
    | .uninstallBreakPoint ioSpace =>
      some ({ s.goto (.restoreProtection ioSpace) with breakPoint := s.breakPoint.unset }.setTrapFlag false)
    | .restoreProtection ioSpace => do
      let _ ← cfg.registry.ioSpaces[ioSpace]?
      some { s.goto .sigreturn with
        areas := Function.update s.areas ioSpace (s.areas ioSpace).restoreProtection }
    | .sigreturn =>
      match s.interrupted with
      | [] => none
      | context :: rest => some { s with context, interrupted := rest }
    | .hook _ .done next => some (s.goto next)
    | .hook found (.work change rest) next => do
      let space ← cfg.registry.ioSpaces[found.ioSpace]?
      let result := change (space.file s.world.memory) s.world.device
      some { s.goto (.hook found (rest result.1 result.2) next) with
        world := { s.world with
          memory := Bytes.write s.world.memory space.publicArea space.size result.1
          device := result.2 } }
    | .hook found (.triggerInterrupt vector rest) next =>
      match (cfg.controllers found.controller).interrupts vector with
      | none => some (s.goto (.hook found rest next))
      | some routine => some (s.goto (.routine routine found rest next))
    | .routine routine found body next =>
      match routine.access with
      | none => some (s.goto (.hook found body next))
      | some access => some (s.issue cfg access fun loaded s =>
          s.goto (.routine (routine.resume loaded) found body next))

def initialAreas (registry : Registry) : IoSpacePtr → Posix.IoSpace :=
  fun ioSpace => Posix.IoSpace.initializeArea ((registry.ioSpaces[ioSpace]?.map IoSpace.hookTypes).getD .none)

/-- Between two accesses of the program: every area as `Initialize` left it, no record, no handler. -/
def rest (cfg : Config Device) (world : World Device) (history : List Loaded) : State Device :=
  { areas := initialAreas cfg.registry
    world
    history
    breakPoint := .fresh ()
    context := { code := .program, trapFlag := false, blocked := [] }
    interrupted := []
    process := .running }

end State

end ExMM.Interrupts
