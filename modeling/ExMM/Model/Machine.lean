import Mathlib.Logic.Function.Basic
import ExMM.Library.Bytes
import ExMM.Library.Run
import ExMM.Model.BreakPoint
import ExMM.Model.Registry

namespace ExMM

abbrev Byte := BitVec 8

abbrev Loaded := List (List Byte)

/-- One load or store. What is stored may depend on what the same instruction has loaded so far. -/
inductive Access
  | load (address width : Nat)
  | store (address width : Nat) (value : Loaded → Nat → Byte)

namespace Access

def kind : Access → AccessKind
  | .load _ _ => .load
  | .store _ _ _ => .store

def address : Access → Nat
  | .load address _ => address
  | .store address _ _ => address

def width : Access → Nat
  | .load _ width => width
  | .store _ width _ => width

def bytes (access : Access) : List Nat := (List.range access.width).map fun i => access.address + i

end Access

abbrev Instruction := List Access

abbrev Program := List Loaded → Option Instruction

/-- What `ControllerBase` lets a device model override. A hook works on the register file behind the
    private pointer and on the state of the devices. -/
structure Controller (Device : Type) where
  getHookTypes : HookTypes
  hookRead : (Nat → Byte) → Nat → Device → (Nat → Byte) × Device
  hookWrite : (Nat → Byte) → Nat → Device → (Nat → Byte) × Device

inductive DeviceEvent
  | hookRead (thread : ThreadId) (controller : ControllerPtr) (offset : Nat)
  | load (thread : ThreadId) (address : Nat) (bytes : List Byte)
  | store (thread : ThreadId) (address : Nat) (bytes : List Byte)
  | hookWrite (thread : ThreadId) (controller : ControllerPtr) (offset : Nat)
  deriving DecidableEq, Repr

/-- The register files, addressed through their public mappings, the state of the device models, and
    what has happened to both so far. -/
structure World (Device : Type) where
  memory : Nat → Byte
  device : Device
  trace : List DeviceEvent

def IoSpace.file (space : IoSpace) (memory : Nat → Byte) : Nat → Byte :=
  fun k => if k < space.size then memory (space.publicArea + k) else 0

namespace World

variable {Device : Type}

def doHookRead (world : World Device) (body : Controller Device) (thread : ThreadId)
    (controller : ControllerPtr) (space : IoSpace) (offset : Nat) : World Device :=
  let result := body.hookRead (space.file world.memory) offset world.device
  { memory := Bytes.write world.memory space.publicArea space.size result.1
    device := result.2
    trace := world.trace ++ [.hookRead thread controller offset] }

def doHookWrite (world : World Device) (body : Controller Device) (thread : ThreadId)
    (controller : ControllerPtr) (space : IoSpace) (offset : Nat) : World Device :=
  let result := body.hookWrite (space.file world.memory) offset world.device
  { memory := Bytes.write world.memory space.publicArea space.size result.1
    device := result.2
    trace := world.trace ++ [.hookWrite thread controller offset] }

def access (thread : ThreadId) (state : World Device × Loaded) : Access → World Device × Loaded
  | .load address width =>
    let bytes := Bytes.read state.1.memory address width
    ({ state.1 with trace := state.1.trace ++ [.load thread address bytes] }, state.2 ++ [bytes])
  | .store address width value =>
    let memory := Bytes.write state.1.memory address width (value state.2)
    ({ state.1 with
        memory
        trace := state.1.trace ++ [.store thread address (Bytes.read memory address width)] },
      state.2)

def perform (world : World Device) (thread : ThreadId) (instruction : Instruction) :
    World Device × Loaded :=
  instruction.foldl (access thread) (world, [])

end World

/-- The error code and the address the CPU reports: which of the denied accesses faults, and whether a
    read-modify-write instruction is reported as a write already when its load faults. -/
structure Report where
  choice : Nat
  write : Bool
  deriving DecidableEq, Repr

/-- Where a thread is: in its program, or before a statement of `AccessViolationHandler` or
    `TracePointHandler` with the locals that statement uses. -/
inductive Control
  | user
  | findController (siAddr : Nat) (write : Bool)
  | doHookRead (found : Found)
  | unprotect (found : Found) (write : Bool)
  | installBreakPoint (found : Found) (write : Bool)
  | getBreakPoint
  | doHookWrite (ioSpace : IoSpacePtr) (controller : ControllerPtr) (offset : Nat)
  | uninstallBreakPoint (ioSpace : IoSpacePtr)
  | restoreProtection (ioSpace : IoSpacePtr)
  deriving DecidableEq, Repr

/-- `history` has one entry for each executed instruction; `faults` counts those of the next one.
    `trapFlag` is TF of the interrupted context while the thread is in a handler. -/
structure Thread where
  history : List Loaded
  faults : Nat
  breakPoint : BreakPointData Unit
  trapFlag : Bool
  control : Control
  deriving DecidableEq, Repr

def Thread.start : Thread :=
  { history := [], faults := 0, breakPoint := .fresh (), trapFlag := false, control := .user }

structure Config (Area Device : Type) where
  platform : Platform Area
  controllers : ControllerPtr → Controller Device
  program : ThreadId → Program

structure Machine (Area Device : Type) where
  registry : Registry
  areas : IoSpacePtr → Area
  world : World Device
  threads : ThreadId → Thread
  calls : List (ThreadId × IoSpacePtr × ProtectionCall)
  process : Process

namespace Machine

variable {Area Device : Type}

def setThread (s : Machine Area Device) (t : ThreadId) (thread : Thread) : Machine Area Device :=
  { s with threads := Function.update s.threads t thread }

def goto (s : Machine Area Device) (t : ThreadId) (control : Control) : Machine Area Device :=
  s.setThread t { s.threads t with control }

@[simp] theorem setThread_self (s : Machine Area Device) (t : ThreadId) (thread : Thread) :
    (s.setThread t thread).threads t = thread := by
  simp [setThread]

@[simp] theorem setThread_other (s : Machine Area Device) {t u : ThreadId} (thread : Thread)
    (other : u ≠ t) : (s.setThread t thread).threads u = s.threads u := by
  simp [setThread, other]

@[simp] theorem goto_self (s : Machine Area Device) (t : ThreadId) (control : Control) :
    (s.goto t control).threads t = { s.threads t with control } := by
  simp [goto]

@[simp] theorem goto_other (s : Machine Area Device) {t u : ThreadId} (control : Control) (other : u ≠ t) :
    (s.goto t control).threads u = s.threads u := by
  simp [goto, other]

@[simp] theorem setThread_world (s : Machine Area Device) (t : ThreadId) (thread : Thread) :
    (s.setThread t thread).world = s.world := rfl

@[simp] theorem goto_world (s : Machine Area Device) (t : ThreadId) (control : Control) :
    (s.goto t control).world = s.world := rfl

def permitted (cfg : Config Area Device) (s : Machine Area Device) (kind : AccessKind) (a : Nat) : Bool :=
  match s.registry.mapping a with
  | some ioSpace => (cfg.platform.protection (s.areas ioSpace)).allows kind
  | none => false

def denied (cfg : Config Area Device) (s : Machine Area Device) (access : Access) : Option Nat :=
  access.bytes.find? fun a => !permitted cfg s access.kind a

def faulting (cfg : Config Area Device) (s : Machine Area Device) (instruction : Instruction) :
    List (Access × Nat) :=
  instruction.filterMap fun access => (denied cfg s access).map fun a => (access, a)

def isMemoryWriteAccess (instruction : Instruction) (access : Access) (report : Report) : Bool :=
  access.kind == .store || report.write && instruction.any fun other => other.kind == .store

def execute (s : Machine Area Device) (t : ThreadId) (instruction : Instruction) : Machine Area Device :=
  let result := s.world.perform t instruction
  let thread := s.threads t
  { s.setThread t
      { thread with
        history := thread.history ++ [result.2]
        faults := 0
        control := if thread.trapFlag then .getBreakPoint else .user } with
    world := result.1 }

@[simp] theorem execute_self (s : Machine Area Device) (t : ThreadId) (instruction : Instruction) :
    (s.execute t instruction).threads t =
      { s.threads t with
        history := (s.threads t).history ++ [(s.world.perform t instruction).2]
        faults := 0
        control := if (s.threads t).trapFlag then .getBreakPoint else .user } := by
  simp [execute, setThread]

@[simp] theorem execute_other (s : Machine Area Device) {t u : ThreadId} (instruction : Instruction)
    (other : u ≠ t) : (s.execute t instruction).threads u = s.threads u := by
  simp [execute, setThread, other]

def fault (s : Machine Area Device) (t : ThreadId) (siAddr : Nat) (write : Bool) : Machine Area Device :=
  match s.process with
  | .running =>
    s.setThread t
      { s.threads t with faults := (s.threads t).faults + 1, control := .findController siAddr write }
  | _ => { s with process := .killed }

def stepUser (cfg : Config Area Device) (s : Machine Area Device) (t : ThreadId) (report : Report)
    (instruction : Instruction) : Machine Area Device :=
  let faults := faulting cfg s instruction
  match faults[report.choice % faults.length]? with
  | none => s.execute t instruction
  | some (access, siAddr) => s.fault t siAddr (isMemoryWriteAccess instruction access report)

def stepHandler (cfg : Config Area Device) (s : Machine Area Device) (t : ThreadId) :
    Control → Option (Machine Area Device)
  | .user => none
  | .findController siAddr write =>
    match s.registry.findController siAddr with
    | none => none
    | some none => some { s.goto t .user with process := cfg.platform.unmanagedFault }
    | some (some found) => some (s.goto t (if write then .unprotect found write else .doHookRead found))
  | .doHookRead found => do
    let space ← s.registry.ioSpaces[found.ioSpace]?
    let body := cfg.controllers found.controller
    some { s.goto t (.unprotect found false) with
      world := s.world.doHookRead body t found.controller space found.offset }
  | .unprotect found write => do
    let _ ← s.registry.ioSpaces[found.ioSpace]?
    let area ← cfg.platform.unprotect (s.areas found.ioSpace)
    some { s.goto t (.installBreakPoint found write) with
      areas := Function.update s.areas found.ioSpace area
      calls := s.calls ++ [(t, found.ioSpace, .unprotect)] }
  | .installBreakPoint found write =>
    let thread := s.threads t
    let breakPoint :=
      if write then thread.breakPoint.set found.ioSpace (some found.controller) found.offset
      else thread.breakPoint.setIoSpace found.ioSpace
    some (s.setThread t { thread with breakPoint, trapFlag := true, control := .user })
  | .getBreakPoint =>
    let data := (s.threads t).breakPoint
    if data.active then do
      let ioSpace ← data.ioSpace
      match data.controller with
      | some controller =>
        if (cfg.controllers controller).getHookTypes.and .write then
          some (s.goto t (.doHookWrite ioSpace controller data.offset))
        else some (s.goto t (.uninstallBreakPoint ioSpace))
      | none => some (s.goto t (.uninstallBreakPoint ioSpace))
    else some { s.goto t .user with process := cfg.platform.foreignTrap }
  | .doHookWrite ioSpace controller offset => do
    let space ← s.registry.ioSpaces[ioSpace]?
    let body := cfg.controllers controller
    some { s.goto t (.uninstallBreakPoint ioSpace) with
      world := s.world.doHookWrite body t controller space offset }
  | .uninstallBreakPoint ioSpace =>
    let thread := s.threads t
    some (s.setThread t
      { thread with
        breakPoint := thread.breakPoint.unset
        trapFlag := false
        control := .restoreProtection ioSpace })
  | .restoreProtection ioSpace => do
    let _ ← s.registry.ioSpaces[ioSpace]?
    let area ← cfg.platform.restoreProtection (s.areas ioSpace)
    some { s.goto t .user with
      areas := Function.update s.areas ioSpace area
      calls := s.calls ++ [(t, ioSpace, .restoreProtection)] }

def step (cfg : Config Area Device) (s : Machine Area Device) (action : ThreadId × Report) :
    Option (Machine Area Device) :=
  let thread := s.threads action.1
  if s.process = .killed then none else
    match thread.control with
    | .user => (cfg.program action.1 thread.history).map fun instruction =>
        s.stepUser cfg action.1 action.2 instruction
    | control => s.stepHandler cfg action.1 control

def boot (cfg : Config Area Device) (registry : Registry) (world : World Device) : Machine Area Device :=
  { registry
    areas := fun ioSpace =>
      cfg.platform.initializeArea ((registry.ioSpaces[ioSpace]?.map IoSpace.hookTypes).getD .none)
    world
    threads := fun _ => Thread.start
    calls := []
    process := .running }

def alone (cfg : Config Area Device) (s : Machine Area Device) (report : Report) :
    Option (Machine Area Device) :=
  step cfg s (0, report)

structure AtRest (cfg : Config Area Device) (registry : Registry) (s : Machine Area Device) : Prop where
  protection : ∀ (ioSpace : IoSpacePtr) (space : IoSpace), registry.ioSpaces[ioSpace]? = some space →
    cfg.platform.protection (s.areas ioSpace) =
      cfg.platform.protection (cfg.platform.initializeArea space.hookTypes)
  breakPoint : (s.threads 0).breakPoint = .fresh ()
  trapFlag : (s.threads 0).trapFlag = false

/-- The thread is between two instructions: the last one and its trap are done, the next one has not
    faulted yet. -/
def Between (s : Machine Area Device) (t : ThreadId) : Prop :=
  (s.threads t).control = .user ∧ (s.threads t).faults = 0

end Machine

end ExMM
