import ExMM.Library.Locks
import ExMM.Library.Run
import ExMM.Model.BreakPoint
import ExMM.Model.Registry

namespace ExMM.Threads

/-- A controller is named once and for all: an object constructed later has another name, and mutexes of
    its own. -/
inductive Lock
  | ioMapMutex
  | interruptsMutex (controller : ControllerPtr)
  | memoryLockMutex (controller : ControllerPtr)
  deriving DecidableEq, Repr

def Lock.recursive : Lock → Bool
  | .memoryLockMutex _ => true
  | _ => false

abbrev RoutineId := Nat

abbrev Callback := Option RoutineId

structure Call where
  thread : ThreadId
  number : Nat
  deriving DecidableEq, Repr

/-- What a `lock_guard` of the library protects. The last four run code of the user. -/
inductive Region
  | add (controller : ControllerPtr) (size : Nat) (hookTypes : HookTypes) (allocation : Option Allocation)
  | remove (controller : ControllerPtr)
  | findController (siAddr : Nat) (write : Bool)
  | connectInterruptHandler (call : Call) (controller : ControllerPtr) (vector : Int) (callback : Callback)
  | lookupInterruptHandler (call : Call) (controller : ControllerPtr) (vector : Int)
  | hookRead (found : Found)
  | hookWrite (found : Found)
  | routine (call : Call) (controller : ControllerPtr) (vector : Int) (routine : RoutineId)
  | memoryLock (controller : ControllerPtr)
  deriving DecidableEq, Repr

def Region.mutex : Region → Lock
  | .add _ _ _ _ | .remove _ | .findController _ _ => .ioMapMutex
  | .connectInterruptHandler _ controller _ _ | .lookupInterruptHandler _ controller _ =>
    .interruptsMutex controller
  | .hookRead found | .hookWrite found => .memoryLockMutex found.controller
  | .routine _ controller _ _ | .memoryLock controller => .memoryLockMutex controller

inductive Statement
  | done
  | lock (region : Region)
  | installBreakPoint (found : Found) (write : Bool)
  | getBreakPoint
  | uninstallBreakPoint
  deriving DecidableEq, Repr

inductive Frame
  | main
  | plain (statement : Statement)
  | guarded (region : Region)
  | unlock (region : Region) (next : Statement)
  deriving DecidableEq, Repr

/-- What code of the user can do. Any access may fault and any instruction may trap. -/
inductive Operation
  | construct (controller : ControllerPtr) (size : Nat) (hookTypes : HookTypes)
      (allocation : Option Allocation)
  | destroy (controller : ControllerPtr)
  | connectInterruptHandler (controller : ControllerPtr) (vector : Int) (callback : Callback)
  | triggerInterrupt (controller : ControllerPtr) (vector : Int)
  | access (siAddr : Nat) (write : Bool)
  | trap
  | acquireMemoryLock (controller : ControllerPtr)
  deriving DecidableEq, Repr

inductive Choice
  | next
  | call (operation : Operation)
  | finish
  deriving DecidableEq, Repr

inductive Event
  | trigger (call : Call) (controller : ControllerPtr) (vector : Int)
  | connect (call : Call) (controller : ControllerPtr) (vector : Int) (callback : Callback)
  | connected (call : Call) (controller : ControllerPtr) (vector : Int) (callback : Callback)
  | lookup (call : Call) (controller : ControllerPtr) (vector : Int) (result : Option Callback)
  | start (call : Call) (controller : ControllerPtr) (vector : Int) (routine : RoutineId)
  deriving DecidableEq, Repr

/-- `interrupts` is the map of each controller, `constructed` the hook types of every controller there has
    been. The top of a stack is its head. -/
structure State where
  registry : Registry
  constructed : ControllerPtr → Option HookTypes
  interrupts : ControllerPtr → Int → Option Callback
  mutexes : Locks.Table ThreadId Lock
  breakPoint : ThreadId → BreakPointData Unit
  frames : ThreadId → List Frame
  calls : ThreadId → Nat
  trace : List Event

def State.start : State :=
  { registry := .empty
    constructed := fun _ => none
    interrupts := fun _ _ => none
    mutexes := fun _ => none
    breakPoint := fun _ => .fresh ()
    frames := fun _ => [.main]
    calls := fun _ => 0
    trace := [] }

def Frame.isUser : Frame → Bool
  | .main | .guarded (.hookRead _) | .guarded (.hookWrite _) | .guarded (.routine _ _ _ _)
  | .guarded (.memoryLock _) => true
  | _ => false

def Region.afterBody : Region → Statement
  | .hookRead found => .installBreakPoint found false
  | .hookWrite _ => .uninstallBreakPoint
  | _ => .done

def Operation.start (call : Call) : Operation → Statement
  | .construct controller size hookTypes allocation => .lock (.add controller size hookTypes allocation)
  | .destroy controller => .lock (.remove controller)
  | .connectInterruptHandler controller vector callback =>
    .lock (.connectInterruptHandler call controller vector callback)
  | .triggerInterrupt controller vector => .lock (.lookupInterruptHandler call controller vector)
  | .access siAddr write => .lock (.findController siAddr write)
  | .trap => .getBreakPoint
  | .acquireMemoryLock controller => .lock (.memoryLock controller)

namespace State

def goto (s : State) (t : ThreadId) (stack : List Frame) : State :=
  { s with frames := Function.update s.frames t stack }

def permits (s : State) : Operation → Bool
  | .construct controller _ _ _ => (s.constructed controller).isNone
  | .destroy controller | .connectInterruptHandler controller _ _ | .triggerInterrupt controller _
  | .acquireMemoryLock controller => (s.constructed controller).isSome
  | .access _ _ | .trap => true

def construct (s : State) : Operation → State
  | .construct controller _ hookTypes _ =>
    { s with constructed := Function.update s.constructed controller (some hookTypes) }
  | _ => s

/-- The body of a guard that runs no user code, with what the function does after it. `none` is the
    dereference of a deleted `IoSpace`. -/
def perform (s : State) : Region → Option (State × Statement)
  | .add controller size hookTypes allocation =>
    match allocation with
    | some allocation =>
      some ({ s with registry := (s.registry.add controller size hookTypes allocation).1 }, .done)
    | none => some ({ s with registry := s.registry.initPlatform }, .done)
  | .remove controller => some ({ s with registry := s.registry.remove controller }, .done)
  | .findController siAddr write =>
    (s.registry.findController siAddr).map fun result =>
      match result with
      | some found => (s, if write then .installBreakPoint found true else .lock (.hookRead found))
      | none => (s, .done)
  | .connectInterruptHandler call controller vector callback =>
    some ({ s with
      interrupts := Function.update s.interrupts controller
        (Function.update (s.interrupts controller) vector (some callback))
      trace := s.trace ++ [.connect call controller vector callback] }, .done)
  | .lookupInterruptHandler call controller vector =>
    let handler := s.interrupts controller vector
    some ({ s with trace := s.trace ++ [.lookup call controller vector handler] },
      match handler with
      | some (some routine) => .lock (.routine call controller vector routine)
      | _ => .done)
  | _ => none

def called (call : Call) : Operation → List Event
  | .triggerInterrupt controller vector => [.trigger call controller vector]
  | _ => []

def entered : Region → List Event
  | .routine call controller vector routine => [.start call controller vector routine]
  | _ => []

def left : Region → List Event
  | .connectInterruptHandler call controller vector callback => [.connected call controller vector callback]
  | _ => []

def stepStatement (s : State) (t : ThreadId) (below : List Frame) : Statement → Option State
  | .done => some (s.goto t below)
  | .lock region => (Locks.acquire Lock.recursive s.mutexes t region.mutex).map fun mutexes =>
      { s.goto t (.guarded region :: below) with mutexes, trace := s.trace ++ entered region }
  | .installBreakPoint found write =>
    let breakPoint :=
      if write then (s.breakPoint t).set found.ioSpace (some found.controller) found.offset
      else (s.breakPoint t).setIoSpace found.ioSpace
    some { s.goto t (.plain .done :: below) with breakPoint := Function.update s.breakPoint t breakPoint }
  | .getBreakPoint =>
    let data := s.breakPoint t
    if data.active then do
      let ioSpace ← data.ioSpace
      match data.controller with
      | some controller =>
        let hookTypes ← s.constructed controller
        if hookTypes.and .write then
          some (s.goto t (.plain (.lock (.hookWrite { controller, ioSpace, offset := data.offset })) :: below))
        else some (s.goto t (.plain .uninstallBreakPoint :: below))
      | none => some (s.goto t (.plain .uninstallBreakPoint :: below))
    else some (s.goto t (.plain .done :: below))
  | .uninstallBreakPoint =>
    some { s.goto t (.plain .done :: below) with
      breakPoint := Function.update s.breakPoint t (s.breakPoint t).unset }

def stepUser (s : State) (t : ThreadId) (top : Frame) (below : List Frame) : Choice → Option State
  | .next => none
  | .call operation =>
    if s.permits operation then
      let call : Call := { thread := t, number := s.calls t }
      some { (s.construct operation).goto t (.plain (operation.start call) :: top :: below) with
        calls := Function.update s.calls t (s.calls t + 1)
        trace := s.trace ++ called call operation }
    else none
  | .finish =>
    match top with
    | .guarded region => some (s.goto t (.unlock region region.afterBody :: below))
    | _ => some (s.goto t below)

def step (s : State) (action : ThreadId × Choice) : Option State :=
  match s.frames action.1 with
  | [] => none
  | top :: below =>
    if top.isUser then s.stepUser action.1 top below action.2 else
      match top, action.2 with
      | .plain statement, .next => s.stepStatement action.1 below statement
      | .guarded region, .next => (s.perform region).map fun result =>
          result.1.goto action.1 (.unlock region result.2 :: below)
      | .unlock region next, .next => (Locks.release s.mutexes action.1 region.mutex).map fun mutexes =>
          { s.goto action.1 (.plain next :: below) with mutexes, trace := s.trace ++ left region }
      | _, _ => none

end State

def Frame.held : Frame → List Lock
  | .guarded region | .unlock region _ => [region.mutex]
  | _ => []

def Frame.requests : Frame → Option Lock
  | .plain (.lock region) => some region.mutex
  | _ => none

def State.held (s : State) (t : ThreadId) : List Lock := (s.frames t).flatMap Frame.held

def State.requests (s : State) (t : ThreadId) : Option Lock := (s.frames t).head?.bind Frame.requests

end ExMM.Threads
