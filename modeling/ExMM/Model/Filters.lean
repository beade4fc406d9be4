import ExMM.Library.Run
import ExMM.Model.BreakPoint
import ExMM.Model.Registry
import Mathlib.Logic.Function.Basic

namespace ExMM.Filters

inductive Filter
  | exceptionHook
  | foreign (filter : Nat)
  deriving DecidableEq, Repr

inductive ExceptionRecord
  | accessViolation (information address : Nat)
  | singleStep
  | other (exceptionCode : Nat)
  deriving DecidableEq, Repr

inductive Disposition
  | continueExecution
  | continueSearch
  | executeHandler
  deriving DecidableEq, Repr

structure Construction where
  controller : ControllerPtr
  size : Nat
  hookTypes : HookTypes
  allocation : Option Allocation
  deriving DecidableEq, Repr

inductive Initialization
  | testInitialized
  | setUnhandledExceptionFilter
  | storePreviousFilter (result : Option Filter)
  | setInitialized
  | add
  deriving DecidableEq, Repr

inductive Hooking
  | findController (information address : Nat)
  | doHookRead (found : Found)
  | installBreakPoint (found : Found) (write : Bool)
  | getBreakPoint
  | doHookWrite (found : Found)
  | uninstallBreakPoint
  | testPreviousFilter
  | callPreviousFilter
  | awaitPreviousFilter
  | finish (disposition : Disposition)
  deriving DecidableEq, Repr

/-- An active function: code of the user (a thread, a hook), a filter of somebody else, a constructor, or
    `ExceptionHook`. Below the top it stands at the statement it goes on with. -/
inductive Frame
  | user
  | foreign (filter : Nat)
  | construction (object : Construction) (statement : Initialization)
  | exceptionHook (record : ExceptionRecord) (statement : Hooking)
  deriving DecidableEq, Repr

/-- What code of the user can do. It may run inside `Platform::Run`, so every exception gets to
    `ExceptionHook`, whichever filter is in force. -/
inductive Operation
  | construct (object : Construction)
  | destroy (controller : ControllerPtr)
  | exception (record : ExceptionRecord)
  deriving DecidableEq, Repr

inductive Choice
  | next
  | call (operation : Operation)
  | finish (disposition : Disposition)
  deriving DecidableEq, Repr

/-- `constructed` is the hook types of the controllers there are; a constructor takes an address that is free. -/
structure State where
  registry : Registry
  constructed : ControllerPtr → Option HookTypes
  unhandledExceptionFilter : Option Filter
  previousFilter : Option Filter
  breakPoint : ThreadId → BreakPointData Unit
  frames : ThreadId → List Frame

def State.start (original : Option Nat) : State :=
  { registry := .empty
    constructed := fun _ => none
    unhandledExceptionFilter := original.map .foreign
    previousFilter := none
    breakPoint := fun _ => .fresh ()
    frames := fun _ => [.user] }

def ExceptionRecord.entry : ExceptionRecord → Hooking
  | .accessViolation information address => .findController information address
  | .singleStep => .getBreakPoint
  | .other _ => .testPreviousFilter

def Filter.entry (record : ExceptionRecord) : Filter → Frame
  | .exceptionHook => .exceptionHook record record.entry
  | .foreign filter => .foreign filter

def leave (disposition : Disposition) : List Frame → List Frame
  | .exceptionHook record .awaitPreviousFilter :: below => .exceptionHook record (.finish disposition) :: below
  | below => below

namespace State

def goto (s : State) (t : ThreadId) (stack : List Frame) : State :=
  { s with frames := Function.update s.frames t stack }

def stepUser (s : State) (t : ThreadId) (top : Frame) (below : List Frame) : Choice → Option State
  | .next => none
  | .call (.construct object) =>
    if (s.constructed object.controller).isNone then
      some { s.goto t (.construction object .testInitialized :: top :: below) with
        constructed := Function.update s.constructed object.controller (some object.hookTypes) }
    else none
  | .call (.destroy controller) => some { s with
      registry := s.registry.remove controller
      constructed := Function.update s.constructed controller none }
  | .call (.exception record) => some (s.goto t (.exceptionHook record record.entry :: top :: below))
  | .finish disposition =>
    match top with
    | .foreign _ => some (s.goto t (leave disposition below))
    | _ => some (s.goto t below)

/-- `SetUnhandledExceptionFilter` returns the filter it replaces. An allocation may fail with an exception, and
    then there is no controller. -/
def stepConstruction (s : State) (t : ThreadId) (below : List Frame) (object : Construction) :
    Initialization → State
  | .testInitialized =>
    if s.registry.initialized then s.goto t (.construction object .add :: below)
    else s.goto t (.construction object .setUnhandledExceptionFilter :: below)
  | .setUnhandledExceptionFilter =>
    { s.goto t (.construction object (.storePreviousFilter s.unhandledExceptionFilter) :: below) with
      unhandledExceptionFilter := some .exceptionHook }
  | .storePreviousFilter result =>
    { s.goto t (.construction object .setInitialized :: below) with previousFilter := result }
  | .setInitialized =>
    { s.goto t (.construction object .add :: below) with registry := { s.registry with initialized := true } }
  | .add =>
    match object.allocation with
    | some allocation => { s.goto t below with
        registry := (s.registry.add object.controller object.size object.hookTypes allocation).1 }
    | none => { s.goto t below with constructed := Function.update s.constructed object.controller none }

/-- `previousFilter` is read twice. `none` is the use of a deleted `IoSpace` or controller or of a null pointer. -/
def stepHook (s : State) (t : ThreadId) (below : List Frame) (record : ExceptionRecord) : Hooking → Option State
  | .findController information address => do
    match ← s.registry.findController address with
    | none => some (s.goto t (.exceptionHook record .testPreviousFilter :: below))
    | some found =>
      match information with
      | 0 => some (s.goto t (.exceptionHook record (.doHookRead found) :: below))
      | 1 => some (s.goto t (.exceptionHook record (.installBreakPoint found true) :: below))
      | _ => some (s.goto t (.exceptionHook record .testPreviousFilter :: below))
  | .doHookRead found =>
    some (s.goto t (.user :: .exceptionHook record (.installBreakPoint found false) :: below))
  | .installBreakPoint found write =>
    let breakPoint :=
      if write then (s.breakPoint t).set found.ioSpace (some found.controller) found.offset
      else (s.breakPoint t).setIoSpace found.ioSpace
    some { s.goto t (.exceptionHook record (.finish .continueExecution) :: below) with
      breakPoint := Function.update s.breakPoint t breakPoint }
  | .getBreakPoint =>
    let data := s.breakPoint t
    if data.active then do
      let ioSpace ← data.ioSpace
      match data.controller with
      | some controller =>
        let hookTypes ← s.constructed controller
        if hookTypes.and .write then
          some (s.goto t (.exceptionHook record (.doHookWrite { controller, ioSpace, offset := data.offset }) :: below))
        else some (s.goto t (.exceptionHook record .uninstallBreakPoint :: below))
      | none => some (s.goto t (.exceptionHook record .uninstallBreakPoint :: below))
    else some (s.goto t (.exceptionHook record .testPreviousFilter :: below))
  | .doHookWrite _ => some (s.goto t (.user :: .exceptionHook record .uninstallBreakPoint :: below))
  | .uninstallBreakPoint =>
    some { s.goto t (.exceptionHook record (.finish .continueExecution) :: below) with
      breakPoint := Function.update s.breakPoint t (s.breakPoint t).unset }
  | .testPreviousFilter =>
    match s.previousFilter with
    | some _ => some (s.goto t (.exceptionHook record .callPreviousFilter :: below))
    | none => some (s.goto t (.exceptionHook record (.finish .continueSearch) :: below))
  | .callPreviousFilter => do
    let filter ← s.previousFilter
    some (s.goto t (filter.entry record :: .exceptionHook record .awaitPreviousFilter :: below))
  | .awaitPreviousFilter => none
  | .finish disposition => some (s.goto t (leave disposition below))

def step (s : State) (action : ThreadId × Choice) : Option State :=
  match s.frames action.1 with
  | [] => none
  | top :: below =>
    match top, action.2 with
    | .user, choice | .foreign _, choice => s.stepUser action.1 top below choice
    | .construction object statement, .next => some (s.stepConstruction action.1 below object statement)
    | .exceptionHook record statement, .next => s.stepHook action.1 below record statement
    | _, _ => none

end State

end ExMM.Filters
