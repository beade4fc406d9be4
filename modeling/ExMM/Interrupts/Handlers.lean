import Mathlib.Computability.StateTransition
import ExMM.Interrupts.Direct
import ExMM.Machine.Effects

namespace ExMM.Interrupts

variable {Device : Type} {cfg : Config Device} {s s' : State Device}

/-- The access of the program behind this history has not been completed: it has not taken effect, or a handler
    has not returned. -/
def State.UnderWay (history : List Loaded) (s : State Device) : Prop :=
  s.history = history ∨ s.interrupted ≠ []

theorem State.UnderWay.of_interrupted {history : List Loaded} {context : Context Device} {below : List (Context Device)}
    (interrupted : s.interrupted = context :: below) : s.UnderWay history := by
  refine Or.inr ?_
  rw [interrupted]
  exact List.cons_ne_nil _ _

def Leads (cfg : Config Device) (history : List Loaded) : State Device → State Device → Prop :=
  Relation.ReflTransGen fun s s' => s.UnderWay history ∧ State.step cfg s = some s'

theorem Leads.reaches {history : List Loaded} (leads : Leads cfg history s s') :
    StateTransition.Reaches (State.step cfg) s s' :=
  Relation.ReflTransGen.mono (fun _ _ step => step.2) s s' leads

def State.Issues (cfg : Config Device) (s : State Device) (access : Access) : Prop :=
  match s.context.code with
  | .program => cfg.program s.history = some access
  | .routine routine _ _ _ => routine.access = some access
  | _ => False

def State.Raises (cfg : Config Device) (s : State Device) (signal : Signal) : Prop :=
  ∃ access, s.Issues cfg access ∧
    match signal with
    | .sigsegv => ∃ a, denied cfg.registry s.areas access = some a
    | .sigtrap => denied cfg.registry s.areas access = none ∧ s.context.trapFlag = true

/-- A synchronous signal is raised while it is blocked, and the process is killed. -/
structure KilledBlocked (cfg : Config Device) (s dead : State Device) : Prop where
  signal : ∃ signal ∈ s.context.blocked, s.Raises cfg signal
  taken : State.step cfg s = some dead
  killed : dead.process = .killed

def Outcome (cfg : Config Device) (history : List Loaded) (s : State Device) : Option (State Device) → Prop
  | some s' => Leads cfg history s s'
  | none => ∃ last dead, Leads cfg history s last ∧ last.UnderWay history ∧ KilledBlocked cfg last dead

variable {history : List Loaded}

theorem Outcome.next {result : Option (State Device)} (underWay : s.UnderWay history)
    (taken : State.step cfg s = some s') (outcome : Outcome cfg history s' result) : Outcome cfg history s result := by
  cases result with
  | some final => exact Relation.ReflTransGen.head ⟨underWay, taken⟩ outcome
  | none =>
    obtain ⟨last, dead, leads, dies⟩ := outcome
    exact ⟨last, dead, Relation.ReflTransGen.head ⟨underWay, taken⟩ leads, dies⟩

theorem Outcome.killed {signal : Signal} (underWay : s.UnderWay history) (taken : State.step cfg s = some s')
    (dead : s'.process = .killed) (blocked : signal ∈ s.context.blocked) (raises : s.Raises cfg signal) :
    Outcome cfg history s none :=
  ⟨s, s', Relation.ReflTransGen.refl, underWay, ⟨signal, blocked, raises⟩, taken, dead⟩

theorem Outcome.reaches {result : Option (State Device)} (first : Leads cfg history s s')
    (outcome : Outcome cfg history s' result) : Outcome cfg history s result := by
  cases result with
  | some final => exact first.trans outcome
  | none =>
    obtain ⟨last, dead, leads, dies⟩ := outcome
    exact ⟨last, dead, first.trans leads, dies⟩

theorem Outcome.stay (cfg : Config Device) (history : List Loaded) (s : State Device) :
    Outcome cfg history s (some s) :=
  Relation.ReflTransGen.refl

section

variable {Result : Type} {result : Option Result} {middle final : Result → State Device}

theorem Outcome.bind {later : Result → Option (State Device)} (first : Outcome cfg history s (result.map middle))
    (second : ∀ value, Outcome cfg history (middle value) (later value)) : Outcome cfg history s (result.bind later) := by
  cases result with
  | some value => exact (second value).reaches first
  | none => exact first

theorem Outcome.map (first : Outcome cfg history s (result.map middle))
    (second : ∀ value, Outcome cfg history (middle value) (some (final value))) : Outcome cfg history s (result.map final) := by
  rw [Option.map_eq_bind]
  exact first.bind second

theorem Outcome.none (first : Outcome cfg history s (result.map middle))
    (second : ∀ value, Outcome cfg history (middle value) none) : Outcome cfg history s none := by
  cases result with
  | some value => exact (second value).reaches first
  | none => exact first

end

namespace State

def place (s : State Device) (code : Code Device) (world : World Device) : State Device :=
  { s with context := { s.context with code }, world }

@[simp] theorem place_process (s : State Device) (code : Code Device) (world : World Device) :
    (s.place code world).process = s.process := rfl

@[simp] theorem place_context (s : State Device) (code : Code Device) (world : World Device) :
    (s.place code world).context = { s.context with code } := rfl

@[simp] theorem place_world (s : State Device) (code : Code Device) (world : World Device) :
    (s.place code world).world = world := rfl

@[simp] theorem place_areas (s : State Device) (code : Code Device) (world : World Device) :
    (s.place code world).areas = s.areas := rfl

end State

def Fatal (cfg : Config Device) (history : List Loaded) (s : State Device) : Prop :=
  ∀ (routine : Routine) (access : Access) (a : Nat) (found : Found) (body : Body Device) (next : Code Device)
    (world : World Device), routine.access = some access → (∃ target, cfg.registry.Covers access target) →
      denied cfg.registry s.areas access = some a →
        Outcome cfg history (s.place (.routine routine found body next) world) none

theorem State.issue_denied (s : State Device) {access : Access} {a : Nat}
    (isDenied : denied cfg.registry s.areas access = some a) (resume : Loaded → State Device → State Device) :
    s.issue cfg access resume = s.raise .sigsegv (.findController a (access.kind == .store)) := by
  simp only [issue, isDenied]

theorem State.issue_clear (s : State Device) {access : Access} (clear : denied cfg.registry s.areas access = none)
    (flag : s.context.trapFlag = false) (resume : Loaded → State Device → State Device) :
    s.issue cfg access resume = resume (World.access 0 (s.world, []) access).2
      { s with world := (World.access 0 (s.world, []) access).1 } := by
  simp [issue, clear, flag]

theorem State.issue_traced (s : State Device) {access : Access} (clear : denied cfg.registry s.areas access = none)
    (flag : s.context.trapFlag = true) (resume : Loaded → State Device → State Device) :
    s.issue cfg access resume = (resume (World.access 0 (s.world, []) access).2
      { s with world := (World.access 0 (s.world, []) access).1 }).raise .sigtrap .getBreakPoint := by
  simp [issue, clear, flag]

theorem State.raise_blocked {signal : Signal} {handler : Code Device} (blocked : signal ∈ s.context.blocked) :
    (s.raise signal handler).process = .killed := by
  simp [raise, blocked]

theorem State.step_access (cfg : Config Device) (s : State Device) (running : s.process = .running) {routine : Routine}
    {found : Found} {body : Body Device} {next : Code Device}
    (code : s.context.code = .routine routine found body next) {access : Access}
    (issued : routine.access = some access) :
    State.step cfg s = some (s.issue cfg access fun loaded s =>
      s.goto (.routine (routine.resume loaded) found body next)) := by
  simp [step, running, code, issued]

theorem State.step_routine (running : s.process = .running) (flag : s.context.trapFlag = false)
    {routine : Routine} {access : Access} (issued : routine.access = some access)
    (clear : denied cfg.registry s.areas access = none) (found : Found) (body : Body Device)
    (next : Code Device) (world : World Device) :
    State.step cfg (s.place (.routine routine found body next) world) =
      some (s.place (.routine (routine.resume (World.access 0 (world, []) access).2) found body next)
        (World.access 0 (world, []) access).1) := by
  rw [step_access cfg (s.place (.routine routine found body next) world) running rfl issued,
    issue_clear (s.place (.routine routine found body next) world) clear flag]
  rfl

theorem Routine.outcome (running : s.process = .running) (flag : s.context.trapFlag = false)
    (inside : s.interrupted ≠ []) (fatal : Fatal cfg history s) (routine : Routine) (registered : routine.Registered cfg.registry) (found : Found)
    (body : Body Device) (next : Code Device) (world : World Device) :
    Outcome cfg history (s.place (.routine routine found body next) world)
      ((routine.direct cfg.registry s.areas world).map fun after => s.place (.hook found body next) after) := by
  induction routine generalizing world with
  | done =>
    refine Outcome.next (Or.inr inside) ?_ (Outcome.stay cfg history _)
    simp [State.step, running, Routine.access, State.goto, State.place]
  | load address width rest ih =>
    obtain ⟨covered, later⟩ := registered
    unfold Routine.direct
    cases check : denied cfg.registry s.areas (.load address width) with
    | some a => exact fatal _ _ a found body next world rfl covered check
    | none => exact Outcome.next (Or.inr inside) (State.step_routine running flag rfl check found body next world) (ih _ (later _) _)
  | store address width value rest ih =>
    obtain ⟨covered, later⟩ := registered
    unfold Routine.direct
    cases check : denied cfg.registry s.areas (.store address width fun _ => value) with
    | some a => exact fatal _ _ a found body next world rfl covered check
    | none => exact Outcome.next (Or.inr inside) (State.step_routine running flag rfl check found body next world) (ih later _)

theorem Body.outcome (accesses : Registered cfg) (running : s.process = .running)
    (flag : s.context.trapFlag = false) (inside : s.interrupted ≠ []) (fatal : Fatal cfg history s) {found : Found} {space : IoSpace}
    (present : cfg.registry.ioSpaces[found.ioSpace]? = some space) (body : Body Device) (next : Code Device)
    (world : World Device) :
    Outcome cfg history (s.place (.hook found body next) world)
      ((body.direct cfg s.areas found space world).map fun after => s.place next after) := by
  induction body generalizing world with
  | done =>
    refine Outcome.next (Or.inr inside) ?_ (Outcome.stay cfg history _)
    simp [State.step, running, State.goto, State.place]
  | work change rest ih =>
    refine Outcome.next (Or.inr inside) ?_ (ih _ _ _)
    simp [State.step, running, present, State.goto, State.place]
  | triggerInterrupt vector rest ih =>
    unfold Body.direct
    cases lookup : (cfg.controllers found.controller).interrupts vector with
    | none =>
      refine Outcome.next (Or.inr inside) ?_ (ih world)
      simp [State.step, running, lookup, State.goto, State.place]
    | some routine =>
      have entered : State.step cfg (s.place (.hook found (.triggerInterrupt vector rest) next) world) =
          some (s.place (.routine routine found rest next) world) := by
        simp [State.step, running, lookup, State.goto, State.place]
      have ran : Outcome cfg history _ _ := Routine.outcome running flag inside fatal routine (accesses.routines lookup) found rest next world
      refine Outcome.next (Or.inr inside) entered ?_
      rw [Option.map_bind]
      exact ran.bind ih

theorem fatal_of_blocked (running : s.process = .running) (inside : s.interrupted ≠ [])
    (blocked : Signal.sigsegv ∈ s.context.blocked) :
    Fatal cfg history s := by
  intro routine access a found body next world issued covered isDenied
  have issues := State.step_access cfg (s.place (.routine routine found body next) world) running rfl issued
  rw [State.issue_denied (s.place (.routine routine found body next) world) isDenied] at issues
  exact Outcome.killed (Or.inr inside) issues (State.raise_blocked blocked) blocked ⟨access, issued, a, isDenied⟩

def State.back (s : State Device) (context : Context Device) (below : List (Context Device)) (trapFlag : Bool)
    (areas : IoSpacePtr → Posix.IoSpace) (breakPoint : BreakPointData Unit) (world : World Device) :
    State Device :=
  { s with areas, world, breakPoint, context := { context with trapFlag }, interrupted := below }

def violationHook (cfg : Config Device) (areas : IoSpacePtr → Posix.IoSpace) (found : Found) (space : IoSpace)
    (write : Bool) (world : World Device) : Option (World Device) :=
  if write then some world
  else ((cfg.controllers found.controller).hookRead found.offset).direct cfg areas found space
    { world with trace := world.trace ++ [.hookRead 0 found.controller found.offset] }

section

variable (s : State Device) (running : s.process = .running) (world : World Device)
include running

theorem State.step_sigreturn {context : Context Device} {below : List (Context Device)}
    (interrupted : s.interrupted = context :: below) :
    State.step cfg (s.place .sigreturn world) = some { s with world, context, interrupted := below } := by
  simp [step, running, place, interrupted]

theorem State.step_findController {a : Nat} {found : Found}
    (resolves : cfg.registry.findController a = some (some found)) (write : Bool) :
    State.step cfg (s.place (.findController a write) world) =
      some (s.place (if write then .unprotect found write else .doHookRead found) world) := by
  simp [step, running, resolves, goto, place]

theorem State.step_doHookRead (found : Found) :
    State.step cfg (s.place (.doHookRead found) world) =
      some (s.place (.hook found ((cfg.controllers found.controller).hookRead found.offset)
        (.unprotect found false))
        { world with trace := world.trace ++ [.hookRead 0 found.controller found.offset] }) := by
  simp [step, running, call, goto, place]

theorem State.step_unprotect {found : Found} {space : IoSpace}
    (present : cfg.registry.ioSpaces[found.ioSpace]? = some space) (write : Bool) :
    State.step cfg (s.place (.unprotect found write) world) =
      some ({ s with
        areas := Function.update s.areas found.ioSpace (s.areas found.ioSpace).unprotect }.place
          (.installBreakPoint found write) world) := by
  simp [step, running, present, goto, place]

theorem State.step_installBreakPoint {context : Context Device} {below : List (Context Device)}
    (interrupted : s.interrupted = context :: below) (found : Found) (write : Bool) :
    State.step cfg (s.place (.installBreakPoint found write) world) =
      some ({ s with
        breakPoint := record found write
        interrupted := { context with trapFlag := true } :: below }.place .sigreturn world) := by
  cases write <;> simp [step, running, goto, place, setTrapFlag, interrupted] <;> rfl

theorem State.step_getBreakPoint {found : Found} {write : Bool} (recorded : s.breakPoint = record found write) :
    State.step cfg (s.place .getBreakPoint world) =
      some (s.place (if write && (cfg.controllers found.controller).getHookTypes.and .write then .doHookWrite found
        else .uninstallBreakPoint found.ioSpace) world) := by
  cases write with
  | false => simp [step, running, goto, place, recorded]
  | true =>
    by_cases hooked : (cfg.controllers found.controller).getHookTypes.and .write = true
    · simp [step, running, goto, place, recorded, hooked, record, BreakPointData.set]
    · simp [step, running, goto, place, recorded, hooked]

theorem State.step_doHookWrite (found : Found) :
    State.step cfg (s.place (.doHookWrite found) world) =
      some (s.place (.hook found ((cfg.controllers found.controller).hookWrite found.offset)
        (.uninstallBreakPoint found.ioSpace))
        { world with trace := world.trace ++ [.hookWrite 0 found.controller found.offset] }) := by
  simp [step, running, call, goto, place]

theorem State.step_uninstallBreakPoint {context : Context Device} {below : List (Context Device)}
    (interrupted : s.interrupted = context :: below) (ioSpace : IoSpacePtr) :
    State.step cfg (s.place (.uninstallBreakPoint ioSpace) world) =
      some ({ s with
        breakPoint := .fresh ()
        interrupted := { context with trapFlag := false } :: below }.place (.restoreProtection ioSpace) world) := by
  simp [step, running, goto, place, setTrapFlag, interrupted]

theorem State.step_restoreProtection {ioSpace : IoSpacePtr} {space : IoSpace}
    (present : cfg.registry.ioSpaces[ioSpace]? = some space) :
    State.step cfg (s.place (.restoreProtection ioSpace) world) =
      some ({ s with
        areas := Function.update s.areas ioSpace (s.areas ioSpace).restoreProtection }.place .sigreturn world) := by
  simp [step, running, present, goto, place]

end

theorem AccessViolationHandler.outcome (accesses : Registered cfg) (s : State Device) (running : s.process = .running)
    (flag : s.context.trapFlag = false) (blocked : Signal.sigsegv ∈ s.context.blocked)
    {context : Context Device} {below : List (Context Device)} (interrupted : s.interrupted = context :: below)
    {a : Nat} {found : Found} (resolves : cfg.registry.Resolves a found) {space : IoSpace}
    (present : cfg.registry.ioSpaces[found.ioSpace]? = some space) (write : Bool) (world : World Device) :
    Outcome cfg history (s.place (.findController a write) world)
      ((violationHook cfg s.areas found space write world).map fun after =>
        s.back context below true
          (Function.update s.areas found.ioSpace (s.areas found.ioSpace).unprotect) (record found write) after) := by
  have inside : s.interrupted ≠ [] := by
    rw [interrupted]
    exact List.cons_ne_nil _ _
  have underWay {code : Code Device} {after : World Device} : (s.place code after).UnderWay history := Or.inr inside
  have found_eq := (accesses.registered.findController_some a found).mpr resolves
  let opened : State Device :=
    { s with areas := Function.update s.areas found.ioSpace (s.areas found.ioSpace).unprotect }
  let marked : State Device :=
    { opened with
      breakPoint := record found write
      interrupted := { context with trapFlag := true } :: below }
  have finish : ∀ after, Outcome cfg history (s.place (.unprotect found write) after)
      (some (s.back context below true opened.areas (record found write) after)) := by
    intro after
    refine Outcome.next underWay (State.step_unprotect s running after present write) ?_
    refine Outcome.next (Or.inr inside) (State.step_installBreakPoint opened running after interrupted found write) ?_
    exact Outcome.next (.of_interrupted rfl) (State.step_sigreturn marked running after rfl) (Outcome.stay cfg history _)
  refine Outcome.next underWay (State.step_findController s running world found_eq write) ?_
  cases write with
  | true => exact finish world
  | false =>
    refine Outcome.next underWay (State.step_doHookRead s running world found) ?_
    have body : Outcome cfg history _ _ := Body.outcome accesses running flag inside (fatal_of_blocked running inside blocked) present
      ((cfg.controllers found.controller).hookRead found.offset) (.unprotect found false)
      { world with trace := world.trace ++ [.hookRead 0 found.controller found.offset] }
    exact body.map finish

theorem denied_opened (registered : cfg.registry.WellFormed) {access : Access} {found : Found}
    (covers : cfg.registry.Covers access found) (areas : IoSpacePtr → Posix.IoSpace) :
    denied cfg.registry (Function.update areas found.ioSpace (areas found.ioSpace).unprotect) access = none := by
  rw [denied_covered registered covers, Function.update_self]
  rfl

/-- In a `HookWrite` only `SIGTRAP` is blocked: the denied access is handled and restarted, and its trap is
    what kills the process. -/
theorem fatal_of_trap_blocked (accesses : Registered cfg) (running : s.process = .running) (inside : s.interrupted ≠ [])
    (unblocked : Signal.sigsegv ∉ s.context.blocked) (blocked : Signal.sigtrap ∈ s.context.blocked) :
    Fatal cfg history s := by
  rintro routine access a found body next world issued ⟨target, covers⟩ isDenied
  obtain ⟨space, present, -⟩ := covers.2
  have resolves : cfg.registry.Resolves a target := by
    rw [denied_covered accesses.registered covers] at isDenied
    split at isDenied
    · cases isDenied
    · cases isDenied
      exact covers.resolves
  let here := s.place (.routine routine found body next) world
  let handler : State Device :=
    { here with
      context := { code := .sigreturn, trapFlag := false, blocked := .sigsegv :: s.context.blocked }
      interrupted := here.context :: s.interrupted }
  have delivered : here.raise .sigsegv (.findController a (access.kind == .store)) =
      handler.place (.findController a (access.kind == .store)) world := by
    simp [State.raise, here, handler, State.place, unblocked, running]
  have faulted := State.step_access cfg here running rfl issued
  rw [State.issue_denied here isDenied, delivered] at faulted
  refine Outcome.next (Or.inr inside) faulted ?_
  have handled : Outcome cfg history _ _ := AccessViolationHandler.outcome accesses handler running rfl List.mem_cons_self rfl resolves
    present (access.kind == .store) world
  refine handled.none fun after => ?_
  let restarted := handler.back here.context s.interrupted true
    (Function.update handler.areas target.ioSpace (handler.areas target.ioSpace).unprotect)
    (record target (access.kind == .store)) after
  have clear : denied cfg.registry restarted.areas access = none :=
    denied_opened accesses.registered covers s.areas
  have trapped := State.step_access cfg restarted running rfl issued
  rw [State.issue_traced restarted clear rfl] at trapped
  exact Outcome.killed (Or.inr inside) trapped (State.raise_blocked blocked) blocked ⟨access, issued, clear, rfl⟩

def traceHook (cfg : Config Device) (areas : IoSpacePtr → Posix.IoSpace) (found : Found) (space : IoSpace)
    (write : Bool) (world : World Device) : Option (World Device) :=
  if write && (cfg.controllers found.controller).getHookTypes.and .write then
    ((cfg.controllers found.controller).hookWrite found.offset).direct cfg areas found space
      { world with trace := world.trace ++ [.hookWrite 0 found.controller found.offset] }
  else some world

theorem TracePointHandler.outcome (accesses : Registered cfg) (s : State Device) (running : s.process = .running)
    (flag : s.context.trapFlag = false) (unblocked : Signal.sigsegv ∉ s.context.blocked)
    (blocked : Signal.sigtrap ∈ s.context.blocked) {context : Context Device} {below : List (Context Device)}
    (interrupted : s.interrupted = context :: below) {found : Found} {write : Bool}
    (recorded : s.breakPoint = record found write) {space : IoSpace}
    (present : cfg.registry.ioSpaces[found.ioSpace]? = some space) (world : World Device) :
    Outcome cfg history (s.place .getBreakPoint world)
      ((traceHook cfg s.areas found space write world).map fun after =>
        s.back context below false
          (Function.update s.areas found.ioSpace (s.areas found.ioSpace).restoreProtection) (.fresh ()) after) := by
  have inside : s.interrupted ≠ [] := by
    rw [interrupted]
    exact List.cons_ne_nil _ _
  have underWay {code : Code Device} {after : World Device} : (s.place code after).UnderWay history := Or.inr inside
  let unmarked : State Device :=
    { s with
      breakPoint := .fresh ()
      interrupted := { context with trapFlag := false } :: below }
  let closed : State Device :=
    { unmarked with areas := Function.update s.areas found.ioSpace (s.areas found.ioSpace).restoreProtection }
  have finish : ∀ after, Outcome cfg history (s.place (.uninstallBreakPoint found.ioSpace) after)
      (some (s.back context below false closed.areas (.fresh ()) after)) := by
    intro after
    refine Outcome.next underWay (State.step_uninstallBreakPoint s running after interrupted found.ioSpace) ?_
    refine Outcome.next (.of_interrupted rfl) (State.step_restoreProtection unmarked running after present) ?_
    exact Outcome.next (.of_interrupted rfl) (State.step_sigreturn closed running after rfl) (Outcome.stay cfg history _)
  refine Outcome.next underWay (State.step_getBreakPoint s running world recorded) ?_
  unfold traceHook
  split
  · refine Outcome.next underWay (State.step_doHookWrite s running world found) ?_
    have body : Outcome cfg history _ _ := Body.outcome accesses running flag inside
      (fatal_of_trap_blocked accesses running inside unblocked blocked)
      present ((cfg.controllers found.controller).hookWrite found.offset) (.uninstallBreakPoint found.ioSpace)
      { world with trace := world.trace ++ [.hookWrite 0 found.controller found.offset] }
    exact body.map finish
  · exact finish world

end ExMM.Interrupts
