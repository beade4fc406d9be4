import ExMM.Model.Filters

namespace ExMM.Filters

def Initialization.registering : Initialization → Bool
  | .setUnhandledExceptionFilter | .storePreviousFilter _ | .setInitialized => true
  | .testInitialized | .add => false

def Frame.initialization : Frame → Option Initialization
  | .construction _ statement => some statement
  | _ => none

def Frame.suspended : Frame → Bool
  | .user | .foreign _ | .exceptionHook _ (.installBreakPoint _ _) | .exceptionHook _ .uninstallBreakPoint
  | .exceptionHook _ .awaitPreviousFilter => true
  | _ => false

def Frame.idle : Frame → Bool
  | .construction _ .testInitialized => true
  | .construction _ _ | .exceptionHook _ .callPreviousFilter => false
  | _ => true

namespace State

def initialization (s : State) (t : ThreadId) : Option Initialization :=
  (s.frames t).head?.bind Frame.initialization

def Registering (s : State) (t : ThreadId) : Prop :=
  ∃ statement, s.initialization t = some statement ∧ statement.registering = true

end State

theorem Frame.idle_of_suspended {frame : Frame} (suspended : frame.suspended = true) : frame.idle = true := by
  cases frame with
  | user => rfl
  | foreign filter => rfl
  | construction object statement => cases suspended
  | exceptionHook record statement => cases statement <;> first | rfl | cases suspended

theorem Frame.initialization_of_suspended {frame : Frame} (suspended : frame.suspended = true) :
    frame.initialization = none := by
  cases frame with
  | construction object statement => cases suspended
  | _ => rfl

theorem Frame.idle_initialization {frame : Frame} (idle : frame.idle = true) {statement : Initialization}
    (here : frame.initialization = some statement) : statement = .testInitialized := by
  cases frame with
  | construction object other =>
    cases here
    cases statement <;> first | rfl | cases idle
  | _ => cases here

structure Frame.Quiet (below stack : List Frame) : Prop where
  idle : ∀ frame ∈ stack, frame ∈ below ∨ frame.idle = true
  suspended : ∀ frame ∈ stack.tail, frame ∈ below ∨ frame.suspended = true

/-- What a step can be. All steps that leave the filters alone are one case. -/
inductive Move (s : State) (t : ThreadId) (below : List Frame) : Frame → State → Prop
  | tested (object : Construction) (initialized : s.registry.initialized = true) :
      Move s t below (.construction object .testInitialized) (s.goto t (.construction object .add :: below))
  | entered (object : Construction) (initialized : s.registry.initialized = false) :
      Move s t below (.construction object .testInitialized)
        (s.goto t (.construction object .setUnhandledExceptionFilter :: below))
  | installed (object : Construction) : Move s t below (.construction object .setUnhandledExceptionFilter)
      { s.goto t (.construction object (.storePreviousFilter s.unhandledExceptionFilter) :: below) with
        unhandledExceptionFilter := some .exceptionHook }
  | stored (object : Construction) (result : Option Filter) :
      Move s t below (.construction object (.storePreviousFilter result))
        { s.goto t (.construction object .setInitialized :: below) with previousFilter := result }
  | flagged (object : Construction) : Move s t below (.construction object .setInitialized)
      { s.goto t (.construction object .add :: below) with registry := { s.registry with initialized := true } }
  | added (object : Construction) (registry : Registry) (constructed : ControllerPtr → Option HookTypes)
      (initialized : s.registry.initialized = true → registry.initialized = true) :
      Move s t below (.construction object .add) { s.goto t below with registry, constructed }
  | testedFilter (record : ExceptionRecord) (present : s.previousFilter ≠ none) :
      Move s t below (.exceptionHook record .testPreviousFilter)
        (s.goto t (.exceptionHook record .callPreviousFilter :: below))
  | calledFilter (record : ExceptionRecord) (filter : Filter) (present : s.previousFilter = some filter) :
      Move s t below (.exceptionHook record .callPreviousFilter)
        (s.goto t (filter.entry record :: .exceptionHook record .awaitPreviousFilter :: below))
  | other (top : Frame) (stack : List Frame) (s' : State) (quiet : top.initialization = none)
      (frames : s'.frames = Function.update s.frames t stack)
      (filter : s'.unhandledExceptionFilter = s.unhandledExceptionFilter)
      (previous : s'.previousFilter = s.previousFilter)
      (initialized : s'.registry.initialized = s.registry.initialized)
      (stack : Frame.Quiet below stack) : Move s t below top s'

theorem remove_initialized (registry : Registry) (controller : ControllerPtr) :
    (registry.remove controller).initialized = registry.initialized := by
  unfold Registry.remove
  split <;> rfl

theorem add_initialized (registry : Registry) (controller : ControllerPtr) (size : Nat) (hookTypes : HookTypes)
    (allocation : Allocation) : (registry.add controller size hookTypes allocation).1.initialized = true := by
  simp only [Registry.add, Registry.initPlatform]
  split
  · next initialized => exact initialized
  · rfl

theorem ExceptionRecord.entry_idle (record : ExceptionRecord) :
    (Frame.exceptionHook record record.entry).idle = true := by
  cases record <;> rfl

namespace Frame.Quiet

variable {below : List Frame} {frame caller : Frame}

theorem pop (below : List Frame) : Quiet below below where
  idle := fun _ member => Or.inl member
  suspended := fun _ member => Or.inl (List.mem_of_mem_tail member)

theorem goto (idle : frame.idle = true) : Quiet below (frame :: below) where
  idle := by
    intro other member
    rcases List.mem_cons.mp member with rfl | member
    · exact Or.inr idle
    · exact Or.inl member
  suspended := fun _ member => Or.inl member

theorem push (idle : frame.idle = true) (suspended : caller.suspended = true) :
    Quiet below (frame :: caller :: below) where
  idle := by
    intro other member
    rcases List.mem_cons.mp member with rfl | member
    · exact Or.inr idle
    · exact (goto (idle_of_suspended suspended)).idle other member
  suspended := by
    intro other member
    rcases List.mem_cons.mp member with rfl | member
    · exact Or.inr suspended
    · exact Or.inl member

theorem leave (disposition : Disposition) (below : List Frame) : Quiet below (Filters.leave disposition below) := by
  unfold Filters.leave
  split
  · next record rest =>
    refine ⟨?_, fun other member => Or.inl (List.mem_cons_of_mem _ member)⟩
    intro other member
    rcases List.mem_cons.mp member with rfl | member
    · exact Or.inr rfl
    · exact Or.inl (List.mem_cons_of_mem _ member)
  · exact pop below

end Frame.Quiet

namespace State

variable {s s' : State} {t : ThreadId} {top : Frame} {below : List Frame}

theorem construction_move {object : Construction} (statement : Initialization) :
    Move s t below (.construction object statement) (s.stepConstruction t below object statement) := by
  cases statement with
  | testInitialized =>
    simp only [stepConstruction]
    split
    · next initialized => exact .tested object initialized
    · next uninitialized => exact .entered object (Bool.eq_false_iff.mpr uninitialized)
  | setUnhandledExceptionFilter => exact .installed object
  | storePreviousFilter result => exact .stored object result
  | setInitialized => exact .flagged object
  | add =>
    simp only [stepConstruction]
    split
    · exact .added object _ s.constructed fun _ => add_initialized _ _ _ _ _
    · exact .added object s.registry _ fun initialized => initialized

theorem hook_move {record : ExceptionRecord} {statement : Hooking}
    (taken : s.stepHook t below record statement = some s') : Move s t below (.exceptionHook record statement) s' := by
  cases statement with
  | findController information address =>
    simp only [stepHook, Option.bind_eq_bind, Option.bind_eq_some_iff] at taken
    obtain ⟨found, -, taken⟩ := taken
    split at taken
    · cases taken
      exact .other _ _ _ rfl rfl rfl rfl rfl (.goto rfl)
    · split at taken <;> cases taken <;> exact .other _ _ _ rfl rfl rfl rfl rfl (.goto rfl)
  | doHookRead found =>
    cases taken
    exact .other _ _ _ rfl rfl rfl rfl rfl (.push rfl rfl)
  | installBreakPoint found write =>
    cases taken
    exact .other _ _ _ rfl rfl rfl rfl rfl (.goto rfl)
  | getBreakPoint =>
    simp only [stepHook] at taken
    split at taken
    · simp only [Option.bind_eq_bind, Option.bind_eq_some_iff] at taken
      obtain ⟨ioSpace, -, taken⟩ := taken
      split at taken
      · obtain ⟨hookTypes, -, taken⟩ := Option.bind_eq_some_iff.mp taken
        split at taken <;> cases taken <;> exact .other _ _ _ rfl rfl rfl rfl rfl (.goto rfl)
      · cases taken
        exact .other _ _ _ rfl rfl rfl rfl rfl (.goto rfl)
    · cases taken
      exact .other _ _ _ rfl rfl rfl rfl rfl (.goto rfl)
  | doHookWrite found =>
    cases taken
    exact .other _ _ _ rfl rfl rfl rfl rfl (.push rfl rfl)
  | uninstallBreakPoint =>
    cases taken
    exact .other _ _ _ rfl rfl rfl rfl rfl (.goto rfl)
  | testPreviousFilter =>
    simp only [stepHook] at taken
    split at taken
    · next filter present =>
      cases taken
      exact .testedFilter record (by simp [present])
    · cases taken
      exact .other _ _ _ rfl rfl rfl rfl rfl (.goto rfl)
  | callPreviousFilter =>
    simp only [stepHook, Option.bind_eq_bind, Option.bind_eq_some_iff] at taken
    obtain ⟨filter, present, same⟩ := taken
    cases same
    exact .calledFilter record filter present
  | awaitPreviousFilter => cases taken
  | finish disposition =>
    cases taken
    exact .other _ _ _ rfl rfl rfl rfl rfl (.leave disposition below)

theorem user_move {choice : Choice} (user : top.suspended = true) (shape : s.frames t = top :: below)
    (taken : s.stepUser t top below choice = some s') : Move s t below top s' := by
  have quiet := Frame.initialization_of_suspended user
  cases choice with
  | next => cases taken
  | call operation =>
    cases operation with
    | construct object =>
      simp only [stepUser] at taken
      split at taken
      · cases taken
        exact .other _ _ _ quiet rfl rfl rfl rfl (.push rfl user)
      · cases taken
    | destroy controller =>
      cases taken
      have same : s.frames = Function.update s.frames t (top :: below) := by rw [← shape, Function.update_eq_self]
      exact .other _ _ _ quiet same rfl rfl (remove_initialized _ _) (.goto (Frame.idle_of_suspended user))
    | exception record =>
      cases taken
      exact .other _ _ _ quiet rfl rfl rfl rfl (.push record.entry_idle user)
  | finish disposition =>
    simp only [stepUser] at taken
    split at taken
    · cases taken
      exact .other _ _ _ quiet rfl rfl rfl rfl (.leave disposition below)
    · cases taken
      exact .other _ _ _ quiet rfl rfl rfl rfl (.pop below)

/-- The inversion of `step`: the only place where it is unfolded. -/
theorem step_move {choice : Choice} (taken : s.step (t, choice) = some s') :
    ∃ top below, s.frames t = top :: below ∧ Move s t below top s' := by
  simp only [step] at taken
  split at taken
  · cases taken
  · next top below shape =>
    refine ⟨top, below, shape, ?_⟩
    split at taken
    · exact user_move rfl shape taken
    · exact user_move rfl shape taken
    · cases taken
      exact construction_move _
    · exact hook_move taken
    · cases taken

theorem initialization_self {stack : List Frame} (frames : s'.frames = Function.update s.frames t stack) :
    s'.initialization t = stack.head?.bind Frame.initialization := by
  rw [initialization, frames, Function.update_self]

theorem initialization_other {stack : List Frame} {u : ThreadId}
    (frames : s'.frames = Function.update s.frames t stack) (other : u ≠ t) :
    s'.initialization u = s.initialization u := by
  rw [initialization, frames, Function.update_of_ne other, initialization]

theorem initialization_top (shape : s.frames t = top :: below) : s.initialization t = top.initialization := by
  rw [initialization, shape]
  rfl

theorem initialization_construction {rest : List Frame} {object : Construction} {statement : Initialization}
    (frames : s'.frames = Function.update s.frames t (.construction object statement :: rest)) :
    s'.initialization t = some statement :=
  initialization_self frames

theorem not_registering {value : Option Initialization} (here : s.initialization t = value)
    (plain : value.any Initialization.registering = false) : ¬ s.Registering t := by
  rintro ⟨statement, same, registering⟩
  rw [← here, same, Option.any_some, registering] at plain
  cases plain

end State

structure Ordered (s : State) : Prop where
  suspended : ∀ {t frame}, frame ∈ (s.frames t).tail → frame.suspended = true
  added : ∀ {t}, s.initialization t = some .add → s.registry.initialized = true

inductive Effect (s : State) (t : ThreadId) (s' : State) : Prop
  | quiet (before : ¬ s.Registering t) (after : ¬ s'.Registering t)
      (started : s.initialization t = some .testInitialized → s.registry.initialized = true)
      (filter : s'.unhandledExceptionFilter = s.unhandledExceptionFilter)
      (previous : s'.previousFilter = s.previousFilter)
      (initialized : s'.registry.initialized = s.registry.initialized)
  | entered (before : s.initialization t = some .testInitialized) (uninitialized : s.registry.initialized = false)
      (after : s'.initialization t = some .setUnhandledExceptionFilter)
      (filter : s'.unhandledExceptionFilter = s.unhandledExceptionFilter)
      (previous : s'.previousFilter = s.previousFilter)
      (initialized : s'.registry.initialized = s.registry.initialized)
  | installed (before : s.initialization t = some .setUnhandledExceptionFilter)
      (after : s'.initialization t = some (.storePreviousFilter s.unhandledExceptionFilter))
      (filter : s'.unhandledExceptionFilter = some .exceptionHook)
      (previous : s'.previousFilter = s.previousFilter)
      (initialized : s'.registry.initialized = s.registry.initialized)
  | stored (result : Option Filter) (before : s.initialization t = some (.storePreviousFilter result))
      (after : s'.initialization t = some .setInitialized)
      (filter : s'.unhandledExceptionFilter = s.unhandledExceptionFilter) (previous : s'.previousFilter = result)
      (initialized : s'.registry.initialized = s.registry.initialized)
  | flagged (before : s.initialization t = some .setInitialized) (after : s'.initialization t = some .add)
      (filter : s'.unhandledExceptionFilter = s.unhandledExceptionFilter)
      (previous : s'.previousFilter = s.previousFilter) (initialized : s'.registry.initialized = true)

section

variable {s s' : State} {t : ThreadId} {top : Frame} {below stack : List Frame}

theorem Ordered.below_suspended (ordered : Ordered s) (shape : s.frames t = top :: below) :
    ∀ frame ∈ below, frame.suspended = true := by
  intro frame member
  have inside : frame ∈ (s.frames t).tail := by rw [shape]; exact member
  exact ordered.suspended inside

theorem Frame.Quiet.all_idle (quiet : Frame.Quiet below stack) (suspended : ∀ frame ∈ below, frame.suspended = true) :
    ∀ frame ∈ stack, frame.idle = true := by
  intro frame member
  rcases quiet.idle frame member with old | idle
  · exact Frame.idle_of_suspended (suspended frame old)
  · exact idle

theorem idle_testInitialized (frames : s'.frames = Function.update s.frames t stack)
    (idle : ∀ frame ∈ stack, frame.idle = true) {statement : Initialization}
    (here : s'.initialization t = some statement) : statement = .testInitialized := by
  rw [State.initialization_self frames] at here
  obtain ⟨frame, head, initialization⟩ := Option.bind_eq_some_iff.mp here
  exact Frame.idle_initialization (idle frame (List.mem_of_mem_head? head)) initialization

theorem not_registering_idle (frames : s'.frames = Function.update s.frames t stack)
    (idle : ∀ frame ∈ stack, frame.idle = true) : ¬ s'.Registering t := by
  rintro ⟨statement, here, registering⟩
  rw [idle_testInitialized frames idle here] at registering
  cases registering

theorem Ordered.effect (ordered : Ordered s) (shape : s.frames t = top :: below) (move : Move s t below top s') :
    Effect s t s' := by
  have before := State.initialization_top shape
  have suspended := ordered.below_suspended shape
  cases move with
  | tested object initialized =>
    refine .quiet (State.not_registering before rfl) ?_ (fun _ => initialized) rfl rfl rfl
    exact State.not_registering (State.initialization_construction rfl) (by rfl)
  | entered object uninitialized =>
    exact .entered before uninitialized (State.initialization_construction rfl) rfl rfl rfl
  | installed object => exact .installed before (State.initialization_construction rfl) rfl rfl rfl
  | stored object result => exact .stored result before (State.initialization_construction rfl) rfl rfl rfl
  | flagged object => exact .flagged before (State.initialization_construction rfl) rfl rfl rfl
  | added object registry constructed initialized =>
    have already : s.registry.initialized = true := ordered.added before
    have idle : ∀ frame ∈ below, frame.idle = true :=
      fun frame member => Frame.idle_of_suspended (suspended frame member)
    refine .quiet (State.not_registering before rfl) (not_registering_idle rfl idle) (fun _ => already) rfl rfl ?_
    rw [already]
    exact initialized already
  | testedFilter record present =>
    refine .quiet (State.not_registering before rfl) (State.not_registering (State.initialization_self rfl) rfl)
      ?_ rfl rfl rfl
    rw [before]
    exact fun here => by cases here
  | calledFilter record filter present =>
    refine .quiet (State.not_registering before rfl) (State.not_registering (State.initialization_self rfl) ?_)
      ?_ rfl rfl rfl
    · cases filter <;> rfl
    · rw [before]
      exact fun here => by cases here
  | other _ stack _ quiet frames filter previous initialized stackQuiet =>
    rw [quiet] at before
    refine .quiet (State.not_registering before rfl) (not_registering_idle frames (stackQuiet.all_idle suspended))
      ?_ filter previous initialized
    rw [before]
    exact fun here => by cases here

theorem Move.update (move : Move s t below top s') : ∃ stack, s'.frames = Function.update s.frames t stack := by
  cases move with
  | other _ stack _ quiet frames filter previous initialized stackQuiet => exact ⟨stack, frames⟩
  | _ => exact ⟨_, rfl⟩

theorem Move.tail_suspended (move : Move s t below top s') (suspended : ∀ frame ∈ below, frame.suspended = true) :
    ∀ frame ∈ (s'.frames t).tail, frame.suspended = true := by
  intro frame member
  cases move with
  | other _ stack _ quiet frames filter previous initialized stackQuiet =>
    rw [frames, Function.update_self] at member
    rcases stackQuiet.suspended frame member with old | new
    · exact suspended frame old
    · exact new
  | calledFilter record filter present =>
    simp only [State.goto, Function.update_self] at member
    rcases List.mem_cons.mp member with rfl | old
    · rfl
    · exact suspended frame old
  | added object registry constructed initialized =>
    simp only [State.goto, Function.update_self] at member
    exact suspended frame (List.mem_of_mem_tail member)
  | _ =>
    simp only [State.goto, Function.update_self] at member
    exact suspended frame member

theorem Move.add_initialized (move : Move s t below top s') (suspended : ∀ frame ∈ below, frame.suspended = true)
    (here : s'.initialization t = some .add) : s'.registry.initialized = true := by
  have idle : ∀ frame ∈ below, frame.idle = true :=
    fun frame member => Frame.idle_of_suspended (suspended frame member)
  cases move with
  | tested object initialized => exact initialized
  | flagged object => rfl
  | added object registry constructed initialized => cases idle_testInitialized rfl idle here
  | calledFilter record filter present =>
    cases filter <;> simp [State.initialization, State.goto, Frame.initialization, Filter.entry] at here
  | other _ stack _ quiet frames filter previous initialized stackQuiet =>
    cases idle_testInitialized frames (stackQuiet.all_idle suspended) here
  | _ => simp [State.initialization, State.goto, Frame.initialization] at here

theorem Effect.initialized (effect : Effect s t s') (set : s.registry.initialized = true) :
    s'.registry.initialized = true := by
  cases effect with
  | flagged before after filter previous initialized => exact initialized
  | quiet before after started filter previous initialized => exact initialized.trans set
  | entered before uninitialized after filter previous initialized => exact initialized.trans set
  | installed before after filter previous initialized => exact initialized.trans set
  | stored result before after filter previous initialized => exact initialized.trans set

theorem Effect.of_test (effect : Effect s t s') (here : s.initialization t = some .testInitialized)
    (unset : s.registry.initialized = false) : s'.initialization t = some .setUnhandledExceptionFilter ∧
      s'.unhandledExceptionFilter = s.unhandledExceptionFilter := by
  cases effect with
  | entered before uninitialized after filter previous initialized => exact ⟨after, filter⟩
  | quiet before after started filter previous initialized =>
    rw [started here] at unset
    cases unset
  | installed before after filter previous initialized => cases here.symm.trans before
  | stored result before after filter previous initialized => cases here.symm.trans before
  | flagged before after filter previous initialized => cases here.symm.trans before

theorem Effect.of_set (effect : Effect s t s') (here : s.initialization t = some .setUnhandledExceptionFilter) :
    s'.initialization t = some (.storePreviousFilter s.unhandledExceptionFilter) ∧
      s'.unhandledExceptionFilter = some .exceptionHook ∧ s'.previousFilter = s.previousFilter ∧
      s'.registry.initialized = s.registry.initialized := by
  cases effect with
  | installed before after filter previous initialized => exact ⟨after, filter, previous, initialized⟩
  | quiet before after started filter previous initialized => exact absurd ⟨_, here, rfl⟩ before
  | entered before uninitialized after filter previous initialized => cases here.symm.trans before
  | stored result before after filter previous initialized => cases here.symm.trans before
  | flagged before after filter previous initialized => cases here.symm.trans before

theorem Effect.of_store (effect : Effect s t s') {result : Option Filter}
    (here : s.initialization t = some (.storePreviousFilter result)) :
    s'.initialization t = some .setInitialized ∧ s'.previousFilter = result ∧
      s'.registry.initialized = s.registry.initialized := by
  cases effect with
  | stored other before after filter previous initialized =>
    cases here.symm.trans before
    exact ⟨after, previous, initialized⟩
  | quiet before after started filter previous initialized => exact absurd ⟨_, here, rfl⟩ before
  | entered before uninitialized after filter previous initialized => cases here.symm.trans before
  | installed before after filter previous initialized => cases here.symm.trans before
  | flagged before after filter previous initialized => cases here.symm.trans before

theorem Effect.of_flag (effect : Effect s t s') (here : s.initialization t = some .setInitialized) :
    s'.initialization t = some .add ∧ s'.previousFilter = s.previousFilter ∧ s'.registry.initialized = true := by
  cases effect with
  | flagged before after filter previous initialized => exact ⟨after, previous, initialized⟩
  | quiet before after started filter previous initialized => exact absurd ⟨_, here, rfl⟩ before
  | entered before uninitialized after filter previous initialized => cases here.symm.trans before
  | installed before after filter previous initialized => cases here.symm.trans before
  | stored result before after filter previous initialized => cases here.symm.trans before

theorem Effect.outside (effect : Effect s t s') (outside : ¬ s.Registering t) :
    (¬ s'.Registering t ∨ s.initialization t = some .testInitialized ∧ s.registry.initialized = false ∧
      s'.initialization t = some .setUnhandledExceptionFilter) ∧
    s'.unhandledExceptionFilter = s.unhandledExceptionFilter ∧ s'.previousFilter = s.previousFilter ∧
    s'.registry.initialized = s.registry.initialized := by
  cases effect with
  | quiet before after started filter previous initialized => exact ⟨Or.inl after, filter, previous, initialized⟩
  | entered before uninitialized after filter previous initialized =>
    exact ⟨Or.inr ⟨before, uninitialized, after⟩, filter, previous, initialized⟩
  | installed before after filter previous initialized => exact absurd ⟨_, before, rfl⟩ outside
  | stored result before after filter previous initialized => exact absurd ⟨_, before, rfl⟩ outside
  | flagged before after filter previous initialized => exact absurd ⟨_, before, rfl⟩ outside

theorem Ordered.move (ordered : Ordered s) (shape : s.frames t = top :: below) (move : Move s t below top s') :
    Ordered s' := by
  obtain ⟨stack, frames⟩ := move.update
  have suspended := ordered.below_suspended shape
  constructor
  · intro u frame member
    by_cases mine : u = t
    · subst mine
      exact move.tail_suspended suspended frame member
    · rw [frames, Function.update_of_ne mine] at member
      exact ordered.suspended member
  · intro u here
    by_cases mine : u = t
    · subst mine
      exact move.add_initialized suspended here
    · rw [State.initialization_other frames mine] at here
      exact (ordered.effect shape move).initialized (ordered.added here)

theorem Ordered.start (original : Option Nat) : Ordered (State.start original) where
  suspended := by
    intro t frame member
    cases member
  added := by
    intro t here
    cases here

theorem Ordered.step (ordered : Ordered s) {choice : Choice} (taken : s.step (t, choice) = some s') :
    Ordered s' ∧ Effect s t s' ∧ ∀ u ≠ t, s'.initialization u = s.initialization u := by
  obtain ⟨top, below, shape, move⟩ := State.step_move taken
  obtain ⟨stack, frames⟩ := move.update
  exact ⟨ordered.move shape move, ordered.effect shape move, fun u other => State.initialization_other frames other⟩

end

end ExMM.Filters
