import ExMM.Filters.Registration
import Mathlib.Tactic.ByContra

namespace ExMM.Filters

/-- What `ExceptionHook` relies on: the filter it hands an exception on to is never itself. -/
structure Acyclic (original : Option Nat) (s : State) : Prop where
  previous : s.previousFilter ≠ some .exceptionHook
  final : s.registry.initialized = true → s.previousFilter = original.map .foreign
  returned : ∀ t, s.initialization t = some .add → s.registry.initialized = true
  unmanaged : ∀ t record below, s.frames t = .exceptionHook record .testPreviousFilter :: below →
    ∃ s', s.step (t, .next) = some s' ∧
      (s'.frames t = .exceptionHook record (.finish .continueSearch) :: below ∨
        s'.frames t = .exceptionHook record .callPreviousFilter :: below)
  called : ∀ t record below, s.frames t = .exceptionHook record .callPreviousFilter :: below →
    ∃ filter s', original = some filter ∧ s.step (t, .next) = some s' ∧
      s'.frames t = .foreign filter :: .exceptionHook record .awaitPreviousFilter :: below

/-- Nobody tests `initialized` while somebody else is between his test and his assignment. -/
def Exclusive (s : State) (action : ThreadId × Choice) : Prop :=
  s.initialization action.1 = some .testInitialized → s.registry.initialized = false → ∀ u, ¬ s.Registering u

inductive Stage (original : Option Filter) (s : State) : Initialization → Prop
  | setUnhandledExceptionFilter (filter : s.unhandledExceptionFilter = original)
      (previous : s.previousFilter = none) : Stage original s .setUnhandledExceptionFilter
  | storePreviousFilter (previous : s.previousFilter = none) : Stage original s (.storePreviousFilter original)
  | setInitialized (previous : s.previousFilter = original) : Stage original s .setInitialized

inductive Phase (original : Option Filter) (s : State) : Prop
  | waiting (nobody : ∀ u, ¬ s.Registering u) (uninitialized : s.registry.initialized = false)
      (filter : s.unhandledExceptionFilter = original) (previous : s.previousFilter = none)
  | registering (t : ThreadId) (statement : Initialization) (here : s.initialization t = some statement)
      (alone : ∀ u, s.Registering u → u = t) (uninitialized : s.registry.initialized = false)
      (stage : Stage original s statement)
  | ready (nobody : ∀ u, ¬ s.Registering u) (initialized : s.registry.initialized = true)
      (previous : s.previousFilter = original)

section

variable {original : Option Filter} {s s' : State} {t : ThreadId}

theorem Stage.frame {statement : Initialization} (stage : Stage original s statement)
    (filter : s'.unhandledExceptionFilter = s.unhandledExceptionFilter)
    (previous : s'.previousFilter = s.previousFilter) : Stage original s' statement := by
  cases stage with
  | setUnhandledExceptionFilter old none => exact .setUnhandledExceptionFilter (filter.trans old) (previous.trans none)
  | storePreviousFilter none => exact .storePreviousFilter (previous.trans none)
  | setInitialized same => exact .setInitialized (previous.trans same)

theorem Stage.registering {statement : Initialization} (stage : Stage original s statement) :
    statement.registering = true := by
  cases stage <;> rfl

theorem registering_other (others : ∀ u ≠ t, s'.initialization u = s.initialization u) {u : ThreadId}
    (registering : s'.Registering u) (after : ¬ s'.Registering t) : u ≠ t ∧ s.Registering u := by
  have different : u ≠ t := by
    rintro rfl
    exact after registering
  obtain ⟨statement, here, inside⟩ := registering
  rw [others u different] at here
  exact ⟨different, statement, here, inside⟩

theorem registering_others (others : ∀ u ≠ t, s'.initialization u = s.initialization u)
    (alone : ∀ u, s.Registering u → u = t) : ∀ u, s'.Registering u → u = t := by
  intro u registering
  by_contra different
  obtain ⟨statement, here, inside⟩ := registering
  rw [others u different] at here
  exact different (alone u ⟨statement, here, inside⟩)

theorem Phase.advance {statement : Initialization} (here : s.initialization t = some statement)
    (alone : ∀ u, s.Registering u → u = t) (uninitialized : s.registry.initialized = false)
    (stage : Stage original s statement) (effect : Effect s t s')
    (others : ∀ u ≠ t, s'.initialization u = s.initialization u) : Phase original s' := by
  have onwards := registering_others others alone
  cases stage with
  | setUnhandledExceptionFilter old none =>
    obtain ⟨after, -, previous, initialized⟩ := effect.of_set here
    rw [old] at after
    exact .registering t _ after onwards (initialized.trans uninitialized) (.storePreviousFilter (previous.trans none))
  | storePreviousFilter none =>
    obtain ⟨after, previous, initialized⟩ := effect.of_store here
    exact .registering t _ after onwards (initialized.trans uninitialized) (.setInitialized previous)
  | setInitialized same =>
    obtain ⟨after, previous, initialized⟩ := effect.of_flag here
    refine .ready (fun u registering => ?_) initialized (previous.trans same)
    have mine := onwards u registering
    subst mine
    exact State.not_registering after rfl registering

theorem Phase.step (phase : Phase original s) (exclusive : s.initialization t = some .testInitialized →
      s.registry.initialized = false → ∀ u, ¬ s.Registering u) (effect : Effect s t s')
    (others : ∀ u ≠ t, s'.initialization u = s.initialization u) : Phase original s' := by
  cases phase with
  | waiting nobody uninitialized filter previous =>
    obtain ⟨outcome, sameFilter, samePrevious, same⟩ := effect.outside (nobody t)
    rcases outcome with after | ⟨test, unset, after⟩
    · refine .waiting (fun u registering => ?_) (same.trans uninitialized) (sameFilter.trans filter)
        (samePrevious.trans previous)
      exact nobody u (registering_other others registering after).2
    · exact .registering t _ after (registering_others others fun u registering => absurd registering (nobody u))
        (same.trans uninitialized) (.setUnhandledExceptionFilter (sameFilter.trans filter) (samePrevious.trans previous))
  | registering owner statement here alone uninitialized stage =>
    by_cases mine : t = owner
    · subst mine
      exact Phase.advance here alone uninitialized stage effect others
    · obtain ⟨outcome, sameFilter, samePrevious, same⟩ := effect.outside fun registering => mine (alone t registering)
      rcases outcome with after | ⟨test, unset, after⟩
      · refine .registering owner statement ((others owner (Ne.symm mine)).trans here) (fun u registering => ?_)
          (same.trans uninitialized) (stage.frame sameFilter samePrevious)
        exact alone u (registering_other others registering after).2
      · exact absurd ⟨statement, here, stage.registering⟩ (exclusive test unset owner)
  | ready nobody initialized previous =>
    obtain ⟨outcome, sameFilter, samePrevious, same⟩ := effect.outside (nobody t)
    rcases outcome with after | ⟨test, unset, after⟩
    · refine .ready (fun u registering => ?_) (same.trans initialized) (samePrevious.trans previous)
      exact nobody u (registering_other others registering after).2
    · rw [initialized] at unset
      cases unset

theorem Phase.previous (phase : Phase original s) : s.previousFilter = none ∨ s.previousFilter = original := by
  cases phase with
  | waiting nobody uninitialized filter previous => exact Or.inl previous
  | ready nobody initialized previous => exact Or.inr previous
  | registering t statement here alone uninitialized stage =>
    cases stage with
    | setUnhandledExceptionFilter filter previous => exact Or.inl previous
    | storePreviousFilter previous => exact Or.inl previous
    | setInitialized previous => exact Or.inr previous

theorem Phase.remembered (phase : Phase original s) (effect : Effect s t s') (present : s.previousFilter ≠ none) :
    s'.previousFilter ≠ none := by
  by_cases inside : s.Registering t
  · cases phase with
    | waiting nobody uninitialized filter previous => exact absurd inside (nobody t)
    | ready nobody initialized previous => exact absurd inside (nobody t)
    | registering owner statement here alone uninitialized stage =>
      have mine := alone t inside
      subst mine
      cases stage with
      | setUnhandledExceptionFilter old none => exact absurd none present
      | storePreviousFilter none => exact absurd none present
      | setInitialized same =>
        obtain ⟨-, previous, -⟩ := effect.of_flag here
        rwa [previous]
  · obtain ⟨-, -, previous, -⟩ := effect.outside inside
    rwa [previous]

end

structure Chained (original : Option Filter) (s : State) : Prop where
  ordered : Ordered s
  phase : Phase original s
  calling : ∀ {t record below}, s.frames t = .exceptionHook record .callPreviousFilter :: below →
    s.previousFilter ≠ none

section

variable {original : Option Nat} {s s' : State} {t : ThreadId} {top : Frame} {below : List Frame}

theorem Move.calling (move : Move s t below top s') (suspended : ∀ frame ∈ below, frame.suspended = true)
    {record : ExceptionRecord} {rest : List Frame}
    (here : s'.frames t = .exceptionHook record .callPreviousFilter :: rest) : s.previousFilter ≠ none := by
  have busy : (Frame.exceptionHook record .callPreviousFilter).idle = false := rfl
  cases move with
  | testedFilter record present => exact present
  | added object registry constructed initialized =>
    simp only [State.goto, Function.update_self] at here
    have idle := Frame.idle_of_suspended (suspended _ (here ▸ List.mem_cons_self))
    rw [busy] at idle
    cases idle
  | calledFilter other filter present =>
    rw [present]
    exact Option.some_ne_none filter
  | other _ stack _ quiet frames filter previous initialized stackQuiet =>
    rw [frames, Function.update_self] at here
    have idle := stackQuiet.all_idle suspended _ (here ▸ List.mem_cons_self)
    rw [busy] at idle
    cases idle
  | _ =>
    simp only [State.goto, Function.update_self] at here
    cases here

theorem Chained.step {original : Option Filter} (chained : Chained original s) {action : ThreadId × Choice}
    (exclusive : Exclusive s action) (taken : s.step action = some s') : Chained original s' := by
  obtain ⟨t, choice⟩ := action
  obtain ⟨ordered, effect, others⟩ := chained.ordered.step taken
  refine ⟨ordered, chained.phase.step exclusive effect others, ?_⟩
  intro u record rest here
  refine chained.phase.remembered effect ?_
  obtain ⟨top, below, shape, move⟩ := State.step_move taken
  by_cases mine : u = t
  · subst mine
    exact move.calling (chained.ordered.below_suspended shape) here
  · obtain ⟨stack, frames⟩ := move.update
    rw [frames, Function.update_of_ne mine] at here
    exact chained.calling here

theorem Chained.start (original : Option Nat) : Chained (original.map .foreign) (State.start original) where
  ordered := Ordered.start original
  phase := by
    have nowhere : ∀ u, (State.start original).initialization u = none := fun _ => rfl
    exact .waiting (fun u => State.not_registering (nowhere u) rfl) rfl rfl rfl
  calling := by
    intro t record below here
    cases here

theorem Chained.acyclic (chained : Chained (original.map .foreign) s) : Acyclic original s where
  previous := by
    intro same
    rcases chained.phase.previous with none | foreign
    · rw [none] at same
      cases same
    · rw [foreign] at same
      cases original <;> cases same
  final := by
    intro initialized
    cases chained.phase with
    | waiting nobody uninitialized filter previous =>
      rw [initialized] at uninitialized
      cases uninitialized
    | registering t statement here alone uninitialized stage =>
      rw [initialized] at uninitialized
      cases uninitialized
    | ready nobody set previous => exact previous
  returned := fun t here => chained.ordered.added here
  unmanaged := by
    intro t record below shape
    simp only [State.step, shape, State.stepHook]
    cases s.previousFilter with
    | none => exact ⟨_, rfl, Or.inl (Function.update_self ..)⟩
    | some filter => exact ⟨_, rfl, Or.inr (Function.update_self ..)⟩
  called := by
    intro t record below shape
    have present := chained.calling shape
    have remembered := chained.phase.previous.resolve_left present
    cases original with
    | none => exact absurd remembered present
    | some filter =>
      refine ⟨filter, s.goto t (.foreign filter :: .exceptionHook record .awaitPreviousFilter :: below), rfl, ?_,
        Function.update_self ..⟩
      simp only [State.step, shape, State.stepHook, remembered]
      rfl

theorem Exclusive.acyclic {actions : List (ThreadId × Choice)}
    (meets : Transition.Meets State.step Exclusive (State.start original) actions)
    (ran : Transition.run State.step (State.start original) actions = some s) : Acyclic original s := by
  have chained : Chained (original.map .foreign) s :=
    Transition.run_guarded (fun _ _ _ chained exclusive taken => chained.step exclusive taken)
      (Chained.start original) meets ran
  exact chained.acyclic

end

end ExMM.Filters
