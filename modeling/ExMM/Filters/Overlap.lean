import Mathlib.Data.List.Induction
import ExMM.Filters.Chain

namespace ExMM.Filters

def Replaced (s : State) : Prop :=
  ∀ t statement, s.initialization t = some statement → statement.registering = true →
    statement ≠ .setUnhandledExceptionFilter → s.unhandledExceptionFilter = some .exceptionHook

/-- Two threads have passed the test, and the one that comes second will remember `ExceptionHook`. -/
inductive Doomed (s : State) : Prop
  | holding (t : ThreadId) (here : s.initialization t = some (.storePreviousFilter (some .exceptionHook)))
  | second (t : ThreadId) (here : s.initialization t = some .setUnhandledExceptionFilter)
      (filter : s.unhandledExceptionFilter = some .exceptionHook)
  | both (t u : ThreadId) (different : t ≠ u) (here : s.initialization t = some .setUnhandledExceptionFilter)
      (there : s.initialization u = some .setUnhandledExceptionFilter)

section

variable {s s' : State} {t : ThreadId}

theorem Effect.kept (effect : Effect s t s') (filter : s.unhandledExceptionFilter = some .exceptionHook) :
    s'.unhandledExceptionFilter = some .exceptionHook := by
  cases effect with
  | quiet before after started same previous initialized => exact same.trans filter
  | entered before unset after same previous initialized => exact same.trans filter
  | installed before after same previous initialized => exact same
  | stored result before after same previous initialized => exact same.trans filter
  | flagged before after same previous initialized => exact same.trans filter

theorem Doomed.step (doomed : Doomed s) (effect : Effect s t s')
    (others : ∀ u ≠ t, s'.initialization u = s.initialization u) :
    Doomed s' ∨ s'.previousFilter = some .exceptionHook := by
  cases doomed with
  | holding u here =>
    by_cases mine : u = t
    · subst mine
      exact Or.inr (effect.of_store here).2.1
    · exact Or.inl (.holding u ((others u mine).trans here))
  | second u here filter =>
    by_cases mine : u = t
    · subst mine
      have stored := (effect.of_set here).1
      rw [filter] at stored
      exact Or.inl (.holding u stored)
    · exact Or.inl (.second u ((others u mine).trans here) (effect.kept filter))
  | both u v different here there =>
    by_cases first : u = t
    · subst first
      exact Or.inl (.second v ((others v (Ne.symm different)).trans there) (effect.of_set here).2.1)
    · have still := (others u first).trans here
      by_cases other : v = t
      · subst other
        exact Or.inl (.second u still (effect.of_set there).2.1)
      · exact Or.inl (.both u v different still ((others v other).trans there))

theorem Replaced.step (replaced : Replaced s) (effect : Effect s t s')
    (others : ∀ u ≠ t, s'.initialization u = s.initialization u) : Replaced s' := by
  intro u statement here registering further
  by_cases mine : u = t
  · subst mine
    cases effect with
    | quiet before after started filter previous initialized => exact absurd ⟨_, here, registering⟩ after
    | entered before unset after filter previous initialized =>
      cases here.symm.trans after
      exact absurd rfl further
    | installed before after filter previous initialized => exact filter
    | stored result before after filter previous initialized =>
      exact filter.trans (replaced u _ before rfl (by simp))
    | flagged before after filter previous initialized =>
      cases here.symm.trans after
      cases registering
  · rw [others u mine] at here
    exact effect.kept (replaced u statement here registering further)

theorem Doomed.of_overlap (replaced : Replaced s) {choice : Choice} (overlap : ¬ Exclusive s (t, choice))
    (effect : Effect s t s') (others : ∀ u ≠ t, s'.initialization u = s.initialization u) : Doomed s' := by
  simp only [Exclusive, not_forall, not_not] at overlap
  obtain ⟨test, uninitialized, u, statement, here, registering⟩ := overlap
  have different : u ≠ t := by
    rintro rfl
    cases here.symm.trans test
    cases registering
  have there := (others u different).trans here
  obtain ⟨after, filter⟩ := effect.of_test test uninitialized
  by_cases first : statement = .setUnhandledExceptionFilter
  · subst first
    exact .both t u (Ne.symm different) after there
  · exact .second t after (filter.trans (replaced u statement here registering first))

def Loops (original : Option Nat) (actions : List (ThreadId × Choice)) : Prop :=
  ∃ earlier later m, actions = earlier ++ later ∧
    Transition.run State.step (State.start original) earlier = some m ∧ m.previousFilter = some .exceptionHook

variable {original : Option Nat} {actions : List (ThreadId × Choice)}

theorem ordered_run (ran : Transition.run State.step (State.start original) actions = some s) :
    Ordered s ∧ Replaced s := by
  have keep : ∀ (s : State) (action : ThreadId × Choice) (next : State), Ordered s ∧ Replaced s →
      s.step action = some next → Ordered next ∧ Replaced next := by
    rintro s ⟨t, choice⟩ next ⟨ordered, replaced⟩ taken
    obtain ⟨kept, effect, others⟩ := ordered.step taken
    exact ⟨kept, replaced.step effect others⟩
  have start : Replaced (State.start original) := by
    intro t statement here
    cases here
  exact Transition.run_invariant keep ⟨Ordered.start original, start⟩ ran

theorem overlap_loops (ran : Transition.run State.step (State.start original) actions = some s)
    (overlaps : ¬ Transition.Meets State.step Exclusive (State.start original) actions) :
    Loops original actions ∨ Doomed s := by
  induction actions using List.reverseRecOn generalizing s with
  | nil => exact absurd trivial overlaps
  | append_singleton actions action ih =>
    have whole := ran
    rw [Transition.run_append] at ran
    obtain ⟨m, before, last⟩ := Option.bind_eq_some_iff.mp ran
    rw [Transition.run_single] at last
    obtain ⟨t, choice⟩ := action
    obtain ⟨ordered, replaced⟩ := ordered_run before
    obtain ⟨-, effect, others⟩ := ordered.step last
    by_cases met : Transition.Meets State.step Exclusive (State.start original) actions
    · have overlap : ¬ Exclusive m (t, choice) := by
        intro exclusive
        refine overlaps (Transition.meets_append.mpr ⟨met, fun m' ran' => ?_⟩)
        cases before.symm.trans ran'
        exact ⟨exclusive, fun _ _ => trivial⟩
      exact Or.inr (.of_overlap replaced overlap effect others)
    · rcases ih before met with ⟨earlier, later, m', rfl, reached, loops⟩ | doomed
      · exact Or.inl ⟨earlier, later ++ [(t, choice)], m', List.append_assoc .., reached, loops⟩
      · rcases doomed.step effect others with still | now
        · exact Or.inr still
        · exact Or.inl ⟨actions ++ [(t, choice)], [], s, (List.append_nil _).symm, whole, now⟩

theorem exclusive_of_single (ordered : Ordered s) (others : ∀ u ≠ t, ¬ s.Registering u)
    (single : ∀ action ∈ actions, action.1 = t) : Transition.Meets State.step Exclusive s actions := by
  induction actions generalizing s with
  | nil => trivial
  | cons action rest ih =>
    obtain ⟨mine, later⟩ := List.forall_mem_cons.mp single
    refine ⟨?_, fun next taken => ?_⟩
    · intro test uninitialized u
      rw [mine] at test
      by_cases self : u = t
      · subst self
        exact State.not_registering test rfl
      · exact others u self
    · obtain ⟨_, choice⟩ := action
      subst mine
      obtain ⟨kept, effect, same⟩ := ordered.step taken
      refine ih kept (fun u different registering => others u different ?_) later
      obtain ⟨statement, here, inside⟩ := registering
      exact ⟨statement, (same u different).symm.trans here, inside⟩

theorem Doomed.not_quiet (doomed : Doomed s) : ∃ t, s.Registering t := by
  cases doomed with
  | holding t here => exact ⟨t, _, here, rfl⟩
  | second t here filter => exact ⟨t, _, here, rfl⟩
  | both t u different here there => exact ⟨t, _, here, rfl⟩

end

def Recursing (t : ThreadId) (record : ExceptionRecord) (below : List Frame) (depth : Nat) (s : State) : Prop :=
  s.previousFilter = some .exceptionHook ∧ s.frames t = .exceptionHook record record.entry ::
    (List.replicate depth (.exceptionHook record .awaitPreviousFilter) ++ below)

theorem Recursing.deeper {s : State} {t : ThreadId} {exceptionCode depth : Nat} {below : List Frame}
    (recursing : Recursing t (.other exceptionCode) below depth s) :
    ∃ s', Transition.run State.step s [(t, .next), (t, .next)] = some s' ∧
      Recursing t (.other exceptionCode) below (depth + 1) s' := by
  obtain ⟨loops, shape⟩ := recursing
  let record := ExceptionRecord.other exceptionCode
  let waiting := List.replicate depth (Frame.exceptionHook record .awaitPreviousFilter) ++ below
  let calling := s.goto t (.exceptionHook record .callPreviousFilter :: waiting)
  let recursive := calling.goto t
    (.exceptionHook record record.entry :: .exceptionHook record .awaitPreviousFilter :: waiting)
  have tested : s.step (t, .next) = some calling := by
    simp only [State.step, shape, ExceptionRecord.entry, State.stepHook, loops]
    rfl
  have top : calling.frames t = .exceptionHook record .callPreviousFilter :: waiting := Function.update_self ..
  have still : calling.previousFilter = some .exceptionHook := loops
  have called : calling.step (t, .next) = some recursive := by
    simp only [State.step, top, State.stepHook, still]
    rfl
  refine ⟨recursive, ?_, still, Function.update_self ..⟩
  rw [Transition.run_cons, tested, Option.bind_some, Transition.run_single, called]

theorem exception_recurses {s : State} {t : ThreadId} {below : List Frame} (shape : s.frames t = .user :: below)
    (loops : s.previousFilter = some .exceptionHook) (exceptionCode depth : Nat) :
    ∃ s', Transition.run State.step s ((t, .call (.exception (.other exceptionCode))) ::
        (List.replicate depth [(t, .next), (t, .next)]).flatten) = some s' ∧
      Recursing t (.other exceptionCode) (.user :: below) depth s' := by
  let record := ExceptionRecord.other exceptionCode
  let raised := s.goto t (.exceptionHook record record.entry :: .user :: below)
  have taken : s.step (t, .call (.exception record)) = some raised := by
    simp only [State.step, shape]
    rfl
  have start : Recursing t record (.user :: below) 0 raised := ⟨loops, Function.update_self ..⟩
  rw [Transition.run_cons, taken, Option.bind_some]
  exact Transition.run_repeated (fun _ _ recursing => recursing.deeper) start depth

/-- The chain of filters is acyclic in every state of every run in which registrations do not overlap, and of
    no other run in which all of them come to an end. -/
theorem filter_chain_acyclic_iff (original : Option Nat) (actions : List (ThreadId × Choice)) (s : State)
    (ran : Transition.run State.step (State.start original) actions = some s) :
    (Transition.Meets State.step Exclusive (State.start original) actions → Acyclic original s) ∧
    ((∀ t, ¬ s.Registering t) →
      ((∀ earlier later m, actions = earlier ++ later →
          Transition.run State.step (State.start original) earlier = some m → Acyclic original m) ↔
        Transition.Meets State.step Exclusive (State.start original) actions)) := by
  refine ⟨fun meets => Exclusive.acyclic meets ran, fun quiet => ⟨fun acyclic => ?_, ?_⟩⟩
  · by_contra overlaps
    rcases overlap_loops ran overlaps with ⟨earlier, later, m, split, reached, loops⟩ | doomed
    · exact (acyclic earlier later m split reached).previous loops
    · obtain ⟨t, registering⟩ := doomed.not_quiet
      exact quiet t registering
  · rintro meets earlier later m rfl reached
    exact Exclusive.acyclic (Transition.meets_append.mp meets).1 reached

def alone : List (ThreadId × Choice) :=
  [(0, .call (.construct ⟨4, 64, .readWrite, some ⟨100, 0x10000, 0x50000⟩⟩)), (0, .next), (0, .next), (0, .next),
    (0, .next), (0, .next)]

/-- Then a second thread constructs one, and a third one divides by zero. -/
def inTurn : List (ThreadId × Choice) :=
  alone ++ [(1, .call (.construct ⟨8, 64, .readWrite, some ⟨200, 0x11000, 0x60000⟩⟩)), (1, .next), (1, .next),
    (2, .call (.exception (.other 0xC0000094)))]

theorem inTurn_acyclic : ∃ s, Transition.run State.step (State.start (some 7)) inTurn = some s ∧
    s.constructed 4 = some .readWrite ∧ s.constructed 8 = some .readWrite ∧ s.previousFilter = some (.foreign 7) ∧
    s.frames 2 = [.exceptionHook (.other 0xC0000094) .testPreviousFilter, .user] ∧ Acyclic (some 7) s := by
  refine ⟨_, rfl, rfl, rfl, rfl, rfl, (filter_chain_acyclic_iff (some 7) inTurn _ rfl).1 ?_⟩
  have single : ∀ action ∈ alone, action.1 = 0 := by decide
  have first := exclusive_of_single (Ordered.start (some 7)) (fun _ _ => State.not_registering rfl rfl) single
  refine Transition.meets_append.mpr ⟨first, fun m reached => ?_⟩
  obtain rfl := Option.some.inj reached
  have elsewhere {s : State} {action : ThreadId × Choice} (other : s.initialization action.1 ≠ some .testInitialized) :
      Exclusive s action := fun tests => absurd tests other
  refine .cons rfl (elsewhere (by decide)) (.cons rfl ?_ ?_)
  · exact fun _ uninitialized => Bool.noConfusion uninitialized
  · exact .cons rfl (elsewhere (by decide)) (.cons rfl (elsewhere (by decide)) trivial)

/-- Two threads construct their first controllers, and both pass the test before one of them assigns. -/
def racing : List (ThreadId × Choice) :=
  [(0, .call (.construct ⟨4, 64, .readWrite, some ⟨100, 0x10000, 0x50000⟩⟩)),
    (1, .call (.construct ⟨8, 64, .readWrite, some ⟨200, 0x11000, 0x60000⟩⟩)),
    (0, .next), (1, .next), (0, .next), (1, .next), (0, .next), (1, .next), (0, .next), (1, .next), (0, .next),
    (1, .next)]

/-- After that a division by zero in a third thread recurses without end. -/
theorem racing_recurses : ∃ s, Transition.run State.step (State.start (some 7)) racing = some s ∧
    s.previousFilter = some .exceptionHook ∧ s.frames 0 = [.user] ∧ s.frames 1 = [.user] ∧ ¬ Acyclic (some 7) s ∧
    ∀ depth, ∃ s', Transition.run State.step s ((2, .call (.exception (.other 0xC0000094))) ::
        (List.replicate depth [(2, .next), (2, .next)]).flatten) = some s' ∧
      Recursing 2 (.other 0xC0000094) [.user] depth s' := by
  exact ⟨_, rfl, rfl, rfl, rfl, fun acyclic => acyclic.previous rfl, exception_recurses rfl rfl 0xC0000094⟩

end ExMM.Filters
