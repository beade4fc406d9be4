import Mathlib.Data.Nat.Notation

namespace Transition

variable {State Action : Type}

def run (step : State → Action → Option State) : State → List Action → Option State
  | s, [] => some s
  | s, action :: rest => (step s action).bind fun next => run step next rest

@[simp] theorem run_nil (step : State → Action → Option State) (s : State) :
    run step s [] = some s := rfl

theorem run_cons (step : State → Action → Option State) (s : State) (action : Action)
    (rest : List Action) :
    run step s (action :: rest) = (step s action).bind fun next => run step next rest := rfl

theorem run_append (step : State → Action → Option State) (s : State) (first second : List Action) :
    run step s (first ++ second) = (run step s first).bind fun next => run step next second := by
  induction first generalizing s with
  | nil => rfl
  | cons action rest ih =>
    simp only [List.cons_append, run_cons]
    cases step s action with
    | none => rfl
    | some next => exact ih next

theorem run_single (step : State → Action → Option State) (s : State) (action : Action) :
    run step s [action] = step s action := by
  simp [run_cons]

def reach (step : State → Action → Option State) (s : State) (actions : List Action) : State :=
  (run step s actions).getD s

theorem run_eq_reach {step : State → Action → Option State} {s : State} {actions : List Action}
    (enabled : (run step s actions).isSome) : run step s actions = some (reach step s actions) := by
  obtain ⟨final, ran⟩ := Option.isSome_iff_exists.mp enabled
  rw [reach, ran, Option.getD_some]

theorem run_reach {step : State → Action → Option State} {s : State} {first second : List Action}
    (enabled : (run step s (first ++ second)).isSome) :
    run step (reach step s first) second = some (reach step s (first ++ second)) := by
  have ran := run_eq_reach enabled
  rw [run_append] at ran
  obtain ⟨middle, before, after⟩ := Option.bind_eq_some_iff.mp ran
  rw [reach, before, Option.getD_some, after]

/-- Every action of the run meets the guard in the state it is taken from. -/
def Meets (step : State → Action → Option State) (guard : State → Action → Prop) :
    State → List Action → Prop
  | _, [] => True
  | s, action :: rest => guard s action ∧ ∀ next, step s action = some next → Meets step guard next rest

instance decidableMeets (step : State → Action → Option State) (guard : State → Action → Prop)
    [∀ s action, Decidable (guard s action)] : (s : State) → (actions : List Action) → Decidable (Meets step guard s actions)
  | _, [] => .isTrue trivial
  | s, action :: rest =>
    have := fun next => decidableMeets step guard next rest
    inferInstanceAs (Decidable (guard s action ∧ ∀ next, step s action = some next → Meets step guard next rest))

theorem meets_true (step : State → Action → Option State) (s : State) (actions : List Action) :
    Meets step (fun _ _ => True) s actions := by
  induction actions generalizing s with
  | nil => trivial
  | cons action rest ih => exact ⟨trivial, fun next _ => ih next⟩

theorem meets_append {step : State → Action → Option State} {guard : State → Action → Prop} {s : State}
    {first second : List Action} : Meets step guard s (first ++ second) ↔
      Meets step guard s first ∧ ∀ m, run step s first = some m → Meets step guard m second := by
  induction first generalizing s with
  | nil => simp [Meets]
  | cons action rest ih =>
    simp only [List.cons_append, Meets, ih, run_cons]
    constructor
    · rintro ⟨here, later⟩
      refine ⟨⟨here, fun next taken => (later next taken).1⟩, fun m ran => ?_⟩
      obtain ⟨next, taken, ran⟩ := Option.bind_eq_some_iff.mp ran
      exact (later next taken).2 m ran
    · rintro ⟨⟨here, later⟩, onwards⟩
      refine ⟨here, fun next taken => ⟨later next taken, fun m ran => onwards m ?_⟩⟩
      rw [taken, Option.bind_some, ran]

theorem Meets.cons {step : State → Action → Option State} {guard : State → Action → Prop} {s next : State}
    {action : Action} {rest : List Action} (taken : step s action = some next) (here : guard s action)
    (later : Meets step guard next rest) : Meets step guard s (action :: rest) := by
  refine ⟨here, fun other same => ?_⟩
  rw [taken, Option.some.injEq] at same
  exact same ▸ later

theorem Meets.allowed {step : State → Action → Option State} {guard : State → Action → Prop} {allowed : Action → Prop}
    {s : State} {actions : List Action} (meets : Meets step guard s actions) (all : ∀ action ∈ actions, allowed action) :
    Meets step (fun s action => guard s action ∧ allowed action) s actions := by
  induction actions generalizing s with
  | nil => trivial
  | cons action rest ih =>
    obtain ⟨here, later⟩ := meets
    exact ⟨⟨here, all action List.mem_cons_self⟩,
      fun next taken => ih (later next taken) fun other member => all other (List.mem_cons_of_mem _ member)⟩

/-- The induction over runs: what each guarded step keeps, every guarded run keeps. -/
theorem run_guarded {step : State → Action → Option State} {guard : State → Action → Prop}
    {invariant : State → Prop}
    (keep : ∀ s action next, invariant s → guard s action → step s action = some next → invariant next)
    {s final : State} {actions : List Action} (start : invariant s)
    (meets : Meets step guard s actions) (ran : run step s actions = some final) : invariant final := by
  induction actions generalizing s with
  | nil => cases ran; exact start
  | cons action rest ih =>
    obtain ⟨here, later⟩ := meets
    rw [run_cons] at ran
    obtain ⟨next, taken, ran⟩ := Option.bind_eq_some_iff.mp ran
    exact ih (keep s action next start here taken) (later next taken) ran

theorem meets_of_invariant {step : State → Action → Option State} {guard : State → Action → Prop}
    {invariant : State → Prop} {allowed : Action → Prop}
    (keep : ∀ s action next, invariant s → allowed action → step s action = some next → invariant next)
    (holds : ∀ s action, invariant s → allowed action → guard s action)
    {s : State} {actions : List Action} (start : invariant s) (all : ∀ action ∈ actions, allowed action) :
    Meets step guard s actions := by
  induction actions generalizing s with
  | nil => trivial
  | cons action rest ih =>
    have here := all action List.mem_cons_self
    refine ⟨holds s action start here, fun next taken => ?_⟩
    exact ih (keep s action next start here taken) fun later member => all later (List.mem_cons_of_mem _ member)

theorem meets_all {allowed : Action → Prop} (step : State → Action → Option State) (s : State) {actions : List Action}
    (all : ∀ action ∈ actions, allowed action) : Meets step (fun _ action => allowed action) s actions :=
  meets_of_invariant (fun _ _ _ _ _ _ => trivial) (fun _ _ _ allowed => allowed) trivial all

def spent (cost : Action → Nat) : List Action → Nat
  | [] => 0
  | action :: rest => cost action + spent cost rest

/-- Amortised cost: what each action costs is paid by what it adds to `paid` and takes off `left`. -/
theorem run_cost {step : State → Action → Option State} {guard : State → Action → Prop} {invariant : State → Prop}
    {cost : Action → Nat} {paid left : State → Nat}
    (keep : ∀ s action next, invariant s → guard s action → step s action = some next → invariant next)
    (pays : ∀ s action next, invariant s → guard s action → step s action = some next →
      cost action + paid s + left next ≤ paid next + left s)
    {s final : State} {actions : List Action} (start : invariant s) (meets : Meets step guard s actions)
    (ran : run step s actions = some final) :
    spent cost actions + paid s + left final ≤ paid final + left s := by
  induction actions generalizing s with
  | nil =>
    cases ran
    simp only [spent, Nat.zero_add, Nat.le_refl]
  | cons action rest ih =>
    obtain ⟨here, later⟩ := meets
    rw [run_cons] at ran
    obtain ⟨next, taken, ran⟩ := Option.bind_eq_some_iff.mp ran
    have first := pays s action next start here taken
    have others := ih (keep s action next start here taken) (later next taken) ran
    rw [spent]
    omega

theorem run_invariant {step : State → Action → Option State} {invariant : State → Prop}
    (keep : ∀ s action next, invariant s → step s action = some next → invariant next)
    {s final : State} {actions : List Action} (start : invariant s)
    (ran : run step s actions = some final) : invariant final := by
  induction actions generalizing s with
  | nil => cases ran; exact start
  | cons action rest ih =>
    rw [run_cons] at ran
    obtain ⟨next, taken, ran⟩ := Option.bind_eq_some_iff.mp ran
    exact ih (keep s action next start taken) ran

theorem run_countdown {step : State → Action → Option State} {guard : State → Action → Prop}
    {invariant goal : State → Prop} {cost : Action → Nat} {left : State → Nat}
    (keep : ∀ s action next, invariant s → guard s action → step s action = some next → invariant next)
    (stays : ∀ s action next, invariant s → goal s → guard s action → step s action = some next → goal next)
    (pays : ∀ s action next, invariant s → guard s action → step s action = some next →
      goal next ∨ cost action + left next ≤ left s)
    {s final : State} {actions : List Action} (start : invariant s) (meets : Meets step guard s actions)
    (ran : run step s actions = some final) : goal final ∨ spent cost actions + left final ≤ left s := by
  induction actions generalizing s with
  | nil =>
    cases ran
    exact Or.inr (Nat.le_of_eq (Nat.zero_add _))
  | cons action rest ih =>
    obtain ⟨here, later⟩ := meets
    rw [run_cons] at ran
    obtain ⟨next, taken, ran⟩ := Option.bind_eq_some_iff.mp ran
    have kept := keep s action next start here taken
    rcases pays s action next start here taken with reached | paid
    · have both : ∀ s action next, invariant s ∧ goal s → guard s action → step s action = some next →
          invariant next ∧ goal next := fun s action next both here taken =>
        ⟨keep s action next both.1 here taken, stays s action next both.1 both.2 here taken⟩
      exact Or.inl (run_guarded both ⟨kept, reached⟩ (later next taken) ran).2
    · rcases ih kept (later next taken) ran with reached | others
      · exact Or.inl reached
      · refine Or.inr ?_
        rw [spent]
        omega

/-- Either the run comes to the event, or each action takes its cost off `left`. -/
theorem run_until {step : State → Action → Option State} {guard event : State → Action → Prop} {invariant : State → Prop}
    {cost : Action → Nat} {left : State → Nat}
    (moves : ∀ s action next, invariant s → guard s action → step s action = some next →
      event s action ∨ invariant next ∧ cost action + left next ≤ left s)
    {s final : State} {actions : List Action} (start : invariant s) (meets : Meets step guard s actions)
    (ran : run step s actions = some final) :
    (∃ first action rest m, actions = first ++ action :: rest ∧ run step s first = some m ∧ event m action) ∨
      spent cost actions + left final ≤ left s := by
  induction actions generalizing s with
  | nil =>
    cases ran
    exact Or.inr (Nat.le_of_eq (Nat.zero_add _))
  | cons action rest ih =>
    obtain ⟨here, later⟩ := meets
    rw [run_cons] at ran
    obtain ⟨next, taken, ran⟩ := Option.bind_eq_some_iff.mp ran
    rcases moves s action next start here taken with reached | ⟨kept, paid⟩
    · exact Or.inl ⟨[], action, rest, s, rfl, rfl, reached⟩
    · rcases ih kept (later next taken) ran with ⟨first, last, after, m, rfl, before, reached⟩ | others
      · refine Or.inl ⟨action :: first, last, after, m, rfl, ?_, reached⟩
        rw [run_cons, taken, Option.bind_some, before]
      · refine Or.inr ?_
        rw [spent]
        omega

theorem run_repeated {step : State → Action → Option State} {stage : Nat → State → Prop} {segment : List Action}
    (onwards : ∀ n s, stage n s → ∃ next, run step s segment = some next ∧ stage (n + 1) next) {s : State}
    (start : stage 0 s) (n : Nat) :
    ∃ final, run step s (List.replicate n segment).flatten = some final ∧ stage n final := by
  induction n with
  | zero => exact ⟨s, rfl, start⟩
  | succ n ih =>
    obtain ⟨middle, ran, here⟩ := ih
    obtain ⟨final, more, there⟩ := onwards n middle here
    refine ⟨final, ?_, there⟩
    rw [List.replicate_succ', List.flatten_append, run_append, ran, Option.bind_some]
    simpa using more

section

variable {History : Type}

/-- The transitions with a history variable beside the state: it sees every step and changes none. -/
def observed (step : State → Action → Option State) (observe : History → Action → State → History) :
    State × History → Action → Option (State × History) :=
  fun s action => (step s.1 action).map fun next => (next, observe s.2 action next)

theorem run_observed (step : State → Action → Option State) (observe : History → Action → State → History)
    (s : State × History) (actions : List Action) :
    (run (observed step observe) s actions).map Prod.fst = run step s.1 actions := by
  induction actions generalizing s with
  | nil => rfl
  | cons action rest ih =>
    rw [run_cons, run_cons, observed]
    cases step s.1 action with
    | none => rfl
    | some next => exact ih (next, observe s.2 action next)

theorem exists_observed {step : State → Action → Option State} (observe : History → Action → State → History)
    {s final : State} (history : History) {actions : List Action} (ran : run step s actions = some final) :
    ∃ later, run (observed step observe) (s, history) actions = some (final, later) := by
  have same := run_observed step observe (s, history) actions
  rw [ran] at same
  obtain ⟨⟨reached, later⟩, observedRan, rfl⟩ := Option.map_eq_some_iff.mp same
  exact ⟨later, observedRan⟩

end

/-- Whatever action is taken next, a state with `goal` is reached after at most `bound` steps, and
    no step on the way is disabled. -/
def Inevitable (step : State → Action → Option State) (goal : State → Prop) : Nat → State → Prop
  | 0, s => goal s
  | bound + 1, s => goal s ∨ ∀ action, ∃ next, step s action = some next ∧ Inevitable step goal bound next

theorem Inevitable.now {step : State → Action → Option State} {goal : State → Prop} {s : State}
    (reached : goal s) (bound : Nat) : Inevitable step goal bound s := by
  cases bound with
  | zero => exact reached
  | succ bound => exact Or.inl reached

theorem Inevitable.weaken {step : State → Action → Option State} {goal : State → Prop} {s : State}
    {bound larger : Nat} (reached : Inevitable step goal bound s) (le : bound ≤ larger) :
    Inevitable step goal larger s := by
  induction bound generalizing s larger with
  | zero => exact Inevitable.now reached larger
  | succ bound ih =>
    obtain ⟨extra, rfl⟩ : ∃ extra, larger = extra + 1 := ⟨larger - 1, by omega⟩
    rcases reached with here | later
    · exact Or.inl here
    · refine Or.inr fun action => ?_
      obtain ⟨next, taken, rest⟩ := later action
      exact ⟨next, taken, ih rest (by omega)⟩

theorem Inevitable.imp {step : State → Action → Option State} {goal weaker : State → Prop} {s : State}
    {bound : Nat} (implies : ∀ s, goal s → weaker s) (reached : Inevitable step goal bound s) :
    Inevitable step weaker bound s := by
  induction bound generalizing s with
  | zero => exact implies s reached
  | succ bound ih =>
    rcases reached with here | later
    · exact Or.inl (implies s here)
    · refine Or.inr fun action => ?_
      obtain ⟨next, taken, rest⟩ := later action
      exact ⟨next, taken, ih rest⟩

theorem Inevitable.of_measure {step : State → Action → Option State} {goal invariant : State → Prop}
    (measure : State → Nat)
    (progress : ∀ s, invariant s → ∀ action, ∃ next, step s action = some next ∧
      (goal next ∨ invariant next ∧ measure next < measure s))
    (s : State) (start : invariant s) : Inevitable step goal (measure s + 1) s := by
  induction size : measure s using Nat.strongRecOn generalizing s with
  | ind bound ih =>
    refine Or.inr fun action => ?_
    obtain ⟨next, taken, reached | ⟨kept, less⟩⟩ := progress s start action
    · exact ⟨next, taken, Inevitable.now reached bound⟩
    · have rest := ih (measure next) (size ▸ less) next kept rfl
      exact ⟨next, taken, rest.weaken (by omega)⟩

theorem Inevitable.run {step : State → Action → Option State} {goal : State → Prop} {s : State}
    {bound : Nat} (reached : Inevitable step goal bound s) (actions : Nat → Action) :
    ∃ taken ≤ bound, ∃ final, Transition.run step s ((List.range taken).map actions) = some final ∧
      goal final := by
  induction bound generalizing s actions with
  | zero => exact ⟨0, Nat.le_refl 0, s, rfl, reached⟩
  | succ bound ih =>
    rcases reached with here | later
    · exact ⟨0, Nat.zero_le _, s, rfl, here⟩
    · obtain ⟨next, taken, rest⟩ := later (actions 0)
      obtain ⟨count, small, final, ran, done⟩ := ih rest fun n => actions (n + 1)
      refine ⟨count + 1, by omega, final, ?_, done⟩
      rw [List.range_succ_eq_map, List.map_cons, run_cons, taken, List.map_map]
      exact ran

end Transition
