import Mathlib.Data.List.Induction
import Mathlib.Logic.Relation
import ExMM.Live.Driver

namespace ExMM

variable {Area Request State Object Step : Type}

def RegisterSet.Later (set : RegisterSet Request State Step) : State → State → Prop :=
  Relation.ReflTransGen fun state next => ∃ step, set.background step state = some next

theorem RegisterSet.Later.relates {set : RegisterSet Request State Step} (related : State → State → Prop)
    (refl : ∀ state, related state state) (trans : ∀ {first second third : State}, related first second →
      related second third → related first third)
    (background : ∀ step state next, set.background step state = some next → related state next)
    {state next : State} (later : set.Later state next) : related state next := by
  induction later with
  | refl => exact refl _
  | tail _ moved ih =>
    obtain ⟨step, moved⟩ := moved
    exact trans ih (background step _ _ moved)

theorem RegisterSet.Later.keeps {set : RegisterSet Request State Step} {View : Type} (view : State → View)
    (background : ∀ step state next, set.background step state = some next → view next = view state)
    {state next : State} (later : set.Later state next) : view next = view state := by
  have trans : ∀ {first second third : State}, view second = view first → view third = view second →
      view third = view first := fun one two => two.trans one
  exact later.relates (fun state next => view next = view state) (fun _ => rfl) trans background

/-- `before j` are the registers that the request behind the first `j` ones meets: each request is answered
    from them, and until the next one only the threads of the controllers go on. -/
structure Stamped (set : RegisterSet Request State Step) (driver : Driver Request) (initial : ControllerPtr → State)
    (d : Driven State) (before : Nat → ControllerPtr → State) : Prop where
  start : ∀ controller, set.Later (initial controller) (before 0 controller)
  answer : ∀ j < d.history.length, ∃ controller request, driver (d.history.take j) = some (controller, request) ∧
    d.history[j]? = some (set.respond request (before j controller)).2 ∧
    ∀ other, set.Later
      (Function.update (before j) controller (set.respond request (before j controller)).1 other) (before (j + 1) other)
  now : before d.history.length = d.objects

namespace Stamped

variable {set : RegisterSet Request State Step} {driver : Driver Request} {initial : ControllerPtr → State}
  {registry : Registry} {d d' : Driven State} {before : Nat → ControllerPtr → State}

theorem step_instruction {t : ThreadId} (taken : set.step registry driver d (.instruction t) = some d') :
    ∃ controller request, driver d.history = some (controller, request) ∧
      d' = { objects := Function.update d.objects controller (set.respond request (d.objects controller)).1
             history := d.history ++ [(set.respond request (d.objects controller)).2] } := by
  obtain ⟨⟨controller, request⟩, asked, taken⟩ := Option.bind_eq_some_iff.mp taken
  obtain ⟨ioSpace, -, taken⟩ := Option.bind_eq_some_iff.mp taken
  cases taken
  exact ⟨controller, request, asked, rfl⟩

theorem step_background {controller : ControllerPtr} {step : Step}
    (taken : set.step registry driver d (.background controller step) = some d') :
    ∃ next, set.background step (d.objects controller) = some next ∧
      d' = { d with objects := Function.update d.objects controller next } := by
  obtain ⟨ioSpace, -, taken⟩ := Option.bind_eq_some_iff.mp taken
  obtain ⟨next, moved, taken⟩ := Option.bind_eq_some_iff.mp taken
  cases taken
  exact ⟨next, moved, rfl⟩

theorem instruction (stamped : Stamped set driver initial d before) {t : ThreadId}
    (taken : set.step registry driver d (.instruction t) = some d') :
    Stamped set driver initial d' (Function.update before (d.history.length + 1) d'.objects) := by
  obtain ⟨controller, request, asked, rfl⟩ := step_instruction taken
  refine ⟨?_, ?_, ?_⟩
  · rw [Function.update_of_ne (Nat.succ_ne_zero _).symm]
    exact stamped.start
  · intro j present
    rw [List.length_append, List.length_singleton] at present
    by_cases old : j < d.history.length
    · obtain ⟨owner, earlier, issued, loaded, onwards⟩ := stamped.answer j old
      rw [List.take_append_of_le_length (Nat.le_of_lt old), List.getElem?_append_left old,
        Function.update_of_ne (by omega), Function.update_of_ne (by omega)]
      exact ⟨owner, earlier, issued, loaded, onwards⟩
    · have last : j = d.history.length := by omega
      subst last
      rw [List.take_left, List.getElem?_append_right (Nat.le_refl _), Nat.sub_self, Function.update_self,
        Function.update_of_ne (by omega), stamped.now]
      exact ⟨controller, request, asked, rfl, fun other => Relation.ReflTransGen.refl⟩
  · rw [List.length_append, List.length_singleton, Function.update_self]

theorem goes_on (stamped : Stamped set driver initial d before) {objects : ControllerPtr → State}
    (later : ∀ {state : State} {other : ControllerPtr}, set.Later state (d.objects other) →
      set.Later state (objects other)) :
    Stamped set driver initial { d with objects } (Function.update before d.history.length objects) := by
  refine ⟨?_, ?_, ?_⟩
  · intro other
    have start := stamped.start other
    by_cases none : d.history.length = 0
    · rw [none, Function.update_self]
      rw [← none, stamped.now] at start
      exact later start
    · rw [Function.update_of_ne (Ne.symm none)]
      exact start
  · intro j present
    obtain ⟨owner, earlier, issued, loaded, onwards⟩ := stamped.answer j present
    rw [Function.update_of_ne (Nat.ne_of_lt present)]
    refine ⟨owner, earlier, issued, loaded, fun other => ?_⟩
    by_cases last : j + 1 = d.history.length
    · have onwards := onwards other
      rw [last, stamped.now] at onwards
      rw [last, Function.update_self]
      exact later onwards
    · rw [Function.update_of_ne last]
      exact onwards other
  · rw [Function.update_self]

theorem background (stamped : Stamped set driver initial d before) {controller : ControllerPtr} {step : Step}
    (taken : set.step registry driver d (.background controller step) = some d') :
    Stamped set driver initial d' (Function.update before d.history.length d'.objects) ∧ d'.history = d.history := by
  obtain ⟨next, moved, rfl⟩ := step_background taken
  refine ⟨stamped.goes_on fun {state other} later => ?_, rfl⟩
  by_cases mine : other = controller
  · subst mine
    rw [Function.update_self]
    exact later.tail ⟨step, moved⟩
  · rw [Function.update_of_ne mine]
    exact later

theorem between (stamped : Stamped set driver initial d before) (related : State → State → Prop)
    (refl : ∀ state, related state state) (trans : ∀ {first second third : State}, related first second →
      related second third → related first third)
    (background : ∀ step state next, set.background step state = some next → related state next)
    {controller : ControllerPtr} {j k : Nat} (le : j ≤ k) (present : k ≤ d.history.length)
    (respond : ∀ m, j ≤ m → m < k → ∀ request, driver (d.history.take m) = some (controller, request) →
      ∀ state, related state (set.respond request state).1) :
    related (before j controller) (before k controller) := by
  induction le with
  | refl => exact refl _
  | @step k le ih =>
    have earlier := ih (Nat.le_of_succ_le present) fun m low high => respond m low (Nat.lt_succ_of_lt high)
    obtain ⟨owner, request, asked, -, onwards⟩ := stamped.answer k present
    have answered : related (before k controller)
        (Function.update (before k) owner (set.respond request (before k owner)).1 controller) := by
      by_cases mine : controller = owner
      · subst mine
        rw [Function.update_self]
        exact respond k le (Nat.lt_succ_self k) request asked _
      · rw [Function.update_of_ne mine]
        exact refl _
    exact trans earlier (trans answered ((onwards controller).relates related refl trans background))

theorem keeps (stamped : Stamped set driver initial d before) {View : Type} (view : State → View)
    (background : ∀ step state next, set.background step state = some next → view next = view state)
    {controller : ControllerPtr} {j k : Nat} (le : j ≤ k) (present : k ≤ d.history.length)
    (respond : ∀ m, j ≤ m → m < k → ∀ request, driver (d.history.take m) = some (controller, request) →
      ∀ state, view (set.respond request state).1 = view state) :
    view (before k controller) = view (before j controller) := by
  have trans : ∀ {first second third : State}, view second = view first → view third = view second →
      view third = view first := fun one two => two.trans one
  exact stamped.between (fun state next => view next = view state) (fun _ => rfl) trans background le present respond

theorem answer_of (stamped : Stamped set driver initial d before) {j : Nat} (present : j < d.history.length)
    {controller : ControllerPtr} {request : Request} (asked : driver (d.history.take j) = some (controller, request)) :
    d.history[j]? = some (set.respond request (before j controller)).2 ∧
      set.Later (set.respond request (before j controller)).1 (before (j + 1) controller) := by
  obtain ⟨owner, other, issued, loaded, onwards⟩ := stamped.answer j present
  rw [issued, Option.some.injEq, Prod.mk.injEq] at asked
  obtain ⟨rfl, rfl⟩ := asked
  have later := onwards owner
  rw [Function.update_self] at later
  exact ⟨loaded, later⟩

theorem onwards (stamped : Stamped set driver initial d before) (related : State → State → Prop)
    (refl : ∀ state, related state state) (trans : ∀ {first second third : State}, related first second →
      related second third → related first third)
    (background : ∀ step state next, set.background step state = some next → related state next)
    {controller : ControllerPtr} {request : Request} {j k : Nat} (less : j < k) (present : k ≤ d.history.length)
    (asked : driver (d.history.take j) = some (controller, request))
    (respond : ∀ m, j < m → m < k → ∀ request, driver (d.history.take m) = some (controller, request) →
      ∀ state, related state (set.respond request state).1) :
    related (set.respond request (before j controller)).1 (before k controller) := by
  obtain ⟨-, later⟩ := stamped.answer_of (Nat.lt_of_lt_of_le less present) asked
  have rest : related (before (j + 1) controller) (before k controller) :=
    stamped.between related refl trans background less present respond
  exact trans (later.relates related refl trans background) rest

theorem throughout (stamped : Stamped set driver initial d before) (related : State → State → Prop)
    (refl : ∀ state, related state state) (trans : ∀ {first second third : State}, related first second →
      related second third → related first third)
    (background : ∀ step state next, set.background step state = some next → related state next)
    {controller : ControllerPtr} {k : Nat} (present : k ≤ d.history.length)
    (respond : ∀ m < k, ∀ request, driver (d.history.take m) = some (controller, request) →
      ∀ state, related state (set.respond request state).1) :
    related (initial controller) (before k controller) := by
  have rest : related (before 0 controller) (before k controller) :=
    stamped.between related refl trans background (Nat.zero_le k) present fun m _ high => respond m high
  exact trans ((stamped.start controller).relates related refl trans background) rest

end Stamped

structure Timed (set : RegisterSet Request State Step) (registry : Registry) (driver : Driver Request)
    (initial : ControllerPtr → State) (answers : List (Option (ReferenceAction Step))) (d : Driven State)
    (moment : Nat → Nat) (before : Nat → ControllerPtr → State) : Prop extends Stamped set driver initial d before where
  reached : ∀ j ≤ d.history.length,
    Transition.run (Transition.stuttering (set.step registry driver)) { objects := initial, history := [] }
      (answers.take (moment j)) = some { objects := before j, history := d.history.take j }
  issued : ∀ j < d.history.length, ∃ t, answers[moment j]? = some (some (.instruction t))
  increasing : ∀ j k, j < k → k ≤ d.history.length → moment j < moment k
  ends : moment d.history.length = answers.length

namespace Timed

variable {set : RegisterSet Request State Step} {driver : Driver Request} {initial : ControllerPtr → State}
  {registry : Registry} {d d' : Driven State} {before : Nat → ControllerPtr → State} {moment : Nat → Nat}
  {answers : List (Option (ReferenceAction Step))}

theorem moment_le (timed : Timed set registry driver initial answers d moment before) {j : Nat}
    (present : j ≤ d.history.length) : moment j ≤ answers.length := by
  rw [← timed.ends]
  rcases Nat.lt_or_eq_of_le present with less | rfl
  · exact Nat.le_of_lt (timed.increasing j _ less (Nat.le_refl _))
  · exact Nat.le_refl _

theorem moment_lt (timed : Timed set registry driver initial answers d moment before) {j : Nat}
    (present : j < d.history.length) : moment j < answers.length := by
  rw [← timed.ends]
  exact timed.increasing j _ present (Nat.le_refl _)

theorem instruction (timed : Timed set registry driver initial answers d moment before) {t : ThreadId}
    (ran : Transition.run (Transition.stuttering (set.step registry driver)) { objects := initial, history := [] }
      (answers ++ [some (.instruction t)]) = some d')
    (taken : set.step registry driver d (.instruction t) = some d') :
    Timed set registry driver initial (answers ++ [some (.instruction t)]) d'
      (Function.update moment (d.history.length + 1) (answers.length + 1))
      (Function.update before (d.history.length + 1) d'.objects) := by
  have stamped := timed.toStamped.instruction taken
  have length : d'.history.length = d.history.length + 1 := by
    obtain ⟨controller, request, -, rfl⟩ := Stamped.step_instruction taken
    rw [List.length_append, List.length_singleton]
  have prefix_eq {j : Nat} (old : j ≤ d.history.length) : d'.history.take j = d.history.take j := by
    obtain ⟨controller, request, -, rfl⟩ := Stamped.step_instruction taken
    exact List.take_append_of_le_length old
  refine ⟨stamped, ?_, ?_, ?_, ?_⟩
  · intro j present
    by_cases old : j ≤ d.history.length
    · rw [Function.update_of_ne (by omega), Function.update_of_ne (by omega), prefix_eq old,
        List.take_append_of_le_length (timed.moment_le old)]
      exact timed.reached j old
    · have last : j = d.history.length + 1 := by omega
      subst last
      rw [Function.update_self, Function.update_self, List.take_of_length_le (by simp), ran,
        List.take_of_length_le (Nat.le_of_eq length)]
  · intro j present
    rw [Function.update_of_ne (by omega)]
    by_cases old : j < d.history.length
    · rw [List.getElem?_append_left (timed.moment_lt old)]
      exact timed.issued j old
    · have last : j = d.history.length := by omega
      subst last
      rw [timed.ends, List.getElem?_append_right (Nat.le_refl _), Nat.sub_self]
      exact ⟨t, rfl⟩
  · intro j k less present
    rw [Function.update_of_ne (by omega)]
    by_cases old : k ≤ d.history.length
    · rw [Function.update_of_ne (by omega)]
      exact timed.increasing j k less old
    · have last : k = d.history.length + 1 := by omega
      subst last
      rw [Function.update_self]
      exact Nat.lt_succ_of_le (timed.moment_le (Nat.le_of_lt_succ less))
  · rw [length, Function.update_self, List.length_append, List.length_singleton]

theorem goes_on (timed : Timed set registry driver initial answers d moment before)
    {answer : Option (ReferenceAction Step)}
    (ran : Transition.run (Transition.stuttering (set.step registry driver)) { objects := initial, history := [] }
      (answers ++ [answer]) = some d')
    (stamped : Stamped set driver initial d' (Function.update before d.history.length d'.objects))
    (same : d'.history = d.history) :
    Timed set registry driver initial (answers ++ [answer]) d'
      (Function.update moment d.history.length (answers.length + 1))
      (Function.update before d.history.length d'.objects) := by
  refine ⟨stamped, ?_, ?_, ?_, ?_⟩
  · intro j present
    rw [same] at present ⊢
    by_cases old : j < d.history.length
    · rw [Function.update_of_ne (Nat.ne_of_lt old), Function.update_of_ne (Nat.ne_of_lt old),
        List.take_append_of_le_length (timed.moment_le present)]
      exact timed.reached j present
    · have last : j = d.history.length := by omega
      subst last
      rw [Function.update_self, Function.update_self, List.take_of_length_le (by simp), ran, List.take_length, ← same]
  · intro j present
    rw [same] at present
    rw [Function.update_of_ne (Nat.ne_of_lt present), List.getElem?_append_left (timed.moment_lt present)]
    exact timed.issued j present
  · intro j k less present
    rw [same] at present
    rw [Function.update_of_ne (by omega)]
    by_cases old : k < d.history.length
    · rw [Function.update_of_ne (Nat.ne_of_lt old)]
      exact timed.increasing j k less present
    · have last : k = d.history.length := by omega
      subst last
      rw [Function.update_self]
      exact Nat.lt_succ_of_lt (timed.moment_lt less)
  · rw [same, Function.update_self, List.length_append, List.length_singleton]

theorem of_run (ran : Transition.run (Transition.stuttering (set.step registry driver))
    { objects := initial, history := [] } answers = some d) :
    ∃ moment before, Timed set registry driver initial answers d moment before := by
  induction answers using List.reverseRecOn generalizing d with
  | nil =>
    cases ran
    refine ⟨fun _ => 0, fun _ => initial, ⟨fun _ => Relation.ReflTransGen.refl, ?_, rfl⟩, ?_, ?_, ?_, rfl⟩
    · intro j present
      cases present
    · intro j _
      simp only [List.take_nil, Transition.run_nil]
    · intro j present
      cases present
    · intro j k less present
      exact absurd (Nat.lt_of_lt_of_le less present) (Nat.not_lt_zero j)
  | append_singleton answers answer ih =>
    have whole := ran
    rw [Transition.run_append] at ran
    obtain ⟨middle, first, last⟩ := Option.bind_eq_some_iff.mp ran
    rw [Transition.run_single] at last
    obtain ⟨moment, before, timed⟩ := ih first
    cases answer with
    | none =>
      cases last
      exact ⟨_, _, timed.goes_on whole (timed.toStamped.goes_on id) rfl⟩
    | some action =>
      cases action with
      | instruction t => exact ⟨_, _, timed.instruction whole last⟩
      | background controller step =>
        obtain ⟨stamped, same⟩ := timed.toStamped.background last
        exact ⟨_, _, timed.goes_on whole stamped same⟩

end Timed

def stepsOf (controller : ControllerPtr) (steps : List (ControllerPtr × Step)) : List Step :=
  steps.filterMap fun entry => if entry.1 = controller then some entry.2 else none

@[simp] theorem mem_stepsOf {controller : ControllerPtr} {steps : List (ControllerPtr × Step)} {step : Step} :
    step ∈ stepsOf controller steps ↔ (controller, step) ∈ steps := by
  simp [stepsOf]

theorem stepsOf_cons (controller other : ControllerPtr) (step : Step) (rest : List (ControllerPtr × Step)) :
    stepsOf controller ((other, step) :: rest) =
      if other = controller then step :: stepsOf controller rest else stepsOf controller rest := by
  by_cases mine : other = controller
  · simp [stepsOf, mine]
  · simp [stepsOf, mine]

def total (cost : Step → Nat) (controller : ControllerPtr) (steps : List (ControllerPtr × Step)) : Nat :=
  (stepsOf controller steps).foldl (fun sum step => sum + cost step) 0

theorem total_eq_zero {cost : Step → Nat} {controller : ControllerPtr} {steps : List (ControllerPtr × Step)}
    (free : ∀ step, (controller, step) ∈ steps → cost step = 0) : total cost controller steps = 0 := by
  unfold total
  have none : ∀ step ∈ stepsOf controller steps, cost step = 0 := fun step member => free step (mem_stepsOf.mp member)
  generalize stepsOf controller steps = mine at none
  induction mine with
  | nil => rfl
  | cons step rest ih =>
    rw [List.foldl_cons, none step List.mem_cons_self]
    exact ih fun later member => none later (List.mem_cons_of_mem _ member)

theorem RegisterSet.run_fold {set : RegisterSet Request State Step} {registry : Registry} {driver : Driver Request}
    {View : Type} {view : State → View} {change : View → Step → View}
    (respond : ∀ request state, view (set.respond request state).1 = view state)
    (background : ∀ step state next, set.background step state = some next → view next = change (view state) step)
    {d d' : Driven State} {steps : List (ReferenceAction Step)}
    (ran : Transition.run (set.step registry driver) d steps = some d') (controller : ControllerPtr) :
    view (d'.objects controller) =
      (stepsOf controller (steps.flatMap ReferenceAction.backgrounds)).foldl change (view (d.objects controller)) := by
  induction steps generalizing d with
  | nil =>
    cases ran
    rfl
  | cons action rest ih =>
    rw [Transition.run_cons] at ran
    obtain ⟨next, taken, ran⟩ := Option.bind_eq_some_iff.mp ran
    rw [ih ran, List.flatMap_cons]
    cases action with
    | instruction t =>
      obtain ⟨asked, request, -, rfl⟩ := Stamped.step_instruction taken
      rw [ReferenceAction.backgrounds, List.nil_append]
      congr 1
      by_cases mine : controller = asked
      · subst mine
        simp only [Function.update_self, respond]
      · simp only [Function.update_of_ne mine]
    | background other step =>
      obtain ⟨moved, stepped, rfl⟩ := Stamped.step_background taken
      rw [ReferenceAction.backgrounds, List.singleton_append, stepsOf_cons]
      by_cases mine : other = controller
      · subst mine
        simp only [if_true, List.foldl_cons, Function.update_self, background step _ _ stepped]
      · simp only [if_neg mine, Function.update_of_ne (Ne.symm mine)]

/-- In the run of the machine the request behind the first `j` ones is answered by the action `moment j` of the
    driver's thread, with just these complete, or with its own store and without the `HookWrite` of it. -/
structure Moments (cfg : Config Area (ControllerPtr → Object)) (background : Background (ControllerPtr → Object) Step)
    (start : Machine Area (ControllerPtr → Object)) (actions : List (LiveAction Step)) (history : List Loaded)
    (moment : Nat → Nat) : Prop where
  increasing : ∀ j k, j < k → k ≤ history.length → moment j < moment k
  ends : moment history.length = actions.length
  answered : ∀ j < history.length, ∃ m report, actions[moment j]? = some (.processor 0 report) ∧
    Transition.run (Machine.live cfg background) start (actions.take (moment j)) = some m ∧
    Timely (cfg.program 0) (m.threads 0).history (history.take j)

namespace Timed

variable {set : RegisterSet Request State Step} {driver : Driver Request} {initial : ControllerPtr → State}
  {registry : Registry} {d : Driven State} {before : Nat → ControllerPtr → State} {moment : Nat → Nat}
  {answers : List (Option (ReferenceAction Step))} {cfg : Config Area (ControllerPtr → Object)}
  {background : Background (ControllerPtr → Object) Step} {start : Machine Area (ControllerPtr → Object)}
  {actions : List (LiveAction Step)} {related : Machine Area (ControllerPtr → Object) → Driven State → Prop}

theorem moments (timed : Timed set registry driver initial answers d moment before)
    (lockstep : Transition.Lockstep (Machine.live cfg background) (set.step registry driver) related
      (fun m d => ReferenceAction.Answers (UnderWay cfg.program m d.history)) start
      { objects := initial, history := [] } actions answers) :
    Moments cfg background start actions d.history moment where
  increasing := timed.increasing
  ends := timed.ends.trans lockstep.length_eq
  answered := by
    intro j present
    obtain ⟨t, issued⟩ := timed.issued j present
    obtain ⟨m, q, action, ran, reached, issued_by, -, answered⟩ := lockstep.answered_at issued
    rw [timed.reached j (Nat.le_of_lt present), Option.some.injEq] at reached
    subst reached
    cases answered with
    | instruction t report underWay =>
      obtain ⟨rfl, timely⟩ := underWay
      exact ⟨m, report, issued_by, ran, timely⟩

theorem view_before (timed : Timed set registry driver initial answers d moment before)
    (lockstep : Transition.Lockstep (Machine.live cfg background) (set.step registry driver) related
      (fun m d => ReferenceAction.Answers (UnderWay cfg.program m d.history)) start
      { objects := initial, history := [] } actions answers)
    {View : Type} {view : State → View} {change : View → Step → View}
    (respond : ∀ request state, view (set.respond request state).1 = view state)
    (background : ∀ step state next, set.background step state = some next → view next = change (view state) step)
    (controller : ControllerPtr) {j : Nat} (present : j ≤ d.history.length) :
    view (before j controller) =
      (stepsOf controller ((actions.take (moment j)).flatMap LiveAction.backgrounds)).foldl change
        (view (initial controller)) := by
  have reached := timed.reached j present
  rw [Transition.run_stuttering] at reached
  have fold := RegisterSet.run_fold respond background reached controller
  rw [Transition.flatMap_reduceOption, (lockstep.take (moment j)).labels fun _ _ _ _ answered => answered.backgrounds] at fold
  exact fold

theorem total_before (timed : Timed set registry driver initial answers d moment before)
    (lockstep : Transition.Lockstep (Machine.live cfg background) (set.step registry driver) related
      (fun m d => ReferenceAction.Answers (UnderWay cfg.program m d.history)) start
      { objects := initial, history := [] } actions answers)
    {measure : State → Nat} {cost : Step → Nat}
    (respond : ∀ request state, measure (set.respond request state).1 = measure state)
    (background : ∀ step state next, set.background step state = some next → measure next = measure state + cost step)
    (controller : ControllerPtr) (none : measure (initial controller) = 0) {j : Nat} (present : j ≤ d.history.length) :
    measure (before j controller) = total cost controller ((actions.take (moment j)).flatMap LiveAction.backgrounds) := by
  have fold : measure (before j controller) =
      (stepsOf controller ((actions.take (moment j)).flatMap LiveAction.backgrounds)).foldl
        (fun sum step => sum + cost step) (measure (initial controller)) :=
    timed.view_before lockstep respond background controller present
  rw [fold, none, total]

end Timed

end ExMM
