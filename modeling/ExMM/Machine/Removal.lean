import Mathlib.Data.List.Induction
import ExMM.Machine.DeviceModel
import ExMM.Machine.Instructions

namespace ExMM

variable {Area Device : Type}

inductive Machine.Action
  | thread (t : ThreadId) (report : Report)
  | lifetime (event : Lifetime)

namespace Machine

def lifetimes (actions : List Action) : List Lifetime :=
  actions.filterMap fun
    | .thread _ _ => none
    | .lifetime event => some event

/-- `Add` and `Remove` as one step each: the lock covers their bodies. A new area is all zeros. -/
def applyLifetime (cfg : Config Area Device) (s : Machine Area Device) : Lifetime → Machine Area Device
  | .construct controller size hookTypes allocation =>
    { s with
      registry := (s.registry.add controller size hookTypes allocation).1
      areas := Function.update s.areas allocation.ioSpace (cfg.platform.initializeArea hookTypes)
      world := { s.world with
        memory := Bytes.write s.world.memory allocation.publicArea size fun _ => 0 } }
  | .destroy controller => { s with registry := s.registry.remove controller }

def act (cfg : Config Area Device) (s : Machine Area Device) : Action → Option (Machine Area Device)
  | .thread t report => step cfg s (t, report)
  | .lifetime event => if s.process = .killed then none else some (s.applyLifetime cfg event)

end Machine

def Control.Names : Control → Option ControllerPtr → IoSpacePtr → Prop
  | .doHookRead found, controller, ioSpace | .unprotect found _, controller, ioSpace
  | .installBreakPoint found _, controller, ioSpace =>
    controller = some found.controller ∧ ioSpace = found.ioSpace
  | .doHookWrite owned named _, controller, ioSpace => controller = some named ∧ ioSpace = owned
  | .uninstallBreakPoint owned, controller, ioSpace | .restoreProtection owned, controller, ioSpace =>
    controller = none ∧ ioSpace = owned
  | .user, _, _ | .findController _ _, _, _ | .getBreakPoint, _, _ => False

/-- The thread has the pointers in a handler's locals or in its active record; the record of a read has
    no controller. -/
def Thread.Held (thread : Thread) (controller : Option ControllerPtr) (ioSpace : IoSpacePtr) : Prop :=
  (thread.breakPoint.active = true ∧ thread.breakPoint.ioSpace = some ioSpace ∧
    thread.breakPoint.controller = controller) ∨ thread.control.Names controller ioSpace

def Machine.Returns (s : Machine Area Device) (t : ThreadId) (found : Found) : Prop :=
  ∃ siAddr write, (s.threads t).control = .findController siAddr write ∧
    s.registry.findController siAddr = some (some found)

def Registry.Has (registry : Registry) (found : Found) : Prop :=
  registry.ioMap[found.controller]? = some found.ioSpace ∧
    ∃ space, registry.ioSpaces[found.ioSpace]? = some space

namespace Machine

variable {cfg : Config Area Device} {s s' : Machine Area Device} {t u : ThreadId} {report : Report}

@[simp] theorem applyLifetime_registry (cfg : Config Area Device) (s : Machine Area Device) (event : Lifetime) :
    (s.applyLifetime cfg event).registry = s.registry.apply event := by
  cases event <;> rfl

@[simp] theorem applyLifetime_threads (cfg : Config Area Device) (s : Machine Area Device) (event : Lifetime) :
    (s.applyLifetime cfg event).threads = s.threads := by
  cases event <;> rfl

theorem stepUser_registry (cfg : Config Area Device) (s : Machine Area Device) (t : ThreadId) (report : Report)
    (instruction : Instruction) : (s.stepUser cfg t report instruction).registry = s.registry := by
  rcases stepUser_cases cfg s t report instruction with ⟨-, executed⟩ | ⟨access, a, -, faulted⟩
  · rw [executed]
    rfl
  · rw [faulted, fault]
    split <;> rfl

theorem stepUser_held {instruction : Instruction} {controller : Option ControllerPtr} {ioSpace : IoSpacePtr}
    (held : ((s.stepUser cfg t report instruction).threads t).Held controller ioSpace) :
    (s.threads t).Held controller ioSpace := by
  rcases stepUser_cases cfg s t report instruction with ⟨-, executed⟩ | ⟨access, a, -, faulted⟩
  · rw [executed, Thread.Held, execute_self] at held
    rcases held with recorded | named
    · exact Or.inl recorded
    · split at named <;> cases named
  · rw [faulted, fault] at held
    split at held
    · rw [Thread.Held, setThread_self] at held
      rcases held with recorded | named
      · exact Or.inl recorded
      · cases named
    · exact held

def Kept (s : Machine Area Device) (t : ThreadId) (controller : Option ControllerPtr) (ioSpace : IoSpacePtr) :
    Prop :=
  ∃ earlier, (s.threads t).Held earlier ioSpace ∧ ∀ c, controller = some c → earlier = some c

theorem Kept.of_held {controller : Option ControllerPtr} {ioSpace : IoSpacePtr}
    (held : (s.threads t).Held controller ioSpace) : s.Kept t controller ioSpace :=
  ⟨controller, held, fun _ same => same⟩

theorem Kept.without_controller {controller named : Option ControllerPtr} {ioSpace : IoSpacePtr}
    (held : (s.threads t).Held named ioSpace) (none : controller = none) : s.Kept t controller ioSpace := by
  refine ⟨named, held, fun c same => ?_⟩
  rw [none] at same
  cases same

theorem goto_held {next : Control} {controller : Option ControllerPtr} {ioSpace : IoSpacePtr}
    (held : ((s.goto t next).threads t).Held controller ioSpace) :
    (s.threads t).Held controller ioSpace ∨ next.Names controller ioSpace := by
  rw [goto_self] at held
  exact held.imp_left Or.inl

theorem Kept.goto {next : Control} {controller : Option ControllerPtr} {ioSpace : IoSpacePtr}
    (held : ((s.goto t next).threads t).Held controller ioSpace)
    (locals : next.Names controller ioSpace → s.Kept t controller ioSpace) : s.Kept t controller ioSpace := by
  rcases goto_held held with recorded | named
  · exact .of_held recorded
  · exact locals named

theorem stepHandler_held {control : Control} (here : (s.threads t).control = control)
    (taken : s.stepHandler cfg t control = some s') : s'.registry = s.registry ∧
      ∀ controller ioSpace, (s'.threads t).Held controller ioSpace → s.Kept t controller ioSpace ∨
        ∃ found, s.Returns t found ∧ controller = some found.controller ∧ ioSpace = found.ioSpace := by
  have locals : ∀ {controller ioSpace}, control.Names controller ioSpace →
      (s.threads t).Held controller ioSpace := fun named => Or.inr (here ▸ named)
  cases control with
  | user => cases taken
  | findController a write =>
    simp only [stepHandler] at taken
    split at taken
    · cases taken
    · cases taken
      exact ⟨rfl, fun controller ioSpace held => Or.inl (Kept.goto held fun named => named.elim)⟩
    · next found returned =>
      cases taken
      refine ⟨rfl, fun controller ioSpace held => ?_⟩
      rcases goto_held held with recorded | named
      · exact Or.inl (.of_held recorded)
      · refine Or.inr ⟨found, ⟨a, write, here, returned⟩, ?_⟩
        cases write <;> exact named
  | doHookRead found =>
    simp only [stepHandler, Option.bind_eq_bind, Option.bind_eq_some_iff] at taken
    obtain ⟨space, -, same⟩ := taken
    cases same
    exact ⟨rfl, fun controller ioSpace held => Or.inl (Kept.goto held fun named => .of_held (locals named))⟩
  | unprotect found write =>
    simp only [stepHandler, Option.bind_eq_bind, Option.bind_eq_some_iff] at taken
    obtain ⟨space, -, area, -, same⟩ := taken
    cases same
    exact ⟨rfl, fun controller ioSpace held => Or.inl (Kept.goto held fun named => .of_held (locals named))⟩
  | installBreakPoint found write =>
    cases taken
    refine ⟨rfl, fun controller ioSpace held => Or.inl ?_⟩
    rw [Thread.Held, setThread_self] at held
    rcases held with ⟨-, owned, named⟩ | named
    · refine ⟨some found.controller, locals ⟨rfl, ?_⟩, fun c same => ?_⟩
      · cases write <;> exact (Option.some.inj owned).symm
      · rw [same] at named
        cases write with
        | false => cases named
        | true => exact named
    · cases named
  | getBreakPoint =>
    simp only [stepHandler] at taken
    split at taken
    · next active =>
      simp only [Option.bind_eq_bind, Option.bind_eq_some_iff] at taken
      obtain ⟨owned, recorded, same⟩ := taken
      have record : (s.threads t).Held (s.threads t).breakPoint.controller owned :=
        Or.inl ⟨active, recorded, rfl⟩
      have plain : ∀ {controller ioSpace},
          ((s.goto t (.uninstallBreakPoint owned)).threads t).Held controller ioSpace →
            s.Kept t controller ioSpace := by
        intro controller ioSpace held
        refine Kept.goto held ?_
        rintro ⟨none, rfl⟩
        exact .without_controller record none
      split at same
      · next named present =>
        split at same
        · cases same
          refine ⟨rfl, fun controller ioSpace held => Or.inl (Kept.goto held ?_)⟩
          rintro ⟨rfl, rfl⟩
          rw [present] at record
          exact .of_held record
        · cases same
          exact ⟨rfl, fun controller ioSpace held => Or.inl (plain held)⟩
      · cases same
        exact ⟨rfl, fun controller ioSpace held => Or.inl (plain held)⟩
    · cases taken
      exact ⟨rfl, fun controller ioSpace held => Or.inl (Kept.goto held fun named => named.elim)⟩
  | doHookWrite owned named offset =>
    simp only [stepHandler, Option.bind_eq_bind, Option.bind_eq_some_iff] at taken
    obtain ⟨space, -, same⟩ := taken
    cases same
    refine ⟨rfl, fun controller ioSpace held => Or.inl (Kept.goto held ?_)⟩
    rintro ⟨none, rfl⟩
    exact .without_controller (locals ⟨rfl, rfl⟩) none
  | uninstallBreakPoint owned =>
    cases taken
    refine ⟨rfl, fun controller ioSpace held => Or.inl ?_⟩
    rw [Thread.Held, setThread_self] at held
    rcases held with ⟨active, -⟩ | named
    · cases active
    · exact .of_held (locals named)
  | restoreProtection owned =>
    simp only [stepHandler, Option.bind_eq_bind, Option.bind_eq_some_iff] at taken
    obtain ⟨space, -, area, -, same⟩ := taken
    cases same
    exact ⟨rfl, fun controller ioSpace held => Or.inl (Kept.goto held fun named => named.elim)⟩

theorem step_held (taken : step cfg s (t, report) = some s') : s'.registry = s.registry ∧
    ∀ u controller ioSpace, (s'.threads u).Held controller ioSpace → s.Kept u controller ioSpace ∨
      u = t ∧ ∃ found, s.Returns t found ∧ controller = some found.controller ∧ ioSpace = found.ioSpace := by
  have own : s'.registry = s.registry ∧ ∀ controller ioSpace, (s'.threads t).Held controller ioSpace →
      s.Kept t controller ioSpace ∨
        ∃ found, s.Returns t found ∧ controller = some found.controller ∧ ioSpace = found.ioSpace := by
    have statement := taken
    simp only [step] at statement
    split at statement
    · cases statement
    · split at statement
      · obtain ⟨instruction, -, rfl⟩ := Option.map_eq_some_iff.mp statement
        exact ⟨stepUser_registry cfg s t report instruction,
          fun controller ioSpace held => Or.inl (.of_held (stepUser_held held))⟩
      · exact stepHandler_held rfl statement
  refine ⟨own.1, fun u controller ioSpace held => ?_⟩
  by_cases mine : u = t
  · subst mine
    exact (own.2 controller ioSpace held).imp_right fun returned => ⟨rfl, returned⟩
  · rw [step_other taken mine] at held
    exact Or.inl (.of_held held)

end Machine

theorem Registry.Resolves.has {registry : Registry} {a : Nat} {found : Found}
    (resolves : registry.Resolves a found) : registry.Has found := by
  obtain ⟨entry, space, present, -⟩ := resolves
  exact ⟨entry, space, present⟩

theorem Registry.WellFormed.has_apply {registry : Registry} (registered : registry.WellFormed) {found : Found}
    (has : registry.Has found) {event : Lifetime} (spared : event ≠ .destroy found.controller) :
    (registry.apply event).Has found := by
  obtain ⟨entry, space, present⟩ := has
  cases event with
  | construct controller size hookTypes allocation =>
    constructor
    · have known : ¬ (compare controller found.controller = .eq ∧ controller ∉ registry.ioMap) := by
        rintro ⟨same, absent⟩
        rw [Std.compare_eq_iff_eq] at same
        subst same
        rw [Std.TreeMap.getElem?_eq_none absent] at entry
        cases entry
      simp only [apply, add, initPlatform_ioMap, Std.TreeMap.getElem?_insertIfNew, if_neg known, entry]
    · simp only [apply, add, initPlatform_ioSpaces, Std.TreeMap.getElem?_insert, present]
      split
      · exact ⟨_, rfl⟩
      · exact ⟨space, rfl⟩
  | destroy controller =>
    have other : controller ≠ found.controller := fun same => spared (congrArg Lifetime.destroy same)
    simp only [apply, remove]
    cases owned : registry.ioMap[controller]? with
    | none => exact ⟨entry, space, present⟩
    | some ioSpace =>
      have apart : ioSpace ≠ found.ioSpace := by
        rintro rfl
        exact other (registered.distinct owned entry)
      constructor
      · simp only [Std.TreeMap.getElem?_erase, Std.compare_eq_iff_eq, if_neg other, entry]
      · exact ⟨space, by simp only [Std.TreeMap.getElem?_erase, Std.compare_eq_iff_eq, if_neg apart, present]⟩

def Found.Matches (found : Found) (controller : Option ControllerPtr) (ioSpace : IoSpacePtr) : Prop :=
  ioSpace = found.ioSpace ∧ ∀ c, controller = some c → c = found.controller

namespace Machine

/-- A `FindController` of this run has returned `found` to the thread, and `found` is still registered
    unless its controller has been removed since. -/
def Obtained (cfg : Config Area Device) (world : World Device) (actions : List Action)
    (s : Machine Area Device) (t : ThreadId) (found : Found) : Prop :=
  ∃ (earlier : List Action) (report : Report) (later : List Action) (m : Machine Area Device),
    actions = earlier ++ .thread t report :: later ∧
    Transition.run (act cfg) (boot cfg .empty world) earlier = some m ∧
    m.Returns t found ∧ m.registry.Has found ∧
    (.lifetime (.destroy found.controller) ∉ later → s.registry.Has found)

def Spared (s : Machine Area Device) : Action → Prop
  | .lifetime (.destroy controller) => ∀ t named ioSpace, (s.threads t).Held named ioSpace →
      s.registry.ioMap[controller]? ≠ some ioSpace
  | _ => True

def AllRegistered (s : Machine Area Device) : Prop :=
  ∀ t controller ioSpace, (s.threads t).Held controller ioSpace →
    ∃ found : Found, found.Matches controller ioSpace ∧ s.registry.Has found

section

variable {cfg : Config Area Device} {world : World Device} {s s' : Machine Area Device} {t : ThreadId}
  {found : Found} {actions : List Action}

theorem Obtained.extend (obtained : Obtained cfg world actions s t found) (action : Action)
    (keeps : action ≠ .lifetime (.destroy found.controller) → s.registry.Has found → s'.registry.Has found) :
    Obtained cfg world (actions ++ [action]) s' t found := by
  obtain ⟨earlier, report, later, m, rfl, ran, returns, has, registered⟩ := obtained
  refine ⟨earlier, report, later ++ [action], m, by simp, ran, returns, has, fun spared => ?_⟩
  simp only [List.mem_append, List.mem_singleton, not_or] at spared
  exact keeps (Ne.symm spared.2) (registered spared.1)

theorem run_registry (ran : Transition.run (act cfg) s actions = some s') :
    s'.registry = (lifetimes actions).foldl Registry.apply s.registry := by
  induction actions generalizing s with
  | nil =>
    cases ran
    rfl
  | cons action rest ih =>
    rw [Transition.run_cons] at ran
    obtain ⟨next, taken, ran⟩ := Option.bind_eq_some_iff.mp ran
    rw [ih ran]
    cases action with
    | thread t report =>
      rw [(step_held taken).1]
      rfl
    | lifetime event =>
      simp only [act] at taken
      split at taken
      · cases taken
      · cases taken
        rw [applyLifetime_registry]
        rfl

theorem act_lifetime {event : Lifetime} (taken : act cfg s (.lifetime event) = some s') :
    s'.threads = s.threads ∧ s'.registry = s.registry.apply event := by
  simp only [act] at taken
  split at taken
  · cases taken
  · cases taken
    exact ⟨applyLifetime_threads cfg s event, applyLifetime_registry cfg s event⟩

theorem run_threads (ran : Transition.run (act cfg) s actions = some s')
    (others : ∀ report, .thread t report ∉ actions) : s'.threads t = s.threads t := by
  induction actions generalizing s with
  | nil =>
    cases ran
    rfl
  | cons action rest ih =>
    rw [Transition.run_cons] at ran
    obtain ⟨next, taken, ran⟩ := Option.bind_eq_some_iff.mp ran
    rw [ih ran fun report member => others report (List.mem_cons_of_mem _ member)]
    cases action with
    | thread u report =>
      refine step_other taken fun same => ?_
      subst same
      exact others report List.mem_cons_self
    | lifetime event => exact congrFun (act_lifetime taken).1 t

theorem promised_prefix {live : List LiveController} {first second : List Lifetime}
    (promised : LiveController.Promised live (first ++ second)) : LiveController.Promised live first := by
  induction first generalizing live with
  | nil => trivial
  | cons event rest ih => exact ⟨promised.1, ih promised.2⟩

theorem run_wellFormed (promised : LiveController.Promised [] (lifetimes actions))
    (ran : Transition.run (act cfg) (boot cfg .empty world) actions = some s) : s.registry.WellFormed := by
  obtain ⟨represents, formed⟩ := Registry.represents_after (lifetimes actions) promised
  have same : s.registry = Registry.after (lifetimes actions) := run_registry ran
  rw [same]
  exact represents.wellFormed formed

theorem held_obtained (promised : LiveController.Promised [] (lifetimes actions))
    (ran : Transition.run (act cfg) (boot cfg .empty world) actions = some s) (t : ThreadId)
    (controller : Option ControllerPtr) (ioSpace : IoSpacePtr) (held : (s.threads t).Held controller ioSpace) :
    ∃ found : Found, found.Matches controller ioSpace ∧ Obtained cfg world actions s t found := by
  induction actions using List.reverseRecOn generalizing s t controller ioSpace with
  | nil =>
    cases ran
    rcases held with ⟨active, -⟩ | named
    · cases active
    · cases named
  | append_singleton actions action ih =>
    rw [Transition.run_append] at ran
    obtain ⟨m, before, last⟩ := Option.bind_eq_some_iff.mp ran
    rw [Transition.run_single] at last
    rw [lifetimes, List.filterMap_append] at promised
    have earlier := promised_prefix promised
    have registered := run_wellFormed earlier before
    cases action with
    | thread u report =>
      obtain ⟨same, source⟩ := step_held last
      rcases source t controller ioSpace held with ⟨named, held', weaker⟩ | ⟨rfl, found, returns, rfl, rfl⟩
      · obtain ⟨found, ⟨owned, matching⟩, obtained⟩ := ih earlier before t named ioSpace held'
        refine ⟨found, ⟨owned, fun c given => matching c (weaker c given)⟩, obtained.extend _ fun _ has => ?_⟩
        rw [same]
        exact has
      · have has : m.registry.Has found := by
          obtain ⟨siAddr, write, -, returned⟩ := returns
          exact ((registered.findController_some siAddr found).mp returned).has
        refine ⟨found, ⟨rfl, fun c given => (Option.some.inj given).symm⟩, actions, report, [], m, rfl, before,
          returns, has, fun _ => ?_⟩
        rw [same]
        exact has
    | lifetime event =>
      obtain ⟨threads, registry⟩ := act_lifetime last
      rw [threads] at held
      obtain ⟨found, matching, obtained⟩ := ih earlier before t controller ioSpace held
      refine ⟨found, matching, obtained.extend _ fun spared has => ?_⟩
      rw [registry]
      exact registered.has_apply has fun same => spared (congrArg Action.lifetime same)

theorem AllRegistered.step {live : List LiveController} (all : s.AllRegistered)
    (represents : s.registry.Represents live) (formed : LiveController.WellFormed live) {action : Action}
    (spared : s.Spared action) (taken : act cfg s action = some s') : s'.AllRegistered := by
  intro t controller ioSpace held
  cases action with
  | thread u report =>
    obtain ⟨same, source⟩ := step_held taken
    rw [same]
    rcases source t controller ioSpace held with ⟨named, held', weaker⟩ | ⟨rfl, found, returns, rfl, rfl⟩
    · obtain ⟨found, ⟨owned, matching⟩, has⟩ := all t named ioSpace held'
      exact ⟨found, ⟨owned, fun c given => matching c (weaker c given)⟩, has⟩
    · obtain ⟨siAddr, write, -, returned⟩ := returns
      have resolves := ((represents.wellFormed formed).findController_some siAddr found).mp returned
      exact ⟨found, ⟨rfl, fun c given => (Option.some.inj given).symm⟩, resolves.has⟩
  | lifetime event =>
    obtain ⟨threads, registry⟩ := act_lifetime taken
    rw [threads] at held
    obtain ⟨found, matching, has⟩ := all t controller ioSpace held
    refine ⟨found, matching, ?_⟩
    rw [registry]
    refine (represents.wellFormed formed).has_apply has ?_
    rintro rfl
    refine spared t controller ioSpace held ?_
    rw [matching.1]
    exact has.1

theorem AllRegistered.run {live : List LiveController} (all : s.AllRegistered)
    (represents : s.registry.Represents live) (formed : LiveController.WellFormed live)
    (promised : LiveController.Promised live (lifetimes actions))
    (meets : Transition.Meets (act cfg) Spared s actions)
    (ran : Transition.run (act cfg) s actions = some s') : s'.AllRegistered := by
  induction actions generalizing s live with
  | nil =>
    cases ran
    exact all
  | cons action rest ih =>
    obtain ⟨spared, later⟩ := meets
    rw [Transition.run_cons] at ran
    obtain ⟨next, taken, onwards⟩ := Option.bind_eq_some_iff.mp ran
    have kept := all.step represents formed spared taken
    cases action with
    | thread t report =>
      have same := (step_held taken).1
      exact ih kept (same ▸ represents) formed promised (later next taken) onwards
    | lifetime event =>
      obtain ⟨permits, promised⟩ := promised
      obtain ⟨represents', formed'⟩ := Registry.represents_fold [event] represents formed ⟨permits, trivial⟩
      have same := (act_lifetime taken).2
      exact ih kept (same ▸ represents') formed' promised (later next taken) onwards

end

end Machine

/-- Handlers keep raw pointers after `FindController` has released the mutex: what they hold was registered
    when they got it, and is for as long as nobody removes it. -/
theorem held_until_removed (cfg : Config Area Device) (world : World Device) (actions : List Machine.Action)
    (promised : LiveController.Promised [] (Machine.lifetimes actions)) (s : Machine Area Device)
    (ran : Transition.run (Machine.act cfg) (Machine.boot cfg Registry.empty world) actions = some s) :
    (∀ t controller ioSpace, (s.threads t).Held controller ioSpace →
      ∃ found : Found, found.Matches controller ioSpace ∧ Machine.Obtained cfg world actions s t found) ∧
    (Transition.Meets (Machine.act cfg) Machine.Spared (Machine.boot cfg Registry.empty world) actions →
      s.AllRegistered) := by
  refine ⟨Machine.held_obtained promised ran, fun meets => ?_⟩
  have start : (Machine.boot cfg Registry.empty world).AllRegistered := by
    rintro t controller ioSpace (⟨active, -⟩ | named)
    · cases active
    · cases named
  exact start.run Registry.represents_empty ⟨by simp, by simp⟩ promised meets ran

def lookedUp : List Machine.Action :=
  [.lifetime (.construct 8 64 .readWrite ⟨100, 0x10000, 0x50000⟩),
    .thread 0 { choice := 0, write := false }, .thread 0 { choice := 0, write := false }]

def looking : List Machine.Action :=
  .lifetime (.construct 4 64 .write ⟨200, 0x11000, 0x60000⟩) :: lookedUp

def otherRemoved : List Machine.Action := looking ++ [.lifetime (.destroy 4)]

theorem looking_spared {m : Machine Posix.IoSpace Nat}
    (ran : Transition.run (Machine.act (Posix.config counting fun _ => copyRegister))
      (Machine.boot (Posix.config counting fun _ => copyRegister) Registry.empty zeroWorld) looking = some m) :
    m.Spared (.lifetime (.destroy 4)) := by
  have computed : (Transition.run (Machine.act (Posix.config counting fun _ => copyRegister))
      (Machine.boot (Posix.config counting fun _ => copyRegister) Registry.empty zeroWorld) looking).map
        (fun m => ((m.threads 0).control, (m.threads 0).breakPoint.active, m.registry.ioMap[4]?)) =
          some (.doHookRead ⟨8, 100, 0⟩, false, some 200) := by decide
  rw [ran] at computed
  simp only [Option.map_some, Option.some.injEq, Prod.mk.injEq] at computed
  obtain ⟨control, inactive, entry⟩ := computed
  intro t named ioSpace held same
  obtain rfl : 200 = ioSpace := Option.some.inj (entry.symm.trans same)
  by_cases mine : t = 0
  · subst mine
    rcases held with ⟨active, -⟩ | names
    · rw [inactive] at active
      cases active
    · rw [control] at names
      cases names.2
  · have idle : m.threads t = Thread.start := Machine.run_threads ran (fun report member => by
      simp only [looking, lookedUp, List.mem_cons, Machine.Action.thread.injEq, reduceCtorEq, List.not_mem_nil,
        or_false, false_or] at member
      rcases member with ⟨same, -⟩ | ⟨same, -⟩ <;> exact mine same)
    rw [idle] at held
    rcases held with ⟨active, -⟩ | names
    · cases active
    · cases names

theorem otherRemoved_registered : ∃ s : Machine Posix.IoSpace Nat,
    Transition.run (Machine.act (Posix.config counting fun _ => copyRegister))
      (Machine.boot (Posix.config counting fun _ => copyRegister) Registry.empty zeroWorld) otherRemoved = some s ∧
    (s.threads 0).Held (some 8) 100 ∧ s.registry.ioMap[4]? = none ∧ s.AllRegistered := by
  have computed : (Transition.run (Machine.act (Posix.config counting fun _ => copyRegister))
      (Machine.boot (Posix.config counting fun _ => copyRegister) Registry.empty zeroWorld) otherRemoved).map
        (fun s => ((s.threads 0).control, s.registry.ioMap[4]?)) = some (.doHookRead ⟨8, 100, 0⟩, none) := by decide
  obtain ⟨s, ran, result⟩ := Option.map_eq_some_iff.mp computed
  simp only [Prod.mk.injEq] at result
  obtain ⟨control, removed⟩ := result
  have named : (s.threads 0).Held (some 8) 100 := by
    rw [Thread.Held, control]
    exact Or.inr ⟨rfl, rfl⟩
  have held := held_until_removed _ zeroWorld otherRemoved (by decide) s ran
  refine ⟨s, ran, named, removed, held.2 (Transition.meets_append.mpr ⟨?_, fun m reached => ?_⟩)⟩
  · exact ⟨trivial, fun _ _ => ⟨trivial, fun _ _ => ⟨trivial, fun _ _ => ⟨trivial, fun _ _ => trivial⟩⟩⟩⟩
  · exact ⟨looking_spared reached, fun _ _ => trivial⟩

def destroyedEarly : List Machine.Action := lookedUp ++ [.lifetime (.destroy 8)]

def destroyedLate : List Machine.Action :=
  lookedUp ++ List.replicate 3 (.thread 0 { choice := 0, write := false }) ++ [.lifetime (.destroy 8)]

/-- The controller is destroyed right after the lookup, or between the fault and the trap. -/
theorem removal_leaves_dangling :
    LiveController.Promised [] (Machine.lifetimes destroyedEarly) ∧
    (∃ s : Machine Posix.IoSpace Nat,
      Transition.run (Machine.act (Posix.config counting fun _ => copyRegister))
        (Machine.boot (Posix.config counting fun _ => copyRegister) Registry.empty zeroWorld) destroyedEarly =
          some s ∧
      (s.threads 0).control = .doHookRead ⟨8, 100, 0⟩ ∧ (s.threads 0).Held (some 8) 100 ∧
      s.registry.ioMap[8]? = none ∧ s.registry.ioSpaces[100]? = none) ∧
    LiveController.Promised [] (Machine.lifetimes destroyedLate) ∧
    (∃ s : Machine Posix.IoSpace Nat,
      Transition.run (Machine.act (Posix.config counting fun _ => copyRegister))
        (Machine.boot (Posix.config counting fun _ => copyRegister) Registry.empty zeroWorld) destroyedLate =
          some s ∧
      (s.threads 0).breakPoint.active = true ∧ (s.threads 0).breakPoint.ioSpace = some 100 ∧
      ∀ controller : ControllerPtr, s.registry.ioMap[controller]? = none) := by
  refine ⟨by decide, ?_, by decide, ?_⟩
  · have computed : (Transition.run (Machine.act (Posix.config counting fun _ => copyRegister))
        (Machine.boot (Posix.config counting fun _ => copyRegister) Registry.empty zeroWorld) destroyedEarly).map
          (fun s => ((s.threads 0).control, s.registry.ioMap[8]?, s.registry.ioSpaces[100]?)) =
            some (.doHookRead ⟨8, 100, 0⟩, none, none) := by decide
    obtain ⟨s, ran, result⟩ := Option.map_eq_some_iff.mp computed
    simp only [Prod.mk.injEq] at result
    obtain ⟨control, entry, object⟩ := result
    have named : (s.threads 0).Held (some 8) 100 := by
      rw [Thread.Held, control]
      exact Or.inr ⟨rfl, rfl⟩
    exact ⟨s, ran, control, named, entry, object⟩
  · have computed : (Transition.run (Machine.act (Posix.config counting fun _ => copyRegister))
        (Machine.boot (Posix.config counting fun _ => copyRegister) Registry.empty zeroWorld) destroyedLate).map
          (fun s => ((s.threads 0).breakPoint.active, (s.threads 0).breakPoint.ioSpace,
            s.registry.ioMap.isEmpty)) = some (true, some 100, true) := by decide
    obtain ⟨s, ran, result⟩ := Option.map_eq_some_iff.mp computed
    simp only [Prod.mk.injEq] at result
    obtain ⟨active, ioSpace, empty⟩ := result
    exact ⟨s, ran, active, ioSpace, fun controller => Std.TreeMap.getElem?_of_isEmpty empty⟩

end ExMM
