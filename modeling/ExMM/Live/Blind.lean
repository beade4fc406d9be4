import ExMM.Live.Alone

namespace ExMM

variable {Area Device Step : Type}

def Background.Blind (background : Background Device Step) : Prop :=
  ∃ own : ControllerPtr → Step → Device → Option Device, ∀ controller step file device,
    background.step controller step file device = (own controller step device).map fun next => (file, next)

theorem Background.Blind.world {background : Background Device Step} (blind : background.Blind)
    (registry : Registry) (controller : ControllerPtr) (step : Step) :
    ∃ own : Device → Option Device, ∀ world : World Device,
      world.background background registry controller step =
        (own world.device).map fun device => { world with device } := by
  obtain ⟨own, steps⟩ := blind
  refine ⟨fun device => do
    let ioSpace ← registry.ioMap[controller]?
    let _ ← registry.ioSpaces[ioSpace]?
    own controller step device, fun world => ?_⟩
  simp only [World.background, steps]
  cases registry.ioMap[controller]? with
  | none => rfl
  | some ioSpace =>
    simp only [Option.bind_eq_bind, Option.bind_some]
    cases registry.ioSpaces[ioSpace]? with
    | none => rfl
    | some space =>
      simp only [Option.bind_some]
      cases own controller step world.device with
      | none => rfl
      | some next =>
        have kept : Bytes.write world.memory space.publicArea space.size (space.file world.memory) = world.memory :=
          Bytes.write_self _ _ _ _ fun i inside => by simp [IoSpace.file, inside]
        simp [kept]

theorem Reference.access_hookedBy (controllers : ControllerPtr → Controller Device) (registry : Registry)
    (t : ThreadId) (state : World Device × Loaded) (access : Access) :
    Reference.access controllers registry t state access =
      match hookedBy controllers registry access, access.kind with
      | some found, .load => World.access t (Reference.readHook controllers registry t found state.1, state.2) access
      | some found, .store =>
        (Reference.writeHook controllers registry t found (World.access t state access).1,
          (World.access t state access).2)
      | none, _ => World.access t state access := by
  simp only [Reference.access, hookedBy]
  cases registry.owner access.address with
  | none => rfl
  | some found =>
    cases access.kind with
    | load => cases hooks : (controllers found.controller).getHookTypes.and .read <;> simp [hooks]
    | store => cases hooks : (controllers found.controller).getHookTypes.and .write <;> simp [hooks]

/-- The reference device has taken a hooked load at its `HookRead` and takes a hooked store at its
    `HookWrite`. -/
inductive Linearised (controllers : ControllerPtr → Controller Device) (program : ThreadId → Program)
    (registry : Registry) (r : Bare Device) (q : Reference Device) : Pending → Prop
  | settled (world : r.world = q.world) (history : r.history 0 = q.history 0) :
      Linearised controllers program registry r q .nothing
  | loading (access : Access) (next : program 0 (r.history 0) = some [access])
      (hooked : Pending.before access.kind (hookedBy controllers registry access) = .load)
      (world : q.world = (World.access 0 (r.world, []) access).1)
      (history : q.history 0 = r.history 0 ++ [(World.access 0 (r.world, []) access).2]) :
      Linearised controllers program registry r q .load
  | storing (access : Access) (found : Found) (next : program 0 (q.history 0) = some [access])
      (hooked : Pending.after access.kind (hookedBy controllers registry access) = .hookWrite found)
      (world : r.world = (World.access 0 (q.world, []) access).1)
      (history : r.history 0 = q.history 0 ++ [(World.access 0 (q.world, []) access).2]) :
      Linearised controllers program registry r q (.hookWrite found)

theorem Pending.after_hookWrite {kind : AccessKind} {found : Option Found} {owner : Found}
    (hooked : Pending.after kind found = .hookWrite owner) : kind = .store ∧ found = some owner := by
  cases kind with
  | load => cases hooked
  | store =>
    cases found with
    | none => cases hooked
    | some other =>
      cases hooked
      exact ⟨rfl, rfl⟩

/-- An instruction of the reference device stands for one that is not complete, or for a store whose `HookWrite`
    has not been called. -/
inductive Timely (program : Program) (machine reference : List Loaded) : Prop
  | before (same : machine = reference)
  | stored (access : Access) (next : program reference = some [access]) (store : access.kind = .store) (loaded : Loaded)
      (same : machine = reference ++ [loaded])

section

variable {controllers : ControllerPtr → Controller Device} {program : ThreadId → Program} {registry : Registry}
  {background : Background Device Step} {r r' : Bare Device} {q : Reference Device}

def Linearises (controllers : ControllerPtr → Controller Device) (program : ThreadId → Program)
    (registry : Registry) (r r' : Bare Device) (q : Reference Device) : Prop :=
  Linearised controllers program registry r' q (r'.pending 0) ∨
    ∃ q', Reference.step controllers program registry q 0 = some q' ∧ Timely (program 0) (r.history 0) (q.history 0) ∧
      Linearised controllers program registry r' q' (r'.pending 0)

theorem Linearises.instruction {instruction : Instruction} (next : program 0 (q.history 0) = some instruction)
    (timely : Timely (program 0) (r.history 0) (q.history 0))
    (linearised : ∀ q', q'.world = (instruction.foldl (Reference.access controllers registry 0) (q.world, [])).1 →
      q'.history 0 =
          q.history 0 ++ [(instruction.foldl (Reference.access controllers registry 0) (q.world, [])).2] →
        Linearised controllers program registry r' q' (r'.pending 0)) :
    Linearises controllers program registry r r' q := by
  let result := instruction.foldl (Reference.access controllers registry 0) (q.world, [])
  refine Or.inr ⟨{ world := result.1, history := Function.update q.history 0 (q.history 0 ++ [result.2]) }, ?_, timely, ?_⟩
  · simp only [Reference.step, next, Option.map_some, result]
  · refine linearised _ rfl ?_
    simp only [Function.update_self, result]

theorem Linearised.hookRead (linearised : Linearised controllers program registry r q (r.pending 0))
    (quiet : r.pending 0 = .nothing)
    (taken : Bare.step controllers program registry background r (.hookRead 0) = some r') :
    Linearises controllers program registry r r' q := by
  rw [quiet] at linearised
  obtain ⟨world, history⟩ | _ | _ := linearised
  simp only [Bare.step, quiet] at taken
  split at taken
  · cases taken
  · next address width next _ =>
    split at taken
    · next found hooked =>
      split at taken
      · cases taken
      · cases taken
        have reference := Reference.access_hookedBy controllers registry 0 (q.world, []) (.load address width)
        rw [hooked] at reference
        simp only [Access.kind] at reference
        refine .instruction (history ▸ next) (.before history) fun q' world' history' => ?_
        rw [List.foldl_cons, List.foldl_nil, reference] at world' history'
        simp only [Function.update_self]
        refine .loading (.load address width) next ?_ ?_ ?_
        · rw [hooked]
          rfl
        · rw [world', world]
        · rw [history', history, world]
    · cases taken
  · cases taken

theorem Linearised.access (linearised : Linearised controllers program registry r q (r.pending 0))
    (taken : Bare.step controllers program registry background r (.access 0) = some r') :
    Linearises controllers program registry r r' q := by
  simp only [Bare.step] at taken
  split at taken
  · next next =>
    split at taken
    · next quiet =>
      cases taken
      rw [quiet] at linearised
      obtain ⟨world, history⟩ | _ | _ := linearised
      refine .instruction (history ▸ next) (.before history) fun q' world' history' => ?_
      simp only [quiet]
      refine .settled ?_ ?_
      · rw [world', world]
        rfl
      · simp only [history', history, Function.update_self]
        rfl
    · cases taken
  · next access next =>
    split at taken
    · next before =>
      cases taken
      rw [before] at linearised
      cases hooked : hookedBy controllers registry access with
      | none =>
        have quiet : Pending.before access.kind none = .nothing := by cases access.kind <;> rfl
        have after : Pending.after access.kind none = .nothing := by cases access.kind <;> rfl
        rw [hooked, quiet] at linearised
        obtain ⟨world, history⟩ | _ | _ := linearised
        have reference := Reference.access_hookedBy controllers registry 0 (q.world, []) access
        rw [hooked] at reference
        refine .instruction (history ▸ next) (.before history) fun q' world' history' => ?_
        rw [List.foldl_cons, List.foldl_nil, reference] at world' history'
        simp only [Function.update_self, after]
        refine .settled ?_ ?_
        · rw [world', world]
        · simp only [history', history, world, Function.update_self]
      | some found =>
        rw [hooked] at linearised
        cases kind : access.kind with
        | load =>
          rw [kind] at linearised
          obtain _ | ⟨other, issued, _, world, history⟩ | _ := linearised
          obtain rfl : other = access := by
            rw [issued, Option.some.injEq, List.cons.injEq] at next
            exact next.1
          refine Or.inl ?_
          simp only [Function.update_self, Pending.after]
          refine .settled ?_ ?_
          · exact world.symm
          · simp only [history, Function.update_self]
        | store =>
          rw [kind] at linearised
          obtain ⟨world, history⟩ | _ | _ := linearised
          refine Or.inl ?_
          simp only [Function.update_self, Pending.after]
          refine .storing access found (history ▸ next) ?_ ?_ ?_
          · rw [hooked, kind]
            rfl
          · rw [world]
          · simp only [world, history, Function.update_self]
    · cases taken
  · cases taken

theorem Linearised.hookWrite (linearised : Linearised controllers program registry r q (r.pending 0))
    (taken : Bare.step controllers program registry background r (.hookWrite 0) = some r') :
    Linearises controllers program registry r r' q := by
  simp only [Bare.step] at taken
  split at taken
  · next found owes =>
    split at taken
    · cases taken
    · cases taken
      rw [owes] at linearised
      obtain _ | _ | ⟨access, _, next, hooked, world, history⟩ := linearised
      obtain ⟨kind, owner⟩ := Pending.after_hookWrite hooked
      have reference := Reference.access_hookedBy controllers registry 0 (q.world, []) access
      rw [owner, kind] at reference
      refine .instruction next (.stored access next kind _ history) fun q' world' history' => ?_
      rw [List.foldl_cons, List.foldl_nil, reference] at world' history'
      simp only [Function.update_self]
      refine .settled ?_ ?_
      · rw [world', world]
      · rw [history', history]
  · cases taken

theorem Linearised.thread (blind : background.Blind)
    (linearised : Linearised controllers program registry r q (r.pending 0)) {controller : ControllerPtr}
    {step : Step} (taken : Bare.step controllers program registry background r (.background controller step) = some r') :
    ∃ q', Reference.live controllers program registry background q (.background controller step) = some q' ∧
      Linearised controllers program registry r' q' (r'.pending 0) := by
  obtain ⟨own, steps⟩ := blind.world registry controller step
  simp only [Bare.step, steps, Option.map_map] at taken
  obtain ⟨device, moved, rfl⟩ := Option.map_eq_some_iff.mp taken
  have device_eq : r.world.device = q.world.device := by
    generalize r.pending 0 = owed at linearised
    cases linearised with
    | settled world history => rw [world]
    | loading access next hooked world history => rw [world]; cases access <;> rfl
    | storing access found next hooked world history => rw [world]; cases access <;> rfl
  refine ⟨{ q with world := { q.world with device } }, ?_, ?_⟩
  · rw [device_eq] at moved
    simp only [Reference.live, steps, moved, Option.map_some]
  · simp only [Function.comp]
    generalize r.pending 0 = owed at linearised ⊢
    cases linearised with
    | settled world history => exact .settled (by simp only [world]) history
    | loading access next hooked world history =>
      refine .loading access next hooked ?_ ?_
      · cases access <;> simp only [world, World.access]
      · rw [history]
        cases access <;> rfl
    | storing access found next hooked world history =>
      refine .storing access found next hooked ?_ ?_
      · cases access <;> simp only [world, World.access]
      · rw [history]
        cases access <;> rfl

end

section

variable {cfg : Config Area Device} {law : cfg.platform.Law} {registry : Registry}
  {background : Background Device Step} {s s' : Machine Area Device} {q : Reference Device}

inductive ReferenceAction.Answers (underWay : ThreadId → Prop) : LiveAction Step → Option (ReferenceAction Step) → Prop
  | unseen (t : ThreadId) (report : Report) : Answers underWay (.processor t report) none
  | instruction (t : ThreadId) (report : Report) (now : underWay t) :
    Answers underWay (.processor t report) (some (.instruction t))
  | background (controller : ControllerPtr) (step : Step) :
    Answers underWay (.background controller step) (some (.background controller step))

theorem ReferenceAction.Answers.backgrounds {underWay : ThreadId → Prop} {action : LiveAction Step}
    {answer : Option (ReferenceAction Step)} (answers : ReferenceAction.Answers underWay action answer) :
    answer.elim [] ReferenceAction.backgrounds = action.backgrounds := by
  cases answers <;> rfl

def UnderWay (program : ThreadId → Program) (s : Machine Area Device) (history : List Loaded) (t : ThreadId) : Prop :=
  t = 0 ∧ Timely (program 0) (s.threads 0).history history

theorem Solo.linearises (single : SingleAccess cfg.controllers cfg.program registry) (blind : background.Blind)
    (solo : Solo cfg law registry s)
    (linearised : Linearised cfg.controllers cfg.program registry (s.bare cfg) q ((s.bare cfg).pending 0))
    {action : LiveAction Step} (driver : action.Driver) (taken : Machine.live cfg background s action = some s') :
    ∃ answer q', Transition.stuttering (Reference.live cfg.controllers cfg.program registry background) q answer = some q' ∧
      Linearised cfg.controllers cfg.program registry (s'.bare cfg) q' ((s'.bare cfg).pending 0) ∧
      ReferenceAction.Answers (UnderWay cfg.program s (q.history 0)) action answer := by
  have unslipped := solo.unslipped single action fun t report same => by
    subst same
    exact driver
  cases action with
  | processor t report =>
    obtain rfl : t = 0 := driver
    obtain ⟨free, stepped⟩ := Machine.live_processor taken
    have effect := (single.scenario law).step_effect solo.disciplined stepped
    have thread : Linearises cfg.controllers cfg.program registry (s.bare cfg) (s'.bare cfg) q := by
      cases effect.answered single rfl unslipped free with
      | unseen same =>
        refine Or.inl ?_
        rw [same]
        exact linearised
      | hookRead found control taken =>
        have idle := (solo.entering (by simp [Thread.Entering, control])).1
        have quiet : (s.threads 0).pending cfg.controllers = .nothing := by
          simp [Thread.pending, control, idle.breakPoint, BreakPointData.fresh]
        exact linearised.hookRead quiet taken
      | access taken => exact linearised.access taken
      | hookWrite taken => exact linearised.hookWrite taken
    rcases thread with stays | ⟨q', moved, timely, linearised'⟩
    · exact ⟨none, q, rfl, stays, .unseen 0 report⟩
    · exact ⟨some (.instruction 0), q', moved, linearised', .instruction 0 report ⟨rfl, timely⟩⟩
  | background controller step =>
    obtain ⟨world, stepped, rfl⟩ := Machine.live_background taken
    rw [solo.disciplined.same] at stepped
    have alone : Bare.step cfg.controllers cfg.program registry background (s.bare cfg) (.background controller step) =
        some (({ s with world } : Machine Area Device).bare cfg) := by
      simp only [Bare.step, Machine.bare, stepped, Option.map_some]
    obtain ⟨q', moved, linearised'⟩ := linearised.thread blind alone
    exact ⟨some (.background controller step), q', moved, linearised', .background controller step⟩

/-- Whenever thread 0 is between two instructions, the world and what it has loaded are those of the reference
    device, which takes the steps of the threads of the devices when they are taken and an instruction of thread 0
    while it is under way. -/
def DriverLinearises (cfg : Config Area Device) (registry : Registry) (background : Background Device Step)
    (world : World Device) : Prop :=
  ∀ (actions : List (LiveAction Step)) (s : Machine Area Device), (∀ action ∈ actions, action.Driver) →
    Transition.run (Machine.live cfg background) (Machine.boot cfg registry world) actions = some s →
      ∃ answers, Transition.Lockstep (Machine.live cfg background)
        (Reference.live cfg.controllers cfg.program registry background)
        (fun m q => m.Between 0 → m.world = q.world ∧ (m.threads 0).history = q.history 0)
        (fun m q => ReferenceAction.Answers (UnderWay cfg.program m (q.history 0))) (Machine.boot cfg registry world)
        (Reference.start world) actions answers

theorem Solo.settled (solo : Solo cfg law registry s)
    (linearised : Linearised cfg.controllers cfg.program registry (s.bare cfg) q ((s.bare cfg).pending 0))
    (between : s.Between 0) : s.world = q.world ∧ (s.threads 0).history = q.history 0 := by
  have quiet : (s.bare cfg).pending 0 = .nothing := (solo.idle between).pending between.1
  rw [quiet] at linearised
  obtain ⟨same, history⟩ | _ | _ := linearised
  exact ⟨same, history⟩

theorem linearised_lockstep (law : cfg.platform.Law) (single : SingleAccess cfg.controllers cfg.program registry)
    (blind : background.Blind) (world : World Device) {actions : List (LiveAction Step)} {s : Machine Area Device}
    (drivers : ∀ action ∈ actions, action.Driver)
    (ran : Transition.run (Machine.live cfg background) (Machine.boot cfg registry world) actions = some s) :
    ∃ answers, Transition.Lockstep (Machine.live cfg background)
      (Reference.live cfg.controllers cfg.program registry background)
      (fun m q => Solo cfg law registry m ∧
        Linearised cfg.controllers cfg.program registry (m.bare cfg) q ((m.bare cfg).pending 0))
      (fun m q => ReferenceAction.Answers (UnderWay cfg.program m (q.history 0))) (Machine.boot cfg registry world)
      (Reference.start world) actions answers := by
  have keep : ∀ (s : Machine Area Device) (action : LiveAction Step) (s' : Machine Area Device),
      Solo cfg law registry s → action.Driver → Machine.live cfg background s action = some s' →
        Solo cfg law registry s' := fun _ _ _ solo driver taken => (solo.step single driver taken).1
  have meets : Transition.Meets (Machine.live cfg background) (fun _ action => action.Driver)
      (Machine.boot cfg registry world) actions :=
    Transition.meets_of_invariant keep (fun _ _ _ driver => driver) (Solo.boot cfg law registry world) drivers
  have start : Linearised cfg.controllers cfg.program registry ((Machine.boot cfg registry world).bare cfg)
      (Reference.start world) (((Machine.boot cfg registry world).bare cfg).pending 0) := .settled rfl rfl
  refine Transition.lockstep_of_run ?_ ⟨Solo.boot cfg law registry world, start⟩ meets ran
  rintro s q action s' ⟨solo, linearised⟩ driver taken
  obtain ⟨answer, q', moved, linearised', answers⟩ := solo.linearises single blind linearised driver taken
  exact ⟨answer, q', moved, ⟨keep s action s' solo driver taken, linearised'⟩, answers⟩

theorem DriverLinearises.of_law (law : cfg.platform.Law)
    (single : SingleAccess cfg.controllers cfg.program registry) (blind : background.Blind) (world : World Device) :
    DriverLinearises cfg registry background world := by
  intro actions s drivers ran
  obtain ⟨answers, lockstep⟩ := linearised_lockstep law single blind world drivers ran
  exact ⟨answers, lockstep.imp (fun _ _ ⟨solo, linearised⟩ between => solo.settled linearised between)
    fun _ _ _ _ _ _ _ answers => answers⟩

end

/-- Threads that leave the register files alone never come between a hook and its access. -/
theorem driver_linearises (controllers : ControllerPtr → Controller Device) (program : ThreadId → Program)
    (registry : Registry) (single : SingleAccess controllers program registry) (background : Background Device Step)
    (blind : background.Blind) (world : World Device) :
    DriverLinearises { platform := Posix.platform, controllers, program } registry background world ∧
      DriverLinearises { platform := Windows.platform, controllers, program } registry background world :=
  ⟨DriverLinearises.of_law Posix.law single blind world, DriverLinearises.of_law Windows.law single blind world⟩

theorem ticking_blind : ticking.Blind := ⟨fun _ _ count => some (count + 1), fun _ _ _ _ => rfl⟩

theorem copyRegister_linearises :
    DriverLinearises { platform := Posix.platform, controllers := counting, program := fun _ => copyRegister }
        (Registry.after pair) ticking zeroWorld ∧
      DriverLinearises { platform := Windows.platform, controllers := counting, program := fun _ => copyRegister }
        (Registry.after pair) ticking zeroWorld :=
  driver_linearises counting (fun _ => copyRegister) (Registry.after pair) single_copyRegister ticking ticking_blind
    zeroWorld

end ExMM
