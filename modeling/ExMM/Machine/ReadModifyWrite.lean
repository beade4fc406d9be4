import ExMM.Machine.HookTypes

namespace ExMM

variable {Area Device : Type}

structure ReadModifyWrite where
  source : Nat
  width : Nat
  target : Nat
  targetWidth : Nat
  value : Loaded → Nat → Byte

namespace ReadModifyWrite

def load (rmw : ReadModifyWrite) : Access := .load rmw.source rmw.width

def store (rmw : ReadModifyWrite) : Access := .store rmw.target rmw.targetWidth rmw.value

def instruction (rmw : ReadModifyWrite) : Instruction := [rmw.load, rmw.store]

structure Hooked (rmw : ReadModifyWrite) (controllers : ControllerPtr → Controller Device)
    (registry : Registry) (load store : Found) : Prop where
  coversLoad : registry.Covers rmw.load load
  coversStore : registry.Covers rmw.store store
  same : load.controller = store.controller
  readWrite : (controllers load.controller).getHookTypes = .readWrite

end ReadModifyWrite

structure BothHooks (controllers : ControllerPtr → Controller Device) (registry : Registry)
    (rmw : ReadModifyWrite) (load store : Found) (before after : World Device) : Prop where
  trace : ∃ loaded stored, after.trace = before.trace ++
    [.hookRead 0 load.controller load.offset, .load 0 rmw.source loaded, .store 0 rmw.target stored,
      .hookWrite 0 store.controller store.offset]
  memory : after.memory =
    (rmw.instruction.foldl (Reference.access controllers registry 0) (before, [])).1.memory

/-- What the handlers make of it: the hook that the report of its one fault asks for, or none in an area
    that an earlier instruction has left open. -/
inductive OneHook (rmw : ReadModifyWrite) (load store : Found) (before after : World Device) : Prop
  | read (found : Found) (loaded stored : List Byte) (place : found = load ∨ found = store)
      (trace : after.trace = before.trace ++ [.hookRead 0 found.controller found.offset,
        .load 0 rmw.source loaded, .store 0 rmw.target stored])
  | write (found : Found) (loaded stored : List Byte) (place : found = load ∨ found = store)
      (trace : after.trace = before.trace ++ [.load 0 rmw.source loaded, .store 0 rmw.target stored,
        .hookWrite 0 found.controller found.offset])
  | none (loaded stored : List Byte)
      (trace : after.trace = before.trace ++ [.load 0 rmw.source loaded, .store 0 rmw.target stored])

theorem OneHook.not_both {controllers : ControllerPtr → Controller Device} {registry : Registry}
    {rmw : ReadModifyWrite} {load store : Found} {before after : World Device}
    (one : OneHook rmw load store before after) :
    ¬ BothHooks controllers registry rmw load store before after := by
  rintro ⟨⟨loaded, stored, both⟩, -⟩
  cases one with
  | read found loaded stored place trace => simp [trace] at both
  | write found loaded stored place trace => simp [trace] at both
  | none loaded stored trace => simp [trace] at both

namespace ReadModifyWrite.Hooked

variable {cfg : Config Area Device} {controllers : ControllerPtr → Controller Device} {registry : Registry}
  {rmw : ReadModifyWrite} {load store : Found} {s : Machine Area Device}

theorem ioSpace_eq (hooked : rmw.Hooked controllers registry load store) : load.ioSpace = store.ioSpace := by
  have entry := hooked.coversLoad.1
  rw [hooked.same, hooked.coversStore.1] at entry
  exact (Option.some.inj entry).symm

theorem ioSpace_of_place (hooked : rmw.Hooked controllers registry load store) {found : Found}
    (place : found = load ∨ found = store) : found.ioSpace = load.ioSpace := by
  rcases place with rfl | rfl
  · rfl
  · exact hooked.ioSpace_eq.symm

theorem present (hooked : rmw.Hooked controllers registry load store) {found : Found}
    (place : found = load ∨ found = store) : ∃ space, registry.ioSpaces[found.ioSpace]? = some space := by
  obtain ⟨-, space, present, -⟩ := hooked.coversLoad
  exact ⟨space, by rw [hooked.ioSpace_of_place place]; exact present⟩

theorem hookTypes (hooked : rmw.Hooked controllers registry load store) {found : Found}
    (place : found = load ∨ found = store) :
    (controllers found.controller).getHookTypes = .readWrite := by
  rcases place with rfl | rfl
  · exact hooked.readWrite
  · rw [← hooked.same]
    exact hooked.readWrite

/-- The separate instructions are what the documentation promises, so the promise can be kept. -/
theorem reference_both (registered : registry.WellFormed)
    (hooked : rmw.Hooked controllers registry load store) (before : World Device) :
    BothHooks controllers registry rmw load store before
      (rmw.instruction.foldl (Reference.access controllers registry 0) (before, [])).1 where
  trace := by
    have foundL := (registered.owner_some _ _).mpr hooked.coversLoad.resolves
    have foundS := (registered.owner_some _ _).mpr hooked.coversStore.resolves
    obtain ⟨spaceL, presentL⟩ := hooked.present (Or.inl rfl)
    obtain ⟨spaceS, presentS⟩ := hooked.present (Or.inr rfl)
    have typesL := hooked.hookTypes (Or.inl rfl)
    have typesS := hooked.hookTypes (Or.inr rfl)
    have loaded : Reference.access controllers registry 0 (before, []) rmw.load =
        World.access 0 (Reference.readHook controllers registry 0 load before, []) rmw.load := by
      simp only [Reference.access, foundL, typesL]
      rfl
    have stored : ∀ state : World Device × Loaded,
        Reference.access controllers registry 0 state rmw.store =
          (Reference.writeHook controllers registry 0 store (World.access 0 state rmw.store).1,
            (World.access 0 state rmw.store).2) := by
      intro state
      simp only [Reference.access, foundS, typesS]
      rfl
    simp only [instruction, List.foldl_cons, List.foldl_nil, loaded, stored]
    simp only [Reference.readHook, presentL, Reference.writeHook, presentS, World.access,
      ReadModifyWrite.load, ReadModifyWrite.store, List.append_assoc]
    exact ⟨_, _, rfl⟩
  memory := rfl

theorem of_faulting (registered : s.registry.WellFormed) (same : s.registry = registry)
    (hooked : rmw.Hooked controllers registry load store) {access : Access} {a : Nat} {found : Found}
    (isDenied : (access, a) ∈ Machine.faulting cfg s rmw.instruction)
    (resolves : registry.Resolves a found) :
    (found = load ∨ found = store) ∧
      cfg.platform.protection (s.areas load.ioSpace) ≠ .readWrite := by
  subst same
  obtain ⟨issued, closed⟩ := Machine.mem_faulting.mp isDenied
  have located : ∀ {owner : Found}, s.registry.Covers access owner → found = owner ∧
      cfg.platform.protection (s.areas owner.ioSpace) ≠ .readWrite := by
    intro owner covers
    rw [Machine.denied_covered registered covers] at closed
    by_cases allowed : (cfg.platform.protection (s.areas owner.ioSpace)).allows access.kind = true
    · simp [allowed] at closed
    · simp only [if_neg allowed, Option.some.injEq] at closed
      subst closed
      refine ⟨registered.resolves_unique resolves covers.resolves, fun opened => ?_⟩
      rw [opened] at allowed
      exact allowed (allows_readWrite _)
  rcases List.mem_pair.mp issued with rfl | rfl
  · obtain ⟨rfl, shut⟩ := located hooked.coversLoad
    exact ⟨Or.inl rfl, shut⟩
  · obtain ⟨rfl, shut⟩ := located hooked.coversStore
    rw [← hooked.ioSpace_eq] at shut
    exact ⟨Or.inr rfl, shut⟩

end ReadModifyWrite.Hooked

def Platform.Reopens (platform : Platform Area) : Prop :=
  ∀ area, ∃ next, platform.unprotect area = some next ∧ platform.protection next = .readWrite ∧
    ∃ last, platform.restoreProtection next = some last

theorem Posix.reopens : Posix.platform.Reopens := fun _ => ⟨_, rfl, rfl, _, rfl⟩

theorem Windows.reopens : Windows.platform.Reopens := fun _ => ⟨_, rfl, rfl, _, rfl⟩

def Machine.IsOpen (cfg : Config Area Device) (s : Machine Area Device) (ioSpace : IoSpacePtr) : Prop :=
  cfg.platform.protection (s.areas ioSpace) = .readWrite ∧
    ∃ last, cfg.platform.restoreProtection (s.areas ioSpace) = some last

def Thread.Counted (thread : Thread) : Prop :=
  match thread.control with
  | .user => thread.Idle ∨ 0 < thread.faults
  | .findController _ _ | .doHookRead _ | .unprotect _ _ | .installBreakPoint _ _ => 0 < thread.faults
  | _ => True

section

variable {cfg : Config Area Device} {law : cfg.platform.Law} {registry : Registry} {origin : Origin}
  {world before : World Device} {s s' : Machine Area Device} {rmw : ReadModifyWrite} {load store : Found}
  {history : List Loaded}

theorem Thread.Counted.step {t : ThreadId} (counted : (s.threads t).Counted)
    (effect : Effect cfg registry origin s t (s.threads t).control s') : (s'.threads t).Counted := by
  generalize control : (s.threads t).control = statement at effect
  cases effect with
  | executed instruction settled next clear =>
    rcases settled with idle | ⟨found, write, raised, recorded⟩
    · have onwards : ((s.execute t instruction).threads t).control = .user := by simp [idle.trapFlag]
      simp only [Counted, onwards]
      refine Or.inl ⟨?_, ?_⟩
      · simpa using idle.breakPoint
      · simpa using idle.trapFlag
    · simp [Counted, recorded.trapFlag]
  | faulted instruction access a write found settled next denied resolves raised => simp [Counted]
  | resolved a write found settled resolves raised =>
    simp only [Counted, control] at counted
    cases write <;> simpa [Counted] using counted
  | hookedRead found space settled raised present =>
    simp only [Counted, control] at counted
    simpa [Counted] using counted
  | unprotected found write space area settled raised present changed =>
    simp only [Counted, control] at counted
    simpa [Counted] using counted
  | installed found write settled raised =>
    simp only [Counted, control] at counted
    simp [Counted, counted]
  | trapped found write raised recorded =>
    rcases afterTrap_cases cfg found write with next | next <;> simp [Counted, next]
  | hookedWrite found space raised recorded hooked present => simp [Counted]
  | uninstalled found write raised recorded => simp [Counted]
  | restored found write space area raised idle present changed =>
    simp only [Counted, Machine.goto_self]
    exact Or.inl ⟨idle.breakPoint, idle.trapFlag⟩

theorem Scenario.idle_between (scenario : Scenario cfg law registry origin) {reports : List Report}
    (ran : Transition.run (Machine.alone cfg) (Machine.boot cfg registry world) reports = some s)
    (between : s.Between 0) : Disciplined cfg law registry origin s ∧ (s.threads 0).Idle := by
  obtain ⟨disciplined, counted⟩ := scenario.alone_keeps (fun m => (m.threads 0).Counted)
    (fun m report m' _ counted _ effect => counted.step effect) (Or.inl ⟨rfl, rfl⟩) ran
  simp only [Thread.Counted, between.1, between.2, Nat.lt_irrefl, or_false] at counted
  exact ⟨disciplined, counted⟩

inductive Modifying (cfg : Config Area Device) (registry : Registry) (rmw : ReadModifyWrite)
    (load store : Found) (before : World Device) (history : List Loaded) (s : Machine Area Device) :
    Control → Prop
  | waiting (idle : (s.threads 0).Idle) (earlier : (s.threads 0).history = history)
      (world : s.world = before) : Modifying cfg registry rmw load store before history s .user
  | faulted (a : Nat) (write : Bool) (found : Found) (place : found = load ∨ found = store)
      (resolves : registry.Resolves a found) (earlier : (s.threads 0).history = history)
      (world : s.world = before) : Modifying cfg registry rmw load store before history s (.findController a write)
  | hooking (found : Found) (place : found = load ∨ found = store)
      (earlier : (s.threads 0).history = history) (world : s.world = before) :
      Modifying cfg registry rmw load store before history s (.doHookRead found)
  | hooked (found : Found) (write : Bool) (place : found = load ∨ found = store)
      (earlier : (s.threads 0).history = history)
      (world : s.world = afterFault cfg.controllers registry 0 found write before) :
      Modifying cfg registry rmw load store before history s (.unprotect found write)
  | opened (found : Found) (write : Bool) (place : found = load ∨ found = store)
      (isOpen : s.IsOpen cfg found.ioSpace) (earlier : (s.threads 0).history = history)
      (world : s.world = afterFault cfg.controllers registry 0 found write before) :
      Modifying cfg registry rmw load store before history s (.installBreakPoint found write)
  | pending (found : Found) (write : Bool) (place : found = load ∨ found = store)
      (recorded : (s.threads 0).Recorded found write) (isOpen : s.IsOpen cfg found.ioSpace)
      (earlier : (s.threads 0).history = history)
      (world : s.world = afterFault cfg.controllers registry 0 found write before) :
      Modifying cfg registry rmw load store before history s .user
  | trapped (found : Found) (write : Bool) (place : found = load ∨ found = store)
      (recorded : (s.threads 0).Recorded found write) (isOpen : s.IsOpen cfg found.ioSpace)
      (later : (s.threads 0).history.length = history.length + 1) (faults : (s.threads 0).faults = 0)
      (world : s.world = ((afterFault cfg.controllers registry 0 found write before).perform 0 rmw.instruction).1) :
      Modifying cfg registry rmw load store before history s .getBreakPoint
  | hookingWrite (found : Found) (place : found = load ∨ found = store) (isOpen : s.IsOpen cfg found.ioSpace)
      (later : (s.threads 0).history.length = history.length + 1) (faults : (s.threads 0).faults = 0)
      (world : s.world = (before.perform 0 rmw.instruction).1) :
      Modifying cfg registry rmw load store before history s
        (.doHookWrite found.ioSpace found.controller found.offset)
  | uninstalling (found : Found) (isOpen : s.IsOpen cfg found.ioSpace)
      (later : (s.threads 0).history.length = history.length + 1) (faults : (s.threads 0).faults = 0)
      (one : OneHook rmw load store before s.world) :
      Modifying cfg registry rmw load store before history s (.uninstallBreakPoint found.ioSpace)
  | restoring (found : Found) (isOpen : s.IsOpen cfg found.ioSpace)
      (later : (s.threads 0).history.length = history.length + 1) (faults : (s.threads 0).faults = 0)
      (one : OneHook rmw load store before s.world) :
      Modifying cfg registry rmw load store before history s (.restoreProtection found.ioSpace)

structure Modified (rmw : ReadModifyWrite) (load store : Found) (before : World Device)
    (history : List Loaded) (s : Machine Area Device) : Prop where
  between : s.Between 0
  length : (s.threads 0).history.length = history.length + 1
  one : OneHook rmw load store before s.world

theorem World.perform_trace (world : World Device) (rmw : ReadModifyWrite) :
    ∃ loaded stored, (world.perform 0 rmw.instruction).1.trace =
      world.trace ++ [.load 0 rmw.source loaded, .store 0 rmw.target stored] := by
  simp only [World.perform, ReadModifyWrite.instruction, ReadModifyWrite.load, ReadModifyWrite.store,
    List.foldl_cons, List.foldl_nil, World.access, List.append_assoc]
  exact ⟨_, _, rfl⟩

theorem OneHook.of_none (world : World Device) :
    OneHook rmw load store world (world.perform 0 rmw.instruction).1 := by
  obtain ⟨loaded, stored, trace⟩ := world.perform_trace rmw
  exact .none loaded stored trace

theorem OneHook.of_read (hooked : rmw.Hooked cfg.controllers registry load store) {found : Found}
    (place : found = load ∨ found = store) (world : World Device) :
    OneHook rmw load store world
      ((Reference.readHook cfg.controllers registry 0 found world).perform 0 rmw.instruction).1 := by
  obtain ⟨loaded, stored, trace⟩ :=
    (Reference.readHook cfg.controllers registry 0 found world).perform_trace rmw
  obtain ⟨space, present⟩ := hooked.present place
  refine .read found loaded stored place ?_
  rw [trace]
  simp [Reference.readHook, present]

theorem OneHook.of_write {found : Found} (place : found = load ∨ found = store) (world : World Device)
    (space : IoSpace) :
    OneHook rmw load store world ((world.perform 0 rmw.instruction).1.doHookWrite
      (cfg.controllers found.controller) 0 found.controller space found.offset) := by
  obtain ⟨loaded, stored, trace⟩ := world.perform_trace rmw
  refine .write found loaded stored place ?_
  simp [World.doHookWrite, trace]

theorem Modifying.execute_waiting (idle : (s.threads 0).Idle) :
    Modified rmw load store s.world (s.threads 0).history (s.execute 0 rmw.instruction) where
  between := ⟨by simp [idle.trapFlag], by simp⟩
  length := by simp
  one := OneHook.of_none s.world

theorem Modifying.step (scenario : Scenario cfg law registry (hookOrigin registry))
    (reopens : cfg.platform.Reopens) (hooked : rmw.Hooked cfg.controllers registry load store)
    (issued : cfg.program 0 history = some rmw.instruction)
    (disciplined : Disciplined cfg law registry (hookOrigin registry) s)
    (modifying : Modifying cfg registry rmw load store before history s (s.threads 0).control)
    (effect : Effect cfg registry (hookOrigin registry) s 0 (s.threads 0).control s') :
    Modified rmw load store before history s' ∨
      (Modifying cfg registry rmw load store before history s' (s'.threads 0).control ∧
        s'.rank 0 < s.rank 0) := by
  have registered : s.registry.WellFormed := disciplined.same ▸ scenario.registered
  generalize control : (s.threads 0).control = statement at modifying effect
  cases modifying with
  | waiting idle earlier world =>
    cases effect with
    | executed instruction settled next clear =>
      rw [earlier, issued, Option.some.injEq] at next
      subst next earlier world
      exact Or.inl (Modifying.execute_waiting idle)
    | faulted instruction access a write found settled next denied resolves raised =>
      rw [earlier, issued, Option.some.injEq] at next
      subst next
      obtain ⟨place, -⟩ := hooked.of_faulting registered disciplined.same denied resolves
      refine Or.inr ⟨?_, by simp [Machine.rank, control, idle.breakPoint, BreakPointData.fresh]⟩
      rw [Machine.setThread_self]
      exact .faulted a write found place resolves (by simpa using earlier) world
  | faulted a write found place resolves earlier world =>
    cases effect with
    | resolved _ _ other settled resolves' raised =>
      have same := scenario.registered.resolves_unique resolves' resolves
      subst same
      cases write with
      | false =>
        refine Or.inr ⟨?_, by simp [Machine.rank, control]⟩
        simp only [Machine.goto_self]
        exact .hooking other place (by simpa using earlier) world
      | true =>
        refine Or.inr ⟨?_, by simp [Machine.rank, control]⟩
        simp only [Machine.goto_self]
        exact .hooked other true place (by simpa using earlier) world
  | hooking found place earlier world =>
    cases effect with
    | hookedRead _ space settled raised present =>
      refine Or.inr ⟨?_, by simp [Machine.rank, control]⟩
      simp only [Machine.goto_self]
      refine .hooked found false place (by simpa using earlier) ?_
      simp [afterFault, Reference.doHookRead_eq present, world]
  | hooked found write place earlier world =>
    cases effect with
    | unprotected _ _ space area settled raised present changed =>
      obtain ⟨next, opens, nowOpen, restores⟩ := reopens (s.areas found.ioSpace)
      rw [changed, Option.some.injEq] at opens
      subst opens
      refine Or.inr ⟨?_, by simp [Machine.rank, control]⟩
      simp only [Machine.goto_self]
      refine .opened found write place ?_ (by simpa using earlier) world
      simpa [Machine.IsOpen] using ⟨nowOpen, restores⟩
  | opened found write place isOpen earlier world =>
    cases effect with
    | installed _ _ settled raised =>
      refine Or.inr ⟨?_, by simp [Machine.rank, control]⟩
      rw [Machine.setThread_self]
      exact .pending found write place ⟨by simp, by simp⟩ isOpen (by simpa using earlier) world
  | pending found write place recorded isOpen earlier world =>
    cases effect with
    | executed instruction settled next clear =>
      rw [earlier, issued, Option.some.injEq] at next
      subst next
      have trap : ((s.execute 0 rmw.instruction).threads 0).control = .getBreakPoint := by
        simp [recorded.trapFlag]
      refine Or.inr ⟨?_, by simp [Machine.rank, recorded.trapFlag, control, recorded.breakPoint]⟩
      rw [trap]
      refine .trapped found write place ⟨?_, ?_⟩ isOpen (by simp [earlier]) (by simp) ?_
      · simpa using recorded.breakPoint
      · simpa using recorded.trapFlag
      · rw [← world]
        rfl
    | faulted instruction access a write' other settled next denied resolves raised =>
      -- the only area the instruction touches is open
      exfalso
      rw [earlier, issued, Option.some.injEq] at next
      subst next
      obtain ⟨-, shut⟩ := hooked.of_faulting registered disciplined.same denied resolves
      rw [← hooked.ioSpace_of_place place] at shut
      exact shut isOpen.1
  | trapped found write place recorded isOpen later faults world =>
    cases effect with
    | trapped found' write' raised' recorded' =>
      rw [afterTrap_record cfg (recorded'.breakPoint.symm.trans recorded.breakPoint)]
      cases write with
      | false =>
        refine Or.inr ⟨?_, by simp [Machine.rank, control, afterTrap]⟩
        rw [Machine.goto_self]
        refine .uninstalling found isOpen (by simpa using later) (by simpa using faults) ?_
        rw [Machine.goto_world, world]
        exact OneHook.of_read hooked place before
      | true =>
        have destination : afterTrap cfg found true =
            .doHookWrite found.ioSpace found.controller found.offset := by
          simp [afterTrap, hooked.hookTypes place, HookTypes.and, HookTypes.code]
        rw [destination]
        refine Or.inr ⟨?_, by simp [Machine.rank, control]⟩
        rw [Machine.goto_self]
        exact .hookingWrite found place isOpen (by simpa using later) (by simpa using faults) world
  | hookingWrite found place isOpen later faults world =>
    obtain ⟨controller, ioSpace, offset⟩ := found
    cases effect with
    | hookedWrite found space raised recorded hooked present =>
      refine Or.inr ⟨?_, by simp [Machine.rank, control]⟩
      simp only [Machine.goto_self]
      refine .uninstalling found isOpen (by simpa using later) (by simpa using faults) ?_
      rw [world]
      exact OneHook.of_write place before space
  | uninstalling found isOpen later faults one =>
    generalize place : found.ioSpace = ioSpace at effect
    cases effect with
    | uninstalled other write raised recorded =>
      refine Or.inr ⟨?_, by simp [Machine.rank, control]⟩
      rw [Machine.setThread_self, ← place]
      exact .restoring found isOpen (by simpa using later) (by simpa using faults) one
  | restoring found isOpen later faults one =>
    generalize place : found.ioSpace = ioSpace at effect
    cases effect with
    | restored other write space area raised idle present changed =>
      exact Or.inl ⟨⟨by simp, by simpa using faults⟩, by simpa using later, one⟩

theorem ReadModifyWrite.Hooked.modified (hooked : rmw.Hooked cfg.controllers registry load store)
    (accesses : RegisteredAccess cfg.controllers cfg.program registry) (law : cfg.platform.Law)
    (reopens : cfg.platform.Reopens) {reports : List Report}
    (ran : Transition.run (Machine.alone cfg) (Machine.boot cfg registry world) reports = some s)
    (between : s.Between 0) (issued : cfg.program 0 (s.threads 0).history = some rmw.instruction) :
    Transition.Inevitable (Machine.alone cfg) (Modified rmw load store s.world (s.threads 0).history) 11 s := by
  have scenario := accesses.hookScenario law
  obtain ⟨disciplined, idle⟩ := scenario.idle_between ran between
  have progress : ∀ m : Machine Area Device, Disciplined cfg law registry (hookOrigin registry) m ∧
      Modifying cfg registry rmw load store s.world (s.threads 0).history m (m.threads 0).control →
      ∀ report, ∃ m', Machine.alone cfg m report = some m' ∧
        (Modified rmw load store s.world (s.threads 0).history m' ∨
          (Disciplined cfg law registry (hookOrigin registry) m' ∧
            Modifying cfg registry rmw load store s.world (s.threads 0).history m' (m'.threads 0).control) ∧
          m'.rank 0 < m.rank 0) := by
    rintro m ⟨disciplined, modifying⟩ report
    have next : (m.threads 0).control = .user →
        ∃ instruction, cfg.program 0 (m.threads 0).history = some instruction := by
      intro control
      rw [control] at modifying
      cases modifying with
      | waiting idle earlier world => exact ⟨rmw.instruction, earlier ▸ issued⟩
      | pending found write place recorded isOpen earlier world => exact ⟨rmw.instruction, earlier ▸ issued⟩
    have restore : ∀ {ioSpace}, (m.threads 0).control = .restoreProtection ioSpace →
        ∃ area, cfg.platform.restoreProtection (m.areas ioSpace) = some area := by
      intro ioSpace control
      rw [control] at modifying
      cases modifying with
      | restoring found isOpen later faults one => exact isOpen.2
    obtain ⟨m', taken⟩ := scenario.step_enabled disciplined report next
      (fun {found write} _ => (reopens (m.areas found.ioSpace)).imp fun _ opens => opens.1) restore
    have effect := scenario.step_effect disciplined taken
    refine ⟨m', taken, ?_⟩
    rcases modifying.step scenario reopens hooked issued disciplined effect with done | ⟨modifying', less⟩
    · exact Or.inl done
    · exact Or.inr ⟨⟨effect.disciplined disciplined, modifying'⟩, less⟩
  have start : Modifying cfg registry rmw load store s.world (s.threads 0).history s (s.threads 0).control := by
    rw [between.1]
    exact .waiting idle rfl rfl
  have reached := Transition.Inevitable.of_measure (fun m : Machine Area Device => m.rank 0) progress s
    ⟨disciplined, start⟩
  have distance : s.rank 0 = 10 := by
    simp [Machine.rank, between.1, idle.breakPoint, BreakPointData.fresh]
  rw [distance] at reached
  exact reached

end

/-- Whatever the CPU reports, the instruction completes, and never with both of its hooks. -/
def NeverBothHooks (cfg : Config Area Device) (registry : Registry) (world : World Device)
    (rmw : ReadModifyWrite) (load store : Found) : Prop :=
  ∀ (reports : List Report) (s : Machine Area Device),
    Transition.run (Machine.alone cfg) (Machine.boot cfg registry world) reports = some s → s.Between 0 →
    cfg.program 0 (s.threads 0).history = some rmw.instruction →
      Transition.Inevitable (Machine.alone cfg) (fun next => next.Between 0 ∧
        (next.threads 0).history.length = (s.threads 0).history.length + 1 ∧
        ¬ BothHooks cfg.controllers registry rmw load store s.world next.world) 11 s

theorem ReadModifyWrite.Hooked.neverBothHooks (cfg : Config Area Device) {registry : Registry}
    {rmw : ReadModifyWrite} {load store : Found} (hooked : rmw.Hooked cfg.controllers registry load store)
    (accesses : RegisteredAccess cfg.controllers cfg.program registry) (law : cfg.platform.Law)
    (reopens : cfg.platform.Reopens) (world : World Device) :
    NeverBothHooks cfg registry world rmw load store := by
  intro reports s ran between issued
  refine (hooked.modified accesses law reopens ran between issued).imp fun next modified => ?_
  exact ⟨modified.between, modified.length, modified.one.not_both⟩

/-- The one record of a fault remembers a read or a write, so the other half of the instruction is lost. -/
theorem never_both_hooks (controllers : ControllerPtr → Controller Device)
    (program : ThreadId → Program) (registry : Registry)
    (accesses : RegisteredAccess controllers program registry) (world : World Device)
    (rmw : ReadModifyWrite) (load store : Found) (hooked : rmw.Hooked controllers registry load store) :
    NeverBothHooks (Posix.config controllers program) registry world rmw load store ∧
      NeverBothHooks (Windows.config controllers program) registry world rmw load store :=
  ⟨ReadModifyWrite.Hooked.neverBothHooks (Posix.config controllers program) hooked accesses Posix.law
      Posix.reopens world,
    ReadModifyWrite.Hooked.neverBothHooks (Windows.config controllers program) hooked accesses
      Windows.law Windows.reopens world⟩

def marking (_ : ControllerPtr) : Controller Nat where
  getHookTypes := .readWrite
  hookRead := fun file offset count => (Function.update file offset (BitVec.ofNat 8 count), count + 1)
  hookWrite := fun file offset count => (Function.update file offset (file offset + 16), count + 1)

def increment : ReadModifyWrite where
  source := 0x10000
  width := 1
  target := 0x10000
  targetWidth := 1
  value := fun loaded _ => loaded.flatten.headD 0 + 1

def incrementRegister : Program
  | [] => some increment.instruction
  | _ => none

theorem registered_increment : RegisteredAccess marking (fun _ => incrementRegister) (Registry.after solo) := by
  obtain ⟨represents, formed⟩ := Registry.represents_after solo solo_promised
  have registered := represents.wellFormed formed
  refine ⟨registered, ?_, ?_⟩
  · intro controller ioSpace space entry present
    have agree : ∀ entry ∈ LiveController.after solo,
        (marking entry.controller).getHookTypes = entry.space.hookTypes := by decide
    exact represents.of_live formed agree entry present
  · intro t history instruction access a next issued byte
    match history with
    | [] =>
      cases next
      have first : a = 0x10000 := by
        rcases List.mem_pair.mp issued with rfl | rfl <;> exact List.mem_singleton.mp byte
      subst first
      exact ⟨100, by decide⟩
    | _ :: _ => cases next

theorem hooked_increment : increment.Hooked marking (Registry.after solo) ⟨8, 100, 0⟩ ⟨8, 100, 0⟩ where
  coversLoad := ⟨by decide, ⟨.readWrite, 64, 0x10000, 0x50000⟩, by decide, Nat.one_pos, by decide, by decide, rfl⟩
  coversStore := ⟨by decide, ⟨.readWrite, 64, 0x10000, 0x50000⟩, by decide, Nat.one_pos, by decide, by decide, rfl⟩
  same := rfl
  readWrite := rfl

theorem increment_never_both :
    NeverBothHooks (Posix.config marking fun _ => incrementRegister) (Registry.after solo) zeroWorld increment
        ⟨8, 100, 0⟩ ⟨8, 100, 0⟩ ∧
      NeverBothHooks (Windows.config marking fun _ => incrementRegister) (Registry.after solo) zeroWorld
        increment ⟨8, 100, 0⟩ ⟨8, 100, 0⟩ :=
  never_both_hooks marking (fun _ => incrementRegister) (Registry.after solo) registered_increment zeroWorld
    increment ⟨8, 100, 0⟩ ⟨8, 100, 0⟩ hooked_increment

def LosesHook (write : Bool) : Prop :=
  ∃ s : Machine Posix.IoSpace Nat,
    Transition.run (Machine.alone (Posix.config marking fun _ => incrementRegister))
      (Machine.boot (Posix.config marking fun _ => incrementRegister) (Registry.after solo) zeroWorld)
      (List.replicate 9 { choice := 0, write }) = some s ∧
    s.Between 0 ∧ (s.threads 0).history.length = 1 ∧
    ¬ BothHooks marking (Registry.after solo) increment ⟨8, 100, 0⟩ ⟨8, 100, 0⟩ zeroWorld s.world

/-- The separate instructions leave `0x18` in the register; reported as a read the increment leaves `8`,
    reported as a write `0x11`. -/
theorem increment_loses_hook : LosesHook false ∧ LosesHook true := by
  have separate : (increment.instruction.foldl (Reference.access marking (Registry.after solo) 0)
      (zeroWorld, [])).1.memory 0x10000 = 0x18 := by decide
  have loses : ∀ write, LosesHook write := by
    intro write
    have computed : (Transition.run (Machine.alone (Posix.config marking fun _ => incrementRegister))
        (Machine.boot (Posix.config marking fun _ => incrementRegister) (Registry.after solo) zeroWorld)
        (List.replicate 9 { choice := 0, write })).map (fun s => ((s.threads 0).control, (s.threads 0).faults,
          (s.threads 0).history.length, s.world.memory 0x10000)) =
            some (.user, 0, 1, if write then 0x11 else 8) := by
      cases write <;> decide
    obtain ⟨s, ran, result⟩ := Option.map_eq_some_iff.mp computed
    simp only [Prod.mk.injEq] at result
    obtain ⟨control, faults, length, register⟩ := result
    refine ⟨s, ran, ⟨control, faults⟩, length, fun both => ?_⟩
    rw [both.memory, separate] at register
    cases write <;> cases register
  exact ⟨loses false, loses true⟩

end ExMM
