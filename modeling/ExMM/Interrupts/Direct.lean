import ExMM.Machine.Faults
import ExMM.Model.Interrupts
import ExMM.Model.Reference

namespace ExMM.Interrupts

variable {Device : Type}

/-- The accesses of a routine as plain accesses to memory; `none` when the protections deny one. -/
def Routine.direct (registry : Registry) (areas : IoSpacePtr → Posix.IoSpace) :
    Routine → World Device → Option (World Device)
  | .done, world => some world
  | .load address width rest, world =>
    match denied registry areas (.load address width) with
    | some _ => none
    | none =>
      let result := World.access 0 (world, []) (.load address width)
      (rest (result.2.headD [])).direct registry areas result.1
  | .store address width value rest, world =>
    match denied registry areas (.store address width fun _ => value) with
    | some _ => none
    | none => rest.direct registry areas (World.access 0 (world, []) (.store address width fun _ => value)).1

def Body.direct (cfg : Config Device) (areas : IoSpacePtr → Posix.IoSpace) (found : Found) (space : IoSpace) :
    Body Device → World Device → Option (World Device)
  | .done, world => some world
  | .work change rest, world =>
    let result := change (space.file world.memory) world.device
    (rest result.1 result.2).direct cfg areas found space
      { world with
        memory := Bytes.write world.memory space.publicArea space.size result.1
        device := result.2 }
  | .triggerInterrupt vector rest, world =>
    match (cfg.controllers found.controller).interrupts vector with
    | none => rest.direct cfg areas found space world
    | some routine => (routine.direct cfg.registry areas world).bind fun world =>
        rest.direct cfg areas found space world

/-- During a `HookRead` of the program's access every area has its initial protection. -/
def hookRead (cfg : Config Device) (found : Found) (space : IoSpace) (world : World Device) :
    Option (World Device) :=
  ((cfg.controllers found.controller).hookRead found.offset).direct cfg (State.initialAreas cfg.registry) found
    space { world with trace := world.trace ++ [.hookRead 0 found.controller found.offset] }

/-- During its `HookWrite` the area it has stored to is still open. -/
def hookWrite (cfg : Config Device) (found : Found) (space : IoSpace) (world : World Device) :
    Option (World Device) :=
  ((cfg.controllers found.controller).hookWrite found.offset).direct cfg
    (Function.update (State.initialAreas cfg.registry) found.ioSpace
      (State.initialAreas cfg.registry found.ioSpace).unprotect) found
    space { world with trace := world.trace ++ [.hookWrite 0 found.controller found.offset] }

structure Outer (Device : Type) where
  world : World Device
  history : List Loaded

def perform (cfg : Config Device) (access : Access) (world : World Device) : Option (World Device × Loaded) := do
  let found ← cfg.registry.owner access.address
  let space ← cfg.registry.ioSpaces[found.ioSpace]?
  let hookTypes := (cfg.controllers found.controller).getHookTypes
  match access.kind with
  | .load =>
    let world ← if hookTypes.and .read then hookRead cfg found space world else some world
    some (World.access 0 (world, []) access)
  | .store =>
    let result := World.access 0 (world, []) access
    let world ← if hookTypes.and .write then hookWrite cfg found space result.1 else some result.1
    some (world, result.2)

namespace Outer

def step (cfg : Config Device) (outer : Outer Device) : Option (Outer Device) := do
  let access ← cfg.program outer.history
  let result ← perform cfg access outer.world
  some { world := result.1, history := outer.history ++ [result.2] }

/-- A hook of the next access triggers a routine that performs a denied access. -/
def Fatal (cfg : Config Device) (outer : Outer Device) : Prop :=
  ∃ access, cfg.program outer.history = some access ∧ perform cfg access outer.world = none

def rest (cfg : Config Device) (outer : Outer Device) : State Device :=
  State.rest cfg outer.world outer.history

end Outer

def Routine.Registered (registry : Registry) : Routine → Prop
  | .done => True
  | .load address width rest =>
    (∃ found, registry.Covers (.load address width) found) ∧ ∀ bytes, (rest bytes).Registered registry
  | .store address width value rest =>
    (∃ found, registry.Covers (.store address width fun _ => value) found) ∧ rest.Registered registry

structure Registered (cfg : Config Device) : Prop where
  registered : cfg.registry.WellFormed
  getHookTypes : ∀ {controller : ControllerPtr} {ioSpace : IoSpacePtr} {space : IoSpace},
    cfg.registry.ioMap[controller]? = some ioSpace → cfg.registry.ioSpaces[ioSpace]? = some space →
      (cfg.controllers controller).getHookTypes = space.hookTypes
  program : ∀ {history access}, cfg.program history = some access → ∃ found, cfg.registry.Covers access found
  routines : ∀ {controller vector routine}, (cfg.controllers controller).interrupts vector = some routine →
    routine.Registered cfg.registry

theorem denied_covered {registry : Registry} (registered : registry.WellFormed) {access : Access} {found : Found}
    (covers : registry.Covers access found) (areas : IoSpacePtr → Posix.IoSpace) :
    denied registry areas access =
      if (areas found.ioSpace).protection.allows access.kind then none else some access.address := by
  refine access.find_uniform covers.positive fun a member => ?_
  simp only [permitted, registered.mapping_of_covers covers member]

def Plain (event : DeviceEvent) : Prop :=
  ∃ t a bytes, event = .load t a bytes ∨ event = .store t a bytes

theorem Routine.direct_plain {registry : Registry} {areas : IoSpacePtr → Posix.IoSpace} {routine : Routine}
    {world after : World Device} (performed : routine.direct registry areas world = some after) :
    ∃ events, after.trace = world.trace ++ events ∧ ∀ event ∈ events, Plain event := by
  induction routine generalizing world with
  | done =>
    cases performed
    exact ⟨[], (List.append_nil _).symm, by simp⟩
  | load address width rest ih =>
    unfold direct at performed
    split at performed
    · cases performed
    · obtain ⟨events, trace, plain⟩ := ih _ performed
      refine ⟨.load 0 address (Bytes.read world.memory address width) :: events, ?_, ?_⟩
      · rw [trace]
        simp [World.access]
      · intro event member
        rcases List.mem_cons.mp member with rfl | later
        · exact ⟨_, _, _, Or.inl rfl⟩
        · exact plain event later
  | store address width value rest ih =>
    unfold direct at performed
    split at performed
    · cases performed
    · obtain ⟨events, trace, plain⟩ := ih performed
      refine ⟨.store 0 address (Bytes.read (Bytes.write world.memory address width value) address width) :: events,
        ?_, ?_⟩
      · rw [trace]
        simp [World.access]
      · intro event member
        rcases List.mem_cons.mp member with rfl | later
        · exact ⟨_, _, _, Or.inr rfl⟩
        · exact plain event later

theorem Body.direct_plain {cfg : Config Device} {areas : IoSpacePtr → Posix.IoSpace} {found : Found}
    {space : IoSpace} {body : Body Device} {world after : World Device}
    (performed : body.direct cfg areas found space world = some after) :
    ∃ events, after.trace = world.trace ++ events ∧ ∀ event ∈ events, Plain event := by
  induction body generalizing world with
  | done =>
    cases performed
    exact ⟨[], (List.append_nil _).symm, by simp⟩
  | work change rest ih =>
    obtain ⟨events, trace, plain⟩ := ih _ _ performed
    exact ⟨events, trace, plain⟩
  | triggerInterrupt vector rest ih =>
    unfold direct at performed
    split at performed
    · exact ih performed
    · obtain ⟨middle, first, second⟩ := Option.bind_eq_some_iff.mp performed
      obtain ⟨early, traceE, plainE⟩ := Routine.direct_plain first
      obtain ⟨later, traceL, plainL⟩ := ih second
      refine ⟨early ++ later, by rw [traceL, traceE, List.append_assoc], ?_⟩
      intro event member
      exact (List.mem_append.mp member).elim (plainE event) (plainL event)

def silent (controller : ExMM.Controller Device) : Controller Device where
  getHookTypes := controller.getHookTypes
  interrupts := fun _ => none
  hookRead := fun offset => .work (fun file device => controller.hookRead file offset device) fun _ _ => .done
  hookWrite := fun offset => .work (fun file device => controller.hookWrite file offset device) fun _ _ => .done

theorem perform_silent {registry : Registry} (registered : registry.WellFormed)
    (controllers : ControllerPtr → ExMM.Controller Device) (program : List Loaded → Option Access)
    {access : Access} {found : Found} (covers : registry.Covers access found) (world : World Device) :
    perform { registry, controllers := fun controller => silent (controllers controller), program } access world =
      some (Reference.access controllers registry 0 (world, []) access) := by
  obtain ⟨space, present, -⟩ := covers.2
  have found_eq := (registered.owner_some _ _).mpr covers.resolves
  cases kind : access.kind with
  | load =>
    cases reads : (controllers found.controller).getHookTypes.and .read with
    | true =>
      simp [perform, Reference.access, found_eq, present, kind, silent, reads, hookRead, Body.direct,
        Reference.readHook]
    | false => simp [perform, Reference.access, found_eq, present, kind, silent, reads]
  | store =>
    cases writes : (controllers found.controller).getHookTypes.and .write with
    | true =>
      simp [perform, Reference.access, found_eq, present, kind, silent, writes, hookWrite, Body.direct,
        Reference.writeHook]
    | false => simp [perform, Reference.access, found_eq, present, kind, silent, writes]

theorem Outer.step_silent {registry : Registry} (registered : registry.WellFormed)
    (controllers : ControllerPtr → ExMM.Controller Device) (program : List Loaded → Option Access)
    (covered : ∀ {history access}, program history = some access → ∃ found, registry.Covers access found)
    (outer : Outer Device) :
    outer.step { registry, controllers := fun controller => silent (controllers controller), program } =
      (Reference.step controllers (fun _ history => (program history).map fun access => [access]) registry
        { world := outer.world, history := fun _ => outer.history } 0).map fun r =>
          { world := r.world, history := r.history 0 } := by
  cases issued : program outer.history with
  | none => simp [step, Reference.step, issued]
  | some access =>
    obtain ⟨found, covers⟩ := covered issued
    have performed := perform_silent registered controllers program covers outer.world
    simp [step, Reference.step, issued, performed]

end ExMM.Interrupts
