import ExMM.Machine.Protections
import ExMM.Machine.Restarts

namespace ExMM

variable {Area Device : Type}

abbrev Windows.config (controllers : ControllerPtr → Controller Device) (program : ThreadId → Program) :
    Config Windows.IoSpace Device :=
  { platform := Windows.platform, controllers, program }

def Machine.latestFault (latest : ThreadId → Nat) (action : ThreadId × Report)
    (next : Machine Area Device) : ThreadId → Nat :=
  match (next.threads action.1).control with
  | .findController siAddr _ => Function.update latest action.1 siAddr
  | _ => latest

structure Asked (controllers : ControllerPtr → Controller Device) (registry : Registry) (kind : HookTypes)
    (siAddr : Nat) (found : Found) (space : IoSpace) : Prop where
  hooked : (controllers found.controller).getHookTypes.and kind = true
  entry : registry.ioMap[found.controller]? = some found.ioSpace
  present : registry.ioSpaces[found.ioSpace]? = some space
  inside : space.Contains siAddr
  offset : found.offset = siAddr - space.publicArea
  bound : found.offset < space.size

def DeviceEvent.Asked (controllers : ControllerPtr → Controller Device) (registry : Registry) :
    DeviceEvent → Prop
  | .hookRead _ controller offset => ∃ siAddr found space, found.controller = controller ∧
      found.offset = offset ∧ ExMM.Asked controllers registry .read siAddr found space
  | .hookWrite _ controller offset => ∃ siAddr found space, found.controller = controller ∧
      found.offset = offset ∧ ExMM.Asked controllers registry .write siAddr found space
  | .load _ _ _ | .store _ _ _ => True

def hookOrigin (registry : Registry) : Origin :=
  fun _ _ found write => registry.ioMap[found.controller]? = some found.ioSpace ∧
    ∃ space, registry.ioSpaces[found.ioSpace]? = some space ∧
      (write = false → space.hookTypes.and .read = true)

theorem Machine.isMemoryWriteAccess_load {instruction : Instruction} {access : Access} {report : Report}
    (read : isMemoryWriteAccess instruction access report = false) : access.kind = .load := by
  cases kind : access.kind with
  | load => rfl
  | store => simp [isMemoryWriteAccess, kind] at read

section

variable {cfg : Config Area Device} {law : cfg.platform.Law} {registry : Registry}
  {world : World Device} {s s' : Machine Area Device} {t : ThreadId} {latest : ThreadId → Nat}

theorem RegisteredAccess.hookScenario (accesses : RegisteredAccess cfg.controllers cfg.program registry)
    (law : cfg.platform.Law) : Scenario cfg law registry (hookOrigin registry) where
  registered := accesses.registered
  getHookTypes := accesses.getHookTypes
  live := by
    rintro t history found write ⟨entry, space, present, -⟩
    exact ⟨entry, space, present⟩
  raise := by
    intro s t history instruction access a report same sound next isDenied
    obtain ⟨issued, closed⟩ := Machine.mem_faulting.mp isDenied
    obtain ⟨byte, refused⟩ := Machine.denied_some closed
    obtain ⟨ioSpace, mapped⟩ := accesses.mapped next issued byte
    obtain ⟨found, resolves, rfl⟩ := accesses.registered.resolves_mapped mapped
    obtain ⟨space, present, -⟩ := resolves.2
    refine ⟨found, resolves, resolves.1, space, present, fun read => ?_⟩
    simp only [Machine.permitted, same, mapped, Machine.isMemoryWriteAccess_load read] at refused
    -- no order of calls leaves an area that denies loads unless `Initialize` has chosen so
    rcases law.protection_sound (sound _ _ present) with initial | opened
    · rw [initial, initialProtection_load] at refused
      simpa using refused
    · rw [opened, allows_readWrite] at refused
      cases refused

def Thread.Locates (registry : Registry) (siAddr : Nat) (thread : Thread) : Prop :=
  match thread.control with
  | .findController a _ => a = siAddr
  | .doHookRead found | .unprotect found _ | .installBreakPoint found _ => registry.Resolves siAddr found
  | .user | .getBreakPoint => ∀ found, thread.breakPoint = record found true → registry.Resolves siAddr found
  | .doHookWrite ioSpace controller offset => registry.Resolves siAddr ⟨controller, ioSpace, offset⟩
  | .uninstallBreakPoint _ | .restoreProtection _ => True

theorem Machine.latestFault_other {u : ThreadId} (latest : ThreadId → Nat) (report : Report)
    (after : Machine Area Device) (other : u ≠ t) :
    latestFault latest (t, report) after u = latest u := by
  simp only [latestFault]
  cases (after.threads t).control <;> simp [other]

theorem Machine.latestFault_same {report : Report} {after : Machine Area Device} {control : Control}
    (reached : (after.threads t).control = control) (elsewhere : ∀ a write, control ≠ .findController a write) :
    latestFault latest (t, report) after t = latest t := by
  simp only [latestFault, reached]

theorem fresh_ne_record (found : Found) : BreakPointData.fresh () ≠ record found true := by
  intro same
  have active := congrArg BreakPointData.active same
  rw [record_active] at active
  cases active

theorem Thread.Locates.step {origin : Origin} (report : Report)
    (effect : Effect cfg registry origin s t (s.threads t).control s')
    (locates : (s.threads t).Locates registry (latest t)) :
    (s'.threads t).Locates registry (Machine.latestFault latest (t, report) s' t) := by
  generalize control : (s.threads t).control = statement at effect
  cases effect with
  | executed instruction settled next clear =>
    simp only [Locates, control] at locates
    cases flag : (s.threads t).trapFlag with
    | false =>
      have reached : ((s.execute t instruction).threads t).control = .user := by simp [flag]
      rw [Machine.latestFault_same reached (by simp)]
      simpa [Locates, flag] using locates
    | true =>
      have reached : ((s.execute t instruction).threads t).control = .getBreakPoint := by simp [flag]
      rw [Machine.latestFault_same reached (by simp)]
      simpa [Locates, flag] using locates
  | faulted instruction access a write found settled next denied resolves raised =>
    simp [Locates, Machine.latestFault]
  | resolved a write found settled resolves raised =>
    simp only [Locates, control] at locates
    subst locates
    cases write with
    | false => simpa [Locates, Machine.latestFault] using resolves
    | true => simpa [Locates, Machine.latestFault] using resolves
  | hookedRead found space settled raised present =>
    simp only [Locates, control] at locates
    simpa [Locates, Machine.latestFault] using locates
  | unprotected found write space area settled raised present changed =>
    simp only [Locates, control] at locates
    simpa [Locates, Machine.latestFault] using locates
  | installed found write settled raised =>
    simp only [Locates, control] at locates
    simp only [Locates, Machine.setThread_self, Machine.latestFault]
    intro other same
    obtain rfl := record_kind same
    rw [← record_true_inj same]
    exact locates
  | trapped found write raised recorded =>
    simp only [Locates, control] at locates
    rcases afterTrap_cases cfg found write with hook | plain
    · have written : write = true := by
        cases write with
        | false => simp [afterTrap] at hook
        | true => rfl
      subst written
      simpa [Locates, Machine.latestFault, hook] using locates found recorded.breakPoint
    · simp [Locates, plain]
  | hookedWrite found space raised recorded hooked present => simp [Locates]
  | uninstalled found write raised recorded => simp [Locates]
  | restored found write space area raised idle present changed =>
    simp only [Locates, Machine.goto_self, idle.breakPoint]
    intro other same
    exact absurd same (fresh_ne_record other)

theorem Registry.Resolves.asked {siAddr : Nat} {found : Found} (resolves : registry.Resolves siAddr found)
    (controllers : ControllerPtr → Controller Device) (kind : HookTypes)
    (hooked : (controllers found.controller).getHookTypes.and kind = true) :
    ∃ space, Asked controllers registry kind siAddr found space := by
  obtain ⟨entry, space, present, inside, offset⟩ := resolves
  refine ⟨space, hooked, entry, present, inside, offset, ?_⟩
  obtain ⟨low, high⟩ := inside
  omega

theorem World.mem_perform {instruction : Instruction} {event : DeviceEvent}
    (member : event ∈ (world.perform t instruction).1.trace)
    (controllers : ControllerPtr → Controller Device) (registry : Registry) :
    event ∈ world.trace ∨ event.Asked controllers registry := by
  have keep : ∀ (accesses : List Access) (state : World Device × Loaded),
      event ∈ (accesses.foldl (World.access t) state).1.trace →
        event ∈ state.1.trace ∨ event.Asked controllers registry := by
    intro accesses
    induction accesses with
    | nil => exact fun state here => Or.inl here
    | cons access rest ih =>
      intro state later
      rcases ih _ later with before | asked
      · cases access <;> rcases List.mem_append.mp before with earlier | new
        · exact Or.inl earlier
        · rw [List.mem_singleton.mp new]
          exact Or.inr trivial
        · exact Or.inl earlier
        · rw [List.mem_singleton.mp new]
          exact Or.inr trivial
      · exact Or.inr asked
  exact keep instruction (world, []) member

/-- The invariant over all interleavings: the protections explain every classification, the locals of
    every handler name the owner of the fault, and the trace holds nothing else. -/
structure Hooking (cfg : Config Area Device) (law : cfg.platform.Law) (registry : Registry)
    (world : World Device) (s : Machine Area Device × (ThreadId → Nat)) : Prop where
  disciplined : Disciplined cfg law registry (hookOrigin registry) s.1
  locates : ∀ t, (s.1.threads t).Locates registry (s.2 t)
  trace : ∀ event ∈ s.1.world.trace, event ∈ world.trace ∨ event.Asked cfg.controllers registry

theorem Hooking.step (scenario : Scenario cfg law registry (hookOrigin registry))
    (hooking : Hooking cfg law registry world (s, latest)) {report : Report}
    (taken : Machine.step cfg s (t, report) = some s') :
    Hooking cfg law registry world (s', Machine.latestFault latest (t, report) s') := by
  have effect := scenario.step_effect hooking.disciplined taken
  refine ⟨effect.disciplined hooking.disciplined, ?_, ?_⟩
  · intro u
    by_cases mine : u = t
    · subst mine
      exact Thread.Locates.step report effect (hooking.locates u)
    · have kept := hooking.locates u
      dsimp only at kept ⊢
      rw [Machine.latestFault_other latest report s' mine, Machine.step_other taken mine]
      exact kept
  · have located := hooking.locates t
    have before := hooking.trace
    generalize control : (s.threads t).control = statement at effect
    cases effect with
    | executed instruction settled next clear =>
      intro event member
      rcases World.mem_perform member cfg.controllers registry with earlier | asked
      · exact before event earlier
      · exact Or.inr asked
    | hookedRead found space settled raised present =>
      simp only [Thread.Locates, control] at located
      obtain ⟨entry, owner, live, reads⟩ := raised
      have hooked : (cfg.controllers found.controller).getHookTypes.and .read = true := by
        rw [scenario.getHookTypes entry live]
        exact reads rfl
      obtain ⟨area, asked⟩ := located.asked cfg.controllers _ hooked
      intro event member
      rcases List.mem_append.mp member with earlier | new
      · exact before event earlier
      · rw [List.mem_singleton.mp new]
        exact Or.inr ⟨latest t, found, area, rfl, rfl, asked⟩
    | hookedWrite found space raised recorded hooked present =>
      simp only [Thread.Locates, control] at located
      obtain ⟨area, asked⟩ := located.asked cfg.controllers _ hooked
      intro event member
      rcases List.mem_append.mp member with earlier | new
      · exact before event earlier
      · rw [List.mem_singleton.mp new]
        exact Or.inr ⟨latest t, found, area, rfl, rfl, asked⟩
    | _ => exact before

theorem Hooking.boot (cfg : Config Area Device) (law : cfg.platform.Law) (registry : Registry)
    (world : World Device) :
    Hooking cfg law registry world (Machine.boot cfg registry world, fun _ => 0) where
  disciplined := Disciplined.boot cfg law registry _ world
  locates := fun _ found same => absurd same (fresh_ne_record found)
  trace := fun _ member => Or.inl member

structure OnlyAsked (cfg : Config Area Device) (registry : Registry) (world : World Device)
    (s : Machine Area Device) (latest : ThreadId → Nat) : Prop where
  doHookRead : ∀ {t found}, (s.threads t).control = .doHookRead found →
    ∃ space, Asked cfg.controllers registry .read (latest t) found space ∧
      ∀ {report s'}, Machine.step cfg s (t, report) = some s' →
        s'.world = s.world.doHookRead (cfg.controllers found.controller) t found.controller space found.offset
  doHookWrite : ∀ {t ioSpace controller offset}, (s.threads t).control = .doHookWrite ioSpace controller offset →
    ∃ space, Asked cfg.controllers registry .write (latest t) ⟨controller, ioSpace, offset⟩ space ∧
      ∀ {report s'}, Machine.step cfg s (t, report) = some s' →
        s'.world = s.world.doHookWrite (cfg.controllers controller) t controller space offset
  trace : ∀ event ∈ s.world.trace, event ∈ world.trace ∨ event.Asked cfg.controllers registry

theorem Hooking.onlyAsked (scenario : Scenario cfg law registry (hookOrigin registry))
    (hooking : Hooking cfg law registry world (s, latest)) : OnlyAsked cfg registry world s latest where
  doHookRead := by
    intro t found control
    have located := hooking.locates t
    have here := hooking.disciplined.threads t
    simp only [Thread.Locates, control] at located
    simp only [Thread.Disciplined, control] at here
    obtain ⟨-, entry, owner, live, reads⟩ := here
    obtain ⟨space, asked⟩ := located.asked cfg.controllers .read (by
      rw [scenario.getHookTypes entry live]
      exact reads rfl)
    refine ⟨space, asked, fun taken => ?_⟩
    have effect := scenario.step_effect hooking.disciplined taken
    rw [control] at effect
    cases effect with
    | hookedRead found called settled raised present =>
      cases asked.present.symm.trans present
      rfl
  doHookWrite := by
    intro t ioSpace controller offset control
    have located := hooking.locates t
    have here := hooking.disciplined.threads t
    simp only [Thread.Locates, control] at located
    simp only [Thread.Disciplined, control] at here
    obtain ⟨-, -, -, hooked, -⟩ := here
    obtain ⟨space, asked⟩ := located.asked cfg.controllers .write hooked
    refine ⟨space, asked, fun taken => ?_⟩
    have effect := scenario.step_effect hooking.disciplined taken
    rw [control] at effect
    cases effect with
    | hookedWrite found called raised recorded hooked present =>
      cases asked.present.symm.trans present
      rfl
  trace := hooking.trace

theorem RegisteredAccess.onlyAsked (cfg : Config Area Device)
    (accesses : RegisteredAccess cfg.controllers cfg.program registry) (law : cfg.platform.Law) {actions : List (ThreadId × Report)}
    (ran : Transition.run (Machine.step cfg) (Machine.boot cfg registry world) actions = some s) :
    ∃ latest, Transition.run (Transition.observed (Machine.step cfg) Machine.latestFault)
        (Machine.boot cfg registry world, fun _ => 0) actions = some (s, latest) ∧
      OnlyAsked cfg registry world s latest := by
  have scenario := accesses.hookScenario law
  obtain ⟨latest, observed⟩ := Transition.exists_observed Machine.latestFault (fun _ => 0) ran
  have keep : ∀ (m : Machine Area Device × (ThreadId → Nat)) (action : ThreadId × Report)
      (m' : Machine Area Device × (ThreadId → Nat)), Hooking cfg law registry world m →
        Transition.observed (Machine.step cfg) Machine.latestFault m action = some m' →
          Hooking cfg law registry world m' := by
    rintro ⟨m, earlier⟩ ⟨t, report⟩ m' hooking taken
    obtain ⟨after, stepped, rfl⟩ := Option.map_eq_some_iff.mp taken
    exact hooking.step scenario stepped
  have hooking := Transition.run_invariant keep (Hooking.boot cfg law registry world) observed
  exact ⟨latest, observed, hooking.onlyAsked scenario⟩

end

/-- Whatever the threads interleave, on either platform: only hooks that were asked for are called, each
    with the area of the owner of the faulting address. -/
theorem hooks_only_where_asked (controllers : ControllerPtr → Controller Device)
    (program : ThreadId → Program) (registry : Registry)
    (accesses : RegisteredAccess controllers program registry) (world : World Device)
    (actions : List (ThreadId × Report)) :
    (∀ s : Machine Posix.IoSpace Device,
      Transition.run (Machine.step (Posix.config controllers program))
        (Machine.boot (Posix.config controllers program) registry world) actions = some s →
      ∃ latest, Transition.run
          (Transition.observed (Machine.step (Posix.config controllers program)) Machine.latestFault)
          (Machine.boot (Posix.config controllers program) registry world, fun _ => 0) actions = some (s, latest) ∧
        OnlyAsked (Posix.config controllers program) registry world s latest) ∧
    (∀ s : Machine Windows.IoSpace Device,
      Transition.run (Machine.step (Windows.config controllers program))
        (Machine.boot (Windows.config controllers program) registry world) actions = some s →
      ∃ latest, Transition.run
          (Transition.observed (Machine.step (Windows.config controllers program)) Machine.latestFault)
          (Machine.boot (Windows.config controllers program) registry world, fun _ => 0) actions = some (s, latest) ∧
        OnlyAsked (Windows.config controllers program) registry world s latest) :=
  ⟨fun _ ran => RegisteredAccess.onlyAsked (Posix.config controllers program) accesses Posix.law ran,
    fun _ ran => RegisteredAccess.onlyAsked (Windows.config controllers program) accesses Windows.law ran⟩

theorem crossing_hooks_asked :
    (∃ (s : Machine Posix.IoSpace Nat) (latest : ThreadId → Nat),
      Transition.run (Machine.step (Posix.config counting fun _ => moveRegister))
        (Machine.boot (Posix.config counting fun _ => moveRegister) (Registry.after pair) zeroWorld)
        crossing = some s ∧
      OnlyAsked (Posix.config counting fun _ => moveRegister) (Registry.after pair) zeroWorld s latest) ∧
    (∃ (s : Machine Windows.IoSpace Nat) (latest : ThreadId → Nat),
      Transition.run (Machine.step (Windows.config counting fun _ => moveRegister))
        (Machine.boot (Windows.config counting fun _ => moveRegister) (Registry.after pair) zeroWorld)
        crossing = some s ∧
      OnlyAsked (Windows.config counting fun _ => moveRegister) (Registry.after pair) zeroWorld s latest) := by
  have enabledP : (Transition.run (Machine.step (Posix.config counting fun _ => moveRegister))
      (Machine.boot (Posix.config counting fun _ => moveRegister) (Registry.after pair) zeroWorld)
      crossing).isSome = true := by decide
  have enabledW : (Transition.run (Machine.step (Windows.config counting fun _ => moveRegister))
      (Machine.boot (Windows.config counting fun _ => moveRegister) (Registry.after pair) zeroWorld)
      crossing).isSome = true := by decide
  obtain ⟨p, ranP⟩ := Option.isSome_iff_exists.mp enabledP
  obtain ⟨w, ranW⟩ := Option.isSome_iff_exists.mp enabledW
  have asked := hooks_only_where_asked counting (fun _ => moveRegister) (Registry.after pair)
    (registered_move counting .readWrite .write rfl rfl) zeroWorld crossing
  obtain ⟨latestP, -, askedP⟩ := asked.1 p ranP
  obtain ⟨latestW, -, askedW⟩ := asked.2 w ranW
  exact ⟨⟨p, latestP, ranP, askedP⟩, ⟨w, latestW, ranW, askedW⟩⟩

end ExMM
