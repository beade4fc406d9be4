import ExMM.Machine.Effects
import ExMM.Model.Reference

namespace ExMM

variable {Area Device : Type}

structure SingleAccess (controllers : ControllerPtr → Controller Device) (program : ThreadId → Program)
    (registry : Registry) : Prop where
  registered : registry.WellFormed
  getHookTypes : ∀ {controller : ControllerPtr} {ioSpace : IoSpacePtr} {space : IoSpace},
    registry.ioMap[controller]? = some ioSpace → registry.ioSpaces[ioSpace]? = some space →
      (controllers controller).getHookTypes = space.hookTypes
  instructions : ∀ {t history instruction}, program t history = some instruction →
    instruction = [] ∨ ∃ access found, instruction = [access] ∧ registry.Covers access found

def singleOrigin (program : ThreadId → Program) (registry : Registry) : Origin :=
  fun t history found write => ∃ access space, program t history = some [access] ∧
    registry.Covers access found ∧ registry.ioSpaces[found.ioSpace]? = some space ∧
    (initialProtection space.hookTypes).allows access.kind = false ∧ write = (access.kind == .store)

theorem initialProtection_load (hookTypes : HookTypes) :
    (initialProtection hookTypes).allows .load = !hookTypes.and .read := by
  cases hookTypes <;> rfl

theorem allows_readWrite (kind : AccessKind) : Protection.readWrite.allows kind = true := rfl

theorem and_write_of_allows_store {hookTypes : HookTypes}
    (allowed : (initialProtection hookTypes).allows .store = true) : hookTypes.and .write = false := by
  cases hookTypes <;> first | rfl | contradiction

theorem SingleAccess.scenario {cfg : Config Area Device} {registry : Registry}
    (single : SingleAccess cfg.controllers cfg.program registry) (law : cfg.platform.Law) :
    Scenario cfg law registry (singleOrigin cfg.program registry) where
  registered := single.registered
  getHookTypes := single.getHookTypes
  live := by
    rintro t history found write ⟨access, space, -, covers, present, -⟩
    exact ⟨covers.1, space, present⟩
  raise := by
    intro s t history instruction access a report same sound next isDenied
    rcases single.instructions next with rfl | ⟨only, found, rfl, covers⟩
    · simp [Machine.faulting] at isDenied
    · have registered : s.registry.WellFormed := same ▸ single.registered
      have coversHere : s.registry.Covers only found := same ▸ covers
      rw [Machine.faulting_covered registered coversHere] at isDenied
      by_cases allowed : (cfg.platform.protection (s.areas found.ioSpace)).allows only.kind = true
      · simp [allowed] at isDenied
      · simp only [if_neg allowed, List.mem_singleton, Prod.mk.injEq] at isDenied
        obtain ⟨rfl, rfl⟩ := isDenied
        obtain ⟨space, present, -⟩ := covers.2
        refine ⟨found, covers.resolves, access, space, next, covers, present, ?_, ?_⟩
        · rcases law.protection_sound (sound _ _ present) with initial | opened
          · rw [initial] at allowed
            simpa using allowed
          · rw [opened] at allowed
            exact absurd (allows_readWrite _) allowed
        · cases kind : access.kind <;> simp [Machine.isMemoryWriteAccess, kind]

theorem SingleAccess.origin_unique {controllers : ControllerPtr → Controller Device}
    {program : ThreadId → Program} {registry : Registry} (single : SingleAccess controllers program registry)
    {t : ThreadId} {history : List Loaded} {left right : Found} {leftWrite rightWrite : Bool}
    (hl : singleOrigin program registry t history left leftWrite)
    (hr : singleOrigin program registry t history right rightWrite) :
    left = right ∧ leftWrite = rightWrite := by
  obtain ⟨access, -, nextL, coversL, -, -, rfl⟩ := hl
  obtain ⟨other, -, nextR, coversR, -, -, rfl⟩ := hr
  rw [nextL] at nextR
  simp only [Option.some.injEq, List.cons.injEq, and_true] at nextR
  subst nextR
  exact ⟨single.registered.resolves_unique coversL.resolves coversR.resolves, rfl⟩

def afterFault (controllers : ControllerPtr → Controller Device) (registry : Registry) (t : ThreadId)
    (found : Found) (write : Bool) (world : World Device) : World Device :=
  if write then world else Reference.readHook controllers registry t found world

def afterHook (controllers : ControllerPtr → Controller Device) (registry : Registry) (t : ThreadId)
    (found : Found) (write : Bool) (world : World Device) : World Device :=
  if write && (controllers found.controller).getHookTypes.and .write then
    Reference.writeHook controllers registry t found world
  else world

theorem SingleAccess.reference_hooked {controllers : ControllerPtr → Controller Device}
    {program : ThreadId → Program} {registry : Registry} (single : SingleAccess controllers program registry)
    {t : ThreadId} {access : Access} {found : Found} {space : IoSpace} {write : Bool}
    (covers : registry.Covers access found) (present : registry.ioSpaces[found.ioSpace]? = some space)
    (denied : (initialProtection space.hookTypes).allows access.kind = false)
    (kind : write = (access.kind == .store)) (world : World Device) (loaded : Loaded) :
    Reference.access controllers registry t (world, loaded) access =
      (afterHook controllers registry t found write
          (World.access t (afterFault controllers registry t found write world, loaded) access).1,
        (World.access t (afterFault controllers registry t found write world, loaded) access).2) := by
  have found_eq := (single.registered.owner_some _ _).mpr covers.resolves
  have hookTypes := single.getHookTypes covers.1 present
  subst kind
  cases kind : access.kind with
  | load =>
    rw [kind, initialProtection_load] at denied
    have reads : space.hookTypes.and .read = true := by simpa using denied
    simp [Reference.access, found_eq, kind, hookTypes, reads, afterHook, afterFault]
  | store => simp [Reference.access, found_eq, kind, afterHook, afterFault]

theorem SingleAccess.reference_plain {controllers : ControllerPtr → Controller Device}
    {program : ThreadId → Program} {registry : Registry} (single : SingleAccess controllers program registry)
    {t : ThreadId} {access : Access} {found : Found} {space : IoSpace}
    (covers : registry.Covers access found) (present : registry.ioSpaces[found.ioSpace]? = some space)
    (allowed : (initialProtection space.hookTypes).allows access.kind = true) (world : World Device)
    (loaded : Loaded) :
    Reference.access controllers registry t (world, loaded) access = World.access t (world, loaded) access := by
  have found_eq := (single.registered.owner_some _ _).mpr covers.resolves
  have hookTypes := single.getHookTypes covers.1 present
  cases kind : access.kind with
  | load =>
    rw [kind, initialProtection_load] at allowed
    have reads : space.hookTypes.and .read = false := by simpa using allowed
    simp [Reference.access, found_eq, kind, hookTypes, reads]
  | store =>
    rw [kind] at allowed
    simp [Reference.access, found_eq, kind, hookTypes, and_write_of_allows_store allowed]

end ExMM
