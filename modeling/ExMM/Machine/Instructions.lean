import Mathlib.Data.Finset.Card
import Mathlib.Data.Finset.Dedup
import ExMM.Machine.Effects

namespace ExMM

variable {Device : Type}

abbrev Posix.config (controllers : ControllerPtr → Controller Device) (program : ThreadId → Program) :
    Config Posix.IoSpace Device :=
  { platform := Posix.platform, controllers, program }

structure RegisteredAccess (controllers : ControllerPtr → Controller Device) (program : ThreadId → Program)
    (registry : Registry) : Prop where
  registered : registry.WellFormed
  getHookTypes : ∀ {controller : ControllerPtr} {ioSpace : IoSpacePtr} {space : IoSpace},
    registry.ioMap[controller]? = some ioSpace → registry.ioSpaces[ioSpace]? = some space →
      (controllers controller).getHookTypes = space.hookTypes
  mapped : ∀ {t history instruction access a}, program t history = some instruction →
    access ∈ instruction → a ∈ access.bytes → ∃ ioSpace, registry.mapping a = some ioSpace

namespace Registry

def hookTypes (registry : Registry) (ioSpace : IoSpacePtr) : HookTypes :=
  (registry.ioSpaces[ioSpace]?.map IoSpace.hookTypes).getD .none

theorem hookTypes_present {registry : Registry} {ioSpace : IoSpacePtr} {space : IoSpace}
    (present : registry.ioSpaces[ioSpace]? = some space) : registry.hookTypes ioSpace = space.hookTypes := by
  simp [hookTypes, present]

def touched (registry : Registry) (instruction : Instruction) : Finset IoSpacePtr :=
  (instruction.flatMap fun access => access.bytes.filterMap registry.mapping).toFinset

def denied (registry : Registry) (instruction : Instruction) : Finset IoSpacePtr :=
  (instruction.flatMap fun access =>
    (access.bytes.filterMap registry.mapping).filter fun ioSpace =>
      !(initialProtection (registry.hookTypes ioSpace)).allows access.kind).toFinset

theorem mem_denied {registry : Registry} {instruction : Instruction} {ioSpace : IoSpacePtr} :
    ioSpace ∈ registry.denied instruction ↔
      ∃ access ∈ instruction, ∃ a ∈ access.bytes, registry.mapping a = some ioSpace ∧
        (initialProtection (registry.hookTypes ioSpace)).allows access.kind = false := by
  simp only [denied, List.mem_toFinset, List.mem_flatMap, List.mem_filter, List.mem_filterMap,
    Bool.not_eq_true']
  constructor
  · rintro ⟨access, issued, ⟨a, byte, mapped⟩, closed⟩
    exact ⟨access, issued, a, byte, mapped, closed⟩
  · rintro ⟨access, issued, a, byte, mapped, closed⟩
    exact ⟨access, issued, ⟨a, byte, mapped⟩, closed⟩

theorem denied_subset_touched (registry : Registry) (instruction : Instruction) :
    registry.denied instruction ⊆ registry.touched instruction := by
  intro ioSpace member
  obtain ⟨access, issued, a, byte, mapped, -⟩ := mem_denied.mp member
  simp only [touched, List.mem_toFinset, List.mem_flatMap, List.mem_filterMap]
  exact ⟨access, issued, a, byte, mapped⟩

end Registry

def registeredOrigin (program : ThreadId → Program) (registry : Registry) : Origin :=
  fun t history found _ => ∃ instruction space, program t history = some instruction ∧
    found.ioSpace ∈ registry.denied instruction ∧ registry.ioMap[found.controller]? = some found.ioSpace ∧
    registry.ioSpaces[found.ioSpace]? = some space

theorem RegisteredAccess.fault {controllers : ControllerPtr → Controller Device}
    {program : ThreadId → Program} {registry : Registry}
    (accesses : RegisteredAccess controllers program registry) {s : Machine Posix.IoSpace Device} {t : ThreadId} {history : List Loaded} {instruction : Instruction}
    {access : Access} {a : Nat} (same : s.registry = registry)
    (sound : ∀ (ioSpace : IoSpacePtr) (space : IoSpace), registry.ioSpaces[ioSpace]? = some space →
      Posix.law.sound space.hookTypes (s.areas ioSpace))
    (next : program t history = some instruction)
    (isDenied : (access, a) ∈ Machine.faulting (Posix.config controllers program) s instruction) :
    ∃ found, registry.Resolves a found ∧ found.ioSpace ∈ registry.denied instruction ∧
      (s.areas found.ioSpace).protection ≠ .readWrite := by
  obtain ⟨issued, closed⟩ := Machine.mem_faulting.mp isDenied
  obtain ⟨byte, refused⟩ := Machine.denied_some closed
  obtain ⟨ioSpace, mapped⟩ := accesses.mapped next issued byte
  obtain ⟨found, resolves, rfl⟩ := accesses.registered.resolves_mapped mapped
  obtain ⟨space, present, -⟩ := resolves.2
  simp only [Machine.permitted, same, mapped] at refused
  change (s.areas found.ioSpace).protection.allows access.kind = false at refused
  have shut : (s.areas found.ioSpace).protection ≠ .readWrite := by
    intro opened
    rw [opened] at refused
    cases refused
  refine ⟨found, resolves, Registry.mem_denied.mpr ⟨access, issued, a, byte, mapped, ?_⟩, shut⟩
  rcases Posix.law.protection_sound (sound _ _ present) with initial | opened
  · rw [Registry.hookTypes_present present, ← initial]
    exact refused
  · exact absurd opened shut

theorem RegisteredAccess.scenario {controllers : ControllerPtr → Controller Device}
    {program : ThreadId → Program} {registry : Registry}
    (accesses : RegisteredAccess controllers program registry) :
    Scenario (Posix.config controllers program) Posix.law registry (registeredOrigin program registry) where
  registered := accesses.registered
  getHookTypes := accesses.getHookTypes
  live := by
    rintro t history found write ⟨instruction, space, -, -, entry, present⟩
    exact ⟨entry, space, present⟩
  raise := by
    intro s t history instruction access a report same sound next isDenied
    obtain ⟨found, resolves, member, -⟩ := accesses.fault same sound next isDenied
    obtain ⟨space, present, -⟩ := resolves.2
    exact ⟨found, resolves, instruction, space, next, member, resolves.1, present⟩

def openedFrom (base : IoSpacePtr → Posix.IoSpace) (opened : Finset IoSpacePtr) :
    IoSpacePtr → Posix.IoSpace :=
  fun ioSpace => if ioSpace ∈ opened then (base ioSpace).unprotect else base ioSpace

theorem openedFrom_empty (base : IoSpacePtr → Posix.IoSpace) : openedFrom base ∅ = base := by
  funext ioSpace
  simp [openedFrom]

theorem openedFrom_insert (base : IoSpacePtr → Posix.IoSpace) (opened : Finset IoSpacePtr)
    (ioSpace : IoSpacePtr) :
    openedFrom base (insert ioSpace opened) =
      Function.update (openedFrom base opened) ioSpace (openedFrom base opened ioSpace).unprotect := by
  funext other
  by_cases mine : other = ioSpace
  · subst mine
    by_cases member : other ∈ opened
    · simp [openedFrom, member, Posix.IoSpace.unprotect]
    · simp [openedFrom, member]
  · simp [openedFrom, mine]

structure Opens (registry : Registry) (base : IoSpacePtr → Posix.IoSpace) (instruction : Instruction)
    (s : Machine Posix.IoSpace Device) (opened : Finset IoSpacePtr) : Prop where
  subset : opened ⊆ registry.denied instruction
  areas : s.areas = openedFrom base opened

/-- Thread 0 before its instruction has executed: each fault opens an area that was not open yet. -/
inductive Entering (registry : Registry) (base : IoSpacePtr → Posix.IoSpace) (instruction : Instruction)
    (s : Machine Posix.IoSpace Device) : Control → Prop
  | user (opened : Finset IoSpacePtr) (opens : Opens registry base instruction s opened)
      (faults : (s.threads 0).faults = opened.card)
      (marked : (opened = ∅ ∧ (s.threads 0).Idle) ∨
        ∃ found write, (s.threads 0).Recorded found write ∧ found.ioSpace ∈ opened) :
      Entering registry base instruction s .user
  | findController (a : Nat) (write : Bool) (found : Found) (opened : Finset IoSpacePtr)
      (resolves : registry.Resolves a found) (opens : Opens registry base instruction s opened)
      (faults : (s.threads 0).faults = opened.card + 1)
      (new : found.ioSpace ∈ registry.denied instruction ∧ found.ioSpace ∉ opened) :
      Entering registry base instruction s (.findController a write)
  | doHookRead (found : Found) (opened : Finset IoSpacePtr)
      (opens : Opens registry base instruction s opened) (faults : (s.threads 0).faults = opened.card + 1)
      (new : found.ioSpace ∈ registry.denied instruction ∧ found.ioSpace ∉ opened) :
      Entering registry base instruction s (.doHookRead found)
  | unprotect (found : Found) (write : Bool) (opened : Finset IoSpacePtr)
      (opens : Opens registry base instruction s opened) (faults : (s.threads 0).faults = opened.card + 1)
      (new : found.ioSpace ∈ registry.denied instruction ∧ found.ioSpace ∉ opened) :
      Entering registry base instruction s (.unprotect found write)
  | installBreakPoint (found : Found) (write : Bool) (opened : Finset IoSpacePtr)
      (opens : Opens registry base instruction s opened) (faults : (s.threads 0).faults = opened.card)
      (member : found.ioSpace ∈ opened) :
      Entering registry base instruction s (.installBreakPoint found write)

theorem Entering.faults_le {registry : Registry} {base : IoSpacePtr → Posix.IoSpace}
    {instruction : Instruction} {s : Machine Posix.IoSpace Device} {control : Control}
    (entering : Entering registry base instruction s control) :
    (s.threads 0).faults ≤ (registry.denied instruction).card := by
  have room : ∀ {opened : Finset IoSpacePtr} {ioSpace : IoSpacePtr}, opened ⊆ registry.denied instruction →
      ioSpace ∈ registry.denied instruction ∧ ioSpace ∉ opened →
        opened.card + 1 ≤ (registry.denied instruction).card := by
    intro opened ioSpace subset new
    rw [← Finset.card_insert_of_notMem new.2]
    exact Finset.card_le_card (Finset.insert_subset new.1 subset)
  cases entering with
  | user opened opens faults marked => exact faults ▸ Finset.card_le_card opens.subset
  | findController a write found opened resolves opens faults new => exact faults ▸ room opens.subset new
  | doHookRead found opened opens faults new => exact faults ▸ room opens.subset new
  | unprotect found write opened opens faults new => exact faults ▸ room opens.subset new
  | installBreakPoint found write opened opens faults member =>
    exact faults ▸ Finset.card_le_card opens.subset

structure Complete (registry : Registry) (base : IoSpacePtr → Posix.IoSpace) (instruction : Instruction)
    (opened : Finset IoSpacePtr) : Prop where
  subset : opened ⊆ registry.denied instruction
  open_before : ∀ ioSpace ∈ registry.denied instruction, ioSpace ∉ opened →
    (base ioSpace).protection ≠ initialProtection (registry.hookTypes ioSpace)

/-- Thread 0 after its instruction has executed: the trap restores the one area the record names. -/
inductive Leaving (registry : Registry) (base : IoSpacePtr → Posix.IoSpace) (instruction : Instruction)
    (s : Machine Posix.IoSpace Device) : Control → Prop
  | getBreakPoint (found : Found) (write : Bool) (opened : Finset IoSpacePtr)
      (complete : Complete registry base instruction opened) (areas : s.areas = openedFrom base opened)
      (recorded : (s.threads 0).Recorded found write) (member : found.ioSpace ∈ opened) :
      Leaving registry base instruction s .getBreakPoint
  | doHookWrite (ioSpace : IoSpacePtr) (controller : ControllerPtr) (offset : Nat)
      (opened : Finset IoSpacePtr) (complete : Complete registry base instruction opened)
      (areas : s.areas = openedFrom base opened) (member : ioSpace ∈ opened) :
      Leaving registry base instruction s (.doHookWrite ioSpace controller offset)
  | uninstallBreakPoint (ioSpace : IoSpacePtr) (opened : Finset IoSpacePtr)
      (complete : Complete registry base instruction opened) (areas : s.areas = openedFrom base opened)
      (member : ioSpace ∈ opened) : Leaving registry base instruction s (.uninstallBreakPoint ioSpace)
  | restoreProtection (ioSpace : IoSpacePtr) (opened : Finset IoSpacePtr)
      (complete : Complete registry base instruction opened) (areas : s.areas = openedFrom base opened)
      (member : ioSpace ∈ opened) : Leaving registry base instruction s (.restoreProtection ioSpace)
  | clear (complete : Complete registry base instruction ∅) (areas : s.areas = base)
      (idle : (s.threads 0).Idle) : Leaving registry base instruction s .user
  | restored (ioSpace : IoSpacePtr) (opened : Finset IoSpacePtr)
      (complete : Complete registry base instruction opened) (member : ioSpace ∈ opened)
      (areas : s.areas = Function.update (openedFrom base opened) ioSpace (base ioSpace).restoreProtection)
      (idle : (s.threads 0).Idle) : Leaving registry base instruction s .user

def Machine.distance (s : Machine Posix.IoSpace Device) (areas : Nat) : Nat :=
  match (s.threads 0).control with
  | .restoreProtection _ => 1
  | .uninstallBreakPoint _ => 2
  | .doHookWrite _ _ _ => 3
  | .getBreakPoint => 4
  | .user => 6 * (areas - (s.threads 0).faults) + 5
  | .installBreakPoint _ _ => 6 * (areas - (s.threads 0).faults) + 7
  | .unprotect _ _ => 6 * (areas - (s.threads 0).faults) + 8
  | .doHookRead _ => 6 * (areas - (s.threads 0).faults) + 9
  | .findController _ _ => 6 * (areas - (s.threads 0).faults) + 10

inductive Proceeds (registry : Registry) (base : IoSpacePtr → Posix.IoSpace) (instruction : Instruction)
    (s s' : Machine Posix.IoSpace Device) : Prop
  | entering (entering : Entering registry base instruction s' (s'.threads 0).control)
      (history : (s'.threads 0).history = (s.threads 0).history) (faulted : 0 < (s'.threads 0).faults)
      (less : s'.distance (registry.denied instruction).card < s.distance (registry.denied instruction).card)
  | executed (leaving : Leaving registry base instruction s' (s'.threads 0).control)
      (history : (s'.threads 0).history.length = (s.threads 0).history.length + 1)
      (faults : (s'.threads 0).faults = 0)
      (less : (s'.threads 0).control ≠ .user →
        s'.distance (registry.denied instruction).card < s.distance (registry.denied instruction).card)

end ExMM
