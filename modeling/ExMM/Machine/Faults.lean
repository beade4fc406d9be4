import ExMM.Model.Machine
import ExMM.Registry.Resolution

namespace ExMM

namespace Registry

variable {registry : Registry}

theorem WellFormed.mapping_some (registered : registry.WellFormed) (a : Nat) (ioSpace : IoSpacePtr) :
    registry.mapping a = some ioSpace ↔
      ∃ space, registry.ioSpaces[ioSpace]? = some space ∧ space.Contains a := by
  have unique : Search.Unambiguous (fun entry : IoSpacePtr × IoSpace => decide (entry.2.Contains a))
      registry.ioSpaces.toList := by
    rintro ⟨left, leftSpace⟩ hl ⟨right, rightSpace⟩ hr leftHolds rightHolds
    have presentL := Std.TreeMap.mem_toList_iff_getElem?_eq_some.mp hl
    have presentR := Std.TreeMap.mem_toList_iff_getElem?_eq_some.mp hr
    have same : left = right := registered.disjoint presentL presentR (of_decide_eq_true leftHolds)
      (of_decide_eq_true rightHolds)
    subst same
    rw [presentL] at presentR
    cases presentR
    rfl
  simp only [mapping, Option.map_eq_some_iff, Search.find_unambiguous unique, decide_eq_true_eq]
  constructor
  · rintro ⟨⟨p, space⟩, ⟨member, inside⟩, rfl⟩
    exact ⟨space, Std.TreeMap.mem_toList_iff_getElem?_eq_some.mp member, inside⟩
  · rintro ⟨space, present, inside⟩
    exact ⟨(ioSpace, space), ⟨Std.TreeMap.mem_toList_iff_getElem?_eq_some.mpr present, inside⟩, rfl⟩

theorem WellFormed.resolves_mapped (registered : registry.WellFormed) {a : Nat} {ioSpace : IoSpacePtr}
    (mapped : registry.mapping a = some ioSpace) :
    ∃ found, registry.Resolves a found ∧ found.ioSpace = ioSpace := by
  obtain ⟨space, present, inside⟩ := (registered.mapping_some a ioSpace).mp mapped
  obtain ⟨controller, entry⟩ := registered.owned present
  exact ⟨⟨controller, ioSpace, a - space.publicArea⟩, ⟨entry, space, present, inside, rfl⟩, rfl⟩

theorem WellFormed.resolves_unique (registered : registry.WellFormed) {a : Nat} {left right : Found}
    (hl : registry.Resolves a left) (hr : registry.Resolves a right) : left = right := by
  have foundL := (registered.findController_some a left).mpr hl
  rw [(registered.findController_some a right).mpr hr] at foundL
  simp only [Option.some.injEq] at foundL
  exact foundL.symm

theorem WellFormed.owner_some (registered : registry.WellFormed) (a : Nat) (found : Found) :
    registry.owner a = some found ↔ registry.Resolves a found := by
  have unique (ioSpace : IoSpacePtr) : Search.Unambiguous (fun entry : ControllerPtr × IoSpacePtr => entry.2 == ioSpace)
      registry.ioMap.toList := by
    rintro ⟨left, leftSpace⟩ hl ⟨right, rightSpace⟩ hr leftHolds rightHolds
    obtain rfl : leftSpace = ioSpace := beq_iff_eq.mp leftHolds
    obtain rfl : rightSpace = leftSpace := beq_iff_eq.mp rightHolds
    have keys := registered.distinct (Std.TreeMap.mem_toList_iff_getElem?_eq_some.mp hl)
      (Std.TreeMap.mem_toList_iff_getElem?_eq_some.mp hr)
    rw [keys]
  simp only [owner, Option.bind_eq_bind, Option.bind_eq_some_iff, registered.mapping_some,
    Search.find_unambiguous (unique _), beq_iff_eq, Option.some.injEq]
  constructor
  · rintro ⟨ioSpace, ⟨space, present, inside⟩, _, same, ⟨controller, _⟩, ⟨member, rfl⟩, rfl⟩
    rw [present, Option.some.injEq] at same
    subst same
    exact ⟨Std.TreeMap.mem_toList_iff_getElem?_eq_some.mp member, space, present, inside, rfl⟩
  · rintro ⟨entry, space, present, inside, offset⟩
    refine ⟨found.ioSpace, ⟨space, present, inside⟩, space, present, (found.controller, found.ioSpace),
      ⟨Std.TreeMap.mem_toList_iff_getElem?_eq_some.mpr entry, rfl⟩, ?_⟩
    rw [← offset]

def Covers (registry : Registry) (access : Access) (found : Found) : Prop :=
  registry.ioMap[found.controller]? = some found.ioSpace ∧
    ∃ space, registry.ioSpaces[found.ioSpace]? = some space ∧ 0 < access.width ∧
      space.publicArea ≤ access.address ∧
      access.address + access.width ≤ space.publicArea + space.size ∧
      found.offset = access.address - space.publicArea

theorem Covers.resolves {access : Access} {found : Found} (covers : registry.Covers access found) :
    registry.Resolves access.address found := by
  obtain ⟨entry, space, present, positive, low, high, offset⟩ := covers
  exact ⟨entry, space, present, ⟨low, by omega⟩, offset⟩

theorem Covers.positive {access : Access} {found : Found} (covers : registry.Covers access found) :
    0 < access.width := by
  obtain ⟨-, space, -, positive, -⟩ := covers
  exact positive

theorem WellFormed.mapping_of_covers (registered : registry.WellFormed) {access : Access} {found : Found}
    (covers : registry.Covers access found) {a : Nat} (member : a ∈ access.bytes) :
    registry.mapping a = some found.ioSpace := by
  obtain ⟨-, space, present, -, low, high, -⟩ := covers
  obtain ⟨i, bound, rfl⟩ := List.mem_map.mp member
  have small : i < access.width := List.mem_range.mp bound
  exact (registered.mapping_some _ _).mpr ⟨space, present, by omega, by omega⟩

end Registry

theorem Access.find_uniform (access : Access) (positive : 0 < access.width) {permitted : Nat → Bool}
    {allowed : Bool} (uniform : ∀ a ∈ access.bytes, permitted a = allowed) :
    (access.bytes.find? fun a => !permitted a) = if allowed then none else some access.address := by
  cases allowed with
  | true =>
    rw [if_pos rfl, List.find?_eq_none]
    intro a member
    simp [uniform a member]
  | false =>
    have width : access.width = (access.width - 1) + 1 := by omega
    have first : access.address ∈ access.bytes :=
      List.mem_map.mpr ⟨0, List.mem_range.mpr positive, rfl⟩
    rw [bytes, width, List.range_succ_eq_map, List.map_cons, List.find?_cons, Nat.add_zero,
      uniform _ first]
    rfl

namespace Machine

variable {Area Device : Type} {cfg : Config Area Device} {s : Machine Area Device}

theorem mem_faulting {instruction : Instruction} {access : Access} {a : Nat} :
    (access, a) ∈ faulting cfg s instruction ↔ access ∈ instruction ∧ denied cfg s access = some a := by
  simp only [faulting, List.mem_filterMap, Option.map_eq_some_iff, Prod.mk.injEq]
  constructor
  · rintro ⟨access, member, _, isDenied, rfl, rfl⟩
    exact ⟨member, isDenied⟩
  · rintro ⟨member, isDenied⟩
    exact ⟨access, member, a, isDenied, rfl, rfl⟩

theorem denied_some {access : Access} {a : Nat} (isDenied : denied cfg s access = some a) :
    a ∈ access.bytes ∧ permitted cfg s access.kind a = false :=
  ⟨List.mem_of_find?_eq_some isDenied, by simpa using List.find?_some isDenied⟩

theorem denied_none {access : Access} :
    denied cfg s access = none ↔ ∀ a ∈ access.bytes, permitted cfg s access.kind a = true := by
  simp [denied, List.find?_eq_none]

theorem stepUser_cases (cfg : Config Area Device) (s : Machine Area Device) (t : ThreadId) (report : Report)
    (instruction : Instruction) :
    (faulting cfg s instruction = [] ∧ stepUser cfg s t report instruction = s.execute t instruction) ∨
      ∃ access a, (access, a) ∈ faulting cfg s instruction ∧
        stepUser cfg s t report instruction = s.fault t a (isMemoryWriteAccess instruction access report) := by
  unfold stepUser
  by_cases empty : faulting cfg s instruction = []
  · left
    simp [empty]
  · right
    have bound : report.choice % (faulting cfg s instruction).length < (faulting cfg s instruction).length :=
      Nat.mod_lt _ (List.length_pos_iff.mpr empty)
    rcases chosen : (faulting cfg s instruction)[report.choice % (faulting cfg s instruction).length] with
      ⟨access, a⟩
    have member : (access, a) ∈ faulting cfg s instruction := chosen ▸ List.getElem_mem bound
    refine ⟨access, a, member, ?_⟩
    simp only [List.getElem?_eq_getElem bound, chosen]

/-- Within one area the whole access is denied or permitted, so the fault is at its first byte. -/
theorem denied_covered (registered : s.registry.WellFormed) {access : Access} {found : Found}
    (covers : s.registry.Covers access found) :
    denied cfg s access =
      if (cfg.platform.protection (s.areas found.ioSpace)).allows access.kind then none
      else some access.address := by
  refine access.find_uniform covers.positive fun a member => ?_
  simp only [permitted, registered.mapping_of_covers covers member]

theorem faulting_covered (registered : s.registry.WellFormed) {access : Access} {found : Found}
    (covers : s.registry.Covers access found) :
    faulting cfg s [access] =
      if (cfg.platform.protection (s.areas found.ioSpace)).allows access.kind then []
      else [(access, access.address)] := by
  simp only [faulting, List.filterMap_cons, List.filterMap_nil, denied_covered registered covers]
  by_cases allowed : (cfg.platform.protection (s.areas found.ioSpace)).allows access.kind = true
  · simp [allowed]
  · simp [allowed]

theorem goto_history (s : Machine Area Device) {t : ThreadId} (control : Control) (u : ThreadId) :
    ((s.goto t control).threads u).history = (s.threads u).history := by
  by_cases mine : u = t
  · subst mine
    rw [goto_self]
  · rw [goto_other s control mine]

theorem stepUser_other (cfg : Config Area Device) (s : Machine Area Device) {t u : ThreadId}
    (report : Report) (instruction : Instruction) (other : u ≠ t) :
    (s.stepUser cfg t report instruction).threads u = s.threads u := by
  rcases stepUser_cases cfg s t report instruction with ⟨-, executed⟩ | ⟨access, a, -, faulted⟩
  · rw [executed, execute_other s instruction other]
  · rw [faulted, fault]
    split
    · exact setThread_other s _ other
    · rfl

theorem stepHandler_other {s' : Machine Area Device} {t u : ThreadId}
    {control : Control} (taken : s.stepHandler cfg t control = some s') (other : u ≠ t) :
    s'.threads u = s.threads u := by
  have moved : ∀ next, (s.goto t next).threads u = s.threads u := fun next => goto_other s next other
  cases control with
  | user => cases taken
  | findController a write =>
    simp only [stepHandler] at taken
    split at taken <;> cases taken
    · exact moved _
    · exact moved _
  | doHookRead found =>
    simp only [stepHandler, Option.bind_eq_bind, Option.bind_eq_some_iff] at taken
    obtain ⟨space, -, same⟩ := taken
    cases same
    exact moved _
  | unprotect found write =>
    simp only [stepHandler, Option.bind_eq_bind, Option.bind_eq_some_iff] at taken
    obtain ⟨space, -, area, -, same⟩ := taken
    cases same
    exact moved _
  | installBreakPoint found write =>
    cases taken
    exact setThread_other s _ other
  | getBreakPoint =>
    simp only [stepHandler] at taken
    split at taken
    · simp only [Option.bind_eq_bind, Option.bind_eq_some_iff] at taken
      obtain ⟨ioSpace, -, same⟩ := taken
      split at same
      · split at same <;> cases same <;> exact moved _
      · cases same
        exact moved _
    · cases taken
      exact moved _
  | doHookWrite ioSpace controller offset =>
    simp only [stepHandler, Option.bind_eq_bind, Option.bind_eq_some_iff] at taken
    obtain ⟨space, -, same⟩ := taken
    cases same
    exact moved _
  | uninstallBreakPoint ioSpace =>
    cases taken
    exact setThread_other s _ other
  | restoreProtection ioSpace =>
    simp only [stepHandler, Option.bind_eq_bind, Option.bind_eq_some_iff] at taken
    obtain ⟨space, -, area, -, same⟩ := taken
    cases same
    exact moved _

theorem step_other {s' : Machine Area Device} {t u : ThreadId}
    {report : Report} (taken : step cfg s (t, report) = some s') (other : u ≠ t) :
    s'.threads u = s.threads u := by
  simp only [step] at taken
  split at taken
  · cases taken
  · split at taken
    · obtain ⟨instruction, -, rfl⟩ := Option.map_eq_some_iff.mp taken
      exact stepUser_other cfg s report instruction other
    · exact stepHandler_other taken other
end Machine

end ExMM
