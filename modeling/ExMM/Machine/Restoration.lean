import ExMM.Machine.DeviceModel
import ExMM.Machine.Restarts

namespace ExMM

variable {Device : Type}

def Closed (registry : Registry) (areas : IoSpacePtr → Posix.IoSpace) : Prop :=
  ∀ (ioSpace : IoSpacePtr) (space : IoSpace), registry.ioSpaces[ioSpace]? = some space →
    Posix.law.closed space.hookTypes (areas ioSpace)

variable {controllers : ControllerPtr → Controller Device} {program : ThreadId → Program}
  {registry : Registry} {base : IoSpacePtr → Posix.IoSpace} {instruction : Instruction}
  {s s' : Machine Posix.IoSpace Device} {world : World Device}

theorem Registry.WellFormed.denied_present (registered : registry.WellFormed) {ioSpace : IoSpacePtr}
    (member : ioSpace ∈ registry.denied instruction) :
    ∃ space, registry.ioSpaces[ioSpace]? = some space ∧ initialProtection space.hookTypes ≠ .readWrite := by
  obtain ⟨access, -, a, -, mapped, refused⟩ := Registry.mem_denied.mp member
  obtain ⟨space, present, -⟩ := (registered.mapping_some a ioSpace).mp mapped
  rw [Registry.hookTypes_present present] at refused
  refine ⟨space, present, fun opened => ?_⟩
  rw [opened] at refused
  cases refused

theorem Complete.eq_denied (registered : registry.WellFormed) (closed : Closed registry base)
    {opened : Finset IoSpacePtr} (complete : Complete registry base instruction opened) :
    opened = registry.denied instruction := by
  refine Finset.Subset.antisymm complete.subset fun ioSpace member => ?_
  by_contra missing
  obtain ⟨space, present, -⟩ := registered.denied_present member
  have open_before := complete.open_before ioSpace member missing
  rw [Registry.hookTypes_present present] at open_before
  exact open_before (closed ioSpace space present).2

theorem closed_after_restore (registered : registry.WellFormed) (closed : Closed registry base)
    {ioSpace : IoSpacePtr} (member : ioSpace ∈ registry.denied instruction) :
    Closed registry (Function.update (openedFrom base (registry.denied instruction)) ioSpace
        (base ioSpace).restoreProtection) ↔ (registry.denied instruction).card ≤ 1 := by
  rw [Finset.card_le_one]
  constructor
  · intro rest
    have only : ∀ other ∈ registry.denied instruction, other = ioSpace := by
      intro other denied
      by_contra different
      obtain ⟨space, present, shut⟩ := registered.denied_present denied
      have now := (rest other space present).2
      rw [Function.update_of_ne different, openedFrom, if_pos denied] at now
      exact shut now.symm
    intro left hl right hr
    rw [only left hl, only right hr]
  · intro single other space present
    have before := closed other space present
    by_cases mine : other = ioSpace
    · subst mine
      rw [Function.update_self]
      exact ⟨before.1, before.1⟩
    · have passed : other ∉ registry.denied instruction := fun denied => mine (single other denied ioSpace member)
      rw [Function.update_of_ne mine, openedFrom, if_neg passed]
      exact before

theorem Completed.closed_iff (registered : registry.WellFormed) (closed : Closed registry base)
    {history : List Loaded} (completed : Completed registry base instruction history s) :
    Closed registry s.areas ↔ (registry.denied instruction).card ≤ 1 := by
  cases completed.leaving with
  | clear complete areas idle =>
    rw [areas, ← complete.eq_denied registered closed]
    exact iff_of_true closed (by simp)
  | restored ioSpace opened complete member areas idle =>
    have all := complete.eq_denied registered closed
    subst all
    rw [areas]
    exact closed_after_restore registered closed member

theorem atRest_iff (disciplined : Disciplined (Posix.config controllers program) Posix.law registry
      (registeredOrigin program registry) s) :
    s.AtRest (Posix.config controllers program) registry ↔
      Closed registry s.areas ∧ (s.threads 0).Idle := by
  constructor
  · rintro ⟨protection, breakPoint, trapFlag⟩
    refine ⟨fun ioSpace space live => ⟨(disciplined.sound ioSpace space live).1, ?_⟩, breakPoint, trapFlag⟩
    exact (protection ioSpace space live).trans (Posix.publicFlags_eq _)
  · rintro ⟨closed, idle⟩
    refine ⟨fun ioSpace space live => ?_, idle.breakPoint, idle.trapFlag⟩
    exact (closed ioSpace space live).2.trans (Posix.publicFlags_eq _).symm

def OneAtATime (program : ThreadId → Program) (registry : Registry) (s : Machine Posix.IoSpace Device) : Prop :=
  Stage program registry (Closed registry) (fun instruction => (registry.denied instruction).card ≤ 1) s

theorem OneAtATime.run (accesses : RegisteredAccess controllers program registry) (reports : List Report)
    (guard : ∀ earlier m instruction, earlier <+: reports → earlier ≠ reports →
      Transition.run (Machine.alone (Posix.config controllers program))
        (Machine.boot (Posix.config controllers program) registry world) earlier = some m →
      m.Between 0 → program 0 (m.threads 0).history = some instruction →
        (registry.denied instruction).card ≤ 1)
    (ran : Transition.run (Machine.alone (Posix.config controllers program))
      (Machine.boot (Posix.config controllers program) registry world) reports = some s) :
    OneAtATime program registry s := by
  induction reports using List.reverseRecOn generalizing s with
  | nil =>
    cases ran
    refine Or.inl ⟨⟨rfl, rfl⟩, ⟨rfl, rfl⟩, fun ioSpace space live => ?_⟩
    simp only [Machine.boot, live, Option.map_some, Option.getD_some]
    exact Posix.law.closed_initial space.hookTypes
  | append_singleton reports report ih =>
    rw [Transition.run_append] at ran
    obtain ⟨m, before, last⟩ := Option.bind_eq_some_iff.mp ran
    rw [Transition.run_single] at last
    have strict : ∀ earlier, earlier <+: reports → earlier ≠ reports ++ [report] := by
      rintro earlier shorter rfl
      have length := shorter.length_le
      rw [List.length_append, List.length_singleton] at length
      omega
    have stage := ih (fun earlier m instruction shorter _ => guard earlier m instruction
      (shorter.trans (List.prefix_append _ _)) (strict earlier shorter)) before
    refine stage.step accesses (fun closed single completed =>
      (completed.closed_iff accesses.registered closed).mpr single) (accesses.disciplined before) ?_ last
    intro instruction between next
    exact guard reports m instruction (List.prefix_append _ _) (strict reports (List.prefix_refl _)) before
      between next

/-- A run leaves everything at rest after each of its instructions exactly if none of them was denied in
    two areas at once: the record of the second fault overwrites that of the first. -/
theorem restored_iff_one_area (controllers : ControllerPtr → Controller Device)
    (program : ThreadId → Program) (registry : Registry)
    (accesses : RegisteredAccess controllers program registry) (world : World Device)
    (reports : List Report) (s : Machine Posix.IoSpace Device)
    (ran : Transition.run (Machine.alone (Posix.config controllers program))
      (Machine.boot (Posix.config controllers program) registry world) reports = some s)
    (between : s.Between 0) :
    (∀ earlier m, earlier <+: reports →
      Transition.run (Machine.alone (Posix.config controllers program))
        (Machine.boot (Posix.config controllers program) registry world) earlier = some m →
      m.Between 0 → m.AtRest (Posix.config controllers program) registry) ↔
    ∀ earlier m instruction, earlier <+: reports → earlier ≠ reports →
      Transition.run (Machine.alone (Posix.config controllers program))
        (Machine.boot (Posix.config controllers program) registry world) earlier = some m →
      m.Between 0 → program 0 (m.threads 0).history = some instruction →
        (registry.denied instruction).card ≤ 1 := by
  constructor
  · rintro rests earlier m instruction ⟨rest, rfl⟩ strict before between' next
    have disciplined := accesses.disciplined before
    obtain ⟨closed, idle⟩ := (atRest_iff disciplined).mp
      (rests earlier m (List.prefix_append _ _) before between')
    have underway : Underway registry m.areas instruction (m.threads 0).history m :=
      Underway.of_between between' idle instruction
    rw [Transition.run_append, before, Option.bind_some] at ran
    have more : m.Between 0 → rest ≠ [] := by
      rintro - rfl
      simp at strict
    obtain ⟨part, last, shorter, done, completed⟩ :=
      underway.completes accesses disciplined next more ran between
    have reached : Transition.run (Machine.alone (Posix.config controllers program))
        (Machine.boot (Posix.config controllers program) registry world) (earlier ++ part) = some last := by
      rw [Transition.run_append, before, Option.bind_some, done]
    have rested := rests (earlier ++ part) last (by simpa using shorter) reached completed.between
    have closed' := ((atRest_iff (accesses.disciplined reached)).mp rested).1
    exact (completed.closed_iff accesses.registered closed).mp closed'
  · intro guard earlier m shorter before between'
    have disciplined := accesses.disciplined before
    have stage := OneAtATime.run accesses earlier (fun part m instruction part_le strict =>
      guard part m instruction (part_le.trans shorter) (fun same => strict
        (part_le.eq_of_length_le (same ▸ shorter.length_le)))) before
    rcases stage with ⟨-, idle, closed⟩ | ⟨_, _, _, -, -, -, -, inside⟩
    · exact (atRest_iff disciplined).mpr ⟨closed, idle⟩
    · exact absurd between' inside

def moveReports : List Report := List.replicate 14 { choice := 0, write := false }

theorem move_leaves_area_open : ∃ s : Machine Posix.IoSpace Nat,
    Transition.run (Machine.alone (Posix.config counting fun _ => moveRegister))
      (Machine.boot (Posix.config counting fun _ => moveRegister) (Registry.after pair) zeroWorld)
      moveReports = some s ∧
    s.Between 0 ∧ (s.threads 0).history.length = 1 ∧ (s.areas 100).protection = .readWrite ∧
    ¬ s.AtRest (Posix.config counting fun _ => moveRegister) (Registry.after pair) := by
  have computed : (Transition.run (Machine.alone (Posix.config counting fun _ => moveRegister))
      (Machine.boot (Posix.config counting fun _ => moveRegister) (Registry.after pair) zeroWorld)
      moveReports).map (fun s => ((s.threads 0).control, (s.threads 0).faults,
        (s.threads 0).history.length, (s.areas 100).protection)) = some (.user, 0, 1, .readWrite) := by
    decide
  obtain ⟨s, ran, result⟩ := Option.map_eq_some_iff.mp computed
  simp only [Prod.mk.injEq] at result
  obtain ⟨control, faults, length, opened⟩ := result
  refine ⟨s, ran, ⟨control, faults⟩, length, opened, fun rest => ?_⟩
  have restored : (s.areas 100).protection = Posix.publicFlags .readWrite :=
    rest.protection 100 ⟨.readWrite, 64, 0x10000, 0x50000⟩ (by decide)
  rw [opened] at restored
  cases restored

theorem move_denied_twice : ∃ s : Machine Posix.IoSpace Nat,
    Transition.run (Machine.alone (Posix.config counting fun _ => moveRegister))
      (Machine.boot (Posix.config counting fun _ => moveRegister) (Registry.after pair) zeroWorld)
      moveReports = some s ∧
    ¬ ∀ earlier m, earlier <+: moveReports →
      Transition.run (Machine.alone (Posix.config counting fun _ => moveRegister))
        (Machine.boot (Posix.config counting fun _ => moveRegister) (Registry.after pair) zeroWorld)
        earlier = some m →
      m.Between 0 → m.AtRest (Posix.config counting fun _ => moveRegister) (Registry.after pair) := by
  have computed : (Transition.run (Machine.alone (Posix.config counting fun _ => moveRegister))
      (Machine.boot (Posix.config counting fun _ => moveRegister) (Registry.after pair) zeroWorld)
      moveReports).map (fun s => ((s.threads 0).control, (s.threads 0).faults)) = some (.user, 0) := by
    decide
  obtain ⟨s, ran, result⟩ := Option.map_eq_some_iff.mp computed
  obtain ⟨control, faults⟩ := Prod.mk.inj result
  refine ⟨s, ran, fun rests => ?_⟩
  have single := (restored_iff_one_area counting (fun _ => moveRegister) (Registry.after pair)
    (registered_move counting .readWrite .write rfl rfl) zeroWorld moveReports s ran ⟨control, faults⟩).mp rests
  have card := single [] _ _ (List.nil_prefix) (by decide) rfl ⟨rfl, rfl⟩ rfl
  revert card
  decide

end ExMM
