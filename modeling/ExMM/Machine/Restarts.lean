import ExMM.Machine.DeviceModel
import ExMM.Machine.Instructions

namespace ExMM

variable {Device : Type}

variable {controllers : ControllerPtr → Controller Device} {program : ThreadId → Program}
  {registry : Registry} {base : IoSpacePtr → Posix.IoSpace} {instruction : Instruction}
  {s s' : Machine Posix.IoSpace Device} {world : World Device}

theorem Complete.of_clear (same : s.registry = registry) {opened : Finset IoSpacePtr}
    (opens : Opens registry base instruction s opened)
    (clear : Machine.faulting (Posix.config controllers program) s instruction = []) :
    Complete registry base instruction opened where
  subset := opens.subset
  open_before := by
    intro ioSpace member closed initial
    obtain ⟨access, issued, a, byte, mapped, refused⟩ := Registry.mem_denied.mp member
    have passes : Machine.denied (Posix.config controllers program) s access = none := by
      cases result : Machine.denied (Posix.config controllers program) s access with
      | none => rfl
      | some a =>
        have fault := Machine.mem_faulting.mpr ⟨issued, result⟩
        rw [clear] at fault
        cases fault
    have permitted := Machine.denied_none.mp passes a byte
    have untouched : s.areas ioSpace = base ioSpace := by
      rw [opens.areas, openedFrom, if_neg closed]
    simp only [Machine.permitted, same, mapped, untouched] at permitted
    have allowed : (base ioSpace).protection.allows access.kind = true := permitted
    rw [initial, refused] at allowed
    cases allowed

theorem Proceeds.execute (same : s.registry = registry) {opened : Finset IoSpacePtr}
    (control : (s.threads 0).control = .user) (opens : Opens registry base instruction s opened)
    (marked : (opened = ∅ ∧ (s.threads 0).Idle) ∨
      ∃ found write, (s.threads 0).Recorded found write ∧ found.ioSpace ∈ opened)
    (clear : Machine.faulting (Posix.config controllers program) s instruction = []) :
    Proceeds registry base instruction s (s.execute 0 instruction) := by
  have complete := Complete.of_clear same opens clear
  rcases marked with ⟨rfl, idle⟩ | ⟨found, write, recorded, member⟩
  · have done : ((s.execute 0 instruction).threads 0).control = .user := by simp [idle.trapFlag]
    refine .executed ?_ (by simp) (by simp) (fun pending => absurd done pending)
    rw [done]
    refine .clear complete (opens.areas.trans (openedFrom_empty base)) ⟨?_, ?_⟩
    · simpa using idle.breakPoint
    · simpa using idle.trapFlag
  · have trap : ((s.execute 0 instruction).threads 0).control = .getBreakPoint := by
      simp [recorded.trapFlag]
    refine .executed ?_ (by simp) (by simp) (fun _ => ?_)
    · rw [trap]
      refine .getBreakPoint found write opened complete opens.areas ⟨?_, ?_⟩ member
      · simpa using recorded.breakPoint
      · simpa using recorded.trapFlag
    · simp only [Machine.distance, trap, control]
      omega

theorem Entering.step (accesses : RegisteredAccess controllers program registry)
    (disciplined : Disciplined (Posix.config controllers program) Posix.law registry
      (registeredOrigin program registry) s)
    (next : program 0 (s.threads 0).history = some instruction)
    (entering : Entering registry base instruction s (s.threads 0).control)
    (effect : Effect (Posix.config controllers program) registry (registeredOrigin program registry) s 0
      (s.threads 0).control s') :
    Proceeds registry base instruction s s' := by
  generalize control : (s.threads 0).control = statement at entering effect
  cases entering with
  | user opened opens faults marked =>
    cases effect with
    | executed issued settled next' clear =>
      have only : issued = instruction := Option.some.inj (next'.symm.trans next)
      subst only
      exact Proceeds.execute disciplined.same control opens marked clear
    | faulted issued access a write found settled next' isDenied resolves raised =>
      have only : issued = instruction := Option.some.inj (next'.symm.trans next)
      subst only
      obtain ⟨owner, resolves', member, shut⟩ :=
        accesses.fault disciplined.same disciplined.sound next isDenied
      have new : owner.ioSpace ∉ opened := by
        intro already
        rw [opens.areas, openedFrom, if_pos already] at shut
        exact shut rfl
      have room : opened.card + 1 ≤ (registry.denied issued).card := by
        rw [← Finset.card_insert_of_notMem new]
        exact Finset.card_le_card (Finset.insert_subset member opens.subset)
      refine .entering ?_ (by simp) (by simp) ?_
      · rw [Machine.setThread_self]
        exact .findController a write owner opened resolves' ⟨opens.subset, opens.areas⟩ (by simp [faults])
          ⟨member, new⟩
      · simp only [Machine.distance, Machine.setThread_self, control, faults]
        omega
  | findController a write owner opened resolves' opens faults new =>
    cases effect with
    | resolved _ _ found settled resolves raised =>
      have same := accesses.registered.resolves_unique resolves' resolves
      subst same
      cases write with
      | false =>
        refine .entering ?_ (by simp) (by simp [faults]) (by simp [Machine.distance, control])
        simp only [Machine.goto_self]
        exact .doHookRead _ opened ⟨opens.subset, opens.areas⟩ (by simpa using faults) new
      | true =>
        refine .entering ?_ (by simp) (by simp [faults]) (by simp [Machine.distance, control])
        simp only [Machine.goto_self]
        exact .unprotect _ true opened ⟨opens.subset, opens.areas⟩ (by simpa using faults) new
  | doHookRead found opened opens faults new =>
    cases effect with
    | hookedRead _ space settled raised present =>
      refine .entering ?_ (by simp) (by simp [faults]) (by simp [Machine.distance, control])
      simp only [Machine.goto_self]
      exact .unprotect found false opened ⟨opens.subset, opens.areas⟩ (by simpa using faults) new
  | unprotect found write opened opens faults new =>
    cases effect with
    | unprotected _ _ space area settled raised present changed =>
      cases changed
      refine .entering ?_ (by simp) (by simp [faults]) (by simp [Machine.distance, control])
      simp only [Machine.goto_self]
      refine .installBreakPoint found write (insert found.ioSpace opened)
        ⟨Finset.insert_subset new.1 opens.subset, ?_⟩ ?_ (Finset.mem_insert_self _ _)
      · rw [openedFrom_insert, ← opens.areas]
      · rw [Finset.card_insert_of_notMem new.2]
        simpa using faults
  | installBreakPoint found write opened opens faults member =>
    cases effect with
    | installed _ _ settled raised =>
      have some_open : 0 < opened.card := Finset.card_pos.mpr ⟨_, member⟩
      refine .entering ?_ (by simp) (by simpa [faults] using some_open) ?_
      · rw [Machine.setThread_self]
        exact .user opened ⟨opens.subset, opens.areas⟩ (by simpa using faults)
          (Or.inr ⟨found, write, ⟨by simp, by simp⟩, member⟩)
      · simp [Machine.distance, control]

theorem Leaving.step
    (leaving : Leaving registry base instruction s (s.threads 0).control)
    (underway : (s.threads 0).control ≠ .user)
    (effect : Effect (Posix.config controllers program) registry (registeredOrigin program registry) s 0
      (s.threads 0).control s') :
    Leaving registry base instruction s' (s'.threads 0).control ∧
      (s'.threads 0).history = (s.threads 0).history ∧ (s'.threads 0).faults = (s.threads 0).faults ∧
      ((s'.threads 0).control ≠ .user →
        s'.distance (registry.denied instruction).card < s.distance (registry.denied instruction).card) := by
  generalize control : (s.threads 0).control = statement at leaving effect underway
  cases leaving with
  | getBreakPoint found write opened complete areas recorded member =>
    cases effect with
    | trapped other kind raised recorded' =>
      rw [afterTrap_record _ (recorded'.breakPoint.symm.trans recorded.breakPoint)]
      rcases afterTrap_cases (Posix.config controllers program) found write with hook | plain
      · rw [hook]
        refine ⟨?_, by simp, by simp, fun _ => by simp [Machine.distance, control]⟩
        rw [Machine.goto_self]
        exact .doHookWrite _ _ _ opened complete areas member
      · rw [plain]
        refine ⟨?_, by simp, by simp, fun _ => by simp [Machine.distance, control]⟩
        rw [Machine.goto_self]
        exact .uninstallBreakPoint _ opened complete areas member
  | doHookWrite ioSpace controller offset opened complete areas member =>
    cases effect with
    | hookedWrite found space raised recorded hooked present =>
      refine ⟨?_, by simp, by simp, fun _ => by simp [Machine.distance, control]⟩
      simp only [Machine.goto_self]
      exact .uninstallBreakPoint _ opened complete areas member
  | uninstallBreakPoint ioSpace opened complete areas member =>
    cases effect with
    | uninstalled found write raised recorded =>
      refine ⟨?_, by simp, by simp, fun _ => by simp [Machine.distance, control]⟩
      rw [Machine.setThread_self]
      exact .restoreProtection _ opened complete areas member
  | restoreProtection ioSpace opened complete areas member =>
    cases effect with
    | restored found write space area raised idle present changed =>
      refine ⟨?_, by simp, by simp, fun pending => absurd (by simp) pending⟩
      cases changed
      simp only [Machine.goto_self]
      refine .restored found.ioSpace opened complete member ?_ ⟨?_, ?_⟩
      · simp only [areas, openedFrom, member, if_true]
        rfl
      · simpa using idle.breakPoint
      · simpa using idle.trapFlag
  | clear complete areas idle => exact absurd rfl underway
  | restored ioSpace opened complete member areas idle => exact absurd rfl underway

def Underway (registry : Registry) (base : IoSpacePtr → Posix.IoSpace) (instruction : Instruction)
    (history : List Loaded) (s : Machine Posix.IoSpace Device) : Prop :=
  (Entering registry base instruction s (s.threads 0).control ∧ (s.threads 0).history = history) ∨
    (Leaving registry base instruction s (s.threads 0).control ∧ (s.threads 0).control ≠ .user ∧
      (s.threads 0).faults = 0 ∧ (s.threads 0).history.length = history.length + 1)

structure Completed (registry : Registry) (base : IoSpacePtr → Posix.IoSpace) (instruction : Instruction)
    (history : List Loaded) (s : Machine Posix.IoSpace Device) : Prop where
  leaving : Leaving registry base instruction s .user
  between : s.Between 0
  length : (s.threads 0).history.length = history.length + 1

theorem Underway.of_between (between : s.Between 0) (idle : (s.threads 0).Idle) (instruction : Instruction) :
    Underway registry s.areas instruction (s.threads 0).history s := by
  obtain ⟨control, faults⟩ := between
  rw [Underway, control]
  exact Or.inl ⟨.user ∅ ⟨Finset.empty_subset _, (openedFrom_empty _).symm⟩ faults (Or.inl ⟨rfl, idle⟩), rfl⟩

theorem Underway.step (accesses : RegisteredAccess controllers program registry)
    (disciplined : Disciplined (Posix.config controllers program) Posix.law registry
      (registeredOrigin program registry) s)
    {history : List Loaded} (next : program 0 history = some instruction)
    (underway : Underway registry base instruction history s) {report : Report}
    (taken : Machine.alone (Posix.config controllers program) s report = some s') :
    Completed registry base instruction history s' ∨
      (Underway registry base instruction history s' ∧ ¬ s'.Between 0 ∧
        s'.distance (registry.denied instruction).card < s.distance (registry.denied instruction).card) := by
  have effect := accesses.scenario.step_effect disciplined taken
  rcases underway with ⟨entering, same⟩ | ⟨leaving, inside, faults, length⟩
  · cases entering.step accesses disciplined (same ▸ next) effect with
    | entering entering' kept faulted less =>
      exact Or.inr ⟨Or.inl ⟨entering', kept.trans same⟩, fun between => faulted.ne' between.2, less⟩
    | executed leaving grown faults less =>
      rw [same] at grown
      by_cases done : (s'.threads 0).control = .user
      · rw [done] at leaving
        exact Or.inl ⟨leaving, ⟨done, faults⟩, grown⟩
      · exact Or.inr ⟨Or.inr ⟨leaving, done, faults, grown⟩, fun between => done between.1, less done⟩
  · obtain ⟨leaving', kept, faults', less⟩ := leaving.step inside effect
    rw [← kept] at length
    by_cases done : (s'.threads 0).control = .user
    · rw [done] at leaving'
      exact Or.inl ⟨leaving', ⟨done, faults'.trans faults⟩, length⟩
    · exact Or.inr ⟨Or.inr ⟨leaving', done, faults'.trans faults, length⟩, fun between => done between.1,
        less done⟩

theorem Completed.idle {history : List Loaded} (completed : Completed registry base instruction history s) :
    (s.threads 0).Idle := by
  cases completed.leaving with
  | clear complete areas idle => exact idle
  | restored ioSpace opened complete member areas idle => exact idle

theorem RegisteredAccess.disciplined (accesses : RegisteredAccess controllers program registry)
    {reports : List Report} (ran : Transition.run (Machine.alone (Posix.config controllers program))
      (Machine.boot (Posix.config controllers program) registry world) reports = some s) :
    Disciplined (Posix.config controllers program) Posix.law registry (registeredOrigin program registry) s :=
  (accesses.scenario.alone_keeps (fun _ => True) (fun _ _ _ _ _ _ _ => trivial) trivial ran).1

theorem Machine.alone_next {Area : Type} {cfg : Config Area Device} {s s' : Machine Area Device}
    {report : Report} (control : (s.threads 0).control = .user) (taken : Machine.alone cfg s report = some s') :
    ∃ instruction, cfg.program 0 (s.threads 0).history = some instruction := by
  unfold alone step at taken
  split at taken
  · cases taken
  · simp only [control] at taken
    obtain ⟨instruction, next, -⟩ := Option.map_eq_some_iff.mp taken
    exact ⟨instruction, next⟩

def Stage (program : ThreadId → Program) (registry : Registry) (rest : (IoSpacePtr → Posix.IoSpace) → Prop)
    (admits : Instruction → Prop) (s : Machine Posix.IoSpace Device) : Prop :=
  (s.Between 0 ∧ (s.threads 0).Idle ∧ rest s.areas) ∨
    ∃ base instruction history, rest base ∧ program 0 history = some instruction ∧ admits instruction ∧
      Underway registry base instruction history s ∧ ¬ s.Between 0

theorem Stage.step (accesses : RegisteredAccess controllers program registry)
    {rest : (IoSpacePtr → Posix.IoSpace) → Prop} {admits : Instruction → Prop}
    (returns : ∀ {base instruction history} {s : Machine Posix.IoSpace Device}, rest base →
      admits instruction → Completed registry base instruction history s → rest s.areas)
    (disciplined : Disciplined (Posix.config controllers program) Posix.law registry
      (registeredOrigin program registry) s)
    (stage : Stage program registry rest admits s)
    (guard : ∀ instruction, s.Between 0 → program 0 (s.threads 0).history = some instruction →
      admits instruction)
    {report : Report} (taken : Machine.alone (Posix.config controllers program) s report = some s') :
    Stage program registry rest admits s' := by
  have onwards : ∀ {base instruction history}, rest base → program 0 history = some instruction →
      admits instruction → Underway registry base instruction history s →
        Stage program registry rest admits s' := by
    intro base instruction history start next admitted underway
    rcases underway.step accesses disciplined next taken with completed | ⟨underway', inside, -⟩
    · exact Or.inl ⟨completed.between, completed.idle, returns start admitted completed⟩
    · exact Or.inr ⟨base, instruction, history, start, next, admitted, underway', inside⟩
  rcases stage with ⟨between, idle, start⟩ | ⟨base, instruction, history, start, next, admitted, underway, -⟩
  · obtain ⟨instruction, next⟩ := Machine.alone_next between.1 taken
    exact onwards start next (guard instruction between next) (Underway.of_between between idle instruction)
  · exact onwards start next admitted underway

theorem Underway.completes (accesses : RegisteredAccess controllers program registry)
    (disciplined : Disciplined (Posix.config controllers program) Posix.law registry
      (registeredOrigin program registry) s)
    {history : List Loaded} (next : program 0 history = some instruction)
    (underway : Underway registry base instruction history s) {rest : List Report}
    (more : s.Between 0 → rest ≠ []) {final : Machine Posix.IoSpace Device}
    (ran : Transition.run (Machine.alone (Posix.config controllers program)) s rest = some final)
    (between : final.Between 0) :
    ∃ part m, part <+: rest ∧
      Transition.run (Machine.alone (Posix.config controllers program)) s part = some m ∧
      Completed registry base instruction history m := by
  induction rest generalizing s with
  | nil =>
    cases ran
    exact absurd rfl (more between)
  | cons report rest ih =>
    rw [Transition.run_cons] at ran
    obtain ⟨s', taken, ran⟩ := Option.bind_eq_some_iff.mp ran
    rcases underway.step accesses disciplined next taken with completed | ⟨underway', inside', -⟩
    · refine ⟨[report], s', by simp, ?_, completed⟩
      rw [Transition.run_single, taken]
    · have disciplined' := (accesses.scenario.step_effect disciplined taken).disciplined disciplined
      obtain ⟨part, m, shorter, done, completed⟩ :=
        ih disciplined' underway' (fun here => absurd here inside') ran
      refine ⟨report :: part, m, by simpa using shorter, ?_, completed⟩
      rw [Transition.run_cons, taken, Option.bind_some, done]

theorem RegisteredAccess.enabled (accesses : RegisteredAccess controllers program registry)
    (disciplined : Disciplined (Posix.config controllers program) Posix.law registry
      (registeredOrigin program registry) s)
    (next : (s.threads 0).control = .user → ∃ instruction, program 0 (s.threads 0).history = some instruction)
    (report : Report) : ∃ s', Machine.alone (Posix.config controllers program) s report = some s' :=
  accesses.scenario.step_enabled disciplined report next (fun _ => ⟨_, rfl⟩) (fun _ => ⟨_, rfl⟩)

/-- The restart loop ends: every step short of the end of the instruction decreases the distance. -/
theorem RegisteredAccess.completes (accesses : RegisteredAccess controllers program registry)
    (disciplined : Disciplined (Posix.config controllers program) Posix.law registry
      (registeredOrigin program registry) s)
    (between : s.Between 0) (idle : (s.threads 0).Idle)
    (next : program 0 (s.threads 0).history = some instruction) :
    Transition.Inevitable (Machine.alone (Posix.config controllers program))
      (Completed registry s.areas instruction (s.threads 0).history)
      (6 * (registry.denied instruction).card + 6) s := by
  have progress : ∀ m : Machine Posix.IoSpace Device,
      Disciplined (Posix.config controllers program) Posix.law registry (registeredOrigin program registry) m ∧
        Underway registry s.areas instruction (s.threads 0).history m →
      ∀ report, ∃ m', Machine.alone (Posix.config controllers program) m report = some m' ∧
        (Completed registry s.areas instruction (s.threads 0).history m' ∨
          (Disciplined (Posix.config controllers program) Posix.law registry
              (registeredOrigin program registry) m' ∧
            Underway registry s.areas instruction (s.threads 0).history m') ∧
          m'.distance (registry.denied instruction).card < m.distance (registry.denied instruction).card) := by
    rintro m ⟨disciplined, underway⟩ report
    have issued : (m.threads 0).control = .user →
        ∃ instruction, program 0 (m.threads 0).history = some instruction := by
      intro control
      rcases underway with ⟨-, same⟩ | ⟨-, inside, -⟩
      · exact ⟨instruction, same ▸ next⟩
      · exact absurd control inside
    obtain ⟨m', taken⟩ := accesses.enabled disciplined issued report
    have disciplined' := (accesses.scenario.step_effect disciplined taken).disciplined disciplined
    refine ⟨m', taken, ?_⟩
    rcases underway.step accesses disciplined next taken with completed | ⟨underway', -, less⟩
    · exact Or.inl completed
    · exact Or.inr ⟨⟨disciplined', underway'⟩, less⟩
  have start : s.distance (registry.denied instruction).card = 6 * (registry.denied instruction).card + 5 := by
    simp only [Machine.distance, between.1, between.2, Nat.sub_zero]
  have reached := Transition.Inevitable.of_measure
    (fun m : Machine Posix.IoSpace Device => m.distance (registry.denied instruction).card) progress s
    ⟨disciplined, Underway.of_between between idle instruction⟩
  rw [start] at reached
  exact reached

def moveRegister : Program
  | [] => some [.load 0x10000 1, .store 0x11004 1 fun loaded _ => loaded.flatten.headD 0]
  | _ => none

theorem registered_move (controllers : ControllerPtr → Controller Device) (first second : HookTypes)
    (firstTypes : (controllers 8).getHookTypes = first) (secondTypes : (controllers 4).getHookTypes = second) :
    RegisteredAccess controllers (fun _ => moveRegister) (Registry.after (pairOf first second)) := by
  have promised : LiveController.Promised [] (pairOf first second) := by
    cases first <;> cases second <;> decide
  obtain ⟨represents, formed⟩ := Registry.represents_after (pairOf first second) promised
  have registered := represents.wellFormed formed
  have live : LiveController.after (pairOf first second) =
      [⟨4, 200, ⟨second, 64, 0x11000, 0x60000⟩⟩, ⟨8, 100, ⟨first, 64, 0x10000, 0x50000⟩⟩] := rfl
  rw [live] at represents formed
  refine ⟨registered, ?_, ?_⟩
  · intro controller ioSpace space entry present
    have agree : ∀ entry ∈ LiveController.after (pairOf first second),
        (controllers entry.controller).getHookTypes = entry.space.hookTypes := by
      simp [live, firstTypes, secondTypes]
    exact represents.of_live formed agree entry present
  · intro t history instruction access a next issued byte
    match history with
    | [] =>
      cases next
      rcases List.mem_pair.mp issued with rfl | rfl
      · rw [List.mem_singleton.mp byte]
        exact ⟨100, (registered.mapping_some _ _).mpr ⟨⟨first, 64, 0x10000, 0x50000⟩,
          (represents.objects _ _).mpr ⟨8, by simp⟩,
          (by decide : 0x10000 ≤ 0x10000 + 0), (by decide : 0x10000 + 0 < 0x10000 + 64)⟩⟩
      · rw [List.mem_singleton.mp byte]
        exact ⟨200, (registered.mapping_some _ _).mpr ⟨⟨second, 64, 0x11000, 0x60000⟩,
          (represents.objects _ _).mpr ⟨4, by simp⟩,
          (by decide : 0x11000 ≤ 0x11004 + 0), (by decide : 0x11004 + 0 < 0x11000 + 64)⟩⟩
    | _ :: _ => cases next

end ExMM
