import ExMM.Live.Bare

namespace ExMM

variable {Area Device Step : Type}

def Thread.opened (thread : Thread) : Option IoSpacePtr :=
  match thread.control with
  | .user | .getBreakPoint => if thread.breakPoint.active then thread.breakPoint.ioSpace else none
  | .findController _ _ | .doHookRead _ | .unprotect _ _ => none
  | .installBreakPoint found _ => some found.ioSpace
  | .doHookWrite ioSpace _ _ | .uninstallBreakPoint ioSpace | .restoreProtection ioSpace => some ioSpace

def Thread.Entering (thread : Thread) : Prop :=
  match thread.control with
  | .findController _ _ | .doHookRead _ | .unprotect _ _ | .installBreakPoint _ _ => True
  | _ => False

structure Solo (cfg : Config Area Device) (law : cfg.platform.Law) (registry : Registry) (s : Machine Area Device) :
    Prop where
  disciplined : Disciplined cfg law registry (singleOrigin cfg.program registry) s
  areas : AreasAt law registry s.areas (s.threads 0).opened
  entering : (s.threads 0).Entering → (s.threads 0).Idle ∧ 0 < (s.threads 0).faults
  restarted : (s.threads 0).control = .user → (s.threads 0).breakPoint.active = true → 0 < (s.threads 0).faults

section

variable {cfg : Config Area Device} {law : cfg.platform.Law} {registry : Registry}
  {background : Background Device Step} {s s' : Machine Area Device}

theorem Thread.Idle.opened {thread : Thread} (idle : thread.Idle) (control : thread.control = .user) :
    thread.opened = none := by
  simp [Thread.opened, control, idle.breakPoint, BreakPointData.fresh]

theorem Thread.Recorded.opened {thread : Thread} {found : Found} {write : Bool}
    (recorded : thread.Recorded found write) (control : thread.control = .user ∨ thread.control = .getBreakPoint) :
    thread.opened = some found.ioSpace := by
  rcases control with control | control
  · simp [Thread.opened, control, recorded.breakPoint]
  · simp [Thread.opened, control, recorded.breakPoint]

theorem Solo.clear (single : SingleAccess cfg.controllers cfg.program registry) (solo : Solo cfg law registry s)
    (control : (s.threads 0).control = .user) {found : Found} {write : Bool}
    (recorded : (s.threads 0).Recorded found write)
    (raised : singleOrigin cfg.program registry 0 (s.threads 0).history found write) {instruction : Instruction}
    (next : cfg.program 0 (s.threads 0).history = some instruction) :
    Machine.faulting cfg s instruction = [] := by
  obtain ⟨access, space, issued, covers, present, -⟩ := raised
  rw [issued, Option.some.injEq] at next
  subst next
  have areas := solo.areas
  rw [recorded.opened (Or.inl control)] at areas
  have registered : s.registry.WellFormed := solo.disciplined.same ▸ single.registered
  have coversHere : s.registry.Covers access found := solo.disciplined.same ▸ covers
  rw [Machine.faulting_covered registered coversHere, law.protection_opened (areas.opened present)]
  simp [allows_readWrite]

theorem Solo.unslipped (single : SingleAccess cfg.controllers cfg.program registry) (solo : Solo cfg law registry s)
    (action : LiveAction Step) (alone : ∀ t report, action = .processor t report → t = 0) :
    s.Unslipped cfg registry action := by
  cases action with
  | background controller step => trivial
  | processor t report =>
    have mine := alone t report rfl
    subst mine
    intro control access found next clear hooked
    by_contra inactive
    have settled := (solo.disciplined.threads 0).settled control
    rcases settled with idle | ⟨other, write, raised, recorded⟩
    · have areas := solo.areas
      rw [idle.opened control] at areas
      rcases single.instructions next with empty | ⟨only, owner, same, covers⟩
      · cases empty
      · cases same
        obtain ⟨space, present, -⟩ := covers.2
        have registered : s.registry.WellFormed := solo.disciplined.same ▸ single.registered
        have coversHere : s.registry.Covers access owner := solo.disciplined.same ▸ covers
        rw [Machine.faulting_covered registered coversHere, law.protection_closed (areas.closed present)] at clear
        have allowed : (initialProtection space.hookTypes).allows access.kind = true := by
          by_contra refused
          simp [refused] at clear
        rw [single.hookedBy covers, single.getHookTypes covers.1 present] at hooked
        cases kind : access.kind with
        | load =>
          rw [kind, initialProtection_load] at allowed
          simp only [kind, if_true] at hooked
          rw [if_neg (by simpa using allowed)] at hooked
          cases hooked
        | store =>
          rw [kind] at allowed
          simp [kind, and_write_of_allows_store allowed] at hooked
    · rw [recorded.breakPoint, record_active] at inactive
      exact inactive rfl

theorem Solo.effect (single : SingleAccess cfg.controllers cfg.program registry) (solo : Solo cfg law registry s)
    {control : Control} (here : (s.threads 0).control = control)
    (effect : Effect cfg registry (singleOrigin cfg.program registry) s 0 control s') : Solo cfg law registry s' := by
  have disciplined := effect.disciplined solo.disciplined
  have areas := solo.areas
  have entering := solo.entering
  cases effect with
  | executed instruction settled next clear =>
    refine ⟨disciplined, ?_, ?_, ?_⟩
    · rcases settled with idle | ⟨found, write, raised, recorded⟩
      · have after : ((s.execute 0 instruction).threads 0).opened = none := by
          simp [Thread.opened, idle.trapFlag, idle.breakPoint, BreakPointData.fresh]
        rw [after, ← idle.opened here]
        exact areas
      · have after : ((s.execute 0 instruction).threads 0).opened = some found.ioSpace := by
          simp [Thread.opened, recorded.trapFlag, recorded.breakPoint]
        rw [after, ← recorded.opened (Or.inl here)]
        exact areas
    · intro inside
      rw [Machine.execute_self] at inside
      by_cases trapped : (s.threads 0).trapFlag = true
      · simp [Thread.Entering, trapped] at inside
      · simp [Thread.Entering, trapped] at inside
    · intro control active
      rw [Machine.execute_self] at control active
      rcases settled with idle | ⟨found, write, raised, recorded⟩
      · rw [idle.breakPoint] at active
        cases active
      · rw [recorded.trapFlag] at control
        cases control
  | faulted instruction access a write found settled next denied resolves raised =>
    rcases settled with idle | ⟨other, write', earlier, recorded⟩
    · refine ⟨disciplined, ?_, ?_, ?_⟩
      · rw [Machine.setThread_self]
        rw [idle.opened here] at areas
        exact areas
      · intro inside
        rw [Machine.setThread_self]
        exact ⟨⟨idle.breakPoint, idle.trapFlag⟩, Nat.succ_pos _⟩
      · intro control
        rw [Machine.setThread_self] at control
        cases control
    · rw [solo.clear single here recorded earlier next] at denied
      cases denied
  | resolved a write found settled resolves raised =>
    obtain ⟨idle, faults⟩ := entering (by simp [Thread.Entering, here])
    refine ⟨disciplined, ?_, ?_, ?_⟩
    · rw [Machine.goto_self]
      simp only [Thread.opened, here] at areas
      cases write with
      | false => exact areas
      | true => exact areas
    · intro inside
      rw [Machine.goto_self]
      exact ⟨⟨idle.breakPoint, idle.trapFlag⟩, faults⟩
    · intro control
      rw [Machine.goto_self] at control
      cases write with
      | false => cases control
      | true => cases control
  | hookedRead found space settled raised present =>
    obtain ⟨idle, faults⟩ := entering (by simp [Thread.Entering, here])
    refine ⟨disciplined, ?_, ?_, ?_⟩
    · simp only [Machine.goto_self]
      simp only [Thread.opened, here] at areas
      exact areas
    · intro inside
      simp only [Machine.goto_self]
      exact ⟨⟨idle.breakPoint, idle.trapFlag⟩, faults⟩
    · intro control
      simp only [Machine.goto_self] at control
      cases control
  | unprotected found write space area settled raised present changed =>
    obtain ⟨idle, faults⟩ := entering (by simp [Thread.Entering, here])
    refine ⟨disciplined, ?_, ?_, ?_⟩
    · simp only [Machine.goto_self]
      simp only [Thread.opened, here] at areas
      exact areas.unprotect present changed
    · intro inside
      simp only [Machine.goto_self]
      exact ⟨⟨idle.breakPoint, idle.trapFlag⟩, faults⟩
    · intro control
      simp only [Machine.goto_self] at control
      cases control
  | installed found write settled raised =>
    have faults := (entering (by simp [Thread.Entering, here])).2
    refine ⟨disciplined, ?_, ?_, ?_⟩
    · rw [Machine.setThread_self, Thread.Recorded.opened ⟨rfl, rfl⟩ (Or.inl rfl)]
      simp only [Thread.opened, here] at areas
      exact areas
    · intro inside
      rw [Machine.setThread_self] at inside
      exact absurd inside id
    · intro control active
      rw [Machine.setThread_self]
      exact faults
  | trapped found write raised recorded =>
    rw [recorded.opened (Or.inr here)] at areas
    refine ⟨disciplined, ?_, ?_, ?_⟩
    · rw [Machine.goto_self]
      rcases afterTrap_cases cfg found write with next | next
      · rw [next]
        exact areas
      · rw [next]
        exact areas
    · intro inside
      rw [Machine.goto_self] at inside
      rcases afterTrap_cases cfg found write with next | next
      · rw [next] at inside
        exact absurd inside id
      · rw [next] at inside
        exact absurd inside id
    · intro control
      rw [Machine.goto_self] at control
      rcases afterTrap_cases cfg found write with next | next
      · rw [next] at control
        cases control
      · rw [next] at control
        cases control
  | hookedWrite found space raised recorded hooked present =>
    simp only [Thread.opened, here] at areas
    refine ⟨disciplined, ?_, ?_, ?_⟩
    · simp only [Machine.goto_self]
      exact areas
    · intro inside
      simp only [Machine.goto_self] at inside
      exact absurd inside id
    · intro control
      simp only [Machine.goto_self] at control
      cases control
  | uninstalled found write raised recorded =>
    simp only [Thread.opened, here] at areas
    refine ⟨disciplined, ?_, ?_, ?_⟩
    · rw [Machine.setThread_self]
      exact areas
    · intro inside
      rw [Machine.setThread_self] at inside
      exact absurd inside id
    · intro control
      rw [Machine.setThread_self] at control
      cases control
  | restored found write space area raised idle present changed =>
    simp only [Thread.opened, here] at areas
    refine ⟨disciplined, ?_, ?_, ?_⟩
    · have closed : ({ s.threads 0 with control := .user } : Thread).opened = none :=
        Thread.Idle.opened ⟨idle.breakPoint, idle.trapFlag⟩ rfl
      simp only [Machine.goto_self]
      rw [closed]
      exact areas.restore present changed
    · intro inside
      simp only [Machine.goto_self] at inside
      exact absurd inside id
    · intro control active
      simp only [Machine.goto_self, idle.breakPoint] at active
      cases active

/-- Thread 0 is not stuck in a handler, unless a thread of a device holds the lock its hook waits for. -/
theorem Solo.enabled (single : SingleAccess cfg.controllers cfg.program registry) (solo : Solo cfg law registry s)
    (report : Report) (free : s.waits background 0 = false)
    (next : (s.threads 0).control = .user → ∃ instruction, cfg.program 0 (s.threads 0).history = some instruction) :
    ∃ s', Machine.live cfg background s (.processor 0 report) = some s' := by
  have threads := solo.disciplined.threads 0
  have areas := solo.areas
  obtain ⟨s', taken⟩ : ∃ s', Machine.step cfg s (0, report) = some s' := by
    refine (single.scenario law).step_enabled solo.disciplined report next ?_ ?_
    · intro found write control
      simp only [Thread.Disciplined, control] at threads
      simp only [Thread.opened, control] at areas
      obtain ⟨space, present⟩ := ((single.scenario law).live threads.2).2
      obtain ⟨area, changed, -⟩ := law.unprotect_closed (areas.closed present)
      exact ⟨area, changed⟩
    · intro ioSpace control
      simp only [Thread.Disciplined, control] at threads
      simp only [Thread.opened, control] at areas
      obtain ⟨found, write, raised, -, rfl⟩ := threads
      obtain ⟨space, present⟩ := ((single.scenario law).live raised).2
      obtain ⟨area, changed, -⟩ := law.restore_opened (areas.opened present)
      exact ⟨area, changed⟩
  exact ⟨s', by simp [Machine.live, free, taken]⟩

def Machine.budget (s : Machine Area Device) : Nat :=
  10 * (s.threads 0).history.length + if 4 < s.rank 0 then 10 else 0

theorem Effect.spends (single : SingleAccess cfg.controllers cfg.program registry) (solo : Solo cfg law registry s)
    {control : Control} (here : (s.threads 0).control = control)
    (effect : Effect cfg registry (singleOrigin cfg.program registry) s 0 control s') :
    s.budget + s'.rank 0 + 1 ≤ s'.budget + s.rank 0 := by
  have entering := solo.entering
  cases effect with
  | executed instruction settled next clear =>
    have length : ((s.execute 0 instruction).threads 0).history.length = (s.threads 0).history.length + 1 := by
      simp
    rcases settled with idle | ⟨found, write, raised, recorded⟩
    · have before : s.rank 0 = 10 := by simp [Machine.rank, here, idle.breakPoint, BreakPointData.fresh]
      have after : (s.execute 0 instruction).rank 0 = 10 := by
        simp [Machine.rank, idle.trapFlag, idle.breakPoint, BreakPointData.fresh]
      simp only [Machine.budget, before, after, length]
      omega
    · have before : s.rank 0 = 5 := by simp [Machine.rank, here, recorded.breakPoint]
      have after : (s.execute 0 instruction).rank 0 = 4 := by simp [Machine.rank, recorded.trapFlag]
      have budget : s.budget = 10 * (s.threads 0).history.length + 10 := by simp [Machine.budget, before]
      have budget' : (s.execute 0 instruction).budget = 10 * ((s.threads 0).history.length + 1) := by
        simp only [Machine.budget, after, length, Nat.lt_irrefl, if_false, Nat.add_zero]
      omega
  | faulted instruction access a write found settled next denied resolves raised =>
    rcases settled with idle | ⟨other, write', earlier, recorded⟩
    · simp [Machine.budget, Machine.rank, here, idle.breakPoint, BreakPointData.fresh]
    · rw [solo.clear single here recorded earlier next] at denied
      cases denied
  | resolved a write found settled resolves raised =>
    cases write <;> simp [Machine.budget, Machine.rank, here]
  | installed found write settled raised => simp [Machine.budget, Machine.rank, here]
  | trapped found write raised recorded =>
    rcases afterTrap_cases cfg found write with next | next <;> simp [Machine.budget, Machine.rank, here, next]
  | restored found write space area raised idle present changed =>
    simp [Machine.budget, Machine.rank, here, idle.breakPoint, BreakPointData.fresh]
  | _ => simp [Machine.budget, Machine.rank, here]

def LiveAction.Driver : LiveAction Step → Prop
  | .processor t _ => t = 0
  | .background _ _ => True

def LiveAction.cost : LiveAction Step → Nat
  | .processor _ _ => 1
  | .background _ _ => 0

theorem Solo.step (single : SingleAccess cfg.controllers cfg.program registry) (solo : Solo cfg law registry s)
    {action : LiveAction Step} (driver : action.Driver) (taken : Machine.live cfg background s action = some s') :
    Solo cfg law registry s' ∧ action.cost + s.budget + s'.rank 0 ≤ s'.budget + s.rank 0 := by
  cases action with
  | processor t report =>
    obtain rfl : t = 0 := driver
    have effect := (single.scenario law).step_effect solo.disciplined (Machine.live_processor taken).2
    have spends := effect.spends single solo rfl
    refine ⟨solo.effect single rfl effect, ?_⟩
    simp only [LiveAction.cost]
    omega
  | background controller step =>
    obtain ⟨world, -, rfl⟩ := Machine.live_background taken
    refine ⟨⟨solo.disciplined.with_world world, solo.areas, solo.entering, solo.restarted⟩, ?_⟩
    simp only [LiveAction.cost, Nat.zero_add]
    exact Nat.le_refl _

theorem Solo.boot (cfg : Config Area Device) (law : cfg.platform.Law) (registry : Registry) (world : World Device) :
    Solo cfg law registry (Machine.boot cfg registry world) where
  disciplined := Disciplined.boot cfg law registry _ world
  areas := by
    intro ioSpace space live
    rw [if_neg (by simp [Machine.boot, Thread.opened, Thread.start, BreakPointData.fresh])]
    simp only [Machine.boot, live, Option.map_some, Option.getD_some]
    exact law.closed_initial space.hookTypes
  entering := fun inside => absurd inside id
  restarted := fun _ active => by cases active

/-- What a driver of one thread can rely on next to the threads of the devices: no access of it slips past
    its hook, an instruction takes ten steps of its own at most, and only a lock of a device holds it up. -/
structure Drives (cfg : Config Area Device) (registry : Registry) (background : Background Device Step)
    (world : World Device) (actions : List (LiveAction Step)) (s : Machine Area Device) : Prop where
  bare : RunsBare cfg registry background world actions
  bounded : Transition.spent LiveAction.cost actions ≤ 10 * (s.threads 0).history.length + 9
  rests : s.Between 0 → s.AtRest cfg registry
  enabled : ∀ report, s.waits background 0 = false →
    ((s.threads 0).control = .user → ∃ instruction, cfg.program 0 (s.threads 0).history = some instruction) →
      ∃ s', Machine.live cfg background s (.processor 0 report) = some s'

theorem Solo.idle (solo : Solo cfg law registry s) (between : s.Between 0) : (s.threads 0).Idle := by
  obtain ⟨control, none⟩ := between
  rcases (solo.disciplined.threads 0).settled control with idle | ⟨found, write, -, recorded⟩
  · exact idle
  · have some := solo.restarted control (by rw [recorded.breakPoint, record_active])
    omega

theorem Solo.rests (solo : Solo cfg law registry s) (between : s.Between 0) : s.AtRest cfg registry := by
  have idle := solo.idle between
  have areas := solo.areas
  rw [idle.opened between.1] at areas
  refine ⟨fun ioSpace space live => ?_, idle.breakPoint, idle.trapFlag⟩
  rw [law.protection_closed (areas.closed live), law.protection_closed (law.closed_initial space.hookTypes)]

theorem Machine.one_le_rank (s : Machine Area Device) : 1 ≤ s.rank 0 := by
  unfold Machine.rank
  split <;> first | omega | (split <;> omega)

theorem Machine.budget_le (s : Machine Area Device) : s.budget ≤ 10 * (s.threads 0).history.length + 10 := by
  unfold Machine.budget
  split <;> omega

def DriverNeverSlips (cfg : Config Area Device) (registry : Registry) (background : Background Device Step)
    (world : World Device) : Prop :=
  ∀ (actions : List (LiveAction Step)) (s : Machine Area Device), (∀ action ∈ actions, action.Driver) →
    Transition.run (Machine.live cfg background) (Machine.boot cfg registry world) actions = some s →
      Drives cfg registry background world actions s

theorem DriverNeverSlips.of_law (law : cfg.platform.Law)
    (single : SingleAccess cfg.controllers cfg.program registry) (world : World Device) :
    DriverNeverSlips cfg registry background world := by
  intro actions s drivers ran
  have start := Solo.boot cfg law registry world
  have keep : ∀ (s : Machine Area Device) (action : LiveAction Step) (s' : Machine Area Device),
      Solo cfg law registry s → action.Driver → Machine.live cfg background s action = some s' →
        Solo cfg law registry s' := fun _ _ _ solo driver taken => (solo.step single driver taken).1
  have meets : Transition.Meets (Machine.live cfg background) (fun _ action => action.Driver)
      (Machine.boot cfg registry world) actions :=
    Transition.meets_of_invariant keep (fun _ _ _ driver => driver) start drivers
  have solo : Solo cfg law registry s := Transition.run_guarded keep start meets ran
  refine ⟨?_, ?_, fun between => solo.rests between, fun report free next =>
    solo.enabled single report free next⟩
  · refine LiveRunsBare.of_law law single world actions s ?_ ran
    exact Transition.meets_of_invariant keep (fun s action solo driver => solo.unslipped single action
      fun t report same => by subst same; exact driver) start drivers
  · have pays : ∀ (s : Machine Area Device) (action : LiveAction Step) (s' : Machine Area Device),
        Solo cfg law registry s → action.Driver → Machine.live cfg background s action = some s' →
          action.cost + s.budget + s'.rank 0 ≤ s'.budget + s.rank 0 :=
      fun _ _ _ solo driver taken => (solo.step single driver taken).2
    have cost := Transition.run_cost keep pays start meets ran
    have boot : (Machine.boot cfg registry world).rank 0 = 10 := rfl
    have some := s.one_le_rank
    have most := s.budget_le
    have least : (Machine.boot cfg registry world).budget = 10 := rfl
    omega

end

/-- One thread of the program and any number of threads of the devices, in any order. -/
theorem driver_never_slips (controllers : ControllerPtr → Controller Device) (program : ThreadId → Program)
    (registry : Registry) (single : SingleAccess controllers program registry) (background : Background Device Step)
    (world : World Device) :
    DriverNeverSlips { platform := Posix.platform, controllers, program } registry background world ∧
      DriverNeverSlips { platform := Windows.platform, controllers, program } registry background world :=
  ⟨DriverNeverSlips.of_law Posix.law single world, DriverNeverSlips.of_law Windows.law single world⟩

theorem copyRegister_never_slips :
    DriverNeverSlips { platform := Posix.platform, controllers := counting, program := fun _ => copyRegister }
        (Registry.after pair) ticking zeroWorld ∧
      DriverNeverSlips { platform := Windows.platform, controllers := counting, program := fun _ => copyRegister }
        (Registry.after pair) ticking zeroWorld :=
  driver_never_slips counting (fun _ => copyRegister) (Registry.after pair) single_copyRegister ticking zeroWorld

end ExMM
