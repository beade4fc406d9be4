import ExMM.IoSpace.Laws
import ExMM.Machine.Faults

namespace ExMM

abbrev Origin := ThreadId → List Loaded → Found → Bool → Prop

def record (found : Found) (write : Bool) : BreakPointData Unit :=
  if write then (BreakPointData.fresh ()).set found.ioSpace (some found.controller) found.offset
  else (BreakPointData.fresh ()).setIoSpace found.ioSpace

@[simp] theorem record_active (found : Found) (write : Bool) : (record found write).active = true := by
  cases write <;> rfl

@[simp] theorem record_ioSpace (found : Found) (write : Bool) :
    (record found write).ioSpace = some found.ioSpace := by
  cases write <;> rfl

@[simp] theorem record_controller (found : Found) (write : Bool) :
    (record found write).controller = if write then some found.controller else none := by
  cases write <;> rfl

@[simp] theorem record_unset (data : BreakPointData Unit) : data.unset = .fresh () := rfl

theorem record_true_inj {left right : Found} (same : record left true = record right true) : left = right := by
  cases left
  cases right
  simpa [record, BreakPointData.set, and_left_comm] using same

theorem record_kind {left right : Found} {first second : Bool} (same : record left first = record right second) :
    first = second := by
  have controllers := congrArg BreakPointData.controller same
  cases first <;> cases second <;> simp at controllers ⊢

namespace Thread

structure Idle (thread : Thread) : Prop where
  breakPoint : thread.breakPoint = .fresh ()
  trapFlag : thread.trapFlag = false

structure Recorded (thread : Thread) (found : Found) (write : Bool) : Prop where
  breakPoint : thread.breakPoint = record found write
  trapFlag : thread.trapFlag = true

/-- Before an instruction has executed: no record, or the one of an earlier fault of that instruction. -/
def Settled (origin : Origin) (t : ThreadId) (thread : Thread) : Prop :=
  thread.Idle ∨ ∃ found write, origin t thread.history found write ∧ thread.Recorded found write

theorem Settled.keep {origin : Origin} {t : ThreadId} {thread next : Thread}
    (settled : thread.Settled origin t) (history : next.history = thread.history)
    (breakPoint : next.breakPoint = thread.breakPoint) (trapFlag : next.trapFlag = thread.trapFlag) :
    next.Settled origin t := by
  rcases settled with idle | ⟨found, write, raised, recorded⟩
  · exact Or.inl ⟨breakPoint.trans idle.breakPoint, trapFlag.trans idle.trapFlag⟩
  · exact Or.inr ⟨found, write, history ▸ raised, breakPoint.trans recorded.breakPoint,
      trapFlag.trans recorded.trapFlag⟩

/-- What holds at each statement of the two handlers. After the trap the record belongs to the
    instruction that was executed last. -/
def Disciplined {Device Area : Type} (cfg : Config Area Device) (registry : Registry) (origin : Origin)
    (t : ThreadId) (thread : Thread) : Prop :=
  match thread.control with
  | .user => thread.Settled origin t
  | .findController siAddr write => thread.Settled origin t ∧
      ∃ found, registry.Resolves siAddr found ∧ origin t thread.history found write
  | .doHookRead found => thread.Settled origin t ∧ origin t thread.history found false
  | .unprotect found write => thread.Settled origin t ∧ origin t thread.history found write
  | .installBreakPoint found write => thread.Settled origin t ∧ origin t thread.history found write
  | .getBreakPoint => ∃ found write, origin t thread.history.dropLast found write ∧
      thread.Recorded found write
  | .doHookWrite ioSpace controller offset => ∃ found, origin t thread.history.dropLast found true ∧
      thread.Recorded found true ∧ (cfg.controllers controller).getHookTypes.and .write = true ∧
      ioSpace = found.ioSpace ∧ controller = found.controller ∧ offset = found.offset
  | .uninstallBreakPoint ioSpace => ∃ found write, origin t thread.history.dropLast found write ∧
      thread.Recorded found write ∧ ioSpace = found.ioSpace
  | .restoreProtection ioSpace => ∃ found write, origin t thread.history.dropLast found write ∧
      thread.Idle ∧ ioSpace = found.ioSpace

end Thread

def afterTrap {Area Device : Type} (cfg : Config Area Device) (found : Found) (write : Bool) : Control :=
  if write && (cfg.controllers found.controller).getHookTypes.and .write then
    .doHookWrite found.ioSpace found.controller found.offset
  else .uninstallBreakPoint found.ioSpace

theorem afterTrap_cases {Area Device : Type} (cfg : Config Area Device) (found : Found) (write : Bool) :
    afterTrap cfg found write = .doHookWrite found.ioSpace found.controller found.offset ∨
      afterTrap cfg found write = .uninstallBreakPoint found.ioSpace := by
  unfold afterTrap
  split
  · exact Or.inl rfl
  · exact Or.inr rfl

theorem afterTrap_record {Area Device : Type} (cfg : Config Area Device) {left right : Found}
    {first second : Bool} (same : record left first = record right second) :
    afterTrap cfg left first = afterTrap cfg right second := by
  obtain rfl := record_kind same
  cases first with
  | false =>
    have ioSpaces := congrArg BreakPointData.ioSpace same
    rw [record_ioSpace, record_ioSpace, Option.some.injEq] at ioSpaces
    simp [afterTrap, ioSpaces]
  | true =>
    obtain rfl := record_true_inj same
    rfl

variable {Area Device : Type}

structure Scenario (cfg : Config Area Device) (law : cfg.platform.Law) (registry : Registry)
    (origin : Origin) : Prop where
  registered : registry.WellFormed
  getHookTypes : ∀ {controller : ControllerPtr} {ioSpace : IoSpacePtr} {space : IoSpace},
    registry.ioMap[controller]? = some ioSpace → registry.ioSpaces[ioSpace]? = some space →
      (cfg.controllers controller).getHookTypes = space.hookTypes
  live : ∀ {t history found write}, origin t history found write →
    registry.ioMap[found.controller]? = some found.ioSpace ∧
      ∃ space, registry.ioSpaces[found.ioSpace]? = some space
  raise : ∀ {s : Machine Area Device} {t history instruction access a} (report : Report),
    s.registry = registry →
    (∀ (ioSpace : IoSpacePtr) (space : IoSpace), registry.ioSpaces[ioSpace]? = some space →
      law.sound space.hookTypes (s.areas ioSpace)) →
    cfg.program t history = some instruction → (access, a) ∈ Machine.faulting cfg s instruction →
    ∃ found, registry.Resolves a found ∧
      origin t history found (Machine.isMemoryWriteAccess instruction access report)

structure Disciplined (cfg : Config Area Device) (law : cfg.platform.Law) (registry : Registry)
    (origin : Origin) (s : Machine Area Device) : Prop where
  same : s.registry = registry
  running : s.process = .running
  sound : ∀ (ioSpace : IoSpacePtr) (space : IoSpace), registry.ioSpaces[ioSpace]? = some space →
    law.sound space.hookTypes (s.areas ioSpace)
  threads : ∀ t, (s.threads t).Disciplined cfg registry origin t

/-- Everything a step of a disciplined machine can be, by the statement the thread is at. -/
inductive Effect (cfg : Config Area Device) (registry : Registry) (origin : Origin)
    (s : Machine Area Device) (t : ThreadId) : Control → Machine Area Device → Prop
  | executed (instruction : Instruction) (settled : (s.threads t).Settled origin t)
      (next : cfg.program t (s.threads t).history = some instruction)
      (clear : Machine.faulting cfg s instruction = []) :
      Effect cfg registry origin s t .user (s.execute t instruction)
  | faulted (instruction : Instruction) (access : Access) (a : Nat) (write : Bool) (found : Found)
      (settled : (s.threads t).Settled origin t)
      (next : cfg.program t (s.threads t).history = some instruction)
      (denied : (access, a) ∈ Machine.faulting cfg s instruction)
      (resolves : registry.Resolves a found) (raised : origin t (s.threads t).history found write) :
      Effect cfg registry origin s t .user (s.setThread t
        { s.threads t with faults := (s.threads t).faults + 1, control := .findController a write })
  | resolved (a : Nat) (write : Bool) (found : Found) (settled : (s.threads t).Settled origin t)
      (resolves : registry.Resolves a found) (raised : origin t (s.threads t).history found write) :
      Effect cfg registry origin s t (.findController a write)
        (s.goto t (if write then .unprotect found write else .doHookRead found))
  | hookedRead (found : Found) (space : IoSpace) (settled : (s.threads t).Settled origin t)
      (raised : origin t (s.threads t).history found false)
      (present : registry.ioSpaces[found.ioSpace]? = some space) :
      Effect cfg registry origin s t (.doHookRead found) { s.goto t (.unprotect found false) with
        world := s.world.doHookRead (cfg.controllers found.controller) t found.controller space
          found.offset }
  | unprotected (found : Found) (write : Bool) (space : IoSpace) (area : Area)
      (settled : (s.threads t).Settled origin t)
      (raised : origin t (s.threads t).history found write)
      (present : registry.ioSpaces[found.ioSpace]? = some space)
      (changed : cfg.platform.unprotect (s.areas found.ioSpace) = some area) :
      Effect cfg registry origin s t (.unprotect found write)
        { s.goto t (.installBreakPoint found write) with
          areas := Function.update s.areas found.ioSpace area
          calls := s.calls ++ [(t, found.ioSpace, .unprotect)] }
  | installed (found : Found) (write : Bool) (settled : (s.threads t).Settled origin t)
      (raised : origin t (s.threads t).history found write) :
      Effect cfg registry origin s t (.installBreakPoint found write) (s.setThread t
        { s.threads t with breakPoint := record found write, trapFlag := true, control := .user })
  | trapped (found : Found) (write : Bool)
      (raised : origin t (s.threads t).history.dropLast found write)
      (recorded : (s.threads t).Recorded found write) :
      Effect cfg registry origin s t .getBreakPoint (s.goto t (afterTrap cfg found write))
  | hookedWrite (found : Found) (space : IoSpace)
      (raised : origin t (s.threads t).history.dropLast found true)
      (recorded : (s.threads t).Recorded found true)
      (hooked : (cfg.controllers found.controller).getHookTypes.and .write = true)
      (present : registry.ioSpaces[found.ioSpace]? = some space) :
      Effect cfg registry origin s t (.doHookWrite found.ioSpace found.controller found.offset)
        { s.goto t (.uninstallBreakPoint found.ioSpace) with
          world := s.world.doHookWrite (cfg.controllers found.controller) t found.controller space
            found.offset }
  | uninstalled (found : Found) (write : Bool)
      (raised : origin t (s.threads t).history.dropLast found write)
      (recorded : (s.threads t).Recorded found write) :
      Effect cfg registry origin s t (.uninstallBreakPoint found.ioSpace) (s.setThread t
        { s.threads t with
          breakPoint := .fresh ()
          trapFlag := false
          control := .restoreProtection found.ioSpace })
  | restored (found : Found) (write : Bool) (space : IoSpace) (area : Area)
      (raised : origin t (s.threads t).history.dropLast found write) (idle : (s.threads t).Idle)
      (present : registry.ioSpaces[found.ioSpace]? = some space)
      (changed : cfg.platform.restoreProtection (s.areas found.ioSpace) = some area) :
      Effect cfg registry origin s t (.restoreProtection found.ioSpace) { s.goto t .user with
        areas := Function.update s.areas found.ioSpace area
        calls := s.calls ++ [(t, found.ioSpace, .restoreProtection)] }

section

variable {cfg : Config Area Device} {law : cfg.platform.Law} {registry : Registry} {origin : Origin}
  {s s' : Machine Area Device} {t : ThreadId} {report : Report}

theorem Thread.Disciplined.settled {thread : Thread}
    (disciplined : thread.Disciplined cfg registry origin t) (control : thread.control = .user) :
    thread.Settled origin t := by
  simpa [Thread.Disciplined, control] using disciplined

/-- The inversion of `step`: the only place where the transitions are unfolded. -/
theorem Scenario.step_effect (scenario : Scenario cfg law registry origin)
    (disciplined : Disciplined cfg law registry origin s)
    (taken : Machine.step cfg s (t, report) = some s') :
    Effect cfg registry origin s t (s.threads t).control s' := by
  obtain ⟨same, running, sound, threads⟩ := disciplined
  have here := threads t
  unfold Thread.Disciplined at here
  have alive : s.process ≠ .killed := by rw [running]; decide
  simp only [Machine.step, if_neg alive] at taken
  cases control : (s.threads t).control with
  | user =>
    simp only [control] at here taken
    obtain ⟨instruction, next, rfl⟩ := Option.map_eq_some_iff.mp taken
    rcases Machine.stepUser_cases cfg s t report instruction with ⟨clear, step⟩ | ⟨access, a, denied, step⟩
    · rw [step]
      exact .executed instruction here next clear
    · obtain ⟨found, resolves, raised⟩ := scenario.raise report same sound next denied
      rw [step]
      simp only [Machine.fault, running]
      exact .faulted instruction access a _ found here next denied resolves raised
  | findController a write =>
    simp only [control, Machine.stepHandler] at here taken
    obtain ⟨settled, found, resolves, raised⟩ := here
    have found_eq := (scenario.registered.findController_some a found).mpr resolves
    simp only [same, found_eq, Option.some.injEq] at taken
    rw [← taken]
    exact .resolved a write found settled resolves raised
  | doHookRead found =>
    simp only [control, Machine.stepHandler] at here taken
    obtain ⟨settled, raised⟩ := here
    obtain ⟨space, present⟩ := (scenario.live raised).2
    simp only [same, present, Option.bind_eq_bind, Option.bind_some, Option.some.injEq] at taken
    rw [← taken]
    exact .hookedRead found space settled raised present
  | unprotect found write =>
    simp only [control, Machine.stepHandler] at here taken
    obtain ⟨settled, raised⟩ := here
    obtain ⟨space, present⟩ := (scenario.live raised).2
    simp only [same, present, Option.bind_eq_bind, Option.bind_some] at taken
    obtain ⟨area, changed, taken⟩ := Option.bind_eq_some_iff.mp taken
    cases taken
    exact .unprotected found write space area settled raised present changed
  | installBreakPoint found write =>
    simp only [control, Machine.stepHandler, Option.some.injEq] at here taken
    obtain ⟨settled, raised⟩ := here
    have installed : (if write = true then (s.threads t).breakPoint.set found.ioSpace
        (some found.controller) found.offset else (s.threads t).breakPoint.setIoSpace found.ioSpace) =
        record found write := by
      cases write <;> rfl
    rw [installed] at taken
    rw [← taken]
    exact .installed found write settled raised
  | getBreakPoint =>
    simp only [control, Machine.stepHandler] at here taken
    obtain ⟨found, write, raised, recorded⟩ := here
    have destination : some (s.goto t (afterTrap cfg found write)) = some s' := by
      rw [← taken]
      simp only [recorded.breakPoint, record_active, record_ioSpace, record_controller, if_true,
        Option.bind_eq_bind, Option.bind_some, afterTrap]
      cases write with
      | false => rfl
      | true =>
        simp only [if_true, Bool.true_and, record, BreakPointData.set]
        split <;> rfl
    cases destination
    exact .trapped found write raised recorded
  | doHookWrite ioSpace controller offset =>
    simp only [control, Machine.stepHandler] at here taken
    obtain ⟨found, raised, recorded, hooked, rfl, rfl, rfl⟩ := here
    obtain ⟨space, present⟩ := (scenario.live raised).2
    simp only [same, present, Option.bind_eq_bind, Option.bind_some, Option.some.injEq] at taken
    rw [← taken]
    exact .hookedWrite found space raised recorded hooked present
  | uninstallBreakPoint ioSpace =>
    simp only [control, Machine.stepHandler, Option.some.injEq] at here taken
    obtain ⟨found, write, raised, recorded, rfl⟩ := here
    rw [← taken]
    exact .uninstalled found write raised recorded
  | restoreProtection ioSpace =>
    simp only [control, Machine.stepHandler] at here taken
    obtain ⟨found, write, raised, idle, rfl⟩ := here
    obtain ⟨space, present⟩ := (scenario.live raised).2
    simp only [same, present, Option.bind_eq_bind, Option.bind_some] at taken
    obtain ⟨area, changed, taken⟩ := Option.bind_eq_some_iff.mp taken
    cases taken
    exact .restored found write space area raised idle present changed

theorem Scenario.step_enabled (scenario : Scenario cfg law registry origin)
    (disciplined : Disciplined cfg law registry origin s) (report : Report)
    (next : (s.threads t).control = .user → ∃ instruction,
      cfg.program t (s.threads t).history = some instruction)
    (unprotect : ∀ {found write}, (s.threads t).control = .unprotect found write →
      ∃ area, cfg.platform.unprotect (s.areas found.ioSpace) = some area)
    (restore : ∀ {ioSpace}, (s.threads t).control = .restoreProtection ioSpace →
      ∃ area, cfg.platform.restoreProtection (s.areas ioSpace) = some area) :
    ∃ s', Machine.step cfg s (t, report) = some s' := by
  obtain ⟨same, running, sound, threads⟩ := disciplined
  have here := threads t
  unfold Thread.Disciplined at here
  have alive : s.process ≠ .killed := by rw [running]; decide
  simp only [Machine.step, if_neg alive]
  cases control : (s.threads t).control with
  | user =>
    obtain ⟨instruction, issued⟩ := next control
    simp [issued]
  | findController a write =>
    simp only [control] at here
    obtain ⟨-, found, resolves, -⟩ := here
    have found_eq := (scenario.registered.findController_some a found).mpr resolves
    simp [Machine.stepHandler, same, found_eq]
  | doHookRead found =>
    simp only [control] at here
    obtain ⟨space, present⟩ := (scenario.live here.2).2
    simp [Machine.stepHandler, same, present]
  | unprotect found write =>
    simp only [control] at here
    obtain ⟨space, present⟩ := (scenario.live here.2).2
    obtain ⟨area, changed⟩ := unprotect control
    simp [Machine.stepHandler, same, present, changed]
  | installBreakPoint found write => simp [Machine.stepHandler]
  | getBreakPoint =>
    simp only [control] at here
    obtain ⟨found, write, -, recorded⟩ := here
    simp only [Machine.stepHandler, recorded.breakPoint, record_active, record_ioSpace,
      record_controller, if_true, Option.bind_eq_bind, Option.bind_some]
    cases write with
    | false => exact ⟨_, rfl⟩
    | true =>
      simp only [if_true]
      split <;> exact ⟨_, rfl⟩
  | doHookWrite ioSpace controller offset =>
    simp only [control] at here
    obtain ⟨found, raised, -, -, rfl, -, -⟩ := here
    obtain ⟨space, present⟩ := (scenario.live raised).2
    simp [Machine.stepHandler, same, present]
  | uninstallBreakPoint ioSpace => simp [Machine.stepHandler]
  | restoreProtection ioSpace =>
    simp only [control] at here
    obtain ⟨found, write, raised, -, rfl⟩ := here
    obtain ⟨space, present⟩ := (scenario.live raised).2
    obtain ⟨area, changed⟩ := restore control
    simp [Machine.stepHandler, same, present, changed]

theorem Disciplined.update (disciplined : Disciplined cfg law registry origin s)
    (same : s'.registry = s.registry) (running : s'.process = s.process)
    (sound : ∀ (ioSpace : IoSpacePtr) (space : IoSpace), registry.ioSpaces[ioSpace]? = some space →
      law.sound space.hookTypes (s'.areas ioSpace))
    (others : ∀ u, u ≠ t → s'.threads u = s.threads u)
    (own : (s'.threads t).Disciplined cfg registry origin t) : Disciplined cfg law registry origin s' where
  same := same.trans disciplined.same
  running := running.trans disciplined.running
  sound := sound
  threads := by
    intro u
    by_cases mine : u = t
    · subst mine
      exact own
    · rw [others u mine]
      exact disciplined.threads u

theorem Disciplined.sound_update (disciplined : Disciplined cfg law registry origin s) {found : Found}
    {space : IoSpace} {area : Area}
    (present : registry.ioSpaces[found.ioSpace]? = some space)
    (kept : law.sound space.hookTypes (s.areas found.ioSpace) → law.sound space.hookTypes area)
    (ioSpace : IoSpacePtr) (other : IoSpace) (live : registry.ioSpaces[ioSpace]? = some other) :
    law.sound other.hookTypes (Function.update s.areas found.ioSpace area ioSpace) := by
  by_cases mine : ioSpace = found.ioSpace
  · subst mine
    rw [present] at live
    cases live
    rw [Function.update_self]
    exact kept (disciplined.sound _ _ present)
  · rw [Function.update_of_ne mine]
    exact disciplined.sound _ _ live

theorem Effect.disciplined (disciplined : Disciplined cfg law registry origin s) {control : Control}
    (effect : Effect cfg registry origin s t control s') : Disciplined cfg law registry origin s' := by
  cases effect with
  | executed instruction settled next clear =>
    refine disciplined.update rfl rfl disciplined.sound (fun u other => Machine.execute_other s _ other) ?_
    rw [Machine.execute_self]
    rcases settled with idle | ⟨found, write, raised, recorded⟩
    · simp only [Thread.Disciplined, idle.trapFlag]
      exact Or.inl ⟨idle.breakPoint, rfl⟩
    · simp only [Thread.Disciplined, recorded.trapFlag, if_true, List.dropLast_concat]
      exact ⟨found, write, raised, recorded.breakPoint, rfl⟩
  | faulted instruction access a write found settled next denied resolves raised =>
    refine disciplined.update rfl rfl disciplined.sound (fun u other => Machine.setThread_other s _ other) ?_
    rw [Machine.setThread_self]
    exact ⟨settled.keep rfl rfl rfl, found, resolves, raised⟩
  | resolved a write found settled resolves raised =>
    refine disciplined.update rfl rfl disciplined.sound (fun u other => Machine.goto_other s _ other) ?_
    rw [Machine.goto_self]
    cases write with
    | false => exact ⟨settled.keep rfl rfl rfl, raised⟩
    | true => exact ⟨settled.keep rfl rfl rfl, raised⟩
  | hookedRead found space settled raised present =>
    refine disciplined.update rfl rfl disciplined.sound (fun u other => Machine.goto_other s _ other) ?_
    simp only [Machine.goto_self]
    exact ⟨settled.keep rfl rfl rfl, raised⟩
  | unprotected found write space area settled raised present changed =>
    refine disciplined.update rfl rfl ?_ (fun u other => Machine.goto_other s _ other) ?_
    · exact disciplined.sound_update present
        fun sound => law.unprotect_sound sound changed
    · simp only [Machine.goto_self]
      exact ⟨settled.keep rfl rfl rfl, raised⟩
  | installed found write settled raised =>
    refine disciplined.update rfl rfl disciplined.sound (fun u other => Machine.setThread_other s _ other) ?_
    rw [Machine.setThread_self]
    exact Or.inr ⟨found, write, raised, rfl, rfl⟩
  | trapped found write raised recorded =>
    refine disciplined.update rfl rfl disciplined.sound (fun u other => Machine.goto_other s _ other) ?_
    rw [Machine.goto_self]
    have kept : ({ s.threads t with control := afterTrap cfg found write } : Thread).Recorded found write :=
      ⟨recorded.breakPoint, recorded.trapFlag⟩
    by_cases hooked : (write && (cfg.controllers found.controller).getHookTypes.and .write) = true
    · obtain ⟨rfl, writes⟩ := Bool.and_eq_true_iff.mp hooked
      simp only [Thread.Disciplined, afterTrap, hooked, if_true] at kept ⊢
      exact ⟨found, raised, kept, writes, rfl, rfl, rfl⟩
    · simp only [Thread.Disciplined, afterTrap, hooked] at kept ⊢
      exact ⟨found, write, raised, kept, rfl⟩
  | hookedWrite found space raised recorded hooked present =>
    refine disciplined.update rfl rfl disciplined.sound (fun u other => Machine.goto_other s _ other) ?_
    simp only [Machine.goto_self]
    exact ⟨found, true, raised, ⟨recorded.breakPoint, recorded.trapFlag⟩, rfl⟩
  | uninstalled found write raised recorded =>
    refine disciplined.update rfl rfl disciplined.sound (fun u other => Machine.setThread_other s _ other) ?_
    rw [Machine.setThread_self]
    exact ⟨found, write, raised, ⟨rfl, rfl⟩, rfl⟩
  | restored found write space area raised idle present changed =>
    refine disciplined.update rfl rfl ?_ (fun u other => Machine.goto_other s _ other) ?_
    · exact disciplined.sound_update present
        fun sound => law.restore_sound sound changed
    · simp only [Machine.goto_self]
      exact Or.inl ⟨idle.breakPoint, idle.trapFlag⟩

theorem Disciplined.boot (cfg : Config Area Device) (law : cfg.platform.Law) (registry : Registry)
    (origin : Origin) (world : World Device) :
    Disciplined cfg law registry origin (Machine.boot cfg registry world) where
  same := rfl
  running := rfl
  sound := by
    intro ioSpace space live
    simp only [Machine.boot, live, Option.map_some, Option.getD_some]
    exact law.sound_of_closed (law.closed_initial space.hookTypes)
  threads := fun _ => Or.inl ⟨rfl, rfl⟩

theorem Scenario.run_keeps (scenario : Scenario cfg law registry origin)
    (guard : Machine Area Device → ThreadId × Report → Prop) (invariant : Machine Area Device → Prop)
    {world : World Device} {actions : List (ThreadId × Report)}
    (keep : ∀ (s : Machine Area Device) (t : ThreadId) (report : Report) (s' : Machine Area Device),
      Disciplined cfg law registry origin s → invariant s → guard s (t, report) →
        Effect cfg registry origin s t (s.threads t).control s' → invariant s')
    (start : invariant (Machine.boot cfg registry world))
    (meets : Transition.Meets (Machine.step cfg) guard (Machine.boot cfg registry world) actions)
    (ran : Transition.run (Machine.step cfg) (Machine.boot cfg registry world) actions = some s) :
    Disciplined cfg law registry origin s ∧ invariant s := by
  have both : ∀ (m : Machine Area Device) (action : ThreadId × Report) (m' : Machine Area Device),
      Disciplined cfg law registry origin m ∧ invariant m → guard m action → Machine.step cfg m action = some m' →
        Disciplined cfg law registry origin m' ∧ invariant m' := by
    rintro m ⟨t, report⟩ m' ⟨disciplined, holds⟩ guarded taken
    have effect := scenario.step_effect disciplined taken
    exact ⟨effect.disciplined disciplined, keep m t report m' disciplined holds guarded effect⟩
  exact Transition.run_guarded both ⟨Disciplined.boot cfg law registry origin world, start⟩ meets ran

theorem Scenario.alone_keeps (scenario : Scenario cfg law registry origin)
    (invariant : Machine Area Device → Prop) {world : World Device} {reports : List Report}
    (keep : ∀ (s : Machine Area Device) (report : Report) (s' : Machine Area Device),
      Disciplined cfg law registry origin s → invariant s → Machine.alone cfg s report = some s' →
        Effect cfg registry origin s 0 (s.threads 0).control s' → invariant s')
    (start : invariant (Machine.boot cfg registry world))
    (ran : Transition.run (Machine.alone cfg) (Machine.boot cfg registry world) reports = some s) :
    Disciplined cfg law registry origin s ∧ invariant s := by
  have both : ∀ (m : Machine Area Device) (report : Report) (m' : Machine Area Device),
      Disciplined cfg law registry origin m ∧ invariant m → Machine.alone cfg m report = some m' →
        Disciplined cfg law registry origin m' ∧ invariant m' := by
    rintro m report m' ⟨disciplined, holds⟩ taken
    have effect := scenario.step_effect disciplined taken
    exact ⟨effect.disciplined disciplined, keep m report m' disciplined holds taken effect⟩
  exact Transition.run_invariant both ⟨Disciplined.boot cfg law registry origin world, start⟩ ran

end

end ExMM
