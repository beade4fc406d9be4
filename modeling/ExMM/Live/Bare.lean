import ExMM.Library.Simulation
import ExMM.Machine.DeviceModel
import ExMM.Model.Live

namespace ExMM

variable {Area Device Step : Type}

theorem Bare.step_hookRead {controllers : ControllerPtr → Controller Device} {program : ThreadId → Program}
    {registry : Registry} {background : Background Device Step} {r : Bare Device} {t : ThreadId}
    {address width : Nat} {found : Found} (next : program t (r.history t) = some [.load address width])
    (hooked : hookedBy controllers registry (.load address width) = some found)
    (owes : ∀ other, r.pending t ≠ .hookWrite other)
    (unlocked : background.holdsMemoryLock found.controller r.world.device = false) :
    Bare.step controllers program registry background r (.hookRead t) = some { r with
      world := Reference.readHook controllers registry t found r.world
      pending := Function.update r.pending t .load } := by
  cases pending : r.pending t with
  | hookWrite other => exact absurd pending (owes other)
  | _ => simp [Bare.step, next, pending, hooked, unlocked]

def Thread.pending (controllers : ControllerPtr → Controller Device) (thread : Thread) : Pending :=
  match thread.control with
  | .user | .findController _ _ | .doHookRead _ =>
    if thread.breakPoint.active = true ∧ thread.breakPoint.controller = none then .load else .nothing
  | .unprotect _ write | .installBreakPoint _ write => if write then .nothing else .load
  | .getBreakPoint =>
    match thread.breakPoint.controller, thread.breakPoint.ioSpace with
    | some controller, some ioSpace =>
      if (controllers controller).getHookTypes.and .write then
        .hookWrite { controller, ioSpace, offset := thread.breakPoint.offset }
      else .nothing
    | _, _ => .nothing
  | .doHookWrite ioSpace controller offset => .hookWrite { controller, ioSpace, offset }
  | .uninstallBreakPoint _ | .restoreProtection _ => .nothing

namespace Machine

def bare (cfg : Config Area Device) (s : Machine Area Device) : Bare Device where
  world := s.world
  history := fun t => (s.threads t).history
  pending := fun t => (s.threads t).pending cfg.controllers

/-- Nobody slips through an area that is open for another thread: a hooked access has its own fault first. -/
def Unslipped (cfg : Config Area Device) (registry : Registry) (s : Machine Area Device) : LiveAction Step → Prop
  | .processor t _ => (s.threads t).control = .user → ∀ access found,
      cfg.program t (s.threads t).history = some [access] → faulting cfg s [access] = [] →
        hookedBy cfg.controllers registry access = some found → (s.threads t).breakPoint.active = true
  | .background _ _ => True

end Machine

section

variable {cfg : Config Area Device} {law : cfg.platform.Law} {registry : Registry} {s s' : Machine Area Device}
  {t : ThreadId}

theorem SingleAccess.hookedBy {controllers : ControllerPtr → Controller Device} {program : ThreadId → Program}
    (single : SingleAccess controllers program registry) {access : Access} {found : Found}
    (covers : registry.Covers access found) :
    hookedBy controllers registry access =
      if (controllers found.controller).getHookTypes.and (if access.kind = .load then .read else .write) then
        some found
      else none := by
  have resolved := (single.registered.owner_some _ _).mpr covers.resolves
  simp only [ExMM.hookedBy, resolved]

theorem SingleAccess.hooked_load (single : SingleAccess cfg.controllers cfg.program registry)
    {history : List Loaded} {found : Found} (raised : singleOrigin cfg.program registry t history found false) :
    ∃ address width, cfg.program t history = some [.load address width] ∧
      ExMM.hookedBy cfg.controllers registry (.load address width) = some found := by
  obtain ⟨access, space, next, covers, present, denied, kind⟩ := raised
  cases access with
  | load address width =>
    have reads : (cfg.controllers found.controller).getHookTypes.and .read = true := by
      rw [single.getHookTypes covers.1 present]
      simpa [Access.kind, initialProtection_load] using denied
    refine ⟨address, width, next, ?_⟩
    rw [single.hookedBy covers]
    simp [Access.kind, reads]
  | store address width value => cases kind

theorem SingleAccess.hooked_store (single : SingleAccess cfg.controllers cfg.program registry)
    {history : List Loaded} {found : Found} (raised : singleOrigin cfg.program registry t history found true) :
    ∃ address width value, cfg.program t history = some [.store address width value] ∧
      ExMM.hookedBy cfg.controllers registry (.store address width value) =
        if (cfg.controllers found.controller).getHookTypes.and .write then some found else none := by
  obtain ⟨access, space, next, covers, present, denied, kind⟩ := raised
  cases access with
  | load address width => cases kind
  | store address width value =>
    refine ⟨address, width, value, next, ?_⟩
    rw [single.hookedBy covers]
    simp [Access.kind]

theorem Thread.Idle.pending {thread : Thread} (idle : thread.Idle) (control : thread.control = .user) :
    thread.pending cfg.controllers = .nothing := by
  simp [Thread.pending, control, idle.breakPoint, BreakPointData.fresh]

theorem Thread.Recorded.pending {thread : Thread} {found : Found} {write : Bool}
    (recorded : thread.Recorded found write) (control : thread.control = .user) :
    thread.pending cfg.controllers = if write then .nothing else .load := by
  cases write <;> simp [Thread.pending, control, recorded.breakPoint]

theorem Thread.Recorded.pending_trap {thread : Thread} {found : Found} {write : Bool}
    (recorded : thread.Recorded found write) (control : thread.control = .getBreakPoint) :
    thread.pending cfg.controllers =
      if write && (cfg.controllers found.controller).getHookTypes.and .write then .hookWrite found
      else .nothing := by
  cases write with
  | false => simp [Thread.pending, control, recorded.breakPoint]
  | true => simp [Thread.pending, control, recorded.breakPoint, record, BreakPointData.set]

theorem bare_eq {history : List Loaded} {pending : Pending} (world : World Device)
    (same : s'.world = world) (others : ∀ u, u ≠ t → s'.threads u = s.threads u)
    (histories : (s'.threads t).history = history)
    (pendings : (s'.threads t).pending cfg.controllers = pending) : s'.bare cfg =
      { world
        history := Function.update (s.bare cfg).history t history
        pending := Function.update (s.bare cfg).pending t pending } := by
  subst same histories pendings
  simp only [Machine.bare, Bare.mk.injEq, true_and]
  constructor
  · funext u
    by_cases mine : u = t
    · subst mine
      rw [Function.update_self]
    · rw [Function.update_of_ne mine, others u mine]
  · funext u
    by_cases mine : u = t
    · subst mine
      rw [Function.update_self]
    · rw [Function.update_of_ne mine, others u mine]

theorem bare_hooked {pending : Pending} (world : World Device) (same : s'.world = world)
    (others : ∀ u, u ≠ t → s'.threads u = s.threads u) (history : (s'.threads t).history = (s.threads t).history)
    (pendings : (s'.threads t).pending cfg.controllers = pending) : s'.bare cfg =
      { s.bare cfg with world, pending := Function.update (s.bare cfg).pending t pending } := by
  rw [bare_eq world same others history pendings]
  simp [Machine.bare]

theorem bare_same (world : s'.world = s.world) (others : ∀ u, u ≠ t → s'.threads u = s.threads u)
    (history : (s'.threads t).history = (s.threads t).history)
    (pending : (s'.threads t).pending cfg.controllers = (s.threads t).pending cfg.controllers) :
    s'.bare cfg = s.bare cfg := by
  rw [bare_eq s.world world others history pending]
  simp [Machine.bare]

end

theorem Thread.Settled.writing {controllers : ControllerPtr → Controller Device} {program : ThreadId → Program}
    {registry : Registry} (single : SingleAccess controllers program registry) {t : ThreadId} {thread : Thread}
    {found : Found} (settled : thread.Settled (singleOrigin program registry) t)
    (raised : singleOrigin program registry t thread.history found true)
    (active : thread.breakPoint.active = true) : thread.breakPoint.controller ≠ none := by
  rcases settled with idle | ⟨other, write, earlier, recorded⟩
  · rw [idle.breakPoint] at active
    cases active
  · obtain ⟨-, rfl⟩ := single.origin_unique earlier raised
    rw [recorded.breakPoint]
    simp

inductive Answered (cfg : Config Area Device) (registry : Registry) (background : Background Device Step)
    (s : Machine Area Device) (t : ThreadId) (s' : Machine Area Device) : Prop
  | unseen (same : s'.bare cfg = s.bare cfg)
  | hookRead (found : Found) (control : (s.threads t).control = .doHookRead found)
      (taken : Bare.step cfg.controllers cfg.program registry background (s.bare cfg) (.hookRead t) =
        some (s'.bare cfg))
  | access (taken : Bare.step cfg.controllers cfg.program registry background (s.bare cfg) (.access t) =
      some (s'.bare cfg))
  | hookWrite (taken : Bare.step cfg.controllers cfg.program registry background (s.bare cfg) (.hookWrite t) =
      some (s'.bare cfg))

section

variable {cfg : Config Area Device} {law : cfg.platform.Law} {registry : Registry}
  {background : Background Device Step} {s s' : Machine Area Device} {t : ThreadId}

inductive BareAction.Answers : LiveAction Step → Option (BareAction Step) → Prop
  | unseen (t : ThreadId) (report : Report) : Answers (.processor t report) none
  | hookRead (t : ThreadId) (report : Report) : Answers (.processor t report) (some (.hookRead t))
  | access (t : ThreadId) (report : Report) : Answers (.processor t report) (some (.access t))
  | hookWrite (t : ThreadId) (report : Report) : Answers (.processor t report) (some (.hookWrite t))
  | background (controller : ControllerPtr) (step : Step) :
    Answers (.background controller step) (some (.background controller step))

theorem Answered.stuttering (answered : Answered cfg registry background s t s') (report : Report) :
    ∃ answer, Transition.stuttering (Bare.step cfg.controllers cfg.program registry background) (s.bare cfg) answer =
      some (s'.bare cfg) ∧ BareAction.Answers (.processor t report) answer := by
  cases answered with
  | unseen same => exact ⟨none, congrArg some same.symm, .unseen t report⟩
  | hookRead found control taken => exact ⟨some (.hookRead t), taken, .hookRead t report⟩
  | access taken => exact ⟨some (.access t), taken, .access t report⟩
  | hookWrite taken => exact ⟨some (.hookWrite t), taken, .hookWrite t report⟩

theorem Bare.step_hooked (action : BareAction Step) {pending : Pending}
    (others : ∀ u, u ≠ t → s'.threads u = s.threads u) (history : (s'.threads t).history = (s.threads t).history)
    (pendings : (s'.threads t).pending cfg.controllers = pending)
    (taken : Bare.step cfg.controllers cfg.program registry background (s.bare cfg) action =
      some { s.bare cfg with
        world := s'.world
        pending := Function.update (s.bare cfg).pending t pending }) :
    Bare.step cfg.controllers cfg.program registry background (s.bare cfg) action = some (s'.bare cfg) := by
  rw [bare_hooked s'.world rfl others history pendings]
  exact taken

theorem Answered.of_access {access : Access} (next : cfg.program t (s.threads t).history = some [access])
    (before : (s.threads t).pending cfg.controllers =
      .before access.kind (hookedBy cfg.controllers registry access))
    (after : ((s.execute t [access]).threads t).pending cfg.controllers =
      .after access.kind (hookedBy cfg.controllers registry access)) :
    Answered cfg registry background s t (s.execute t [access]) := by
  refine .access ?_
  have target : (s.execute t [access]).bare cfg = _ :=
    bare_eq (s.world.perform t [access]).1 rfl (fun u other => Machine.execute_other s _ other)
      (by rw [Machine.execute_self]) after
  rw [target]
  simp only [Bare.step, Machine.bare, next, before, if_true]
  rfl

theorem Effect.executed_answered (single : SingleAccess cfg.controllers cfg.program registry)
    {instruction : Instruction} (control : (s.threads t).control = .user)
    (settled : (s.threads t).Settled (singleOrigin cfg.program registry) t)
    (next : cfg.program t (s.threads t).history = some instruction)
    (unslipped : ∀ access found, instruction = [access] → hookedBy cfg.controllers registry access = some found →
      (s.threads t).breakPoint.active = true) :
    Answered cfg registry background s t (s.execute t instruction) := by
  rcases settled with idle | ⟨found, write, raised, recorded⟩
  · have quiet : (s.threads t).pending cfg.controllers = .nothing := idle.pending control
    have after : ((s.execute t instruction).threads t).pending cfg.controllers = .nothing := by
      refine Thread.Idle.pending ⟨?_, ?_⟩ ?_
      · simpa using idle.breakPoint
      · simpa using idle.trapFlag
      · simp [idle.trapFlag]
    rcases single.instructions next with rfl | ⟨access, found, rfl, covers⟩
    · refine .access ?_
      have target : (s.execute t []).bare cfg = _ :=
        bare_eq s.world rfl (fun u other => Machine.execute_other s _ other) (by rw [Machine.execute_self]) after
      have same : Function.update (s.bare cfg).pending t .nothing = (s.bare cfg).pending := by
        rw [← quiet]
        exact Function.update_eq_self t _
      rw [target, same]
      simp only [Bare.step, Machine.bare, next, quiet, if_true]
      rfl
    · have unhooked : hookedBy cfg.controllers registry access = none := by
        cases hooked : hookedBy cfg.controllers registry access with
        | none => rfl
        | some found =>
          have active := unslipped access found rfl hooked
          rw [idle.breakPoint] at active
          cases active
      refine .of_access next ?_ ?_
      · rw [quiet, unhooked]
        cases access.kind <;> rfl
      · rw [after, unhooked]
        cases access.kind <;> rfl
  · have before : (s.threads t).pending cfg.controllers = if write then .nothing else .load :=
      recorded.pending control
    have after : ((s.execute t instruction).threads t).pending cfg.controllers =
        if write && (cfg.controllers found.controller).getHookTypes.and .write then .hookWrite found
        else .nothing := by
      refine Thread.Recorded.pending_trap ⟨?_, ?_⟩ ?_
      · simpa using recorded.breakPoint
      · simpa using recorded.trapFlag
      · simp [recorded.trapFlag]
    cases write with
    | false =>
      obtain ⟨address, width, issued, hooked⟩ := single.hooked_load raised
      rw [issued, Option.some.injEq] at next
      subst next
      refine .of_access issued ?_ ?_
      · rw [before, hooked]
        rfl
      · rw [after, hooked]
        rfl
    | true =>
      obtain ⟨address, width, value, issued, hooked⟩ := single.hooked_store raised
      rw [issued, Option.some.injEq] at next
      subst next
      refine .of_access issued ?_ ?_
      · rw [before, if_pos rfl, hooked]
        split <;> rfl
      · rw [after, hooked]
        simp only [Bool.true_and]
        split <;> rfl

theorem Effect.answered (single : SingleAccess cfg.controllers cfg.program registry)
    {control : Control} (here : (s.threads t).control = control)
    (unslipped : control = .user → ∀ access found, cfg.program t (s.threads t).history = some [access] →
      Machine.faulting cfg s [access] = [] → hookedBy cfg.controllers registry access = some found →
        (s.threads t).breakPoint.active = true)
    (free : s.waits background t = false)
    (effect : Effect cfg registry (singleOrigin cfg.program registry) s t control s') :
    Answered cfg registry background s t s' := by
  cases effect with
  | executed instruction settled next clear =>
    refine Effect.executed_answered single here settled next ?_
    rintro access found rfl hooked
    exact unslipped rfl access found next clear hooked
  | faulted instruction access a write found settled next denied resolves raised =>
    refine .unseen (bare_same rfl (fun u other => Machine.setThread_other s _ other) ?_ ?_)
    · rw [Machine.setThread_self]
    · rw [Machine.setThread_self]
      simp only [Thread.pending, here]
  | resolved a write found settled resolves raised =>
    refine .unseen (bare_same rfl (fun u other => Machine.goto_other s _ other) ?_ ?_)
    · rw [Machine.goto_self]
    · rw [Machine.goto_self]
      cases write with
      | false => simp only [Thread.pending, here, Bool.false_eq_true, if_false]
      | true =>
        have quiet : (s.threads t).breakPoint.active = true → (s.threads t).breakPoint.controller ≠ none :=
          settled.writing single raised
        simp only [Thread.pending, here, if_true]
        rw [if_neg fun owed => quiet owed.1 owed.2]
  | hookedRead found space settled raised present =>
    obtain ⟨address, width, next, hooked⟩ := single.hooked_load raised
    have unlocked : background.holdsMemoryLock found.controller s.world.device = false := by
      simpa only [Machine.waits, here] using free
    have owes : ∀ other, (s.threads t).pending cfg.controllers ≠ .hookWrite other := by
      intro other owed
      simp only [Thread.pending, here] at owed
      split at owed <;> cases owed
    refine .hookRead found here ?_
    refine Bare.step_hooked _ (fun u other => Machine.goto_other s _ other) ?_ rfl ?_
    · simp only [Machine.goto_self]
    · rw [Bare.step_hookRead next hooked owes unlocked]
      simp only [Machine.goto_self, Reference.readHook, present]
      rfl
  | unprotected found write space area settled raised present changed =>
    refine .unseen (bare_same rfl (fun u other => Machine.goto_other s _ other) ?_ ?_)
    · simp only [Machine.goto_self]
    · simp only [Machine.goto_self, Thread.pending, here]
  | installed found write settled raised =>
    refine .unseen (bare_same rfl (fun u other => Machine.setThread_other s _ other) ?_ ?_)
    · rw [Machine.setThread_self]
    · rw [Machine.setThread_self, Thread.Recorded.pending ⟨rfl, rfl⟩ rfl]
      simp only [Thread.pending, here]
  | trapped found write raised recorded =>
    refine .unseen (bare_same rfl (fun u other => Machine.goto_other s _ other) ?_ ?_)
    · rw [Machine.goto_self]
    · rw [Machine.goto_self, recorded.pending_trap here, afterTrap]
      split <;> rfl
  | hookedWrite found space raised recorded hooked present =>
    have unlocked : background.holdsMemoryLock found.controller s.world.device = false := by
      simpa only [Machine.waits, here] using free
    have owes : (s.threads t).pending cfg.controllers = .hookWrite found := by
      simp only [Thread.pending, here]
    refine .hookWrite ?_
    refine Bare.step_hooked _ (fun u other => Machine.goto_other s _ other) ?_ rfl ?_
    · simp only [Machine.goto_self]
    · simp only [Machine.goto_self, Bare.step, Machine.bare, owes, unlocked, Reference.writeHook, present]
      rfl
  | uninstalled found write raised recorded =>
    refine .unseen (bare_same rfl (fun u other => Machine.setThread_other s _ other) ?_ ?_)
    · rw [Machine.setThread_self]
    · rw [Machine.setThread_self]
      simp only [Thread.pending, here]
  | restored found write space area raised idle present changed =>
    refine .unseen (bare_same rfl (fun u other => Machine.goto_other s _ other) ?_ ?_)
    · simp only [Machine.goto_self]
    · have quiet : ({ s.threads t with control := .user } : Thread).pending cfg.controllers = .nothing :=
        Thread.Idle.pending ⟨idle.breakPoint, idle.trapFlag⟩ rfl
      simp only [Machine.goto_self]
      rw [quiet]
      simp only [Thread.pending, here]

theorem Machine.live_processor {report : Report} (taken : Machine.live cfg background s (.processor t report) = some s') :
    s.waits background t = false ∧ Machine.step cfg s (t, report) = some s' := by
  simp only [Machine.live] at taken
  split at taken
  · cases taken
  · next free => exact ⟨Bool.eq_false_iff.mpr free, taken⟩

theorem Machine.live_background {controller : ControllerPtr} {step : Step}
    (taken : Machine.live cfg background s (.background controller step) = some s') :
    ∃ world, s.world.background background s.registry controller step = some world ∧ s' = { s with world } := by
  simp only [Machine.live] at taken
  split at taken
  · cases taken
  · obtain ⟨world, stepped, rfl⟩ := Option.map_eq_some_iff.mp taken
    exact ⟨world, stepped, rfl⟩

theorem Disciplined.with_world {origin : Origin} (disciplined : Disciplined cfg law registry origin s)
    (world : World Device) : Disciplined cfg law registry origin { s with world } :=
  ⟨disciplined.same, disciplined.running, disciplined.sound, disciplined.threads⟩

theorem SingleAccess.live_answer (single : SingleAccess cfg.controllers cfg.program registry)
    (disciplined : Disciplined cfg law registry (singleOrigin cfg.program registry) s) {action : LiveAction Step}
    (unslipped : s.Unslipped cfg registry action) (taken : Machine.live cfg background s action = some s') :
    Disciplined cfg law registry (singleOrigin cfg.program registry) s' ∧
      ∃ answer, Transition.stuttering (Bare.step cfg.controllers cfg.program registry background) (s.bare cfg) answer =
        some (s'.bare cfg) ∧ BareAction.Answers action answer := by
  cases action with
  | processor t report =>
    obtain ⟨free, stepped⟩ := Machine.live_processor taken
    have effect := (single.scenario law).step_effect disciplined stepped
    exact ⟨effect.disciplined disciplined, (effect.answered single rfl unslipped free).stuttering report⟩
  | background controller step =>
    obtain ⟨world, stepped, rfl⟩ := Machine.live_background taken
    refine ⟨disciplined.with_world world, some (.background controller step), ?_, .background controller step⟩
    rw [disciplined.same] at stepped
    simp only [Transition.stuttering, Bare.step, Machine.bare, stepped, Option.map_some]

def RunsBare (cfg : Config Area Device) (registry : Registry) (background : Background Device Step)
    (world : World Device) (actions : List (LiveAction Step)) : Prop :=
  ∃ answers, Transition.Lockstep (Machine.live cfg background)
    (Bare.step cfg.controllers cfg.program registry background) (fun s r => r = s.bare cfg)
    (fun _ _ => BareAction.Answers) (Machine.boot cfg registry world) (Bare.start world) actions answers

/-- As long as nobody slips, what is left of a run without the handlers is one of the devices. -/
def LiveRunsBare (cfg : Config Area Device) (registry : Registry) (background : Background Device Step)
    (world : World Device) : Prop :=
  ∀ (actions : List (LiveAction Step)) (s : Machine Area Device),
    Transition.Meets (Machine.live cfg background) (fun s action => s.Unslipped cfg registry action)
        (Machine.boot cfg registry world) actions →
      Transition.run (Machine.live cfg background) (Machine.boot cfg registry world) actions = some s →
        RunsBare cfg registry background world actions

theorem LiveRunsBare.of_law (law : cfg.platform.Law) (single : SingleAccess cfg.controllers cfg.program registry)
    (world : World Device) : LiveRunsBare cfg registry background world := by
  intro actions s meets ran
  have answer : ∀ (s : Machine Area Device) (r : Bare Device) (action : LiveAction Step) (s' : Machine Area Device),
      Disciplined cfg law registry (singleOrigin cfg.program registry) s ∧ r = s.bare cfg →
        s.Unslipped cfg registry action → Machine.live cfg background s action = some s' →
          ∃ answer r',
            Transition.stuttering (Bare.step cfg.controllers cfg.program registry background) r answer = some r' ∧
            (Disciplined cfg law registry (singleOrigin cfg.program registry) s' ∧ r' = s'.bare cfg) ∧
              BareAction.Answers action answer := by
    rintro s r action s' ⟨disciplined, rfl⟩ unslipped taken
    obtain ⟨kept, answer, moved, answers⟩ := single.live_answer disciplined unslipped taken
    exact ⟨answer, _, moved, ⟨kept, rfl⟩, answers⟩
  obtain ⟨answers, lockstep⟩ := Transition.lockstep_of_run answer ⟨Disciplined.boot cfg law registry _ world, rfl⟩ meets ran
  exact ⟨answers, lockstep.imp (fun _ _ both => both.2) fun _ _ _ _ _ _ _ answers => answers⟩

end

theorem live_runs_bare (controllers : ControllerPtr → Controller Device) (program : ThreadId → Program)
    (registry : Registry) (single : SingleAccess controllers program registry) (background : Background Device Step)
    (world : World Device) :
    LiveRunsBare { platform := Posix.platform, controllers, program } registry background world ∧
      LiveRunsBare { platform := Windows.platform, controllers, program } registry background world :=
  ⟨LiveRunsBare.of_law Posix.law single world, LiveRunsBare.of_law Windows.law single world⟩

def ticking : Background Nat Unit where
  step := fun _ _ file count => some (file, count + 1)
  holdsMemoryLock := fun _ _ => false

theorem copyRegister_runs_bare :
    LiveRunsBare { platform := Posix.platform, controllers := counting, program := fun _ => copyRegister }
        (Registry.after pair) ticking zeroWorld ∧
      LiveRunsBare { platform := Windows.platform, controllers := counting, program := fun _ => copyRegister }
        (Registry.after pair) ticking zeroWorld :=
  live_runs_bare counting (fun _ => copyRegister) (Registry.after pair) single_copyRegister ticking zeroWorld

end ExMM
