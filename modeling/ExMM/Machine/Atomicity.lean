import ExMM.Machine.DeviceModel
import ExMM.Machine.Instructions

namespace ExMM

variable {Area Device : Type}

namespace Thread

def Reading (thread : Thread) : Prop :=
  match thread.control with
  | .user | .findController _ _ | .doHookRead _ =>
    thread.breakPoint.active = true ∧ thread.breakPoint.controller = none
  | .unprotect _ write | .installBreakPoint _ write => write = false
  | _ => False

def Writing (thread : Thread) : Prop :=
  match thread.control with
  | .getBreakPoint => thread.breakPoint.controller ≠ none
  | .doHookWrite _ _ _ => True
  | _ => False

instance (thread : Thread) : Decidable thread.Reading := by
  unfold Reading
  split <;> infer_instance

instance (thread : Thread) : Decidable thread.Writing := by
  unfold Writing
  split <;> infer_instance

end Thread

def Machine.Middle (s : Machine Area Device) (t : ThreadId) : Prop :=
  (s.threads t).Reading ∨ (s.threads t).Writing

instance (s : Machine Area Device) (t : ThreadId) : Decidable (s.Middle t) :=
  inferInstanceAs (Decidable (_ ∨ _))

theorem Machine.Middle.owner {s : Machine Area Device} {t owner : ThreadId} (middle : s.Middle t)
    (others : ∀ u, u ≠ owner → ¬ s.Middle u) : owner = t := by
  by_contra other
  exact others t (Ne.symm other) middle

/-- What the scheduler has to grant: nobody slips through an area that another thread has opened, and a
    pair of a hook and an access starts only when no other one is under way. -/
def Machine.Undisturbed (cfg : Config Area Device) (s : Machine Area Device)
    (action : ThreadId × Report) : Prop :=
  match (s.threads action.1).control with
  | .doHookRead _ => ∀ u, ¬ s.Middle u
  | .user => ∀ instruction, cfg.program action.1 (s.threads action.1).history = some instruction →
      instruction ≠ [] → Machine.faulting cfg s instruction = [] →
        (s.threads action.1).breakPoint.active = true ∧
          ((s.threads action.1).breakPoint.controller ≠ none → ∀ u, ¬ s.Middle u)
  | _ => True

structure HookedAccess (controllers : ControllerPtr → Controller Device) (program : ThreadId → Program)
    (registry : Registry) : Prop extends SingleAccess controllers program registry where
  hooked : ∀ {ioSpace : IoSpacePtr} {space : IoSpace}, registry.ioSpaces[ioSpace]? = some space →
    space.hookTypes = .readWrite

inductive Paired (registry : Registry) : List DeviceEvent → Prop
  | nil : Paired registry []
  | load (t : ThreadId) (found : Found) (a : Nat) (bytes : List Byte) (rest : List DeviceEvent)
      (resolves : registry.Resolves a found) (paired : Paired registry rest) :
      Paired registry (.hookRead t found.controller found.offset :: .load t a bytes :: rest)
  | store (t : ThreadId) (found : Found) (a : Nat) (bytes : List Byte) (rest : List DeviceEvent)
      (resolves : registry.Resolves a found) (paired : Paired registry rest) :
      Paired registry (.store t a bytes :: .hookWrite t found.controller found.offset :: rest)

theorem Paired.after_hookRead {registry : Registry} {t : ThreadId} {controller : ControllerPtr} {offset : Nat}
    {later : List DeviceEvent} (paired : Paired registry (.hookRead t controller offset :: later)) :
    ∃ a bytes rest, later = .load t a bytes :: rest ∧ Paired registry rest := by
  generalize whole : DeviceEvent.hookRead t controller offset :: later = events at paired
  cases paired with
  | nil => cases whole
  | load t' found a bytes rest resolves paired =>
    cases whole
    exact ⟨a, bytes, rest, rfl, paired⟩
  | store t' found a bytes rest resolves paired => cases whole

/-- How far the machine is from the reference device: at most one pair is half done. -/
inductive Progress (cfg : Config Area Device) (registry : Registry) (r : Reference Device)
    (s : Machine Area Device) : Prop
  | settled (quiet : ∀ u, ¬ s.Middle u) (world : s.world = r.world)
  | reading (t : ThreadId) (found : Found) (here : (s.threads t).Reading)
      (raised : singleOrigin cfg.program registry t (s.threads t).history found false)
      (others : ∀ u, u ≠ t → ¬ s.Middle u)
      (world : s.world = Reference.readHook cfg.controllers registry t found r.world)
  | writing (t : ThreadId) (found : Found) (here : (s.threads t).Writing)
      (breakPoint : (s.threads t).breakPoint = record found true)
      (others : ∀ u, u ≠ t → ¬ s.Middle u)
      (world : r.world = Reference.writeHook cfg.controllers registry t found s.world)

def Atomic (cfg : Config Area Device) (registry : Registry) (world : World Device)
    (s : Machine Area Device) : Prop :=
  ∃ order r events,
    Transition.run (Reference.step cfg.controllers cfg.program registry) (Reference.start world) order = some r ∧
    (∀ t, (s.threads t).history = r.history t) ∧
    r.world.trace = world.trace ++ events ∧ Paired registry events ∧ Progress cfg registry r s

theorem Paired.append {registry : Registry} {first second : List DeviceEvent}
    (left : Paired registry first) (right : Paired registry second) : Paired registry (first ++ second) := by
  induction left with
  | nil => exact right
  | load t found a bytes rest resolves paired ih => exact .load t found a bytes _ resolves ih
  | store t found a bytes rest resolves paired ih => exact .store t found a bytes _ resolves ih

section

variable {cfg : Config Area Device} {registry : Registry}
  {r : Reference Device} {s s' : Machine Area Device} {t : ThreadId} {world : World Device}

theorem Progress.complete (progress : Progress cfg registry r s) (quiet : ∀ u, ¬ s.Middle u) :
    s.world = r.world := by
  cases progress with
  | settled _ world => exact world
  | reading t found here raised others world => exact absurd (Or.inl here) (quiet t)
  | writing t found here breakPoint others world => exact absurd (Or.inr here) (quiet t)

theorem Progress.frame (progress : Progress cfg registry r s) (world : s'.world = s.world)
    (others : ∀ u, u ≠ t → s'.threads u = s.threads u)
    (reading : (s'.threads t).Reading ↔ (s.threads t).Reading)
    (writing : (s'.threads t).Writing ↔ (s.threads t).Writing)
    (history : (s.threads t).Reading → (s'.threads t).history = (s.threads t).history)
    (breakPoint : (s.threads t).Writing → (s'.threads t).breakPoint = (s.threads t).breakPoint) :
    Progress cfg registry r s' := by
  have quiet : ∀ u, ¬ s.Middle u → ¬ s'.Middle u := by
    intro u before middle
    apply before
    by_cases mine : u = t
    · subst mine
      exact middle.imp reading.mp writing.mp
    · simpa only [Machine.Middle, others u mine] using middle
  cases progress with
  | settled before same => exact .settled (fun u => quiet u (before u)) (world.trans same)
  | reading owner found here raised rest same =>
    refine .reading owner found ?_ ?_ (fun u other => quiet u (rest u other)) (world.trans same)
    · by_cases mine : owner = t
      · subst mine
        exact reading.mpr here
      · rw [others owner mine]
        exact here
    · by_cases mine : owner = t
      · subst mine
        rw [history here]
        exact raised
      · rw [others owner mine]
        exact raised
  | writing owner found here slot rest same =>
    refine .writing owner found ?_ ?_ (fun u other => quiet u (rest u other)) ?_
    · by_cases mine : owner = t
      · subst mine
        exact writing.mpr here
      · rw [others owner mine]
        exact here
    · by_cases mine : owner = t
      · subst mine
        rw [breakPoint here]
        exact slot
      · rw [others owner mine]
        exact slot
    · rw [world]
      exact same

theorem Thread.Recorded.reading {thread : Thread} {found : Found} {write : Bool}
    (recorded : thread.Recorded found write) (control : thread.control = .user) :
    thread.Reading ↔ write = false := by
  cases write <;> simp [Reading, control, recorded.breakPoint]

theorem Thread.Recorded.writing {thread : Thread} {found : Found} {write : Bool}
    (recorded : thread.Recorded found write) (control : thread.control = .getBreakPoint) :
    thread.Writing ↔ write = true := by
  cases write <;> simp [Writing, control, recorded.breakPoint]

theorem readHook_trace {controllers : ControllerPtr → Controller Device} {found : Found} {space : IoSpace}
    (present : registry.ioSpaces[found.ioSpace]? = some space) :
    (Reference.readHook controllers registry t found world).trace =
      world.trace ++ [.hookRead t found.controller found.offset] := by
  simp [Reference.readHook, present]

theorem writeHook_trace {controllers : ControllerPtr → Controller Device} {found : Found} {space : IoSpace}
    (present : registry.ioSpaces[found.ioSpace]? = some space) :
    (Reference.writeHook controllers registry t found world).trace =
      world.trace ++ [.hookWrite t found.controller found.offset] := by
  simp [Reference.writeHook, present]

theorem HookedAccess.pair (accesses : HookedAccess cfg.controllers cfg.program registry)
    {access : Access} {found : Found} (covers : registry.Covers access found) (loaded : Loaded) :
    ∃ events, (afterHook cfg.controllers registry t found (access.kind == .store)
        (World.access t (afterFault cfg.controllers registry t found (access.kind == .store) world, loaded)
          access).1).trace = world.trace ++ events ∧ Paired registry events := by
  obtain ⟨space, present, -⟩ := covers.2
  cases access with
  | load address width =>
    have shape : Paired registry [.hookRead t found.controller found.offset,
        .load t address (Bytes.read (Reference.readHook cfg.controllers registry t found world).memory
          address width)] := .load t found address _ [] covers.resolves .nil
    refine ⟨_, ?_, shape⟩
    change (Reference.readHook cfg.controllers registry t found world).trace ++ _ = _
    rw [readHook_trace present, List.append_assoc]
    rfl
  | store address width value =>
    have writes : (cfg.controllers found.controller).getHookTypes.and .write = true := by
      rw [accesses.getHookTypes covers.1 present, accesses.hooked present]
      rfl
    have shape : Paired registry [.store t address
        (Bytes.read (Bytes.write world.memory address width (value loaded)) address width),
        .hookWrite t found.controller found.offset] := .store t found address _ [] covers.resolves .nil
    refine ⟨_, ?_, shape⟩
    simp only [afterHook, Access.kind, beq_self_eq_true, writes, Bool.and_self, if_true,
      writeHook_trace present]
    simp [World.access, afterFault]

theorem HookedAccess.hooks_write (accesses : HookedAccess cfg.controllers cfg.program registry)
    {history : List Loaded} {found : Found} {write : Bool}
    (raised : singleOrigin cfg.program registry t history found write) :
    (cfg.controllers found.controller).getHookTypes.and .write = true := by
  obtain ⟨access, space, -, covers, present, -⟩ := raised
  rw [accesses.getHookTypes covers.1 present, accesses.hooked present]
  rfl

theorem HookedAccess.reference_step (accesses : HookedAccess cfg.controllers cfg.program registry)
    {found : Found} {write : Bool} {instruction : Instruction}
    (raised : singleOrigin cfg.program registry t (r.history t) found write)
    (next : cfg.program t (r.history t) = some instruction)
    (before : s.world = afterFault cfg.controllers registry t found write r.world) :
    ∃ r' events, Reference.step cfg.controllers cfg.program registry r t = some r' ∧
      r'.history = Function.update r.history t (r.history t ++ [(s.world.perform t instruction).2]) ∧
      r'.world = afterHook cfg.controllers registry t found write (s.world.perform t instruction).1 ∧
      r'.world.trace = r.world.trace ++ events ∧ Paired registry events := by
  obtain ⟨access, space, issued, covers, present, denied, rfl⟩ := raised
  rw [issued, Option.some.injEq] at next
  subst next
  have performed : [access].foldl (Reference.access cfg.controllers registry t) (r.world, []) =
      (afterHook cfg.controllers registry t found (access.kind == .store) (s.world.perform t [access]).1,
        (s.world.perform t [access]).2) := by
    simp only [World.perform, List.foldl_cons, List.foldl_nil, before,
      accesses.reference_hooked covers present denied rfl]
  obtain ⟨events, trace, paired⟩ : ∃ events, (afterHook cfg.controllers registry t found
      (access.kind == .store) (s.world.perform t [access]).1).trace = r.world.trace ++ events ∧
        Paired registry events := by
    rw [before]
    exact accesses.pair covers []
  refine ⟨{ world := afterHook cfg.controllers registry t found (access.kind == .store)
              (s.world.perform t [access]).1
            history := Function.update r.history t (r.history t ++ [(s.world.perform t [access]).2]) },
    events, ?_, rfl, rfl, trace, paired⟩
  simp only [Reference.step, issued, Option.map_some, performed]

theorem Atomic.boot (world : World Device) : Atomic cfg registry world (Machine.boot cfg registry world) := by
  have quiet : ∀ u, ¬ (Machine.boot cfg registry world).Middle u := by
    intro u middle
    rcases middle with reading | writing
    · exact absurd reading.1 (by simp [Machine.boot, Thread.start, BreakPointData.fresh])
    · exact writing
  exact ⟨[], Reference.start world, [], rfl, fun _ => rfl, (List.append_nil _).symm, .nil, .settled quiet rfl⟩

theorem Atomic.frame (atomic : Atomic cfg registry world s) (same : s'.world = s.world)
    (others : ∀ u, u ≠ t → s'.threads u = s.threads u)
    (history : (s'.threads t).history = (s.threads t).history)
    (reading : (s'.threads t).Reading ↔ (s.threads t).Reading)
    (writing : (s'.threads t).Writing ↔ (s.threads t).Writing)
    (breakPoint : (s.threads t).Writing → (s'.threads t).breakPoint = (s.threads t).breakPoint) :
    Atomic cfg registry world s' := by
  obtain ⟨order, r, events, ran, histories, trace, paired, progress⟩ := atomic
  refine ⟨order, r, events, ran, ?_, trace, paired,
    progress.frame same others reading writing (fun _ => history) breakPoint⟩
  intro u
  by_cases mine : u = t
  · subst mine
    exact history.trans (histories u)
  · rw [others u mine]
    exact histories u

theorem Atomic.perform {order : List ThreadId} {events pair : List DeviceEvent} {r r' : Reference Device}
    {instruction : Instruction}
    (ran : Transition.run (Reference.step cfg.controllers cfg.program registry) (Reference.start world) order =
      some r)
    (same : ∀ u, (s.threads u).history = r.history u) (trace : r.world.trace = world.trace ++ events)
    (paired : Paired registry events)
    (stepped : Reference.step cfg.controllers cfg.program registry r t = some r')
    (history : r'.history = Function.update r.history t (r.history t ++ [(s.world.perform t instruction).2]))
    (added : r'.world.trace = r.world.trace ++ pair) (new : Paired registry pair)
    (progress : Progress cfg registry r' (s.execute t instruction)) :
    Atomic cfg registry world (s.execute t instruction) := by
  refine ⟨order ++ [t], r', events ++ pair, ?_, ?_, ?_, paired.append new, progress⟩
  · rw [Transition.run_append, ran, Option.bind_some, Transition.run_single, stepped]
  · intro u
    by_cases mine : u = t
    · subst mine
      rw [Machine.execute_self, history, Function.update_self, same]
    · rw [Machine.execute_other s _ mine, history, Function.update_of_ne mine, same]
  · rw [added, trace, List.append_assoc]

theorem Atomic.execute_idle
    (atomic : Atomic cfg registry world s) (control : (s.threads t).control = .user)
    (idle : (s.threads t).Idle) (next : cfg.program t (s.threads t).history = some []) :
    Atomic cfg registry world (s.execute t []) := by
  obtain ⟨order, r, events, ran, same, trace, paired, progress⟩ := atomic
  have stepped : Reference.step cfg.controllers cfg.program registry r t =
      some { world := r.world, history := Function.update r.history t (r.history t ++ [[]]) } := by
    rw [same t] at next
    simp only [Reference.step, next, Option.map_some, List.foldl_nil]
  refine Atomic.perform ran same trace paired stepped rfl (List.append_nil _).symm .nil ?_
  have before : Progress cfg registry
      { world := r.world, history := Function.update r.history t (r.history t ++ [[]]) } s := by
    cases progress with
    | settled quiet world => exact .settled quiet world
    | reading owner found here raised others world => exact .reading owner found here raised others world
    | writing owner found here breakPoint others world => exact .writing owner found here breakPoint others world
  have inactive : (s.threads t).breakPoint.active = false := by
    rw [idle.breakPoint]
    rfl
  refine before.frame rfl (fun u other => Machine.execute_other s _ other) ?_ ?_ ?_ ?_
  · simp [Thread.Reading, control, idle.trapFlag, inactive]
  · simp [Thread.Writing, control, idle.trapFlag]
  · simp [Thread.Reading, control, inactive]
  · simp [Thread.Writing, control]

theorem Atomic.execute_recorded (accesses : HookedAccess cfg.controllers cfg.program registry)
    (atomic : Atomic cfg registry world s) (control : (s.threads t).control = .user) {found : Found}
    {write : Bool} (recorded : (s.threads t).Recorded found write)
    (raised : singleOrigin cfg.program registry t (s.threads t).history found write)
    {instruction : Instruction} (next : cfg.program t (s.threads t).history = some instruction)
    (alone : write = true → ∀ u, ¬ s.Middle u) : Atomic cfg registry world (s.execute t instruction) := by
  obtain ⟨order, r, events, ran, same, trace, paired, progress⟩ := atomic
  have after : ((s.execute t instruction).threads t).control = .getBreakPoint := by
    simp [recorded.trapFlag]
  have kept : ((s.execute t instruction).threads t).Recorded found write := by
    rw [Machine.execute_self]
    exact ⟨recorded.breakPoint, recorded.trapFlag⟩
  have others : (∀ u, u ≠ t → ¬ s.Middle u) → ∀ u, u ≠ t → ¬ (s.execute t instruction).Middle u := by
    intro quiet u other
    have unchanged := quiet u other
    simpa only [Machine.Middle, Machine.execute_other s _ other] using unchanged
  have landed : ¬ ((s.execute t instruction).threads t).Reading := by
    rw [Thread.Reading, after]
    exact id
  have handled : s.world = afterFault cfg.controllers registry t found write r.world ∧
      ∀ u, u ≠ t → ¬ s.Middle u := by
    cases write with
    | true => exact ⟨progress.complete (alone rfl), fun u _ => alone rfl u⟩
    | false =>
      have reading : (s.threads t).Reading := (recorded.reading control).mpr rfl
      cases progress with
      | settled quiet world => exact absurd (Or.inl reading) (quiet t)
      | reading owner found' here raised' rest world =>
        obtain rfl := Machine.Middle.owner (Or.inl reading) rest
        obtain ⟨rfl, -⟩ := accesses.origin_unique raised raised'
        exact ⟨world, rest⟩
      | writing owner found' here breakPoint rest world =>
        obtain rfl := Machine.Middle.owner (Or.inl reading) rest
        simp [Thread.Writing, control] at here
  rw [same t] at raised next
  obtain ⟨r', pair, stepped, history, world, added, new⟩ := accesses.reference_step raised next handled.1
  refine Atomic.perform ran same trace paired stepped history added new ?_
  cases write with
  | false =>
    refine .settled ?_ world.symm
    intro u
    by_cases mine : u = t
    · subst mine
      rintro (reading | writing)
      · exact landed reading
      · exact absurd ((kept.writing after).mp writing) (by decide)
    · exact others handled.2 u mine
  | true =>
    have writes := accesses.hooks_write raised
    refine .writing t found ((kept.writing after).mpr rfl) kept.breakPoint (others handled.2) ?_
    show r'.world = Reference.writeHook cfg.controllers registry t found (s.world.perform t instruction).1
    simpa only [afterHook, writes, Bool.and_self, if_true] using world

theorem Atomic.step (atomic : Atomic cfg registry world s)
    (accesses : HookedAccess cfg.controllers cfg.program registry)
    {report : Report} (undisturbed : s.Undisturbed cfg (t, report))
    (effect : Effect cfg registry (singleOrigin cfg.program registry) s t (s.threads t).control s') :
    Atomic cfg registry world s' := by
  unfold Machine.Undisturbed at undisturbed
  generalize control : (s.threads t).control = statement at effect undisturbed
  cases effect with
  | executed instruction settled next clear =>
    by_cases empty : instruction = []
    · subst empty
      rcases settled with idle | ⟨found, write, raised, recorded⟩
      · exact atomic.execute_idle control idle next
      · obtain ⟨access, space, issued, -⟩ := raised
        rw [next] at issued
        cases issued
    · obtain ⟨active, alone⟩ := undisturbed instruction next empty clear
      rcases settled with idle | ⟨found, write, raised, recorded⟩
      · rw [idle.breakPoint] at active
        cases active
      · refine atomic.execute_recorded accesses control recorded raised next fun isWrite => ?_
        subst isWrite
        exact alone (by simp [recorded.breakPoint])
  | faulted instruction access a write found settled next denied resolves raised =>
    refine atomic.frame rfl (fun u other => Machine.setThread_other s _ other) ?_ ?_ ?_ ?_
    · rw [Machine.setThread_self]
    · rw [Machine.setThread_self]
      simp [Thread.Reading, control]
    · rw [Machine.setThread_self]
      simp [Thread.Writing, control]
    · simp [Thread.Writing, control]
  | resolved a write found settled resolves raised =>
    refine atomic.frame rfl (fun u other => Machine.goto_other s _ other) ?_ ?_ ?_ ?_
    · rw [Machine.goto_self]
    · rw [Machine.goto_self]
      cases write with
      | false => simp [Thread.Reading, control]
      | true =>
        rcases settled with idle | ⟨earlier, write, before, recorded⟩
        · simp [Thread.Reading, control, idle.breakPoint, BreakPointData.fresh]
        · obtain ⟨-, rfl⟩ := accesses.origin_unique before raised
          simp [Thread.Reading, control, recorded.breakPoint]
    · rw [Machine.goto_self]
      cases write <;> simp [Thread.Writing, control]
    · simp [Thread.Writing, control]
  | hookedRead found space settled raised present =>
    obtain ⟨order, r, events, ran, histories, trace, paired, progress⟩ := atomic
    have world := progress.complete undisturbed
    have others : ∀ u, u ≠ t → (s.goto t (.unprotect found false)).threads u = s.threads u :=
      fun u other => Machine.goto_other s _ other
    refine ⟨order, r, events, ran, ?_, trace, paired, .reading t found ?_ ?_ ?_ ?_⟩
    · intro u
      exact (Machine.goto_history s _ u).trans (histories u)
    · simp [Thread.Reading]
    · simpa using raised
    · intro u mine
      simpa [Machine.Middle, others u mine] using undisturbed u
    · simp [Reference.doHookRead_eq present, world]
  | unprotected found write space area settled raised present changed =>
    refine atomic.frame rfl (fun u other => Machine.goto_other s _ other) ?_ ?_ ?_ ?_
    · simp
    · simp [Thread.Reading, control]
    · simp [Thread.Writing, control]
    · simp [Thread.Writing, control]
  | installed found write settled raised =>
    refine atomic.frame rfl (fun u other => Machine.setThread_other s _ other) ?_ ?_ ?_ ?_
    · simp
    · cases write <;> simp [Thread.Reading, control]
    · simp [Thread.Writing, control]
    · simp [Thread.Writing, control]
  | trapped found write raised recorded =>
    refine atomic.frame rfl (fun u other => Machine.goto_other s _ other) ?_ ?_ ?_ ?_
    · simp
    · rcases afterTrap_cases cfg found write with next | next <;> simp [Thread.Reading, control, next]
    · rw [recorded.writing control, Machine.goto_self, afterTrap, accesses.hooks_write raised]
      cases write <;> simp [Thread.Writing]
    · simp
  | hookedWrite found space raised recorded writes present =>
    obtain ⟨order, r, events, ran, histories, trace, paired, progress⟩ := atomic
    have writing : (s.threads t).Writing := by simp [Thread.Writing, control]
    have others : ∀ u, u ≠ t → (s.goto t (.uninstallBreakPoint found.ioSpace)).threads u = s.threads u :=
      fun u other => Machine.goto_other s _ other
    refine ⟨order, r, events, ran, ?_, trace, paired, ?_⟩
    · intro u
      exact (Machine.goto_history s _ u).trans (histories u)
    · cases progress with
      | settled quiet world => exact absurd (Or.inr writing) (quiet t)
      | reading owner found' here raised' rest world =>
        obtain rfl := Machine.Middle.owner (Or.inr writing) rest
        simp [Thread.Reading, control] at here
      | writing owner found' here breakPoint rest world =>
        obtain rfl := Machine.Middle.owner (Or.inr writing) rest
        rw [recorded.breakPoint] at breakPoint
        have same := record_true_inj breakPoint
        subst same
        refine .settled ?_ ?_
        · intro u
          by_cases mine : u = owner
          · subst mine
            simp [Machine.Middle, Thread.Reading, Thread.Writing]
          · simpa [Machine.Middle, others u mine] using rest u mine
        · rw [world]
          exact Reference.doHookWrite_eq present owner s.world
  | uninstalled found write raised recorded =>
    refine atomic.frame rfl (fun u other => Machine.setThread_other s _ other) ?_ ?_ ?_ ?_
    · simp
    · simp [Thread.Reading, control]
    · simp [Thread.Writing, control]
    · simp [Thread.Writing, control]
  | restored found write space area raised idle present changed =>
    refine atomic.frame rfl (fun u other => Machine.goto_other s _ other) ?_ ?_ ?_ ?_
    · simp
    · simp [Thread.Reading, control, idle.breakPoint, BreakPointData.fresh]
    · simp [Thread.Writing, control]
    · simp [Thread.Writing, control]

theorem Atomic.run (law : cfg.platform.Law) (accesses : HookedAccess cfg.controllers cfg.program registry)
    {actions : List (ThreadId × Report)}
    (meets : Transition.Meets (Machine.step cfg) (Machine.Undisturbed cfg) (Machine.boot cfg registry world) actions)
    (ran : Transition.run (Machine.step cfg) (Machine.boot cfg registry world) actions = some s) :
    Atomic cfg registry world s := by
  have scenario := accesses.toSingleAccess.scenario law
  have keep : ∀ (m : Machine Area Device) (t : ThreadId) (report : Report) (m' : Machine Area Device),
      Disciplined cfg law registry (singleOrigin cfg.program registry) m → Atomic cfg registry world m →
        m.Undisturbed cfg (t, report) →
          Effect cfg registry (singleOrigin cfg.program registry) m t (m.threads t).control m' →
            Atomic cfg registry world m' :=
    fun m t report m' _ atomic undisturbed effect => atomic.step accesses undisturbed effect
  exact (scenario.run_keeps (Machine.Undisturbed cfg) (Atomic cfg registry world) keep (Atomic.boot world)
    meets ran).2

end

theorem undisturbed_accesses_atomic (controllers : ControllerPtr → Controller Device)
    (program : ThreadId → Program) (registry : Registry)
    (accesses : HookedAccess controllers program registry) (world : World Device)
    (actions : List (ThreadId × Report))
    (meets : Transition.Meets (Machine.step (Posix.config controllers program))
      (Machine.Undisturbed (Posix.config controllers program))
      (Machine.boot (Posix.config controllers program) registry world) actions)
    (s : Machine Posix.IoSpace Device)
    (ran : Transition.run (Machine.step (Posix.config controllers program))
      (Machine.boot (Posix.config controllers program) registry world) actions = some s) :
    Atomic (Posix.config controllers program) registry world s ∧
      ((∀ u, ¬ s.Middle u) → ∃ order r,
        Transition.run (Reference.step controllers program registry) (Reference.start world) order = some r ∧
          s.world = r.world ∧ ∀ t, (s.threads t).history = r.history t) := by
  have atomic : Atomic (Posix.config controllers program) registry world s :=
    Atomic.run Posix.law accesses meets ran
  refine ⟨atomic, fun quiet => ?_⟩
  obtain ⟨order, r, -, sequential, history, -, -, progress⟩ := atomic
  exact ⟨order, r, sequential, progress.complete quiet, history⟩

def pollStatus : Program
  | [] => some [.load 0x10000 1]
  | [loaded] => some [.store 0x10004 1 fun _ _ => loaded.flatten.headD 0]
  | _ => none

theorem hooked_pollStatus : HookedAccess counting (fun _ => pollStatus) (Registry.after solo) := by
  obtain ⟨represents, formed⟩ := Registry.represents_after solo solo_promised
  have registered := represents.wellFormed formed
  refine ⟨⟨registered, ?_, ?_⟩, ?_⟩
  · intro controller ioSpace space entry present
    have agree : ∀ entry ∈ LiveController.after solo,
        (counting entry.controller).getHookTypes = entry.space.hookTypes := by decide
    exact represents.of_live formed agree entry present
  · intro t history instruction next
    right
    match history with
    | [] =>
      cases next
      exact ⟨_, ⟨8, 100, 0⟩, rfl, by decide, ⟨.readWrite, 64, 0x10000, 0x50000⟩, by decide, Nat.one_pos,
        (by decide : 0x10000 ≤ 0x10000), (by decide : 0x10000 + 1 ≤ 0x10000 + 64),
        (by decide : 0 = 0x10000 - 0x10000)⟩
    | [loaded] =>
      cases next
      exact ⟨_, ⟨8, 100, 4⟩, rfl, by decide, ⟨.readWrite, 64, 0x10000, 0x50000⟩, by decide, Nat.one_pos,
        (by decide : 0x10000 ≤ 0x10004), (by decide : 0x10004 + 1 ≤ 0x10000 + 64),
        (by decide : 4 = 0x10004 - 0x10000)⟩
    | first :: second :: rest => cases next
  · intro ioSpace space present
    obtain ⟨controller, entry⟩ := registered.owned present
    have agree : ∀ entry ∈ LiveController.after solo, entry.space.hookTypes = .readWrite := by decide
    exact represents.of_live formed agree entry present

/-- Thread 1 loads the register while thread 0 has the area open for its own access. -/
def slipping : List (ThreadId × Report) :=
  [0, 0, 0, 0, 1, 0, 0, 0, 0, 0].map fun t => (t, { choice := 0, write := false })

theorem slipping_not_atomic : ∃ s : Machine Posix.IoSpace Nat,
    Transition.run (Machine.step (Posix.config counting fun _ => pollStatus))
      (Machine.boot (Posix.config counting fun _ => pollStatus) (Registry.after solo) zeroWorld)
      slipping = some s ∧
    s.world.trace = [.hookRead 0 8 0, .load 1 0x10000 [7], .load 0 0x10000 [7]] ∧
    ¬ Atomic (Posix.config counting fun _ => pollStatus) (Registry.after solo) zeroWorld s := by
  have enabled : (Transition.run (Machine.step (Posix.config counting fun _ => pollStatus))
      (Machine.boot (Posix.config counting fun _ => pollStatus) (Registry.after solo) zeroWorld)
      slipping).map (fun s => s.world.trace) =
        some [.hookRead 0 8 0, .load 1 0x10000 [7], .load 0 0x10000 [7]] := by decide
  obtain ⟨s, ran, trace⟩ := Option.map_eq_some_iff.mp enabled
  refine ⟨s, ran, trace, ?_⟩
  rintro ⟨order, r, events, -, -, grown, paired, progress⟩
  have all : r.world.trace = events := grown
  rw [← all] at paired
  cases progress with
  | settled quiet world =>
    rw [← world, trace] at paired
    obtain ⟨a, bytes, rest, next, -⟩ := paired.after_hookRead
    cases next
  | reading t found here raised others world =>
    obtain ⟨access, space, -, -, present, -⟩ := raised
    have last := congrArg (fun w => w.trace.getLast?) world
    simp [readHook_trace present, trace] at last
  | writing t found here breakPoint others world =>
    rw [world, Reference.writeHook] at paired
    split at paired
    · simp only [trace, List.cons_append] at paired
      obtain ⟨a, bytes, rest, next, -⟩ := paired.after_hookRead
      cases next
    · rw [trace] at paired
      obtain ⟨a, bytes, rest, next, -⟩ := paired.after_hookRead
      cases next

/-- Both threads are at the same register, but thread 1 calls `HookRead` only after the load of thread 0. -/
def takingTurns : List (ThreadId × Report) :=
  [0, 1, 0, 1, 0, 0, 0, 0, 1].map fun t => (t, { choice := 0, write := false })

section

variable {cfg : Config Area Device} {s s' : Machine Area Device}

def Machine.TwoThreads (s : Machine Area Device) : Prop := ∀ u, 2 ≤ u → s.threads u = Thread.start

theorem Machine.TwoThreads.step (two : s.TwoThreads) {t : ThreadId} {report : Report}
    (taken : Machine.step cfg s (t, report) = some s') (acting : t < 2) : s'.TwoThreads := by
  intro u out
  have other : u ≠ t := by
    rintro rfl
    exact Nat.not_lt.mpr out acting
  rw [Machine.step_other taken other, two u out]

theorem Machine.TwoThreads.quiet (two : s.TwoThreads) (first : ¬ s.Middle 0) (second : ¬ s.Middle 1)
    (u : ThreadId) : ¬ s.Middle u := by
  match u with
  | 0 => exact first
  | 1 => exact second
  | u + 2 =>
    rw [Machine.Middle, two (u + 2) (Nat.le_add_left 2 u)]
    decide

end

theorem takingTurns_undisturbed :
    Transition.Meets (Machine.step (Posix.config counting fun _ => pollStatus))
      (Machine.Undisturbed (Posix.config counting fun _ => pollStatus))
      (Machine.boot (Posix.config counting fun _ => pollStatus) (Registry.after solo) zeroWorld)
      takingTurns := by
  have two : (Machine.boot (Posix.config counting fun _ => pollStatus) (Registry.after solo)
      zeroWorld).TwoThreads := fun _ _ => rfl
  refine ⟨?_, fun m taken => ?_⟩
  · rintro instruction ⟨⟩ - clear
    exact absurd clear (by decide)
  have two := two.step taken (by decide)
  cases taken
  refine ⟨?_, fun m taken => ?_⟩
  · rintro instruction ⟨⟩ - clear
    exact absurd clear (by decide)
  have two := two.step taken (by decide)
  cases taken
  refine ⟨trivial, fun m taken => ?_⟩
  have two := two.step taken (by decide)
  cases taken
  refine ⟨trivial, fun m taken => ?_⟩
  have two := two.step taken (by decide)
  cases taken
  -- the first `HookRead`
  refine ⟨two.quiet (by decide) (by decide), fun m taken => ?_⟩
  have two := two.step taken (by decide)
  cases taken
  refine ⟨trivial, fun m taken => ?_⟩
  have two := two.step taken (by decide)
  cases taken
  refine ⟨trivial, fun m taken => ?_⟩
  have two := two.step taken (by decide)
  cases taken
  refine ⟨?_, fun m taken => ?_⟩
  · rintro instruction ⟨⟩ - clear
    exact ⟨by decide, fun isWrite => absurd rfl isWrite⟩
  have two := two.step taken (by decide)
  cases taken
  -- the second one, after the load of the first
  exact ⟨two.quiet (by decide) (by decide), fun _ _ => trivial⟩

theorem takingTurns_atomic : ∃ s : Machine Posix.IoSpace Nat,
    Transition.run (Machine.step (Posix.config counting fun _ => pollStatus))
      (Machine.boot (Posix.config counting fun _ => pollStatus) (Registry.after solo) zeroWorld)
      takingTurns = some s ∧
    Atomic (Posix.config counting fun _ => pollStatus) (Registry.after solo) zeroWorld s := by
  have enabled : (Transition.run (Machine.step (Posix.config counting fun _ => pollStatus))
      (Machine.boot (Posix.config counting fun _ => pollStatus) (Registry.after solo) zeroWorld)
      takingTurns).isSome = true := by decide
  obtain ⟨s, ran⟩ := Option.isSome_iff_exists.mp enabled
  have result := undisturbed_accesses_atomic counting (fun _ => pollStatus) (Registry.after solo)
    hooked_pollStatus zeroWorld takingTurns takingTurns_undisturbed s ran
  exact ⟨s, ran, result.1⟩

end ExMM
