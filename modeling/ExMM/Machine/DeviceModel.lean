import ExMM.Machine.Refinement
import ExMM.Registry.Lifetimes

namespace ExMM

variable {Area Device : Type}

/-- Every run of thread 0 is a run of the reference device as soon as its instruction is finished, and
    it always finishes the instruction it is at. -/
structure RefinesReference (cfg : Config Area Device) (registry : Registry) (world : World Device) :
    Prop where
  agrees : ∀ {reports s}, Transition.run (Machine.alone cfg) (Machine.boot cfg registry world) reports = some s →
    s.Between 0 →
      ∃ r, Transition.run (Reference.step cfg.controllers cfg.program registry) (Reference.start world)
          (List.replicate (s.threads 0).history.length 0) = some r ∧
        s.world = r.world ∧ (s.threads 0).history = r.history 0
  rests : ∀ {reports s}, Transition.run (Machine.alone cfg) (Machine.boot cfg registry world) reports = some s →
    s.Between 0 → s.AtRest cfg registry
  completes : ∀ {reports s instruction},
    Transition.run (Machine.alone cfg) (Machine.boot cfg registry world) reports = some s →
    s.Between 0 → cfg.program 0 (s.threads 0).history = some instruction →
      Transition.Inevitable (Machine.alone cfg) (fun next => next.Between 0 ∧
        (next.threads 0).history.length = (s.threads 0).history.length + 1) 11 s

section

variable {cfg : Config Area Device} {law : cfg.platform.Law} {registry : Registry}
  {world : World Device} {s s' : Machine Area Device}

structure Simulates (cfg : Config Area Device) (law : cfg.platform.Law) (registry : Registry)
    (world : World Device) (s : Machine Area Device) : Prop where
  disciplined : Disciplined cfg law registry (singleOrigin cfg.program registry) s
  reference : ∃ r, Transition.run (Reference.step cfg.controllers cfg.program registry)
      (Reference.start world) (List.replicate (s.threads 0).history.length 0) = some r ∧
    (s.threads 0).history = r.history 0 ∧ Follows cfg law registry r s (s.threads 0).control

theorem Simulates.boot (cfg : Config Area Device) (law : cfg.platform.Law) (registry : Registry)
    (world : World Device) : Simulates cfg law registry world (Machine.boot cfg registry world) where
  disciplined := Disciplined.boot cfg law registry _ world
  reference := by
    refine ⟨Reference.start world, rfl, rfl, .resting ⟨rfl, rfl⟩ rfl rfl ?_⟩
    intro ioSpace space live
    rw [if_neg (by simp)]
    simp only [Machine.boot, live, Option.map_some, Option.getD_some]
    exact law.closed_initial space.hookTypes

theorem Simulates.advance (single : SingleAccess cfg.controllers cfg.program registry)
    (simulates : Simulates cfg law registry world s) {report : Report}
    (taken : Machine.alone cfg s report = some s') :
    ∃ r, Transition.run (Reference.step cfg.controllers cfg.program registry)
      (Reference.start world) (List.replicate (s.threads 0).history.length 0) = some r ∧
    (s.threads 0).history = r.history 0 ∧ Advance cfg law registry r s s' := by
  obtain ⟨disciplined, r, ran, history, follows⟩ := simulates
  have effect := (single.scenario law).step_effect disciplined taken
  exact ⟨r, ran, history, follows.step single disciplined history effect⟩

theorem Reference.step_length {controllers : ControllerPtr → Controller Device}
    {program : ThreadId → Program} {registry : Registry} {r next : Reference Device} {t : ThreadId}
    (stepped : Reference.step controllers program registry r t = some next) :
    (next.history t).length = (r.history t).length + 1 := by
  obtain ⟨instruction, -, rfl⟩ := Option.map_eq_some_iff.mp stepped
  simp

theorem Simulates.step (single : SingleAccess cfg.controllers cfg.program registry)
    (simulates : Simulates cfg law registry world s) {report : Report}
    (taken : Machine.alone cfg s report = some s') : Simulates cfg law registry world s' := by
  have effect := (single.scenario law).step_effect simulates.disciplined taken
  refine ⟨effect.disciplined simulates.disciplined, ?_⟩
  obtain ⟨r, ran, history, advance⟩ := simulates.advance single taken
  cases advance with
  | before follows kept pending less => exact ⟨r, kept ▸ ran, kept ▸ history, follows⟩
  | after follows kept executed less => exact ⟨r, kept ▸ ran, kept ▸ history, follows⟩
  | perform next stepped follows kept pending less =>
    refine ⟨next, ?_, kept, follows⟩
    rw [kept, Reference.step_length stepped, List.replicate_succ', Transition.run_append, ← history, ran,
      Option.bind_some, Transition.run_single, stepped]

theorem Simulates.run (single : SingleAccess cfg.controllers cfg.program registry) {reports : List Report}
    (ran : Transition.run (Machine.alone cfg) (Machine.boot cfg registry world) reports = some s) :
    Simulates cfg law registry world s :=
  Transition.run_invariant (fun _ _ _ simulates taken => simulates.step single taken)
    (Simulates.boot cfg law registry world) ran

theorem Simulates.resting (simulates : Simulates cfg law registry world s) (between : s.Between 0) :
    ∃ r, Transition.run (Reference.step cfg.controllers cfg.program registry) (Reference.start world)
        (List.replicate (s.threads 0).history.length 0) = some r ∧
      (s.threads 0).history = r.history 0 ∧ s.world = r.world ∧ (s.threads 0).Idle ∧
      AreasAt law registry s.areas none := by
  obtain ⟨-, r, ran, history, follows⟩ := simulates
  obtain ⟨control, faults⟩ := between
  rw [control] at follows
  cases follows with
  | resting idle none world areas => exact ⟨r, ran, history, world, idle, areas⟩
  | pending found write recorded raised some world areas => omega

theorem Simulates.enabled (single : SingleAccess cfg.controllers cfg.program registry)
    (simulates : Simulates cfg law registry world s) (report : Report)
    (next : (s.threads 0).control = .user → ∃ instruction,
      cfg.program 0 (s.threads 0).history = some instruction) :
    ∃ s', Machine.alone cfg s report = some s' := by
  have threads := simulates.disciplined.threads 0
  obtain ⟨disciplined, r, -, -, follows⟩ := simulates
  refine (single.scenario law).step_enabled disciplined report next ?_ ?_
  · intro found write control
    rw [control] at follows
    simp only [Thread.Disciplined, control] at threads
    obtain ⟨space, present⟩ := ((single.scenario law).live threads.2).2
    cases follows with
    | hooked _ _ idle faults world areas =>
      obtain ⟨area, changed, -⟩ := law.unprotect_closed (areas.closed present)
      exact ⟨area, changed⟩
  · intro ioSpace control
    rw [control] at follows
    simp only [Thread.Disciplined, control] at threads
    obtain ⟨found, write, raised, -, rfl⟩ := threads
    obtain ⟨space, present⟩ := ((single.scenario law).live raised).2
    cases follows with
    | restoring _ faults world areas =>
      obtain ⟨area, changed, -⟩ := law.restore_opened (areas.opened present)
      exact ⟨area, changed⟩

structure Executing (cfg : Config Area Device) (law : cfg.platform.Law) (registry : Registry)
    (world : World Device) (history : List Loaded) (s : Machine Area Device) : Prop where
  simulates : Simulates cfg law registry world s
  phase : (4 < s.rank 0 ∧ (s.threads 0).history = history) ∨
    (s.rank 0 ≤ 4 ∧ (s.threads 0).history.length = history.length + 1)

theorem Machine.rank_user (s : Machine Area Device) (control : (s.threads 0).control = .user) :
    4 < s.rank 0 := by
  simp only [Machine.rank, control]
  split <;> omega

theorem Executing.progress (single : SingleAccess cfg.controllers cfg.program registry)
    {history : List Loaded} {instruction : Instruction} (next : cfg.program 0 history = some instruction)
    (executing : Executing cfg law registry world history s) (report : Report) :
    ∃ s', Machine.alone cfg s report = some s' ∧
      ((s'.Between 0 ∧ (s'.threads 0).history.length = history.length + 1) ∨
        (Executing cfg law registry world history s' ∧ s'.rank 0 < s.rank 0)) := by
  obtain ⟨simulates, phase⟩ := executing
  have issued : (s.threads 0).control = .user →
      ∃ instruction, cfg.program 0 (s.threads 0).history = some instruction := by
    intro control
    have early := s.rank_user control
    rcases phase with ⟨-, same⟩ | ⟨late, -⟩
    · exact ⟨instruction, same ▸ next⟩
    · omega
  obtain ⟨s', taken⟩ := simulates.enabled single report issued
  have simulates' := simulates.step single taken
  obtain ⟨r, ran, agree, advance⟩ := simulates.advance single taken
  refine ⟨s', taken, ?_⟩
  cases advance with
  | before follows kept pending less =>
    rcases phase with ⟨-, same⟩ | ⟨late, -⟩
    · exact Or.inr ⟨⟨simulates', Or.inl ⟨pending, kept.trans same⟩⟩, less⟩
    · omega
  | after follows kept executed less =>
    rcases phase with ⟨early, -⟩ | ⟨late, length⟩
    · omega
    · rw [← kept] at length
      rcases less with between | less
      · exact Or.inl ⟨between, length⟩
      · exact Or.inr ⟨⟨simulates', Or.inr ⟨by omega, length⟩⟩, less⟩
  | perform after stepped follows kept pending less =>
    rcases phase with ⟨-, same⟩ | ⟨late, -⟩
    · have length : (s'.threads 0).history.length = history.length + 1 := by
        rw [kept, Reference.step_length stepped, ← agree, same]
      rcases less with between | executed
      · exact Or.inl ⟨between, length⟩
      · exact Or.inr ⟨⟨simulates', Or.inr ⟨executed, length⟩⟩, by omega⟩
    · omega

theorem RefinesReference.of_law (law : cfg.platform.Law)
    (single : SingleAccess cfg.controllers cfg.program registry) (world : World Device) :
    RefinesReference cfg registry world where
  agrees := by
    intro reports s ran between
    have simulates : Simulates cfg law registry world s := Simulates.run single ran
    obtain ⟨r, reference, history, same, -⟩ := simulates.resting between
    exact ⟨r, reference, same, history⟩
  rests := by
    intro reports s ran between
    have simulates : Simulates cfg law registry world s := Simulates.run single ran
    obtain ⟨r, -, -, -, idle, areas⟩ := simulates.resting between
    refine ⟨fun ioSpace space live => ?_, idle.breakPoint, idle.trapFlag⟩
    rw [law.protection_closed (areas.closed live),
      law.protection_closed (law.closed_initial space.hookTypes)]
  completes := by
    intro reports s instruction ran between next
    have simulates : Simulates cfg law registry world s := Simulates.run single ran
    obtain ⟨r, -, -, -, idle, -⟩ := simulates.resting between
    have rank : s.rank 0 = 10 := by
      simp [Machine.rank, between.1, idle.breakPoint, BreakPointData.fresh]
    have start : Executing cfg law registry world (s.threads 0).history s :=
      ⟨simulates, Or.inl ⟨s.rank_user between.1, rfl⟩⟩
    have reached := Transition.Inevitable.of_measure (fun s => s.rank 0)
      (fun _ executing report => executing.progress single next report) s start
    simpa only [rank] using reached

end

/-- The handlers of both platforms, around hooks and programs of any kind, are the reference device. -/
theorem handlers_refine_reference (controllers : ControllerPtr → Controller Device)
    (program : ThreadId → Program) (registry : Registry)
    (single : SingleAccess controllers program registry) (world : World Device) :
    RefinesReference { platform := Posix.platform, controllers, program } registry world ∧
      RefinesReference { platform := Windows.platform, controllers, program } registry world :=
  ⟨RefinesReference.of_law Posix.law single world, RefinesReference.of_law Windows.law single world⟩

def pairOf (first second : HookTypes) : List Lifetime :=
  [.construct 8 64 first ⟨100, 0x10000, 0x50000⟩, .construct 4 64 second ⟨200, 0x11000, 0x60000⟩]

def pair : List Lifetime := pairOf .readWrite .write

theorem pair_promised : LiveController.Promised [] pair := by decide

def solo : List Lifetime := [.construct 8 64 .readWrite ⟨100, 0x10000, 0x50000⟩]

theorem solo_promised : LiveController.Promised [] solo := by decide

def counting (controller : ControllerPtr) : Controller Nat where
  getHookTypes := if controller = 8 then .readWrite else .write
  hookRead := fun file offset count => (Function.update file offset (BitVec.ofNat 8 count), count + 1)
  hookWrite := fun file _ count => (file, count + 1)

def copyRegister : Program
  | [] => some [.load 0x10000 1]
  | [loaded] => some [.store 0x11004 1 fun _ _ => loaded.flatten.headD 0]
  | _ => none

def zeroWorld : World Nat := { memory := fun _ => 0, device := 7, trace := [] }

theorem single_copyRegister : SingleAccess counting (fun _ => copyRegister) (Registry.after pair) := by
  obtain ⟨represents, formed⟩ := Registry.represents_after pair pair_promised
  have registered := represents.wellFormed formed
  refine ⟨registered, ?_, ?_⟩
  · intro controller ioSpace space entry present
    have agree : ∀ entry ∈ LiveController.after pair,
        (counting entry.controller).getHookTypes = entry.space.hookTypes := by decide
    exact represents.of_live formed agree entry present
  · intro t history instruction next
    right
    match history with
    | [] =>
      cases next
      exact ⟨_, ⟨8, 100, 0⟩, rfl, by decide, ⟨.readWrite, 64, 0x10000, 0x50000⟩, by decide, Nat.one_pos,
        (by decide : 0x10000 ≤ 0x10000), (by decide : 0x10000 + 1 ≤ 0x10000 + 64),
        (by decide : 0 = 0x10000 - 0x10000)⟩
    | [loaded] =>
      cases next
      exact ⟨_, ⟨4, 200, 4⟩, rfl, by decide, ⟨.write, 64, 0x11000, 0x60000⟩, by decide, Nat.one_pos,
        (by decide : 0x11000 ≤ 0x11004), (by decide : 0x11004 + 1 ≤ 0x11000 + 64),
        (by decide : 4 = 0x11004 - 0x11000)⟩
    | first :: second :: rest => cases next

theorem copyRegister_refines :
    RefinesReference { platform := Posix.platform, controllers := counting, program := fun _ => copyRegister }
        (Registry.after pair) zeroWorld ∧
      RefinesReference { platform := Windows.platform, controllers := counting, program := fun _ => copyRegister }
        (Registry.after pair) zeroWorld :=
  handlers_refine_reference counting (fun _ => copyRegister) (Registry.after pair) single_copyRegister zeroWorld

end ExMM
