import ExMM.Machine.DeviceModel
import ExMM.Machine.Restarts

namespace ExMM

variable {Device : Type}

def Passive (controllers : ControllerPtr → Controller Device) : Prop :=
  ∀ controller file offset device,
    (controllers controller).hookRead file offset device = (file, device) ∧
      (controllers controller).hookWrite file offset device = (file, device)

structure Unhooked where
  memory : Nat → Byte
  history : List Loaded

namespace Unhooked

def step (program : Program) (u : Unhooked) (_ : Unit) : Option Unhooked :=
  (program u.history).map fun instruction =>
    let result := World.perform { memory := u.memory, device := (), trace := [] } 0 instruction
    { memory := result.1.memory, history := u.history ++ [result.2] }

def after (program : Program) (memory : Nat → Byte) (instructions : Nat) : Option Unhooked :=
  Transition.run (step program) { memory, history := [] } (List.replicate instructions ())

theorem after_succ (program : Program) (memory : Nat → Byte) (instructions : Nat) :
    after program memory (instructions + 1) =
      (after program memory instructions).bind fun u => step program u () := by
  simp only [after, List.replicate_succ', Transition.run_append, Transition.run_single]

theorem after_ended {program : Program} {memory : Nat → Byte} {u : Unhooked} {instructions more : Nat}
    (reached : after program memory instructions = some u) (ended : program u.history = none) :
    after program memory (instructions + 1 + more) = none := by
  induction more with
  | zero =>
    rw [Nat.add_zero, after_succ, reached, Option.bind_some, step, ended]
    rfl
  | succ more ih =>
    rw [← Nat.add_assoc, after_succ, ih]
    rfl

end Unhooked

theorem World.perform_memory {Left Right : Type} (left : World Left) (right : World Right)
    (t u : ThreadId) (same : left.memory = right.memory) (instruction : Instruction) :
    (left.perform t instruction).1.memory = (right.perform u instruction).1.memory ∧
      (left.perform t instruction).2 = (right.perform u instruction).2 := by
  unfold World.perform
  generalize ([] : Loaded) = loaded
  induction instruction generalizing left right loaded with
  | nil => exact ⟨same, rfl⟩
  | cons access rest ih =>
    simp only [List.foldl_cons]
    cases access with
    | load address width =>
      have bytes : Bytes.read left.memory address width = Bytes.read right.memory address width := by
        rw [same]
      simp only [World.access, bytes]
      refine ih _ _ ?_ _
      exact same
    | store address width value =>
      simp only [World.access]
      refine ih _ _ ?_ _
      simp only [same]

section

variable {controllers : ControllerPtr → Controller Device} {program : ThreadId → Program}
  {registry : Registry} {world : World Device} {s s' : Machine Posix.IoSpace Device}

theorem Passive.doHookRead (passive : Passive controllers) (controller : ControllerPtr) (t : ThreadId)
    (space : IoSpace) (offset : Nat) :
    (world.doHookRead (controllers controller) t controller space offset).memory = world.memory := by
  simp only [World.doHookRead, (passive _ _ _ _).1]
  exact Bytes.write_self _ _ _ _ fun i inside => by simp [IoSpace.file, inside]

theorem Passive.doHookWrite (passive : Passive controllers) (controller : ControllerPtr) (t : ThreadId)
    (space : IoSpace) (offset : Nat) :
    (world.doHookWrite (controllers controller) t controller space offset).memory = world.memory := by
  simp only [World.doHookWrite, (passive _ _ _ _).2]
  exact Bytes.write_self _ _ _ _ fun i inside => by simp [IoSpace.file, inside]

/-- Faults, hooks and traps are stuttering steps of the unhooked program. -/
theorem Passive.step (passive : Passive controllers)
    (unhooked : Unhooked.after (program 0) world.memory (s.threads 0).history.length =
      some { memory := s.world.memory, history := (s.threads 0).history })
    (effect : Effect (Posix.config controllers program) registry (registeredOrigin program registry) s 0
      (s.threads 0).control s') :
    Unhooked.after (program 0) world.memory (s'.threads 0).history.length =
      some { memory := s'.world.memory, history := (s'.threads 0).history } := by
  generalize (s.threads 0).control = statement at effect
  cases effect with
  | executed instruction settled next clear =>
    have same := World.perform_memory { memory := s.world.memory, device := (), trace := [] } s.world 0 0
      rfl instruction
    have length : ((s.execute 0 instruction).threads 0).history.length =
        (s.threads 0).history.length + 1 := by simp
    rw [length, Unhooked.after_succ, unhooked, Option.bind_some]
    have issued : program 0 (s.threads 0).history = some instruction := next
    simp only [Unhooked.step, issued, Option.map_some, same.1, same.2, Machine.execute_self]
    rfl
  | faulted instruction access a write found settled next denied resolves raised => simpa using unhooked
  | resolved a write found settled resolves raised => simpa using unhooked
  | hookedRead found space settled raised present =>
    simpa only [Machine.goto_self, passive.doHookRead] using unhooked
  | unprotected found write space area settled raised present changed => simpa using unhooked
  | installed found write settled raised => simpa using unhooked
  | trapped found write raised recorded => simpa using unhooked
  | hookedWrite found space raised recorded hooked present =>
    simpa only [Machine.goto_self, passive.doHookWrite] using unhooked
  | uninstalled found write raised recorded => simpa using unhooked
  | restored found write space area raised idle present changed => simpa using unhooked

theorem Passive.run (passive : Passive controllers) (accesses : RegisteredAccess controllers program registry)
    {reports : List Report} (ran : Transition.run (Machine.alone (Posix.config controllers program))
      (Machine.boot (Posix.config controllers program) registry world) reports = some s) :
    Unhooked.after (program 0) world.memory (s.threads 0).history.length =
      some { memory := s.world.memory, history := (s.threads 0).history } := by
  have kept := accesses.scenario.alone_keeps
    (fun m => Unhooked.after (program 0) world.memory (m.threads 0).history.length =
      some { memory := m.world.memory, history := (m.threads 0).history })
    (fun m report m' _ unhooked _ effect => passive.step unhooked effect) rfl ran
  exact kept.2

theorem RegisteredAccess.stage (accesses : RegisteredAccess controllers program registry)
    {reports : List Report} (ran : Transition.run (Machine.alone (Posix.config controllers program))
      (Machine.boot (Posix.config controllers program) registry world) reports = some s) :
    Disciplined (Posix.config controllers program) Posix.law registry
      (registeredOrigin program registry) s ∧
      Stage program registry (fun _ => True) (fun _ => True) s := by
  refine accesses.scenario.alone_keeps (Stage program registry (fun _ => True) (fun _ => True)) ?_
    (Or.inl ⟨⟨rfl, rfl⟩, ⟨rfl, rfl⟩, trivial⟩) ran
  intro m report m' disciplined stage taken effect
  exact stage.step accesses (fun _ _ _ => trivial) disciplined (fun _ _ _ => trivial) taken

theorem RegisteredAccess.faults_le (accesses : RegisteredAccess controllers program registry)
    {reports : List Report} (ran : Transition.run (Machine.alone (Posix.config controllers program))
      (Machine.boot (Posix.config controllers program) registry world) reports = some s)
    {instruction : Instruction} (next : program 0 (s.threads 0).history = some instruction) :
    (s.threads 0).faults ≤ (registry.denied instruction).card := by
  rcases (accesses.stage ran).2 with ⟨between, -, -⟩ | ⟨base, issued, history, -, issued_eq, -, underway, -⟩
  · rw [between.2]
    exact Nat.zero_le _
  · rcases underway with ⟨entering, same⟩ | ⟨-, -, none, -⟩
    · rw [same, issued_eq, Option.some.injEq] at next
      subst next
      exact entering.faults_le
    · rw [none]
      exact Nat.zero_le _

theorem RegisteredAccess.idle_between (accesses : RegisteredAccess controllers program registry)
    {reports : List Report} (ran : Transition.run (Machine.alone (Posix.config controllers program))
      (Machine.boot (Posix.config controllers program) registry world) reports = some s)
    (between : s.Between 0) : (s.threads 0).Idle := by
  rcases (accesses.stage ran).2 with ⟨-, idle, -⟩ | ⟨_, _, _, -, -, -, -, inside⟩
  · exact idle
  · exact absurd between inside

end

structure CompletesInstructions (controllers : ControllerPtr → Controller Device)
    (program : ThreadId → Program) (registry : Registry) (world : World Device) : Prop where
  faults : ∀ {reports s instruction},
    Transition.run (Machine.alone (Posix.config controllers program))
      (Machine.boot (Posix.config controllers program) registry world) reports = some s →
    program 0 (s.threads 0).history = some instruction →
      (s.threads 0).faults ≤ (registry.touched instruction).card
  completes : ∀ {reports s instruction},
    Transition.run (Machine.alone (Posix.config controllers program))
      (Machine.boot (Posix.config controllers program) registry world) reports = some s →
    s.Between 0 → program 0 (s.threads 0).history = some instruction →
      Transition.Inevitable (Machine.alone (Posix.config controllers program)) (fun next =>
        next.Between 0 ∧ (next.threads 0).history.length = (s.threads 0).history.length + 1)
        (6 * (registry.touched instruction).card + 6) s

theorem RegisteredAccess.completesInstructions {controllers : ControllerPtr → Controller Device}
    {program : ThreadId → Program} {registry : Registry}
    (accesses : RegisteredAccess controllers program registry) (world : World Device) :
    CompletesInstructions controllers program registry world where
  faults := by
    intro reports s instruction ran next
    exact (accesses.faults_le ran next).trans
      (Finset.card_le_card (registry.denied_subset_touched instruction))
  completes := by
    intro reports s instruction ran between next
    have fewer := Finset.card_le_card (registry.denied_subset_touched instruction)
    have completed := accesses.completes (accesses.disciplined ran) between
      (accesses.idle_between ran between) next
    exact (completed.imp fun m done => ⟨done.between, done.length⟩).weaken (by omega)

/-- Two runs of one program, under hooks of any types that do nothing: after as many instructions, or
    once both have ended, they have loaded the same values and left the same bytes. -/
theorem passive_hooks_transparent (left right : ControllerPtr → Controller Device)
    (program : ThreadId → Program) (leftRegistry rightRegistry : Registry)
    (leftAccesses : RegisteredAccess left program leftRegistry)
    (rightAccesses : RegisteredAccess right program rightRegistry)
    (leftPassive : Passive left) (rightPassive : Passive right) (world : World Device) :
    (∀ {leftReports rightReports : List Report} {l r : Machine Posix.IoSpace Device},
      Transition.run (Machine.alone (Posix.config left program))
        (Machine.boot (Posix.config left program) leftRegistry world) leftReports = some l →
      Transition.run (Machine.alone (Posix.config right program))
        (Machine.boot (Posix.config right program) rightRegistry world) rightReports = some r →
      (l.threads 0).history.length = (r.threads 0).history.length ∨
        (program 0 (l.threads 0).history = none ∧ program 0 (r.threads 0).history = none) →
      (l.threads 0).history = (r.threads 0).history ∧ l.world.memory = r.world.memory) ∧
    CompletesInstructions left program leftRegistry world ∧
    CompletesInstructions right program rightRegistry world := by
  refine ⟨?_, leftAccesses.completesInstructions world, rightAccesses.completesInstructions world⟩
  intro leftReports rightReports l r leftRan rightRan together
  have unhookedL := leftPassive.run leftAccesses leftRan
  have unhookedR := rightPassive.run rightAccesses rightRan
  have length : (l.threads 0).history.length = (r.threads 0).history.length := by
    rcases together with same | ⟨endedL, endedR⟩
    · exact same
    · -- the unhooked program that has ended on one side cannot be further on the other
      rcases Nat.lt_trichotomy (l.threads 0).history.length (r.threads 0).history.length with less | same | less
      · obtain ⟨more, further⟩ := Nat.exists_eq_add_of_lt less
        rw [further, Nat.add_right_comm, Unhooked.after_ended unhookedL endedL] at unhookedR
        cases unhookedR
      · exact same
      · obtain ⟨more, further⟩ := Nat.exists_eq_add_of_lt less
        rw [further, Nat.add_right_comm, Unhooked.after_ended unhookedR endedR] at unhookedL
        cases unhookedL
  rw [length, unhookedR, Option.some.injEq, Unhooked.mk.injEq] at unhookedL
  exact ⟨unhookedL.2.symm, unhookedL.1.symm⟩

def silent (first second : HookTypes) (controller : ControllerPtr) : Controller Nat where
  getHookTypes := if controller = 8 then first else second
  hookRead := fun file _ device => (file, device)
  hookWrite := fun file _ device => (file, device)

theorem silent_move_transparent :
    (∀ {leftReports rightReports : List Report} {l r : Machine Posix.IoSpace Nat},
      Transition.run (Machine.alone (Posix.config (silent .readWrite .write) fun _ => moveRegister))
        (Machine.boot (Posix.config (silent .readWrite .write) fun _ => moveRegister)
          (Registry.after (pairOf .readWrite .write)) zeroWorld) leftReports = some l →
      Transition.run (Machine.alone (Posix.config (silent .none .read) fun _ => moveRegister))
        (Machine.boot (Posix.config (silent .none .read) fun _ => moveRegister)
          (Registry.after (pairOf .none .read)) zeroWorld) rightReports = some r →
      (l.threads 0).history.length = (r.threads 0).history.length ∨
        (moveRegister (l.threads 0).history = none ∧ moveRegister (r.threads 0).history = none) →
      (l.threads 0).history = (r.threads 0).history ∧ l.world.memory = r.world.memory) ∧
    CompletesInstructions (silent .readWrite .write) (fun _ => moveRegister)
      (Registry.after (pairOf .readWrite .write)) zeroWorld ∧
    CompletesInstructions (silent .none .read) (fun _ => moveRegister)
      (Registry.after (pairOf .none .read)) zeroWorld :=
  passive_hooks_transparent (silent .readWrite .write) (silent .none .read) (fun _ => moveRegister)
    (Registry.after (pairOf .readWrite .write)) (Registry.after (pairOf .none .read))
    (registered_move _ _ _ rfl rfl) (registered_move _ _ _ rfl rfl)
    (fun _ _ _ _ => ⟨rfl, rfl⟩) (fun _ _ _ _ => ⟨rfl, rfl⟩) zeroWorld

end ExMM
