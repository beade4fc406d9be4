import ExMM.Live.Driver
import ExMM.Live.Objects
import ExMM.Machine.Passive

namespace ExMM

variable {Area Device Step Request State Object : Type}

section

variable {controllers : ControllerPtr → Controller Device} (registry : Registry) (t : ThreadId)

theorem Passive.readHook (passive : Passive controllers) (found : Found) (world : World Device) :
    (Reference.readHook controllers registry t found world).memory = world.memory ∧
      (Reference.readHook controllers registry t found world).device = world.device := by
  unfold Reference.readHook
  split
  · next space _ =>
    have device : (world.doHookRead (controllers found.controller) t found.controller space found.offset).device =
        world.device := by rw [World.doHookRead, (passive found.controller _ _ _).1]
    exact ⟨passive.doHookRead found.controller t space found.offset, device⟩
  · exact ⟨rfl, rfl⟩

theorem Passive.writeHook (passive : Passive controllers) (found : Found) (world : World Device) :
    (Reference.writeHook controllers registry t found world).memory = world.memory ∧
      (Reference.writeHook controllers registry t found world).device = world.device := by
  unfold Reference.writeHook
  split
  · next space _ =>
    have device : (world.doHookWrite (controllers found.controller) t found.controller space found.offset).device =
        world.device := by rw [World.doHookWrite, (passive found.controller _ _ _).2]
    exact ⟨passive.doHookWrite found.controller t space found.offset, device⟩
  · exact ⟨rfl, rfl⟩

theorem World.access_alike {left right : World Device} (memory : left.memory = right.memory)
    (device : left.device = right.device) (loaded : Loaded) (access : Access) :
    (World.access t (left, loaded) access).1.memory = (World.access t (right, loaded) access).1.memory ∧
      (World.access t (left, loaded) access).1.device = (World.access t (right, loaded) access).1.device ∧
      (World.access t (left, loaded) access).2 = (World.access t (right, loaded) access).2 := by
  cases access with
  | load address width =>
    simp only [World.access, memory, device]
    exact ⟨trivial, trivial, trivial⟩
  | store address width value =>
    simp only [World.access, memory, device]
    exact ⟨trivial, trivial, trivial⟩

theorem Passive.access (passive : Passive controllers) {left right : World Device} (memory : left.memory = right.memory)
    (device : left.device = right.device) (loaded : Loaded) (access : Access) :
    (Reference.access controllers registry t (left, loaded) access).1.memory =
        (World.access t (right, loaded) access).1.memory ∧
      (Reference.access controllers registry t (left, loaded) access).1.device =
        (World.access t (right, loaded) access).1.device ∧
      (Reference.access controllers registry t (left, loaded) access).2 = (World.access t (right, loaded) access).2 := by
  rw [Reference.access_hookedBy]
  cases hookedBy controllers registry access with
  | none => exact World.access_alike t memory device loaded access
  | some found =>
    cases kind : access.kind with
    | load =>
      obtain ⟨readMemory, readDevice⟩ := passive.readHook registry t found left
      exact World.access_alike t (readMemory.trans memory) (readDevice.trans device) loaded access
    | store =>
      obtain ⟨stored, kept, same⟩ := World.access_alike t memory device loaded access
      obtain ⟨writeMemory, writeDevice⟩ := passive.writeHook registry t found (World.access t (left, loaded) access).1
      exact ⟨writeMemory.trans stored, writeDevice.trans kept, same⟩

theorem Passive.perform (passive : Passive controllers) {left right : World Device} (memory : left.memory = right.memory)
    (device : left.device = right.device) (instruction : Instruction) :
    (instruction.foldl (Reference.access controllers registry t) (left, [])).1.memory =
        (right.perform t instruction).1.memory ∧
      (instruction.foldl (Reference.access controllers registry t) (left, [])).1.device =
        (right.perform t instruction).1.device ∧
      (instruction.foldl (Reference.access controllers registry t) (left, [])).2 = (right.perform t instruction).2 := by
  unfold World.perform
  generalize ([] : Loaded) = loaded
  induction instruction generalizing left right loaded with
  | nil => exact ⟨memory, device, rfl⟩
  | cons access rest ih =>
    obtain ⟨nextMemory, nextDevice, same⟩ := passive.access registry t memory device loaded access
    have pair : Reference.access controllers registry t (left, loaded) access =
        ((Reference.access controllers registry t (left, loaded) access).1,
          (World.access t (right, loaded) access).2) := Prod.ext rfl same
    rw [List.foldl_cons, List.foldl_cons, pair]
    exact ih nextMemory nextDevice (World.access t (right, loaded) access).2

end

/-- Nobody can tell the machine from the reference device but by the trace. -/
structure Alike (s : Machine Area Device) (q : Reference Device) : Prop where
  memory : s.world.memory = q.world.memory
  device : s.world.device = q.world.device
  history : ∀ t, (s.threads t).history = q.history t

section

variable {cfg : Config Area Device} {background : Background Device Step} {s s' : Machine Area Device}
  {q : Reference Device} {t : ThreadId}

theorem Alike.keep (alike : Alike s q) (memory : s'.world.memory = s.world.memory)
    (device : s'.world.device = s.world.device) (others : ∀ u, u ≠ t → s'.threads u = s.threads u)
    (history : (s'.threads t).history = (s.threads t).history) : Alike s' q where
  memory := memory.trans alike.memory
  device := device.trans alike.device
  history := by
    intro u
    rw [← alike.history u]
    by_cases mine : u = t
    · subst mine
      exact history
    · rw [others u mine]

theorem Alike.goto (alike : Alike s q) (t : ThreadId) (control : Control) : Alike (s.goto t control) q :=
  alike.keep rfl rfl (fun _ other => Machine.goto_other s control other) (by rw [Machine.goto_self])

theorem Alike.setThread (alike : Alike s q) {thread : Thread} (history : thread.history = (s.threads t).history) :
    Alike (s.setThread t thread) q :=
  alike.keep rfl rfl (fun _ other => Machine.setThread_other s thread other) (by rw [Machine.setThread_self, history])

theorem Alike.fault (alike : Alike s q) (siAddr : Nat) (write : Bool) : Alike (s.fault t siAddr write) q := by
  unfold Machine.fault
  split
  · exact alike.setThread rfl
  · exact ⟨alike.memory, alike.device, alike.history⟩

theorem Alike.execute (alike : Alike s q) (registry : Registry) {controllers : ControllerPtr → Controller Device}
    (passive : Passive controllers) (instruction : Instruction) :
    let result := instruction.foldl (Reference.access controllers registry t) (q.world, [])
    Alike (s.execute t instruction)
      { world := result.1, history := Function.update q.history t (q.history t ++ [result.2]) } := by
  intro result
  obtain ⟨memory, device, loaded⟩ := passive.perform registry t alike.memory.symm alike.device.symm instruction
  refine ⟨memory.symm, device.symm, fun u => ?_⟩
  by_cases mine : u = t
  · subst mine
    simp only [Machine.execute_self, Function.update_self, result, loaded, alike.history]
  · simp only [Machine.execute_other s instruction mine, Function.update_of_ne mine, alike.history]

theorem Alike.handler (alike : Alike s q) (passive : Passive cfg.controllers) {control : Control}
    (stepped : s.stepHandler cfg t control = some s') : Alike s' q ∧ s'.registry = s.registry := by
  cases control with
  | user => cases stepped
  | findController siAddr write =>
    simp only [Machine.stepHandler] at stepped
    split at stepped
    · cases stepped
    · cases stepped
      have went := alike.goto t .user
      exact ⟨⟨went.memory, went.device, went.history⟩, rfl⟩
    · cases stepped
      exact ⟨alike.goto t _, rfl⟩
  | doHookRead found =>
    obtain ⟨space, _, stepped⟩ := Option.bind_eq_some_iff.mp stepped
    cases stepped
    have device : (s.world.doHookRead (cfg.controllers found.controller) t found.controller space found.offset).device =
        s.world.device := by rw [World.doHookRead, (passive found.controller _ _ _).1]
    exact ⟨alike.keep (passive.doHookRead found.controller t space found.offset) device
      (fun _ other => Machine.goto_other s _ other) (by simp), rfl⟩
  | unprotect found write =>
    obtain ⟨space, _, stepped⟩ := Option.bind_eq_some_iff.mp stepped
    obtain ⟨area, _, stepped⟩ := Option.bind_eq_some_iff.mp stepped
    cases stepped
    have went := alike.goto t (.installBreakPoint found write)
    exact ⟨⟨went.memory, went.device, went.history⟩, rfl⟩
  | installBreakPoint found write =>
    cases stepped
    exact ⟨alike.setThread rfl, rfl⟩
  | getBreakPoint =>
    simp only [Machine.stepHandler] at stepped
    split at stepped
    · obtain ⟨ioSpace, _, stepped⟩ := Option.bind_eq_some_iff.mp stepped
      split at stepped
      · split at stepped <;> cases stepped <;> exact ⟨alike.goto t _, rfl⟩
      · cases stepped
        exact ⟨alike.goto t _, rfl⟩
    · cases stepped
      have went := alike.goto t .user
      exact ⟨⟨went.memory, went.device, went.history⟩, rfl⟩
  | doHookWrite ioSpace controller offset =>
    obtain ⟨space, _, stepped⟩ := Option.bind_eq_some_iff.mp stepped
    cases stepped
    have device : (s.world.doHookWrite (cfg.controllers controller) t controller space offset).device =
        s.world.device := by rw [World.doHookWrite, (passive controller _ _ _).2]
    exact ⟨alike.keep (passive.doHookWrite controller t space offset) device
      (fun _ other => Machine.goto_other s _ other) (by simp), rfl⟩
  | uninstallBreakPoint ioSpace =>
    cases stepped
    exact ⟨alike.setThread rfl, rfl⟩
  | restoreProtection ioSpace =>
    obtain ⟨space, _, stepped⟩ := Option.bind_eq_some_iff.mp stepped
    obtain ⟨area, _, stepped⟩ := Option.bind_eq_some_iff.mp stepped
    cases stepped
    have went := alike.goto t .user
    exact ⟨⟨went.memory, went.device, went.history⟩, rfl⟩

theorem Alike.answer (alike : Alike s q) (passive : Passive cfg.controllers) {action : LiveAction Step}
    (taken : Machine.live cfg background s action = some s') :
    ∃ answer q', Transition.stuttering (Reference.live cfg.controllers cfg.program s.registry background) q answer =
        some q' ∧
      (Alike s' q' ∧ s'.registry = s.registry) ∧
      ReferenceAction.Answers (fun t => (s.threads t).history = q.history t) action answer := by
  cases action with
  | processor t report =>
    obtain ⟨_, stepped⟩ := Machine.live_processor taken
    simp only [Machine.step] at stepped
    split at stepped
    · cases stepped
    · split at stepped
      · next user =>
        obtain ⟨instruction, next, rfl⟩ := Option.map_eq_some_iff.mp stepped
        rw [alike.history] at next
        simp only [Machine.stepUser]
        split
        · refine ⟨some (.instruction t), _, ?_, ⟨alike.execute s.registry passive instruction, rfl⟩,
            .instruction t report (alike.history t)⟩
          rw [Transition.stuttering, Reference.live, Reference.step, next]
          rfl
        · refine ⟨none, q, rfl, ⟨alike.fault _ _, ?_⟩, .unseen t report⟩
          unfold Machine.fault
          split <;> rfl
      · obtain ⟨same, registry⟩ := alike.handler passive stepped
        exact ⟨none, q, rfl, ⟨same, registry⟩, .unseen t report⟩
  | background controller step =>
    obtain ⟨world, stepped, rfl⟩ := Machine.live_background taken
    obtain ⟨ioSpace, entry, stepped⟩ := Option.bind_eq_some_iff.mp stepped
    obtain ⟨space, present, stepped⟩ := Option.bind_eq_some_iff.mp stepped
    obtain ⟨result, moved, stepped⟩ := Option.bind_eq_some_iff.mp stepped
    cases stepped
    rw [alike.memory, alike.device] at moved
    refine ⟨some (.background controller step),
      { q with world := { q.world with
          memory := Bytes.write q.world.memory space.publicArea space.size result.1
          device := result.2 } }, ?_, ⟨⟨?_, rfl, alike.history⟩, rfl⟩, .background controller step⟩
    · simp only [Transition.stuttering, Reference.live, World.background, entry, present, moved, Option.bind_eq_bind,
        Option.bind_some, Option.map_some]
    · simp only [alike.memory]

end

/-- In every state the memory, the states of the devices and everything that the threads have loaded are those of
    the reference device, which takes an instruction when the machine has carried it out. -/
def PassiveLinearises (cfg : Config Area Device) (registry : Registry) (background : Background Device Step)
    (world : World Device) : Prop :=
  ∀ (actions : List (LiveAction Step)) (s : Machine Area Device),
    Transition.run (Machine.live cfg background) (Machine.boot cfg registry world) actions = some s →
      ∃ answers, Transition.Lockstep (Machine.live cfg background)
        (Reference.live cfg.controllers cfg.program registry background) Alike
        (fun m q => ReferenceAction.Answers fun t => (m.threads t).history = q.history t)
        (Machine.boot cfg registry world) (Reference.start world) actions answers

theorem PassiveLinearises.of_passive {cfg : Config Area Device} (passive : Passive cfg.controllers) (registry : Registry)
    (background : Background Device Step) (world : World Device) : PassiveLinearises cfg registry background world := by
  intro actions s ran
  have answer : ∀ (m : Machine Area Device) (q : Reference Device) (action : LiveAction Step) (m' : Machine Area Device),
      Alike m q ∧ m.registry = registry → True → Machine.live cfg background m action = some m' →
        ∃ answer q', Transition.stuttering (Reference.live cfg.controllers cfg.program registry background) q answer =
            some q' ∧
          (Alike m' q' ∧ m'.registry = registry) ∧
          ReferenceAction.Answers (fun t => (m.threads t).history = q.history t) action answer := by
    rintro m q action m' ⟨alike, rfl⟩ _ taken
    exact alike.answer passive taken
  have start : Alike (Machine.boot cfg registry world) (Reference.start world) := ⟨rfl, rfl, fun _ => rfl⟩
  obtain ⟨answers, lockstep⟩ :=
    Transition.lockstep_of_run answer ⟨start, rfl⟩ (Transition.meets_true _ _ actions) ran
  exact ⟨answers, lockstep.imp (fun _ _ both => both.1) fun _ _ _ _ _ _ _ answers => answers⟩

/-- Hooks that only look on cannot be told from none: however many threads run the program, whatever accesses its
    instructions make and whatever the threads of the devices do to the register files. -/
theorem passive_linearises (platform : Platform Area) (controllers : ControllerPtr → Controller Device)
    (passive : Passive controllers) (program : ThreadId → Program) (registry : Registry)
    (background : Background Device Step) (world : World Device) :
    PassiveLinearises { platform, controllers, program } registry background world :=
  PassiveLinearises.of_passive passive registry background world

def adding : Background Nat Unit where
  step := fun _ _ file device => some (Function.update file 2 (file 0 + file 1), device + 1)
  holdsMemoryLock := fun _ _ => false

theorem moveRegister_linearises :
    PassiveLinearises
      { platform := Posix.platform, controllers := silent .readWrite .write, program := fun _ => moveRegister }
      (Registry.after (pairOf .readWrite .write)) adding zeroWorld :=
  passive_linearises Posix.platform (silent .readWrite .write) (fun _ _ _ _ => ⟨rfl, rfl⟩) (fun _ => moveRegister)
    (Registry.after (pairOf .readWrite .write)) adding zeroWorld

def DeviceModel.Passive (model : DeviceModel Object Step) : Prop :=
  ∀ file offset object,
    model.hookRead file offset object = (file, object) ∧ model.hookWrite file offset object = (file, object)

theorem DeviceModel.Passive.controllers {model : DeviceModel Object Step} (passive : model.Passive) :
    ExMM.Passive model.controllers := by
  intro controller file offset objects
  obtain ⟨read, write⟩ := passive file offset (objects controller)
  simp only [DeviceModel.controllers, read, write, Function.update_eq_self]
  exact ⟨trivial, trivial⟩

def PassiveRefines (cfg : Config Area (ControllerPtr → Object)) (set : RegisterSet Request State Step)
    (represents : State → (Nat → Byte) → Object → Prop) (registry : Registry)
    (background : Background (ControllerPtr → Object) Step) (driver : Driver Request) (initial : ControllerPtr → State)
    (world : World (ControllerPtr → Object)) : Prop :=
  ∀ (actions : List (LiveAction Step)) (s : Machine Area (ControllerPtr → Object)),
    Transition.run (Machine.live cfg background) (Machine.boot cfg registry world) actions = some s →
      ∃ answers, Transition.Lockstep (Machine.live cfg background) (set.step registry driver)
        (Shows represents registry) (fun m d => ReferenceAction.Answers (UnderWay cfg.program m d.history))
        (Machine.boot cfg registry world) { objects := initial, history := [] } actions answers

theorem Alike.underWay {set : RegisterSet Request State Step} {registry : Registry} {driver : Driver Request}
    {controllers : ControllerPtr → Controller Device} {background : Background Device Step} {s : Machine Area Device}
    {q q' : Reference Device} {action : LiveAction Step} {answer : Option (ReferenceAction Step)}
    (moved : Transition.stuttering (Reference.live controllers (set.program registry driver) registry background) q
      answer = some q')
    (answers : ReferenceAction.Answers (fun t => (s.threads t).history = q.history t) action answer) :
    ReferenceAction.Answers (UnderWay (set.program registry driver) s (q.history 0)) action answer := by
  cases answers with
  | unseen t report => exact .unseen t report
  | instruction t report same =>
    obtain ⟨instruction, next, -⟩ := Option.map_eq_some_iff.mp moved
    obtain ⟨rfl, -⟩ := RegisterSet.program_some next
    exact .instruction 0 report ⟨rfl, .before same⟩
  | background controller step => exact .background controller step

theorem PassiveRefines.of_passive {cfg : Config Area (ControllerPtr → Object)}
    {set : RegisterSet Request State Step} {model : DeviceModel Object Step} {size : Nat}
    {represents : State → (Nat → Byte) → Object → Prop} {registry : Registry} {driver : Driver Request}
    {initial : ControllerPtr → State} {world : World (ControllerPtr → Object)}
    (implements : Implements set model size represents) (passive : model.Passive) (same : Registered model size registry)
    (controllers : cfg.controllers = model.controllers) (program : cfg.program = set.program registry driver)
    (start : ∀ {controller : ControllerPtr} {ioSpace : IoSpacePtr} {space : IoSpace},
      registry.ioMap[controller]? = some ioSpace → registry.ioSpaces[ioSpace]? = some space →
        represents (initial controller) (space.file world.memory) (world.device controller)) :
    PassiveRefines cfg set represents registry model.backgrounds driver initial world := by
  intro actions s ran
  have quiet : ExMM.Passive cfg.controllers := by
    rw [controllers]
    exact passive.controllers
  obtain ⟨answers, lockstep⟩ := PassiveLinearises.of_passive quiet registry model.backgrounds world actions s ran
  rw [controllers, program] at lockstep
  have agrees : Agrees represents registry { objects := initial, history := [] } (Reference.start world) := ⟨rfl, start⟩
  have follow : ∀ (q : Reference (ControllerPtr → Object)) (d : Driven State) (action : ReferenceAction Step)
      (q' : Reference (ControllerPtr → Object)), Agrees represents registry d q →
        Reference.live model.controllers (set.program registry driver) registry model.backgrounds q action = some q' →
          ∃ d', set.step registry driver d action = some d' ∧ Agrees represents registry d' q' := implements.follow same
  have underWay := lockstep.imp (fun _ _ alike => alike) fun _ _ _ _ _ _ moved answers => Alike.underWay moved answers
  refine ⟨answers, (underWay.trans follow agrees).imp ?_ ?_⟩
  · rintro m d ⟨q, alike, agrees⟩
    exact agrees.shows alike.memory alike.device (alike.history 0)
  · rintro m d action answer _ _ _ ⟨q, agrees, answers⟩
    rw [program, ← agrees.history]
    exact answers

end ExMM
