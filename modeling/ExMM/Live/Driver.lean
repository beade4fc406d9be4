import ExMM.Library.Words
import ExMM.Live.Blind
import ExMM.Model.Driver

namespace ExMM

variable {Area Request State Object Step : Type}

namespace IoSpace

variable (space : IoSpace) (memory : Nat → Byte)

theorem file_write (file : Nat → Byte) :
    space.file (Bytes.write memory space.publicArea space.size file) = registerFile space.size file := by
  funext k
  by_cases inside : k < space.size
  · simp only [IoSpace.file, registerFile, if_pos inside]
    rw [Bytes.write_inside _ _ _ _ _ ⟨Nat.le_add_right _ _, by omega⟩, Nat.add_sub_cancel_left]
  · simp only [IoSpace.file, registerFile, if_neg inside]

theorem file_write_other {other : IoSpace} (apart : ∀ a, other.Contains a → ¬ space.Contains a) (file : Nat → Byte) :
    other.file (Bytes.write memory space.publicArea space.size file) = other.file memory := by
  funext k
  by_cases inside : k < other.size
  · simp only [IoSpace.file, if_pos inside]
    have outside := apart (other.publicArea + k) ⟨Nat.le_add_right _ _, by omega⟩
    exact Bytes.write_outside _ _ _ _ _ outside
  · simp only [IoSpace.file, if_neg inside]

theorem file_store {offset width : Nat} (inside : offset + width ≤ space.size) (value : Nat → Byte) :
    space.file (Bytes.write memory (space.publicArea + offset) width value) =
      Bytes.write (space.file memory) offset width value := by
  funext k
  by_cases stored : offset ≤ k ∧ k < offset + width
  · have below : k < space.size := by omega
    simp only [IoSpace.file, if_pos below]
    rw [Bytes.write_inside _ _ _ _ _ ⟨by omega, by omega⟩, Bytes.write_inside _ _ _ _ _ stored]
    congr 1
    omega
  · rw [Bytes.write_outside _ _ _ _ _ stored]
    simp only [IoSpace.file]
    rw [Bytes.write_outside]
    omega

theorem write_file_store {offset width : Nat} (inside : offset + width ≤ space.size) (value : Nat → Byte) :
    Bytes.write memory (space.publicArea + offset) width value =
      Bytes.write memory space.publicArea space.size (Bytes.write (space.file memory) offset width value) := by
  funext a
  by_cases here : space.publicArea ≤ a ∧ a < space.publicArea + space.size
  · rw [Bytes.write_inside _ _ _ _ _ here]
    by_cases stored : space.publicArea + offset ≤ a ∧ a < space.publicArea + offset + width
    · rw [Bytes.write_inside _ _ _ _ _ stored, Bytes.write_inside _ _ _ _ _ ⟨by omega, by omega⟩]
      congr 1
      omega
    · rw [Bytes.write_outside _ _ _ _ _ stored, Bytes.write_outside _ _ _ _ _ (by omega)]
      have below : a - space.publicArea < space.size := by omega
      have same : space.publicArea + (a - space.publicArea) = a := by omega
      simp only [IoSpace.file, if_pos below, same]
  · rw [Bytes.write_outside _ _ _ _ _ here, Bytes.write_outside _ _ _ _ _ (by omega)]

theorem write_over {offset width : Nat} (inside : offset + width ≤ space.size) (value file : Nat → Byte) :
    Bytes.write (Bytes.write memory (space.publicArea + offset) width value) space.publicArea space.size file =
      Bytes.write memory space.publicArea space.size file := by
  funext a
  by_cases here : space.publicArea ≤ a ∧ a < space.publicArea + space.size
  · rw [Bytes.write_inside _ _ _ _ _ here, Bytes.write_inside _ _ _ _ _ here]
  · rw [Bytes.write_outside _ _ _ _ _ here, Bytes.write_outside _ _ _ _ _ here,
      Bytes.write_outside _ _ _ _ _ (by omega)]

theorem write_file : Bytes.write memory space.publicArea space.size (space.file memory) = memory :=
  Bytes.write_self _ _ _ _ fun i inside => by simp [IoSpace.file, inside]

theorem read_file {offset width : Nat} (inside : offset + width ≤ space.size) :
    Bytes.read memory (space.publicArea + offset) width = Bytes.read (space.file memory) offset width := by
  refine List.map_congr_left fun i member => ?_
  have small : i < width := List.mem_range.mp member
  have below : offset + i < space.size := by omega
  simp only [IoSpace.file, if_pos below, Nat.add_assoc]

end IoSpace

theorem registerFile_word (file : Nat → Byte) {size address : Nat} (inside : address + 4 ≤ size) :
    Words.load32 (registerFile size file) address = Words.load32 file address := by
  refine Words.load32_congr fun i bound => ?_
  have below : address + i < size := by omega
  simp only [registerFile, if_pos below]

theorem registerFile_bank {Register : Type} {offset : Register → Nat} {size : Nat}
    (inside : ∀ register, offset register + 4 ≤ size) (file : Nat → Byte) :
    Words.bank offset (registerFile size file) = Words.bank offset file :=
  funext fun register => registerFile_word file (inside register)

theorem read_word (file : Nat → Byte) {size address : Nat} (inside : address + 4 ≤ size) :
    Bytes.read (registerFile size file) address 4 = Words.bytes (Words.load32 file address) := by
  rw [Words.read_load32, registerFile_word file inside]

structure Registered (model : DeviceModel Object Step) (size : Nat) (registry : Registry) : Prop where
  registered : registry.WellFormed
  same : ∀ {controller : ControllerPtr} {ioSpace : IoSpacePtr} {space : IoSpace},
    registry.ioMap[controller]? = some ioSpace → registry.ioSpaces[ioSpace]? = some space →
      space.hookTypes = model.getHookTypes ∧ space.size = size

theorem Registered.after {model : DeviceModel Object Step} {size : Nat} (events : List Lifetime)
    (promised : LiveController.Promised [] events) (agree : ∀ entry ∈ LiveController.after events,
      entry.space.hookTypes = model.getHookTypes ∧ entry.space.size = size) :
    Registered model size (Registry.after events) := by
  obtain ⟨represents, formed⟩ := Registry.represents_after events promised
  exact ⟨represents.wellFormed formed, fun entry present => represents.of_live formed agree entry present⟩

/-- `represents` connects what the driver sees with the register file and the object behind it. -/
structure Implements (set : RegisterSet Request State Step) (model : DeviceModel Object Step) (size : Nat)
    (represents : State → (Nat → Byte) → Object → Prop) : Prop where
  inside : ∀ request, 0 < (set.access request).width ∧
    (set.access request).address + (set.access request).width ≤ size
  load : ∀ {request : Request} {address width : Nat} {state : State} {file : Nat → Byte} {object : Object},
    set.access request = .load address width → represents state file object →
      represents (set.respond request state).1 (registerFile size (model.load file address object).1)
          (model.load file address object).2 ∧
        (set.respond request state).2 = [Bytes.read (registerFile size (model.load file address object).1) address width]
  store : ∀ {request : Request} {address width : Nat} {value : Loaded → Nat → Byte} {state : State}
    {file : Nat → Byte} {object : Object},
    set.access request = .store address width value → represents state file object →
      represents (set.respond request state).1
          (registerFile size (model.store file address width (value []) object).1)
          (model.store file address width (value []) object).2 ∧
        (set.respond request state).2 = []
  background : ∀ {step : Step} {state : State} {file file' : Nat → Byte} {object object' : Object},
    represents state file object → model.background step file object = some (file', object') →
      ∃ next, set.background step state = some next ∧ represents next (registerFile size file') object'

def DeviceModel.Blind (model : DeviceModel Object Step) : Prop :=
  ∃ own : Step → Object → Option Object, ∀ step file object,
    model.background step file object = (own step object).map fun next => (file, next)

theorem DeviceModel.Blind.backgrounds {model : DeviceModel Object Step} (blind : model.Blind) :
    model.backgrounds.Blind := by
  obtain ⟨own, steps⟩ := blind
  refine ⟨fun controller step objects => (own step (objects controller)).map fun next =>
    Function.update objects controller next, fun controller step file objects => ?_⟩
  simp only [DeviceModel.backgrounds, steps]
  cases own step (objects controller) <;> rfl

section

variable {set : RegisterSet Request State Step} {model : DeviceModel Object Step} {size : Nat}
  {represents : State → (Nat → Byte) → Object → Prop} {registry : Registry} {driver : Driver Request}

@[simp] theorem Access.at_kind (base : Nat) (access : Access) : (access.at base).kind = access.kind := by
  cases access <;> rfl

@[simp] theorem Access.at_address (base : Nat) (access : Access) :
    (access.at base).address = base + access.address := by
  cases access <;> rfl

@[simp] theorem Access.at_width (base : Nat) (access : Access) : (access.at base).width = access.width := by
  cases access <;> rfl

theorem RegisterSet.program_some {t : ThreadId} {history : List Loaded} {instruction : Instruction}
    (next : set.program registry driver t history = some instruction) :
    t = 0 ∧ ∃ controller request ioSpace space, driver history = some (controller, request) ∧
      registry.ioMap[controller]? = some ioSpace ∧ registry.ioSpaces[ioSpace]? = some space ∧
      instruction = [(set.access request).at space.publicArea] := by
  simp only [RegisterSet.program] at next
  split at next
  · next mine =>
    refine ⟨mine, ?_⟩
    obtain ⟨⟨controller, request⟩, asked, next⟩ := Option.bind_eq_some_iff.mp next
    obtain ⟨ioSpace, entry, next⟩ := Option.bind_eq_some_iff.mp next
    obtain ⟨space, present, next⟩ := Option.bind_eq_some_iff.mp next
    cases next
    exact ⟨controller, request, ioSpace, space, asked, entry, present, rfl⟩
  · cases next

theorem Implements.covers (implements : Implements set model size represents)
    (same : Registered model size registry) {controller : ControllerPtr} {ioSpace : IoSpacePtr} {space : IoSpace}
    (entry : registry.ioMap[controller]? = some ioSpace) (present : registry.ioSpaces[ioSpace]? = some space)
    (request : Request) : registry.Covers ((set.access request).at space.publicArea)
      { controller, ioSpace, offset := (set.access request).address } := by
  have size_eq := (same.same entry present).2
  obtain ⟨positive, inside⟩ := implements.inside request
  refine ⟨entry, space, present, ?_, ?_, ?_, ?_⟩
  · rw [Access.at_width]
    exact positive
  · rw [Access.at_address]
    exact Nat.le_add_right _ _
  · rw [Access.at_address, Access.at_width]
    omega
  · rw [Access.at_address]
    exact (Nat.add_sub_cancel_left _ _).symm

theorem Implements.single (implements : Implements set model size represents)
    (same : Registered model size registry) (driver : Driver Request) :
    SingleAccess model.controllers (set.program registry driver) registry where
  registered := same.registered
  getHookTypes := fun entry present => (same.same entry present).1.symm
  instructions := by
    intro t history instruction next
    obtain ⟨-, controller, request, ioSpace, space, -, entry, present, rfl⟩ := RegisterSet.program_some next
    exact Or.inr ⟨_, _, rfl, implements.covers same entry present request⟩

structure Agrees (represents : State → (Nat → Byte) → Object → Prop) (registry : Registry) (d : Driven State)
    (q : Reference (ControllerPtr → Object)) : Prop where
  history : q.history 0 = d.history
  objects : ∀ {controller : ControllerPtr} {ioSpace : IoSpacePtr} {space : IoSpace},
    registry.ioMap[controller]? = some ioSpace → registry.ioSpaces[ioSpace]? = some space →
      represents (d.objects controller) (space.file q.world.memory) (q.world.device controller)

theorem Agrees.file {d : Driven State} {q : Reference (ControllerPtr → Object)}
    (agrees : Agrees represents registry d q) (same : Registered model size registry) {controller : ControllerPtr}
    {ioSpace : IoSpacePtr} {space : IoSpace} (entry : registry.ioMap[controller]? = some ioSpace)
    (present : registry.ioSpaces[ioSpace]? = some space) {state : State} {file : Nat → Byte} {object : Object}
    (represented : represents state (registerFile size file) object) {q' : Reference (ControllerPtr → Object)}
    {history : List Loaded} (memory : q'.world.memory = Bytes.write q.world.memory space.publicArea space.size file)
    (device : q'.world.device = Function.update q.world.device controller object)
    (loaded : q'.history 0 = history) :
    Agrees represents registry { objects := Function.update d.objects controller state, history } q' := by
  refine ⟨loaded, ?_⟩
  intro other otherSpace space' entry' present'
  by_cases mine : other = controller
  · subst mine
    rw [entry, Option.some.injEq] at entry'
    subst entry'
    rw [present, Option.some.injEq] at present'
    subst present'
    rw [memory, device, IoSpace.file_write, (same.same entry present).2]
    simp only [Function.update_self]
    exact represented
  · have apart : ∀ a, space'.Contains a → ¬ space.Contains a := by
      intro a inside inside'
      have same_ioSpace := same.registered.disjoint present' present inside inside'
      subst same_ioSpace
      exact mine (same.registered.distinct entry' entry)
    rw [memory, device, IoSpace.file_write_other space _ apart]
    simp only [Function.update_of_ne mine]
    exact agrees.objects entry' present'

theorem Implements.reference_load {controller : ControllerPtr} {ioSpace : IoSpacePtr} {space : IoSpace}
    (single : SingleAccess model.controllers (set.program registry driver) registry) {address width : Nat}
    (covers : registry.Covers (.load (space.publicArea + address) width) { controller, ioSpace, offset := address })
    (present : registry.ioSpaces[ioSpace]? = some space) (world : World (ControllerPtr → Object)) :
    let result := Reference.access model.controllers registry 0 (world, []) (.load (space.publicArea + address) width)
    let loaded := model.load (space.file world.memory) address (world.device controller)
    result.1.memory = Bytes.write world.memory space.publicArea space.size loaded.1 ∧
      result.1.device = Function.update world.device controller loaded.2 ∧
      result.2 = [Bytes.read result.1.memory (space.publicArea + address) width] := by
  intro result loaded
  have reference := Reference.access_hookedBy model.controllers registry 0 (world, [])
    (.load (space.publicArea + address) width)
  rw [single.hookedBy covers] at reference
  have hooks : (model.controllers controller).getHookTypes = model.getHookTypes := rfl
  simp only [result, loaded, reference, Access.kind, hooks, if_true, DeviceModel.load]
  cases reads : model.getHookTypes.and .read with
  | true =>
    simp only [if_true, Reference.readHook, present, World.access, DeviceModel.controllers]
    exact ⟨trivial, trivial, rfl⟩
  | false =>
    simp only [Bool.false_eq_true, if_false, World.access, IoSpace.write_file, Function.update_eq_self]
    exact ⟨trivial, trivial, rfl⟩

theorem Implements.reference_store {controller : ControllerPtr} {ioSpace : IoSpacePtr} {space : IoSpace}
    (single : SingleAccess model.controllers (set.program registry driver) registry) {address width : Nat}
    {value : Loaded → Nat → Byte}
    (covers : registry.Covers (.store (space.publicArea + address) width value)
      { controller, ioSpace, offset := address })
    (present : registry.ioSpaces[ioSpace]? = some space) (inside : address + width ≤ space.size)
    (world : World (ControllerPtr → Object)) :
    let result :=
      Reference.access model.controllers registry 0 (world, []) (.store (space.publicArea + address) width value)
    let stored := model.store (space.file world.memory) address width (value []) (world.device controller)
    result.1.memory = Bytes.write world.memory space.publicArea space.size stored.1 ∧
      result.1.device = Function.update world.device controller stored.2 ∧ result.2 = [] := by
  intro result stored
  have reference := Reference.access_hookedBy model.controllers registry 0 (world, [])
    (.store (space.publicArea + address) width value)
  rw [single.hookedBy covers] at reference
  have hooks : (model.controllers controller).getHookTypes = model.getHookTypes := rfl
  simp only [result, stored, reference, Access.kind, hooks, reduceCtorEq, if_false, DeviceModel.store]
  cases writes : model.getHookTypes.and .write with
  | true =>
    simp only [if_true, Reference.writeHook, present, World.access, DeviceModel.controllers]
    rw [space.file_store world.memory inside, space.write_over world.memory inside]
    exact ⟨rfl, rfl, trivial⟩
  | false =>
    simp only [Bool.false_eq_true, if_false, World.access, Function.update_eq_self]
    exact ⟨space.write_file_store world.memory inside _, trivial, trivial⟩

theorem Implements.instruction (implements : Implements set model size represents)
    (same : Registered model size registry) {d : Driven State} {q q' : Reference (ControllerPtr → Object)}
    (agrees : Agrees represents registry d q) {t : ThreadId}
    (taken : Reference.step model.controllers (set.program registry driver) registry q t = some q') :
    ∃ d', set.step registry driver d (.instruction t) = some d' ∧ Agrees represents registry d' q' := by
  have single := implements.single same driver
  obtain ⟨instruction, next, rfl⟩ := Option.map_eq_some_iff.mp taken
  obtain ⟨rfl, controller, request, ioSpace, space, asked, entry, present, rfl⟩ := RegisterSet.program_some next
  have covers := implements.covers same entry present request
  have represented := agrees.objects entry present
  have size_eq := (same.same entry present).2
  rw [agrees.history] at asked
  refine ⟨_, by simp only [RegisterSet.step, asked, entry, Option.bind_eq_bind, Option.bind_some]; rfl, ?_⟩
  simp only [List.foldl_cons, List.foldl_nil]
  cases access : set.access request with
  | load address width =>
    simp only [access, Access.at, Access.address] at covers ⊢
    obtain ⟨memory, device, loaded⟩ := Implements.reference_load single covers present q.world
    obtain ⟨next, value⟩ := implements.load access represented
    refine agrees.file same entry present next memory device ?_
    simp only [Function.update_self, agrees.history, loaded]
    have inside := (implements.inside request).2
    simp only [access, Access.address, Access.width] at inside
    rw [space.read_file _ (by omega), memory, IoSpace.file_write, size_eq, value]
  | store address width value =>
    simp only [access, Access.at, Access.address] at covers ⊢
    have inside := (implements.inside request).2
    simp only [access, Access.address, Access.width] at inside
    obtain ⟨memory, device, loaded⟩ := Implements.reference_store single covers present (by omega) q.world
    obtain ⟨next, nothing⟩ := implements.store access represented
    refine agrees.file same entry present next memory device ?_
    simp only [Function.update_self, agrees.history, loaded, nothing]

theorem Implements.thread (implements : Implements set model size represents)
    (same : Registered model size registry) {d : Driven State} {q : Reference (ControllerPtr → Object)}
    (agrees : Agrees represents registry d q) {controller : ControllerPtr} {step : Step}
    {world : World (ControllerPtr → Object)}
    (taken : q.world.background model.backgrounds registry controller step = some world) :
    ∃ d', set.step registry driver d (.background controller step) = some d' ∧
      Agrees represents registry d' { q with world } := by
  obtain ⟨ioSpace, entry, taken⟩ := Option.bind_eq_some_iff.mp taken
  obtain ⟨space, present, taken⟩ := Option.bind_eq_some_iff.mp taken
  obtain ⟨result, stepped, taken⟩ := Option.bind_eq_some_iff.mp taken
  cases taken
  obtain ⟨⟨file, object⟩, own, rfl⟩ := Option.map_eq_some_iff.mp stepped
  obtain ⟨next, moved, represented⟩ := implements.background (agrees.objects entry present) own
  refine ⟨_, by simp only [RegisterSet.step, entry, moved, Option.bind_eq_bind, Option.bind_some]; rfl, ?_⟩
  exact agrees.file same entry present represented rfl rfl agrees.history

theorem Implements.follow (implements : Implements set model size represents)
    (same : Registered model size registry) (q : Reference (ControllerPtr → Object)) (d : Driven State)
    (action : ReferenceAction Step) (q' : Reference (ControllerPtr → Object)) (agrees : Agrees represents registry d q)
    (taken : Reference.live model.controllers (set.program registry driver) registry model.backgrounds q action =
      some q') :
    ∃ d', set.step registry driver d action = some d' ∧ Agrees represents registry d' q' := by
  cases action with
  | instruction t => exact implements.instruction same agrees taken
  | background controller step =>
    obtain ⟨world, moved, rfl⟩ := Option.map_eq_some_iff.mp taken
    exact implements.thread same agrees moved

end

structure Shows (represents : State → (Nat → Byte) → Object → Prop) (registry : Registry)
    (s : Machine Area (ControllerPtr → Object)) (d : Driven State) : Prop where
  history : (s.threads 0).history = d.history
  objects : ∀ {controller : ControllerPtr} {ioSpace : IoSpacePtr} {space : IoSpace},
    registry.ioMap[controller]? = some ioSpace → registry.ioSpaces[ioSpace]? = some space →
      represents (d.objects controller) (space.file s.world.memory) (s.world.device controller)

theorem Agrees.shows {represents : State → (Nat → Byte) → Object → Prop} {registry : Registry} {d : Driven State}
    {q : Reference (ControllerPtr → Object)} (agrees : Agrees represents registry d q)
    {s : Machine Area (ControllerPtr → Object)} (memory : s.world.memory = q.world.memory)
    (device : s.world.device = q.world.device) (history : (s.threads 0).history = q.history 0) :
    Shows represents registry s d where
  history := history.trans agrees.history
  objects := by
    intro controller ioSpace space entry present
    rw [memory, device]
    exact agrees.objects entry present

/-- Between two requests the driver has loaded what its registers have answered: the steps of the threads of the
    devices go on when they are taken, and a request is answered while its access is under way. -/
def DriverRefines (cfg : Config Area (ControllerPtr → Object)) (set : RegisterSet Request State Step)
    (represents : State → (Nat → Byte) → Object → Prop) (registry : Registry)
    (background : Background (ControllerPtr → Object) Step) (driver : Driver Request) (initial : ControllerPtr → State)
    (world : World (ControllerPtr → Object)) : Prop :=
  ∀ (actions : List (LiveAction Step)) (s : Machine Area (ControllerPtr → Object)),
    (∀ action ∈ actions, action.Driver) →
      Transition.run (Machine.live cfg background) (Machine.boot cfg registry world) actions = some s →
        ∃ answers, Transition.Lockstep (Machine.live cfg background) (set.step registry driver)
          (fun m d => m.Between 0 → Shows represents registry m d)
          (fun m d => ReferenceAction.Answers (UnderWay cfg.program m d.history)) (Machine.boot cfg registry world)
          { objects := initial, history := [] } actions answers

theorem DriverRefines.of_law {cfg : Config Area (ControllerPtr → Object)} (law : cfg.platform.Law)
    {set : RegisterSet Request State Step} {model : DeviceModel Object Step} {size : Nat}
    {represents : State → (Nat → Byte) → Object → Prop} {registry : Registry} {driver : Driver Request}
    {initial : ControllerPtr → State} {world : World (ControllerPtr → Object)}
    (implements : Implements set model size represents) (blind : model.Blind) (same : Registered model size registry)
    (controllers : cfg.controllers = model.controllers) (program : cfg.program = set.program registry driver)
    (start : ∀ {controller : ControllerPtr} {ioSpace : IoSpacePtr} {space : IoSpace},
      registry.ioMap[controller]? = some ioSpace → registry.ioSpaces[ioSpace]? = some space →
        represents (initial controller) (space.file world.memory) (world.device controller)) :
    DriverRefines cfg set represents registry model.backgrounds driver initial world := by
  intro actions s drivers ran
  have single : SingleAccess cfg.controllers cfg.program registry := by
    rw [controllers, program]
    exact implements.single same driver
  obtain ⟨answers, lockstep⟩ := DriverLinearises.of_law law single blind.backgrounds world actions s drivers ran
  rw [controllers, program] at lockstep
  have agrees : Agrees represents registry { objects := initial, history := [] } (Reference.start world) := ⟨rfl, start⟩
  have follow : ∀ (q : Reference (ControllerPtr → Object)) (d : Driven State) (action : ReferenceAction Step)
      (q' : Reference (ControllerPtr → Object)), Agrees represents registry d q →
        Reference.live model.controllers (set.program registry driver) registry model.backgrounds q action = some q' →
          ∃ d', set.step registry driver d action = some d' ∧ Agrees represents registry d' q' := implements.follow same
  refine ⟨answers, (lockstep.trans follow agrees).imp ?_ ?_⟩
  · rintro m d ⟨q, settled, agrees⟩ between
    obtain ⟨world, history⟩ := settled between
    exact agrees.shows (congrArg World.memory world) (congrArg World.device world) history
  · rintro m d action answer _ _ _ ⟨q, agrees, answers⟩
    rw [program, ← agrees.history]
    exact answers

theorem driver_refines (set : RegisterSet Request State Step) (model : DeviceModel Object Step) (size : Nat)
    (represents : State → (Nat → Byte) → Object → Prop) (implements : Implements set model size represents)
    (blind : model.Blind) (registry : Registry) (same : Registered model size registry) (driver : Driver Request)
    (initial : ControllerPtr → State) (world : World (ControllerPtr → Object))
    (start : ∀ {controller : ControllerPtr} {ioSpace : IoSpacePtr} {space : IoSpace},
      registry.ioMap[controller]? = some ioSpace → registry.ioSpaces[ioSpace]? = some space →
        represents (initial controller) (space.file world.memory) (world.device controller)) :
    DriverRefines { platform := Posix.platform, controllers := model.controllers, program := set.program registry driver }
        set represents registry model.backgrounds driver initial world ∧
      DriverRefines
        { platform := Windows.platform, controllers := model.controllers, program := set.program registry driver }
        set represents registry model.backgrounds driver initial world :=
  ⟨DriverRefines.of_law Posix.law implements blind same rfl rfl start,
    DriverRefines.of_law Windows.law implements blind same rfl rfl start⟩

def roundCounter : DeviceModel Nat Unit where
  getHookTypes := .read
  hookRead := fun file offset rounds => (Function.update file offset (BitVec.ofNat 8 rounds), rounds)
  hookWrite := fun file _ rounds => (file, rounds)
  background := fun _ file rounds => some (file, rounds + 1)
  holdsMemoryLock := fun _ => false

def roundRegister : RegisterSet Unit Nat Unit where
  access := fun _ => .load 0 1
  respond := fun _ rounds => (rounds, [[BitVec.ofNat 8 rounds]])
  background := fun _ rounds => some (rounds + 1)

theorem roundRegister_implements : Implements roundRegister roundCounter 4 fun rounds _ object => rounds = object where
  inside := fun _ => ⟨Nat.one_pos, (by decide : 0 + 1 ≤ 4)⟩
  load := by
    rintro _ _ _ _ file _ ⟨⟩ rfl
    exact ⟨rfl, rfl⟩
  store := fun access => by cases access
  background := by
    rintro _ rounds _ _ _ _ rfl ⟨⟩
    exact ⟨_, rfl, rfl⟩

theorem roundRegister_refines :
    DriverRefines
        { platform := Posix.platform
          controllers := roundCounter.controllers
          program := roundRegister.program (Registry.after [.construct 8 4 .read ⟨100, 0x10000, 0x50000⟩])
            fun _ => some (8, ()) }
        roundRegister (fun rounds _ object => rounds = object)
        (Registry.after [.construct 8 4 .read ⟨100, 0x10000, 0x50000⟩]) roundCounter.backgrounds
        (fun _ => some (8, ())) (fun _ => 0) { memory := fun _ => 0, device := fun _ => 0, trace := [] } ∧
      DriverRefines
        { platform := Windows.platform
          controllers := roundCounter.controllers
          program := roundRegister.program (Registry.after [.construct 8 4 .read ⟨100, 0x10000, 0x50000⟩])
            fun _ => some (8, ()) }
        roundRegister (fun rounds _ object => rounds = object)
        (Registry.after [.construct 8 4 .read ⟨100, 0x10000, 0x50000⟩]) roundCounter.backgrounds
        (fun _ => some (8, ())) (fun _ => 0) { memory := fun _ => 0, device := fun _ => 0, trace := [] } :=
  driver_refines roundRegister roundCounter 4 (fun rounds _ object => rounds = object) roundRegister_implements
    ⟨fun _ rounds => some (rounds + 1), fun _ _ _ => rfl⟩ _
    (Registered.after [.construct 8 4 .read ⟨100, 0x10000, 0x50000⟩] (by decide) (by decide)) (fun _ => some (8, ()))
    (fun _ => 0) { memory := fun _ => 0, device := fun _ => 0, trace := [] } fun _ _ => rfl

end ExMM
