import ExMM.Dsl.Hooks
import ExMM.Live.Histories
import ExMM.Model.LatchedTime

namespace ExMM.LatchedTime

variable {Area : Type}

/-- What the controller is for: a clock, the instant whose microseconds are latched, and ten words of memory. -/
structure Clock where
  elapsed : Int
  latched : Int
  other : Fin 10 → BitVec 32

def Clock.start (other : Fin 10 → BitVec 32) : Clock := { elapsed := 0, latched := 0, other }

def registers : RegisterSet Request Clock Int where
  access := Request.access
  respond := fun request c =>
    match request with
    | .timeLo => (c, [Words.bytes (BitVec.ofInt 32 (microseconds c.latched))])
    | .timeHi => ({ c with latched := c.elapsed }, [Words.bytes (BitVec.ofInt 32 (seconds c.elapsed))])
    | .other index => (c, [Words.bytes (c.other index)])
    | .storeTimeLo _ => (c, [])
    | .storeTimeHi _ => (c, [])
    | .storeOther index value => ({ c with other := Function.update c.other index value }, [])
  background := fun elapsed c => some { c with elapsed }

def otherWord (file : Nat → Byte) (index : Fin 10) : BitVec 32 :=
  Words.load32 file (otherField.start + index * otherField.size)

structure Represents (c : Clock) (file : Nat → Byte) (object : Controller007) : Prop where
  elapsed : object.elapsed = c.elapsed
  latched : object.latchedLoValue = BitVec.ofInt 32 (microseconds c.latched)
  other : otherWord file = c.other

theorem other_inside (index : Fin 10) : otherField.start + index * otherField.size + 4 ≤ registersSize := by
  simp only [otherField, ArrayField.words, registersSize]
  omega

theorem other_behind (index : Fin 10) : timeHiField + 4 ≤ otherField.start + index * otherField.size := by
  simp only [otherField, ArrayField.words, timeHiField]
  omega

theorem lo_before : timeLoField ≤ timeHiField := Nat.zero_le _

theorem otherWord_registerFile (file : Nat → Byte) : otherWord (registerFile registersSize file) = otherWord file :=
  funext fun index => registerFile_word file (other_inside index)

theorem otherWord_store (file : Nat → Byte) {address : Nat} (before : address ≤ timeHiField) (value : BitVec 32) :
    otherWord (Words.store file address value) = otherWord file := by
  funext index
  have behind := other_behind index
  exact Words.load32_store_apart file value (Or.inl (by omega))

theorem otherWord_storeOther (file : Nat → Byte) (index : Fin 10) (value : BitVec 32) :
    otherWord (Words.store file (otherField.start + index * otherField.size) value) =
      Function.update (otherWord file) index value := by
  funext other
  by_cases mine : other = index
  · subst mine
    rw [Function.update_self]
    exact Words.load32_store file _ value
  · rw [Function.update_of_ne mine]
    have different : other.val ≠ index.val := fun same => mine (Fin.ext same)
    refine Words.load32_store_apart file value ?_
    simp only [otherField, ArrayField.words]
    omega

theorem load_timeLo (file : Nat → Byte) (object : Controller007) :
    model.load file timeLoField object = (Words.store file timeLoField object.latchedLoValue, object) :=
  Chain.hook_fires (.case rfl (.caseMissed (by simp [Entry.Contains, timeLoField, timeHiField]) (.done _ _ _)) :
    Chain.Fires 0 timeLoField [] hookRead _) file object

theorem load_timeHi (file : Nat → Byte) (object : Controller007) :
    model.load file timeHiField object =
      (Words.store file timeHiField (BitVec.ofInt 32 (seconds object.elapsed)),
        { object with latchedLoValue := BitVec.ofInt 32 (microseconds object.elapsed) }) :=
  Chain.hook_fires (.caseMissed (by simp [Entry.Contains, timeLoField, timeHiField]) (.case rfl (.done _ _ _)) :
    Chain.Fires 0 timeHiField [] hookRead _) file object

theorem load_other (file : Nat → Byte) (object : Controller007) (index : Fin 10) :
    model.load file (otherField.start + index * otherField.size) object = (file, object) := by
  have behind := other_behind index
  have notLo : ¬ (Entry.case timeLoField).Contains (otherField.start + index * otherField.size) := by
    simp only [Entry.Contains, timeLoField, timeHiField] at behind ⊢
    omega
  have notHi : ¬ (Entry.case timeHiField).Contains (otherField.start + index * otherField.size) := by
    simp only [Entry.Contains]
    omega
  exact Chain.hook_fires (.caseMissed notLo (.caseMissed notHi (.done _ _ _)) : Chain.Fires 0 _ [] hookRead _) file object

theorem store_word (file : Nat → Byte) (object : Controller007) (address : Nat) (value : BitVec 32) :
    model.store file address 4 (Words.byte value) object = (Words.store file address value, object) := rfl

theorem implements : Implements registers model registersSize Represents where
  inside := by
    intro request
    cases request with
    | other index => exact ⟨Nat.succ_pos 3, other_inside index⟩
    | storeOther index value => exact ⟨Nat.succ_pos 3, other_inside index⟩
    | timeLo => exact ⟨Nat.succ_pos 3, (by decide : timeLoField + 4 ≤ registersSize)⟩
    | timeHi => exact ⟨Nat.succ_pos 3, (by decide : timeHiField + 4 ≤ registersSize)⟩
    | storeTimeLo value => exact ⟨Nat.succ_pos 3, (by decide : timeLoField + 4 ≤ registersSize)⟩
    | storeTimeHi value => exact ⟨Nat.succ_pos 3, (by decide : timeHiField + 4 ≤ registersSize)⟩
  load := by
    rintro request address width c file object access ⟨elapsed, latched, other⟩
    cases request with
    | timeLo =>
      cases access
      rw [load_timeLo, read_word _ (by decide), Words.load32_store, latched]
      refine ⟨⟨elapsed, latched, ?_⟩, rfl⟩
      rw [otherWord_registerFile, otherWord_store file lo_before, other]
      rfl
    | timeHi =>
      cases access
      rw [load_timeHi, read_word _ (by decide), Words.load32_store, elapsed]
      refine ⟨⟨rfl, rfl, ?_⟩, rfl⟩
      rw [otherWord_registerFile, otherWord_store file (Nat.le_refl _), other]
      rfl
    | other index =>
      cases access
      rw [load_other, read_word _ (other_inside index)]
      refine ⟨⟨elapsed, latched, ?_⟩, ?_⟩
      · rw [otherWord_registerFile, other]
        rfl
      · simp only [registers, ← other]
        rfl
    | _ => cases access
  store := by
    rintro request address width value c file object access ⟨elapsed, latched, other⟩
    cases request with
    | storeTimeLo value =>
      cases access
      rw [store_word]
      refine ⟨⟨elapsed, latched, ?_⟩, rfl⟩
      rw [otherWord_registerFile, otherWord_store file lo_before, other]
      rfl
    | storeTimeHi value =>
      cases access
      rw [store_word]
      refine ⟨⟨elapsed, latched, ?_⟩, rfl⟩
      rw [otherWord_registerFile, otherWord_store file (Nat.le_refl _), other]
      rfl
    | storeOther index value =>
      cases access
      rw [store_word]
      refine ⟨⟨elapsed, latched, ?_⟩, rfl⟩
      rw [otherWord_registerFile, otherWord_storeOther, other]
      rfl
    | _ => cases access
  background := by
    rintro reading c file file' object object' ⟨elapsed, latched, other⟩ ⟨⟩
    refine ⟨_, rfl, ⟨rfl, latched, ?_⟩⟩
    rw [otherWord_registerFile, other]

theorem blind : model.Blind :=
  ⟨fun elapsed object => some { object with elapsed }, fun _ _ _ => rfl⟩

def timeOf (hi lo : BitVec 32) : Nat := hi.toNat * 1000000 + lo.toNat

theorem timeOf_words {elapsed : Int} (positive : 0 ≤ elapsed) (small : seconds elapsed < 0x100000000) :
    (timeOf (BitVec.ofInt 32 (seconds elapsed)) (BitVec.ofInt 32 (microseconds elapsed)) : Int) = elapsed / 1000 := by
  have whole : elapsed.tdiv 1000 = elapsed / 1000 := Int.tdiv_eq_ediv_of_nonneg positive
  have nonneg : 0 ≤ elapsed / 1000 := Int.ediv_nonneg positive (by decide)
  have hi : seconds elapsed = elapsed / 1000 / 1000000 := by
    rw [seconds, whole, Int.tdiv_eq_ediv_of_nonneg nonneg]
  have lo : microseconds elapsed = elapsed / 1000 % 1000000 := by
    rw [microseconds, whole, Int.tmod_eq_emod_of_nonneg nonneg]
  have toNatHi : ((BitVec.ofInt 32 (seconds elapsed)).toNat : Int) = seconds elapsed :=
    Words.toNat_ofInt (by omega) small
  have toNatLo : ((BitVec.ofInt 32 (microseconds elapsed)).toNat : Int) = microseconds elapsed :=
    Words.toNat_ofInt (by omega) (by omega)
  rw [timeOf, Int.natCast_add, Int.natCast_mul, toNatHi, toNatLo, hi, lo]
  omega

/-- What the driver has read from one controller, with `clock j` the reading of its clock at the request behind the
    first `j` ones: a load of `TimeHi` and the next load of `TimeLo` are of the same instant, however far apart. -/
structure ReadsClock (driver : Driver Request) (controller : ControllerPtr) (history : List Loaded)
    (clock : Nat → Int) : Prop where
  high : ∀ j < history.length, driver (history.take j) = some (controller, .timeHi) →
    history[j]? = some [Words.bytes (BitVec.ofInt 32 (seconds (clock j)))]
  pair : ∀ j k, j < k → k < history.length → driver (history.take j) = some (controller, .timeHi) →
    (∀ m, j < m → m < k → driver (history.take m) ≠ some (controller, .timeHi)) →
      driver (history.take k) = some (controller, .timeLo) →
        ∃ hi lo, history[j]? = some [Words.bytes hi] ∧ history[k]? = some [Words.bytes lo] ∧
          lo = BitVec.ofInt 32 (microseconds (clock j)) ∧
          (0 ≤ clock j → seconds (clock j) < 0x100000000 → (timeOf hi lo : Int) = clock j / 1000)
  early : ∀ k < history.length, (∀ m < k, driver (history.take m) ≠ some (controller, .timeHi)) →
    driver (history.take k) = some (controller, .timeLo) → history[k]? = some [Words.bytes 0]

theorem respond_elapsed (request : Request) (c : Clock) : (registers.respond request c).1.elapsed = c.elapsed := by
  cases request <;> rfl

theorem respond_latched {request : Request} (quiet : request ≠ .timeHi) (c : Clock) :
    (registers.respond request c).1.latched = c.latched := by
  cases request with
  | timeHi => exact absurd rfl quiet
  | _ => rfl

variable {driver : Driver Request} {registry : Registry} {controller : ControllerPtr} {d : Driven Clock}
  {before : Nat → ControllerPtr → Clock} {initial : ControllerPtr → Clock}

theorem background_elapsed (reading : Int) (c next : Clock) (moved : registers.background reading c = some next) :
    next.elapsed = reading := by
  cases moved
  rfl

theorem later_latched {c c' : Clock} (later : registers.Later c c') : c'.latched = c.latched := by
  refine later.keeps Clock.latched ?_
  rintro reading c next ⟨⟩
  rfl

theorem latched_kept (stamped : Stamped registers driver initial d before) {j k : Nat} (le : j ≤ k)
    (present : k ≤ d.history.length)
    (quiet : ∀ m, j ≤ m → m < k → driver (d.history.take m) ≠ some (controller, .timeHi)) :
    (before k controller).latched = (before j controller).latched := by
  refine stamped.keeps Clock.latched ?_ le present ?_
  · rintro reading c next ⟨⟩
    rfl
  · intro m low high request asked c
    refine respond_latched (fun same => ?_) c
    subst same
    exact quiet m low high asked

theorem ReadsClock.of_stamped (stamped : Stamped registers driver initial d before)
    (fresh : (initial controller).latched = 0) :
    ReadsClock driver controller d.history fun j => (before j controller).elapsed where
  high := fun j present asked => (stamped.answer_of present asked).1
  pair := by
    intro j k less present asked quiet askedLo
    have presentHi := Nat.lt_trans less present
    obtain ⟨hi, later⟩ := stamped.answer_of presentHi asked
    obtain ⟨lo, -⟩ := stamped.answer_of present askedLo
    have latched : (before k controller).latched = (before j controller).elapsed := by
      rw [latched_kept stamped less (Nat.le_of_lt present) fun m low high => quiet m low high, later_latched later]
      rfl
    refine ⟨_, _, hi, lo, by rw [latched], fun positive small => ?_⟩
    rw [latched]
    exact timeOf_words positive small
  early := by
    intro k present quiet asked
    obtain ⟨lo, -⟩ := stamped.answer_of present asked
    have latched : (before k controller).latched = 0 := by
      rw [latched_kept stamped (Nat.zero_le k) (Nat.le_of_lt present) fun m _ high => quiet m high,
        later_latched (stamped.start controller), fresh]
    rw [lo]
    simp only [registers, latched]
    rfl

def reading (controller : ControllerPtr) (steps : List (ControllerPtr × Int)) : Int :=
  ((stepsOf controller steps).getLast?).getD 0

theorem foldl_last (steps : List Int) (start : Int) :
    steps.foldl (fun _ reading => reading) start = steps.getLast?.getD start := by
  induction steps generalizing start with
  | nil => rfl
  | cons first rest ih => rw [List.foldl_cons, ih, List.getLast?_cons, Option.getD_some]

def world (memory : Nat → Byte) : World (ControllerPtr → Controller007) :=
  { memory, device := fun _ => Controller007.start, trace := [] }

/-- The end-to-end property of the example, in every state between two requests. -/
def ReadsTime (cfg : Config Area (ControllerPtr → Controller007)) (registry : Registry) (driver : Driver Request)
    (memory : Nat → Byte) : Prop :=
  ∀ (actions : List (LiveAction Int)) (s : Machine Area (ControllerPtr → Controller007)),
    (∀ action ∈ actions, action.Driver) →
      Transition.run (Machine.live cfg model.backgrounds) (Machine.boot cfg registry (world memory)) actions = some s →
        s.Between 0 → ∃ moment,
          Moments cfg model.backgrounds (Machine.boot cfg registry (world memory)) actions (s.threads 0).history moment ∧
          ∀ controller, ReadsClock driver controller (s.threads 0).history fun j =>
            reading controller ((actions.take (moment j)).flatMap LiveAction.backgrounds)

def initialOther (registry : Registry) (memory : Nat → Byte) (controller : ControllerPtr) : Fin 10 → BitVec 32 :=
  match registry.ioMap[controller]? with
  | some ioSpace =>
    match registry.ioSpaces[ioSpace]? with
    | some space => otherWord (space.file memory)
    | none => fun _ => 0
  | none => fun _ => 0

theorem ReadsTime.of_law {cfg : Config Area (ControllerPtr → Controller007)} (law : cfg.platform.Law)
    (same : Registered model registersSize registry) (controllers : cfg.controllers = model.controllers)
    (program : cfg.program = registers.program registry driver) (memory : Nat → Byte) :
    ReadsTime cfg registry driver memory := by
  intro actions s drivers ran between
  have start : ∀ {controller : ControllerPtr} {ioSpace : IoSpacePtr} {space : IoSpace},
      registry.ioMap[controller]? = some ioSpace → registry.ioSpaces[ioSpace]? = some space →
        Represents (Clock.start (initialOther registry memory controller)) (space.file (world memory).memory)
          ((world memory).device controller) := by
    intro controller ioSpace space entry present
    refine ⟨rfl, (by decide : (0 : BitVec 32) = BitVec.ofInt 32 (microseconds 0)), ?_⟩
    simp only [Clock.start, initialOther, entry, present]
    rfl
  obtain ⟨answers, lockstep⟩ :=
    DriverRefines.of_law law implements blind same controllers program start actions s drivers ran
  obtain ⟨m, d, reached, driven, settled⟩ := lockstep.ran
  rw [ran, Option.some.injEq] at reached
  subst reached
  obtain ⟨moment, before, timed⟩ := Timed.of_run driven
  rw [(settled between).history]
  refine ⟨moment, timed.moments lockstep, fun controller => ?_⟩
  have clock {j : Nat} (present : j ≤ d.history.length) : (before j controller).elapsed =
      reading controller ((actions.take (moment j)).flatMap LiveAction.backgrounds) := by
    have fold : (before j controller).elapsed =
        (stepsOf controller ((actions.take (moment j)).flatMap LiveAction.backgrounds)).foldl (fun _ reading => reading) 0 :=
      timed.view_before lockstep respond_elapsed background_elapsed controller present
    rw [fold, foldl_last, reading]
  have reads : ReadsClock driver controller d.history fun j => (before j controller).elapsed :=
    ReadsClock.of_stamped timed.toStamped rfl
  obtain ⟨high, pair, early⟩ := reads
  refine ⟨?_, ?_, early⟩
  · intro j present
    rw [← clock (Nat.le_of_lt present)]
    exact high j present
  · intro j k less present
    rw [← clock (Nat.le_of_lt (Nat.lt_trans less present))]
    exact pair j k less present

theorem latched_time (registry : Registry) (same : Registered model registersSize registry) (driver : Driver Request)
    (memory : Nat → Byte) :
    ReadsTime
        { platform := Posix.platform, controllers := model.controllers, program := registers.program registry driver }
        registry driver memory ∧
      ReadsTime
        { platform := Windows.platform, controllers := model.controllers, program := registers.program registry driver }
        registry driver memory :=
  ⟨ReadsTime.of_law Posix.law same rfl rfl memory, ReadsTime.of_law Windows.law same rfl rfl memory⟩

def one : List Lifetime := [.construct 8 48 .read ⟨100, 0x10000, 0x50000⟩]

def inPairs : Driver Request := fun history => some (8, if history.length % 2 = 0 then .timeHi else .timeLo)

def pairDriven {Area : Type} (platform : Platform Area) : Config Area (ControllerPtr → Controller007) :=
  { platform
    controllers := model.controllers
    program := registers.program (Registry.after one) inPairs }

def pairActions : List (LiveAction Int) :=
  [(3000002000, 2), (5000001000, 7), (4000003000, 9)].flatMap fun counts =>
    .background 8 counts.1 :: List.replicate counts.2 (.processor 0 ⟨0, true⟩)

def ReadsPair {Area : Type} (platform : Platform Area) : Prop :=
  ∃ s moment,
    Transition.run (Machine.live (pairDriven platform) model.backgrounds)
      (Machine.boot (pairDriven platform) (Registry.after one) (world fun _ => 0)) pairActions = some s ∧
    (s.threads 0).history = [[Words.bytes 5#32], [Words.bytes 1#32]] ∧
    Moments (pairDriven platform) model.backgrounds
      (Machine.boot (pairDriven platform) (Registry.after one) (world fun _ => 0)) pairActions (s.threads 0).history moment ∧
    ReadsClock inPairs 8 (s.threads 0).history fun j =>
      reading 8 ((pairActions.take (moment j)).flatMap LiveAction.backgrounds)

theorem latched_time_one : ReadsPair Posix.platform ∧ ReadsPair Windows.platform := by
  have drivers : ∀ action ∈ pairActions, action.Driver := by
    simp [pairActions, LiveAction.Driver]
  have posix : Transition.run (Machine.live (pairDriven Posix.platform) model.backgrounds)
      (Machine.boot (pairDriven Posix.platform) (Registry.after one) (world fun _ => 0)) pairActions =
        some (Transition.reach _ _ pairActions) :=
    Transition.run_eq_reach (by decide +kernel)
  have windows : Transition.run (Machine.live (pairDriven Windows.platform) model.backgrounds)
      (Machine.boot (pairDriven Windows.platform) (Registry.after one) (world fun _ => 0)) pairActions =
        some (Transition.reach _ _ pairActions) :=
    Transition.run_eq_reach (by decide +kernel)
  have times := latched_time (Registry.after one) (Registered.after one (by decide) (by decide)) inPairs fun _ => 0
  constructor
  · obtain ⟨moment, moments, reads⟩ := times.1 pairActions _ drivers posix ⟨by decide +kernel, by decide +kernel⟩
    exact ⟨_, moment, posix, by decide +kernel, moments, reads 8⟩
  · obtain ⟨moment, moments, reads⟩ := times.2 pairActions _ drivers windows ⟨by decide +kernel, by decide +kernel⟩
    exact ⟨_, moment, windows, by decide +kernel, moments, reads 8⟩

end ExMM.LatchedTime
