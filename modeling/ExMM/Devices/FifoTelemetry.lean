import ExMM.Dsl.Hooks
import ExMM.Live.Histories
import ExMM.Model.FifoTelemetry

namespace ExMM.FifoTelemetry

variable {Area : Type}

/-- What the controller is for. Records are numbered by the rounds of the generator; those that it could
    store are `generated`, and the driver has taken over the first `latched` of them. -/
structure Telemetry where
  rounds : Nat
  generated : List Nat
  latched : Nat
  drained : Bool
  interrupts : Nat
  taken : latched ≤ generated.length
  fits : generated.length ≤ latched + fifoMaxSize
  increasing : generated.Pairwise (· < ·)
  earlier : ∀ number ∈ generated, number < rounds
  lossless : ∀ k < fifoMaxSize, k < generated.length → generated[k]? = some k
  complete : generated.length < fifoMaxSize → rounds = generated.length

namespace Telemetry

def start : Telemetry where
  rounds := 0
  generated := []
  latched := 0
  drained := false
  interrupts := 0
  taken := Nat.le_refl _
  fits := Nat.zero_le _
  increasing := List.Pairwise.nil
  earlier := fun _ member => by cases member
  lossless := fun k _ present => by simp at present
  complete := fun _ => rfl

def usage (t : Telemetry) : Nat := t.generated.length - t.latched

def round (t : Telemetry) : Telemetry :=
  if room : t.usage < fifoMaxSize then
    { t with
      rounds := t.rounds + 1
      generated := t.generated ++ [t.rounds]
      interrupts := if t.usage + 1 = fifoMaxSize / 2 then t.interrupts + 1 else t.interrupts
      taken := by
        have taken := t.taken
        simp only [List.length_append]
        omega
      fits := by
        have taken := t.taken
        simp only [usage] at room
        simp only [List.length_append, List.length_singleton]
        omega
      increasing := by
        refine List.pairwise_append.mpr ⟨t.increasing, List.pairwise_singleton _ _, fun number member last same => ?_⟩
        rw [List.mem_singleton.mp same]
        exact t.earlier number member
      earlier := by
        intro number member
        rcases List.mem_append.mp member with old | new
        · exact Nat.lt_succ_of_lt (t.earlier number old)
        · rw [List.mem_singleton.mp new]
          exact Nat.lt_succ_self _
      lossless := by
        intro k small present
        rw [List.length_append, List.length_singleton] at present
        by_cases old : k < t.generated.length
        · rw [List.getElem?_append_left old]
          exact t.lossless k small old
        · have last : k = t.generated.length := by omega
          subst last
          rw [List.getElem?_append_right (Nat.le_refl _), Nat.sub_self, t.complete small]
          rfl
      complete := by
        intro small
        rw [List.length_append, List.length_singleton] at small ⊢
        rw [t.complete (by omega)] }
  else
    { t with
      rounds := t.rounds + 1
      earlier := fun number member => Nat.lt_succ_of_lt (t.earlier number member)
      complete := by
        intro small
        have taken := t.taken
        simp only [usage] at room
        omega }

def next (t : Telemetry) : Telemetry :=
  if waiting : t.latched < t.generated.length then
    { t with
      latched := t.latched + 1
      drained := decide (t.latched + 1 = t.generated.length)
      taken := waiting
      fits := by
        have fits := t.fits
        omega }
  else t

def record (t : Telemetry) : TelemetryRecord :=
  if t.latched = 0 then .zero
  else TelemetryRecord.generated (BitVec.ofNat 32 (t.generated.getD (t.latched - 1) 0))

/-- The full bit is set from the first record on, and the empty bit stays set until the next record is
    taken over, however many have been generated since. -/
def status (t : Telemetry) : StatusFields where
  statusUsage := BitVec.ofNat 8 t.usage
  statusFifoEmpty := t.drained
  statusFifoFull := decide (0 < t.latched)
  statusFifoHalfFull := decide (fifoMaxSize / 2 ≤ t.usage)
  statusInterruptFlag := false

end Telemetry

def TelemetryRecord.word (record : TelemetryRecord) (index : Fin 4) : BitVec 32 := record.words.get index

theorem TelemetryRecord.word_getD (record : TelemetryRecord) (index : Fin 4) :
    record.words[index.val]?.getD 0 = record.word index := by
  rw [Vector.getElem?_eq_getElem index.isLt]
  rfl

def registers : RegisterSet Request Telemetry Unit where
  access := Request.access
  respond := fun request t =>
    match request with
    | .status => (t, [Words.bytes t.status.word])
    | .telemetry index => (t, [Words.bytes (t.record.word index)])
    | .nextRecord value => (if value then t.next else t, [])
    | .storeStatus value => (if Words.byte value 0 ≠ 0 then t.next else t, [])
    | .storeTelemetry _ _ => (t, [])
  background := fun _ t => some t.round

structure Represents (t : Telemetry) (object : Controller101) : Prop where
  fifo : object.fifo = (t.generated.drop t.latched).map fun number =>
    TelemetryRecord.generated (BitVec.ofNat 32 number)
  shadowRecord : object.shadowRecord = t.record
  shadowStatus : object.shadowStatus = t.status
  counter : object.counter = BitVec.ofNat 32 t.rounds
  interrupts : object.interrupts = t.interrupts

theorem Represents.start : Represents Telemetry.start Controller101.start := by
  refine ⟨rfl, rfl, ?_, rfl, rfl⟩
  decide

theorem Represents.length {t : Telemetry} {object : Controller101} (represents : Represents t object) :
    object.fifo.length = t.usage := by
  rw [represents.fifo, List.length_map, List.length_drop]
  rfl

/-- The branch for the full FIFO is never taken: a full FIFO is more than half full. -/
theorem Controller101.generateTelemetry_room {object : Controller101} (room : object.fifo.length < fifoMaxSize) :
    object.generateTelemetry =
      { object with
        fifo := object.fifo ++ [TelemetryRecord.generated object.counter]
        shadowStatus :=
          { object.shadowStatus with
            statusUsage := BitVec.ofNat 8 (object.fifo.length + 1)
            statusFifoHalfFull :=
              object.shadowStatus.statusFifoHalfFull || decide (fifoMaxSize / 2 ≤ object.fifo.length + 1) }
        interrupts :=
          if object.fifo.length + 1 = fifoMaxSize / 2 then object.interrupts + 1 else object.interrupts
        counter := object.counter + 1 } := by
  simp only [Controller101.generateTelemetry, if_pos room, List.length_append, List.length_singleton]
  rcases Nat.lt_trichotomy (object.fifo.length + 1) (fifoMaxSize / 2) with below | half | above
  · have notAbove : ¬ object.fifo.length + 1 > fifoMaxSize / 2 := by omega
    have notHalf : object.fifo.length + 1 ≠ fifoMaxSize / 2 := by omega
    have notFull : object.fifo.length + 1 ≠ fifoMaxSize := by
      have : fifoMaxSize / 2 ≤ fifoMaxSize := Nat.div_le_self _ _
      omega
    have notReached : ¬ fifoMaxSize / 2 ≤ object.fifo.length + 1 := by omega
    simp only [if_neg notAbove, if_neg notHalf, if_neg notFull, decide_eq_false notReached, Bool.or_false]
  · have notAbove : ¬ object.fifo.length + 1 > fifoMaxSize / 2 := by omega
    have reached : fifoMaxSize / 2 ≤ object.fifo.length + 1 := by omega
    simp only [if_neg notAbove, if_pos half, decide_eq_true reached, Bool.or_true]
  · have notHalf : object.fifo.length + 1 ≠ fifoMaxSize / 2 := by omega
    have reached : fifoMaxSize / 2 ≤ object.fifo.length + 1 := by omega
    simp only [if_pos above, if_neg notHalf, decide_eq_true reached, Bool.or_true]

theorem Telemetry.round_room {t : Telemetry} (room : t.usage < fifoMaxSize) :
    t.round.generated = t.generated ++ [t.rounds] ∧ t.round.latched = t.latched ∧
      t.round.rounds = t.rounds + 1 ∧ t.round.drained = t.drained ∧
      t.round.interrupts = if t.usage + 1 = fifoMaxSize / 2 then t.interrupts + 1 else t.interrupts := by
  simp only [Telemetry.round, dif_pos room, and_self]

theorem Telemetry.round_full {t : Telemetry} (full : ¬ t.usage < fifoMaxSize) :
    t.round.generated = t.generated ∧ t.round.latched = t.latched ∧ t.round.rounds = t.rounds + 1 ∧
      t.round.drained = t.drained ∧ t.round.interrupts = t.interrupts := by
  simp only [Telemetry.round, dif_neg full, and_self]

theorem Represents.round {t : Telemetry} {object : Controller101} (represents : Represents t object) :
    Represents t.round object.generateTelemetry := by
  have length := represents.length
  have taken := t.taken
  by_cases room : t.usage < fifoMaxSize
  · have roomHere : object.fifo.length < fifoMaxSize := by rw [length]; exact room
    obtain ⟨generated, latched, rounds, drained, interrupts⟩ := Telemetry.round_room room
    have usage : t.round.usage = t.usage + 1 := by
      simp only [Telemetry.usage, generated, latched, List.length_append, List.length_singleton]
      omega
    rw [Controller101.generateTelemetry_room roomHere]
    refine ⟨?_, ?_, ?_, ?_, ?_⟩
    · rw [generated, latched, List.drop_append_of_le_length taken, List.map_append, represents.fifo,
        represents.counter]
      rfl
    · rw [represents.shadowRecord]
      simp only [Telemetry.record, generated, latched]
      split
      · rfl
      · have old : t.latched - 1 < t.generated.length := by omega
        rw [List.getD_eq_getElem?_getD, List.getD_eq_getElem?_getD, List.getElem?_append_left old]
    · rw [represents.shadowStatus]
      simp only [Telemetry.status, usage, latched, drained, length, StatusFields.mk.injEq, true_and, and_true]
      rw [← Bool.decide_or]
      congr 1
      simp only [eq_iff_iff]
      omega
    · simp only [represents.counter, rounds]
      exact (BitVec.ofNat_add _ _).symm
    · simp only [represents.interrupts, interrupts, length]
  · have fullHere : ¬ object.fifo.length < fifoMaxSize := by rw [length]; exact room
    obtain ⟨generated, latched, rounds, drained, interrupts⟩ := Telemetry.round_full room
    simp only [Controller101.generateTelemetry, if_neg fullHere]
    refine ⟨?_, ?_, ?_, ?_, ?_⟩
    · rw [generated, latched]
      exact represents.fifo
    · simp only [Telemetry.record, generated, latched]
      exact represents.shadowRecord
    · simp only [Telemetry.status, Telemetry.usage, generated, latched, drained]
      exact represents.shadowStatus
    · simp only [represents.counter, rounds]
      exact (BitVec.ofNat_add _ _).symm
    · rw [interrupts]
      exact represents.interrupts

theorem Represents.next {t : Telemetry} {object : Controller101} (represents : Represents t object) :
    Represents t.next object.nextRecord := by
  have fits := t.fits
  by_cases waiting : t.latched < t.generated.length
  · have front : t.generated.drop t.latched =
        t.generated[t.latched] :: t.generated.drop (t.latched + 1) := List.drop_eq_getElem_cons waiting
    have fifo := represents.fifo
    rw [front, List.map_cons] at fifo
    simp only [Controller101.nextRecord, fifo, Telemetry.next, dif_pos waiting]
    refine ⟨rfl, ?_, ?_, represents.counter, represents.interrupts⟩
    · simp only [Telemetry.record, Nat.add_sub_cancel, Nat.succ_ne_zero, if_false]
      rw [List.getD_eq_getElem?_getD, List.getElem?_eq_getElem waiting, Option.getD_some]
    · rw [represents.shadowStatus]
      have length : ((t.generated.drop (t.latched + 1)).map fun number =>
          TelemetryRecord.generated (BitVec.ofNat 32 number)).length = t.generated.length - (t.latched + 1) := by
        rw [List.length_map, List.length_drop]
      have empty : ((t.generated.drop (t.latched + 1)).map fun number =>
          TelemetryRecord.generated (BitVec.ofNat 32 number)).isEmpty =
            decide (t.latched + 1 = t.generated.length) := by
        rw [Bool.eq_iff_iff, List.isEmpty_iff_length_eq_zero, length, decide_eq_true_iff]
        omega
      have room : t.generated.length - (t.latched + 1) < fifoMaxSize := by omega
      have some : 0 < t.latched + 1 := Nat.succ_pos _
      rw [StatusFields.mk.injEq, length, empty, decide_eq_true room]
      exact ⟨rfl, rfl, (decide_eq_true some).symm, rfl, rfl⟩
  · have fifo := represents.fifo
    rw [List.drop_eq_nil_of_le (by omega)] at fifo
    simp only [Controller101.nextRecord, fifo, List.map_nil, Telemetry.next, dif_neg waiting]
    exact represents

theorem telemetry_behind (index : Fin 4) :
    ¬ (Entry.case statusField).Contains (telemetryField.start + index * telemetryField.size) := by
  simp only [Entry.Contains, statusField, telemetryField, ArrayField.words]
  omega

theorem status_before : ¬ (Entry.caseArray telemetryField).Contains statusField := by
  rintro ⟨i, -, same⟩
  simp only [statusField, telemetryField, ArrayField.words] at same
  omega

theorem load_status (file : Nat → Byte) (object : Controller101) :
    model.load file statusField object = (Words.store file statusField object.shadowStatus.word, object) := by
  have fires := Chain.hook_fires (.case rfl (.caseArrayMissed status_before (.done _ _ _)) :
    Chain.Fires 0 statusField [] hookRead _) file object
  exact fires

theorem load_telemetry (file : Nat → Byte) (object : Controller101) (index : Fin 4) :
    model.load file (telemetryField.start + index * telemetryField.size) object =
      (Words.store file (telemetryField.start + index * telemetryField.size) (object.shadowRecord.word index),
        object) := by
  have fires := Chain.hook_fires (.caseMissed (telemetry_behind index)
    (.caseArray index.val index.isLt rfl (.done _ _ _)) : Chain.Fires 0 _ [] hookRead _) file object
  have word := object.shadowRecord.word_getD index
  simp only [List.foldl_cons, List.foldl_nil, Invocation.perform, Nat.zero_add, word] at fires
  exact fires

theorem store_status (file : Nat → Byte) (object : Controller101) {width : Nat} (positive : 0 < width)
    (value : Nat → Byte) : model.store file statusField width value object =
      (Bytes.write file statusField width value, if value 0 ≠ 0 then object.nextRecord else object) := by
  have first : Bytes.write file statusField width value statusField = value 0 :=
    Bytes.write_inside _ _ _ _ _ ⟨Nat.le_refl _, by omega⟩
  have fires := Chain.hook_fires (.case rfl (.done _ _ _) : Chain.Fires 0 statusField [] hookWrite _)
    (Bytes.write file statusField width value) object
  simp only [List.foldl_cons, List.foldl_nil, Invocation.perform, Nat.zero_add, first] at fires
  refine Eq.trans fires ?_
  split <;> rfl

theorem store_telemetry (file : Nat → Byte) (object : Controller101) (index : Fin 4) (width : Nat)
    (value : Nat → Byte) :
    model.store file (telemetryField.start + index * telemetryField.size) width value object =
      (Bytes.write file (telemetryField.start + index * telemetryField.size) width value, object) :=
  Chain.hook_fires (.caseMissed (telemetry_behind index) (.done _ _ _) : Chain.Fires 0 _ [] hookWrite _) _ object

theorem telemetry_inside (index : Fin 4) :
    telemetryField.start + index * telemetryField.size + 4 ≤ registersSize := by
  simp only [telemetryField, ArrayField.words, registersSize]
  omega

theorem implements : Implements registers model registersSize fun t _ object => Represents t object where
  inside := by
    intro request
    cases request with
    | status => decide
    | telemetry index => exact ⟨Nat.succ_pos 3, telemetry_inside index⟩
    | nextRecord value => exact ⟨Nat.one_pos, (by decide : statusField + 1 ≤ registersSize)⟩
    | storeStatus value => exact ⟨Nat.succ_pos 3, (by decide : statusField + 4 ≤ registersSize)⟩
    | storeTelemetry index value => exact ⟨Nat.succ_pos 3, telemetry_inside index⟩
  load := by
    intro request address width t file object access represents
    cases request with
    | status =>
      cases access
      rw [load_status]
      refine ⟨represents, ?_⟩
      rw [read_word _ (by decide), Words.load32_store, represents.shadowStatus]
      rfl
    | telemetry index =>
      cases access
      rw [load_telemetry]
      refine ⟨represents, ?_⟩
      rw [read_word _ (telemetry_inside index), Words.load32_store, represents.shadowRecord]
      rfl
    | nextRecord value => cases access
    | storeStatus value => cases access
    | storeTelemetry index value => cases access
  store := by
    intro request address width value t file object access represents
    cases request with
    | status => cases access
    | telemetry index => cases access
    | nextRecord value =>
      cases access
      rw [store_status file object Nat.one_pos]
      refine ⟨?_, rfl⟩
      cases value with
      | false => exact represents
      | true => exact represents.next
    | storeStatus value =>
      cases access
      rw [store_status file object (Nat.succ_pos 3)]
      refine ⟨?_, rfl⟩
      simp only [registers]
      split
      · exact represents.next
      · exact represents
    | storeTelemetry index value =>
      cases access
      rw [store_telemetry]
      exact ⟨represents, rfl⟩
  background := by
    intro step t file file' object object' represents stepped
    cases stepped
    exact ⟨t.round, rfl, represents.round⟩

theorem blind : model.Blind := ⟨fun _ object => some object.generateTelemetry, fun _ _ _ => rfl⟩

def world (memory : Nat → Byte) : World (ControllerPtr → Controller101) :=
  { memory, device := fun _ => Controller101.start, trace := [] }

theorem telemetry_delivered (registry : Registry) (same : Registered model registersSize registry)
    (driver : Driver Request) (memory : Nat → Byte) :
    DriverRefines
        { platform := Posix.platform, controllers := model.controllers, program := registers.program registry driver }
        registers (fun t _ object => Represents t object) registry model.backgrounds driver (fun _ => Telemetry.start)
        (world memory) ∧
      DriverRefines
        { platform := Windows.platform, controllers := model.controllers, program := registers.program registry driver }
        registers (fun t _ object => Represents t object) registry model.backgrounds driver (fun _ => Telemetry.start)
        (world memory) :=
  ⟨DriverRefines.of_law Posix.law implements blind same rfl rfl fun _ _ => Represents.start,
    DriverRefines.of_law Windows.law implements blind same rfl rfl fun _ _ => Represents.start⟩

def two : List Lifetime :=
  [.construct 8 20 .readWrite ⟨100, 0x10000, 0x50000⟩, .construct 4 20 .readWrite ⟨200, 0x11000, 0x60000⟩]

theorem two_registered : Registered model registersSize (Registry.after two) :=
  Registered.after two (by decide) (by decide)

def firstWords : Driver Request := fun history =>
  some (8, if history.length % 2 = 0 then .nextRecord true else .telemetry 0)

theorem telemetry_delivered_two :
    DriverRefines
        { platform := Posix.platform
          controllers := model.controllers
          program := registers.program (Registry.after two) firstWords }
        registers (fun t _ object => Represents t object) (Registry.after two) model.backgrounds firstWords
        (fun _ => Telemetry.start) (world fun _ => 0) ∧
      DriverRefines
        { platform := Windows.platform
          controllers := model.controllers
          program := registers.program (Registry.after two) firstWords }
        registers (fun t _ object => Represents t object) (Registry.after two) model.backgrounds firstWords
        (fun _ => Telemetry.start) (world fun _ => 0) :=
  telemetry_delivered (Registry.after two) two_registered firstWords fun _ => 0

def recordAfter (numbers : List Nat) (latched : Nat) : TelemetryRecord :=
  if latched = 0 then .zero
  else TelemetryRecord.generated (BitVec.ofNat 32 (numbers.getD (latched - 1) 0))

def Request.Latches : Request → Prop
  | .nextRecord value => value = true
  | .storeStatus value => Words.byte value 0 ≠ 0
  | _ => False

/-- What the driver has read from one controller. At the request behind the first `j` ones its generator has gone
    round `rounds j` times, it has stored `generated j` records, and `latches j` of them have been taken over;
    `numbers` tells which rounds the records are from. A round is lost only while 255 records wait, and none of the
    records is read twice, skipped or torn. -/
structure InOrder (driver : Driver Request) (controller : ControllerPtr) (history : List Loaded) (rounds : Nat → Nat)
    (numbers : List Nat) (generated latches : Nat → Nat) : Prop where
  increasing : numbers.Pairwise (· < ·)
  lossless : ∀ k < fifoMaxSize, k < numbers.length → numbers[k]? = some k
  none : latches 0 = 0
  first : generated 0 = min (rounds 0) fifoMaxSize
  stores : ∀ j < history.length,
    generated (j + 1) = min (generated j + (rounds (j + 1) - rounds j)) (latches (j + 1) + fifoMaxSize)
  numbered : ∀ j < history.length, ∀ k, generated j ≤ k → k < generated (j + 1) →
    numbers[k]? = some (rounds j + (k - generated j))
  ends : numbers.length = generated history.length
  bounded : ∀ j ≤ history.length, latches j ≤ generated j
  advance : ∀ j < history.length, ∀ request, driver (history.take j) = some (controller, request) → request.Latches →
    latches j < generated j → latches (j + 1) = latches j + 1
  stays : ∀ j < history.length, (∀ request, driver (history.take j) = some (controller, request) → request.Latches →
    latches j = generated j) → latches (j + 1) = latches j
  loaded : ∀ (j : Nat) (index : Fin 4), j < history.length →
    driver (history.take j) = some (controller, .telemetry index) →
      history[j]? = some [Words.bytes ((recordAfter numbers (latches j)).word index)]

theorem recordAfter_append {numbers : List Nat} {latched : Nat} (bound : latched ≤ numbers.length) (more : List Nat) :
    recordAfter (numbers ++ more) latched = recordAfter numbers latched := by
  simp only [recordAfter]
  split
  · rfl
  · have old : latched - 1 < numbers.length := by omega
    rw [List.getD_eq_getElem?_getD, List.getD_eq_getElem?_getD, List.getElem?_append_left old]

structure Telemetry.GoesOn (t t' : Telemetry) : Prop where
  latched : t'.latched = t.latched
  rounds : t.rounds ≤ t'.rounds
  generated : t'.generated = t.generated ++
    List.range' t.rounds (min (t'.rounds - t.rounds) (t.latched + fifoMaxSize - t.generated.length))

namespace Telemetry.GoesOn

theorem refl (t : Telemetry) : t.GoesOn t where
  latched := rfl
  rounds := Nat.le_refl _
  generated := by simp

theorem length {t t' : Telemetry} (goesOn : t.GoesOn t') :
    t'.generated.length = min (t.generated.length + (t'.rounds - t.rounds)) (t.latched + fifoMaxSize) := by
  have fits := t.fits
  rw [goesOn.generated, List.length_append, List.length_range']
  omega

theorem trans {first second third : Telemetry} (one : first.GoesOn second) (two : second.GoesOn third) :
    first.GoesOn third where
  latched := two.latched.trans one.latched
  rounds := Nat.le_trans one.rounds two.rounds
  generated := by
    have length := one.length
    have fits := first.fits
    have earlier := one.rounds
    have later := two.rounds
    rw [two.generated, one.latched, length, one.generated, List.append_assoc]
    congr 1
    by_cases room : second.rounds - first.rounds ≤ first.latched + fifoMaxSize - first.generated.length
    · have start : second.rounds = first.rounds + (second.rounds - first.rounds) := by omega
      rw [Nat.min_eq_left room]
      conv => lhs; rhs; rw [start]
      rw [List.range'_append_1]
      congr 1
      omega
    · have full : min (third.rounds - second.rounds) (first.latched + fifoMaxSize -
          min (first.generated.length + (second.rounds - first.rounds)) (first.latched + fifoMaxSize)) = 0 := by omega
      rw [full, List.range'_zero, List.append_nil]
      congr 1
      omega

theorem round (t : Telemetry) : t.GoesOn t.round := by
  have fits := t.fits
  by_cases room : t.usage < fifoMaxSize
  · obtain ⟨generated, latched, rounds, -⟩ := Telemetry.round_room room
    have one : min (t.rounds + 1 - t.rounds) (t.latched + fifoMaxSize - t.generated.length) = 1 := by
      have taken := t.taken
      simp only [Telemetry.usage] at room
      omega
    refine ⟨latched, ?_, ?_⟩
    · rw [rounds]
      exact Nat.le_succ _
    · rw [generated, rounds, one]
      rfl
  · obtain ⟨generated, latched, rounds, -⟩ := Telemetry.round_full room
    have none : min (t.rounds + 1 - t.rounds) (t.latched + fifoMaxSize - t.generated.length) = 0 := by
      have taken := t.taken
      unfold Telemetry.usage at room
      omega
    refine ⟨latched, ?_, ?_⟩
    · rw [rounds]
      exact Nat.le_succ _
    · rw [generated, rounds, none]
      simp

theorem later {t t' : Telemetry} (later : registers.Later t t') : t.GoesOn t' := by
  refine later.relates Telemetry.GoesOn refl trans ?_
  rintro step t next ⟨⟩
  exact round t

theorem appends {t t' : Telemetry} (goesOn : t.GoesOn t') : t.generated <+: t'.generated := by
  rw [goesOn.generated]
  exact List.prefix_append _ _

theorem numbered {t t' : Telemetry} (goesOn : t.GoesOn t') {k : Nat} (old : t.generated.length ≤ k)
    (present : k < t'.generated.length) : t'.generated[k]? = some (t.rounds + (k - t.generated.length)) := by
  have length := goesOn.length
  rw [goesOn.generated, List.getElem?_append_right old, List.getElem?_range' (by omega), Nat.one_mul]

end Telemetry.GoesOn

theorem Telemetry.next_generated (t : Telemetry) : t.next.generated = t.generated ∧ t.next.rounds = t.rounds := by
  simp only [Telemetry.next]
  split <;> exact ⟨rfl, rfl⟩

theorem Telemetry.next_latched (t : Telemetry) :
    t.next.latched = if t.latched < t.generated.length then t.latched + 1 else t.latched := by
  simp only [Telemetry.next]
  split <;> rfl

theorem respond_latches {request : Request} (latches : request.Latches) (t : Telemetry) :
    (registers.respond request t).1 = t.next := by
  cases request with
  | nextRecord value =>
    cases latches
    rfl
  | storeStatus value => exact if_pos latches
  | _ => exact absurd latches id

theorem respond_other {request : Request} (quiet : ¬ request.Latches) (t : Telemetry) :
    (registers.respond request t).1 = t := by
  cases request with
  | nextRecord value =>
    cases value with
    | false => rfl
    | true => exact absurd rfl quiet
  | storeStatus value => exact if_neg quiet
  | _ => rfl

theorem respond_generated (request : Request) (t : Telemetry) :
    (registers.respond request t).1.generated = t.generated ∧ (registers.respond request t).1.rounds = t.rounds := by
  by_cases latches : request.Latches
  · rw [respond_latches latches]
    exact t.next_generated
  · rw [respond_other latches]
    exact ⟨rfl, rfl⟩

variable {driver : Driver Request} {registry : Registry} {controller : ControllerPtr} {d : Driven Telemetry}
  {before : Nat → ControllerPtr → Telemetry}

theorem appends (stamped : Stamped registers driver (fun _ => Telemetry.start) d before) (controller : ControllerPtr)
    {j : Nat} (present : j ≤ d.history.length) :
    (before j controller).generated <+: (d.objects controller).generated := by
  have respond : ∀ request (t : Telemetry), t.generated <+: (registers.respond request t).1.generated := by
    intro request t
    refine ⟨[], ?_⟩
    rw [List.append_nil, (respond_generated request t).1]
  have background : ∀ step (t next : Telemetry), registers.background step t = some next →
      t.generated <+: next.generated := by
    rintro step t next ⟨⟩
    exact (Telemetry.GoesOn.round t).appends
  have above := stamped.between (fun t t' => t.generated <+: t'.generated) (fun t => List.prefix_refl _)
    (fun one two => one.trans two) background present (Nat.le_refl _)
    fun _ _ _ request (_ : driver _ = some (controller, request)) => respond request
  rwa [stamped.now] at above

inductive Continues (driver : Driver Request) (controller : ControllerPtr) (asked : List Loaded) (t t' : Telemetry) : Prop
  | latches (request : Request) (issued : driver asked = some (controller, request)) (latches : request.Latches)
      (goesOn : t.next.GoesOn t')
  | other (quiet : ∀ request, driver asked = some (controller, request) → ¬ request.Latches) (goesOn : t.GoesOn t')

theorem continues (stamped : Stamped registers driver (fun _ => Telemetry.start) d before) (controller : ControllerPtr)
    {j : Nat} (present : j < d.history.length) :
    Continues driver controller (d.history.take j) (before j controller) (before (j + 1) controller) := by
  obtain ⟨owner, request, asked, -, onwards⟩ := stamped.answer j present
  have later := Telemetry.GoesOn.later (onwards controller)
  by_cases mine : controller = owner
  · subst mine
    rw [Function.update_self] at later
    by_cases latches : request.Latches
    · rw [respond_latches latches] at later
      exact .latches request asked latches later
    · rw [respond_other latches] at later
      refine .other (fun other issued => ?_) later
      rw [asked, Option.some.injEq, Prod.mk.injEq] at issued
      rw [← issued.2]
      exact latches
  · rw [Function.update_of_ne mine] at later
    refine .other (fun other issued => ?_) later
    rw [asked, Option.some.injEq, Prod.mk.injEq] at issued
    exact absurd issued.1.symm mine

namespace Continues

variable {asked : List Loaded} {t t' : Telemetry}

theorem length (continues : Continues driver controller asked t t') :
    t'.generated.length = min (t.generated.length + (t'.rounds - t.rounds)) (t'.latched + fifoMaxSize) := by
  cases continues with
  | latches request issued latches goesOn =>
    rw [goesOn.length, goesOn.latched, t.next_generated.1, t.next_generated.2]
  | other quiet goesOn => rw [goesOn.length, goesOn.latched]

theorem numbered (continues : Continues driver controller asked t t') {k : Nat} (old : t.generated.length ≤ k)
    (present : k < t'.generated.length) : t'.generated[k]? = some (t.rounds + (k - t.generated.length)) := by
  cases continues with
  | latches request issued latches goesOn =>
    rw [← t.next_generated.1] at old ⊢
    rw [goesOn.numbered old present, t.next_generated.2]
  | other quiet goesOn => exact goesOn.numbered old present

theorem advance (continues : Continues driver controller asked t t') {request : Request}
    (issued : driver asked = some (controller, request)) (latches : request.Latches)
    (waiting : t.latched < t.generated.length) : t'.latched = t.latched + 1 := by
  cases continues with
  | latches _ _ _ goesOn => rw [goesOn.latched, t.next_latched, if_pos waiting]
  | other quiet _ => exact absurd latches (quiet request issued)

theorem stays (continues : Continues driver controller asked t t')
    (none : ∀ request, driver asked = some (controller, request) → request.Latches →
      t.latched = t.generated.length) : t'.latched = t.latched := by
  cases continues with
  | latches request issued latches goesOn =>
    have empty := none request issued latches
    rw [goesOn.latched, t.next_latched, if_neg (by omega)]
  | other _ goesOn => exact goesOn.latched

end Continues

theorem InOrder.of_stamped (stamped : Stamped registers driver (fun _ => Telemetry.start) d before)
    (controller : ControllerPtr) : InOrder driver controller d.history (fun j => (before j controller).rounds)
      (d.objects controller).generated (fun j => (before j controller).generated.length)
      (fun j => (before j controller).latched) where
  increasing := (d.objects controller).increasing
  lossless := (d.objects controller).lossless
  none := (Telemetry.GoesOn.later (stamped.start controller)).latched
  first := by
    rw [(Telemetry.GoesOn.later (stamped.start controller)).length]
    simp only [Telemetry.start, List.length_nil, Nat.zero_add, Nat.sub_zero]
  stores := fun j present => (continues stamped controller present).length
  numbered := by
    intro j present k old new
    obtain ⟨more, longer⟩ := appends stamped controller (Nat.succ_le_of_lt present)
    rw [← longer, List.getElem?_append_left new]
    exact (continues stamped controller present).numbered old new
  ends := by rw [stamped.now]
  bounded := fun j _ => (before j controller).taken
  advance := fun j present request asked latches waiting =>
    (continues stamped controller present).advance asked latches waiting
  stays := fun j present none => (continues stamped controller present).stays none
  loaded := by
    intro j index present asked
    obtain ⟨more, longer⟩ := appends stamped controller (Nat.le_of_lt present)
    rw [(stamped.answer_of present asked).1, ← longer, recordAfter_append (before j controller).taken]
    rfl

def roundsOf (controller : ControllerPtr) : List (ControllerPtr × Unit) → Nat := total (fun _ => 1) controller

theorem Telemetry.round_rounds (t : Telemetry) : t.round.rounds = t.rounds + 1 := by
  by_cases room : t.usage < fifoMaxSize
  · exact (Telemetry.round_room room).2.2.1
  · exact (Telemetry.round_full room).2.2.1

/-- The end-to-end property of the example, in every state between two requests. -/
def ReadsInOrder (cfg : Config Area (ControllerPtr → Controller101)) (registry : Registry) (driver : Driver Request)
    (memory : Nat → Byte) : Prop :=
  ∀ (actions : List (LiveAction Unit)) (s : Machine Area (ControllerPtr → Controller101)),
    (∀ action ∈ actions, action.Driver) →
      Transition.run (Machine.live cfg model.backgrounds) (Machine.boot cfg registry (world memory)) actions = some s →
        s.Between 0 → ∃ moment,
          Moments cfg model.backgrounds (Machine.boot cfg registry (world memory)) actions (s.threads 0).history moment ∧
          ∀ controller, ∃ numbers generated latches, InOrder driver controller (s.threads 0).history
            (fun j => roundsOf controller ((actions.take (moment j)).flatMap LiveAction.backgrounds))
            numbers generated latches

theorem ReadsInOrder.of_law {cfg : Config Area (ControllerPtr → Controller101)} (law : cfg.platform.Law)
    (same : Registered model registersSize registry) (controllers : cfg.controllers = model.controllers)
    (program : cfg.program = registers.program registry driver) (memory : Nat → Byte) :
    ReadsInOrder cfg registry driver memory := by
  intro actions s drivers ran between
  have start : ∀ {controller : ControllerPtr} {ioSpace : IoSpacePtr} {space : IoSpace},
      registry.ioMap[controller]? = some ioSpace → registry.ioSpaces[ioSpace]? = some space →
        Represents Telemetry.start ((world memory).device controller) := fun _ _ => Represents.start
  have refines : DriverRefines cfg registers (fun t _ object => Represents t object) registry model.backgrounds driver
      (fun _ => Telemetry.start) (world memory) :=
    DriverRefines.of_law law implements blind same controllers program start
  obtain ⟨answers, lockstep⟩ := refines actions s drivers ran
  obtain ⟨m, d, reached, driven, settled⟩ := lockstep.ran
  rw [ran, Option.some.injEq] at reached
  subst reached
  obtain ⟨moment, before, timed⟩ := Timed.of_run driven
  have history := (settled between).history
  rw [history]
  refine ⟨moment, timed.moments lockstep, fun controller => ⟨(d.objects controller).generated,
    fun j => (before j controller).generated.length, fun j => (before j controller).latched, ?_⟩⟩
  have background : ∀ step (t next : Telemetry), registers.background step t = some next →
      next.rounds = t.rounds + 1 := by
    rintro step t next ⟨⟩
    exact t.round_rounds
  have rounds {j : Nat} (present : j ≤ d.history.length) : (before j controller).rounds =
      roundsOf controller ((actions.take (moment j)).flatMap LiveAction.backgrounds) :=
    timed.total_before lockstep (fun request t => (respond_generated request t).2) background controller rfl present
  have order := InOrder.of_stamped timed.toStamped controller
  refine { order with first := ?_, stores := ?_, numbered := ?_ }
  · rw [← rounds (Nat.zero_le _)]
    exact order.first
  · intro j present
    rw [← rounds (Nat.succ_le_of_lt present), ← rounds (Nat.le_of_lt present)]
    exact order.stores j present
  · intro j present
    rw [← rounds (Nat.le_of_lt present)]
    exact order.numbered j present

theorem telemetry_in_order (registry : Registry) (same : Registered model registersSize registry)
    (driver : Driver Request) (memory : Nat → Byte) :
    ReadsInOrder
        { platform := Posix.platform, controllers := model.controllers, program := registers.program registry driver }
        registry driver memory ∧
      ReadsInOrder
        { platform := Windows.platform, controllers := model.controllers, program := registers.program registry driver }
        registry driver memory :=
  ⟨ReadsInOrder.of_law Posix.law same rfl rfl memory, ReadsInOrder.of_law Windows.law same rfl rfl memory⟩

def twoDriven {Area : Type} (platform : Platform Area) : Config Area (ControllerPtr → Controller101) :=
  { platform
    controllers := model.controllers
    program := registers.program (Registry.after two) firstWords }

def firstWordsActions : List (LiveAction Unit) :=
  [2, 1, 1, 1].flatMap fun rounds =>
    List.replicate rounds (.background 8 ()) ++ List.replicate 9 (.processor 0 ⟨0, true⟩)

def ReadsFirstWords {Area : Type} (platform : Platform Area) : Prop :=
  ∃ s moment numbers generated latches,
    Transition.run (Machine.live (twoDriven platform) model.backgrounds)
      (Machine.boot (twoDriven platform) (Registry.after two) (world fun _ => 0)) firstWordsActions = some s ∧
    (s.threads 0).history = [[], [Words.bytes 0x01000000#32], [], [Words.bytes 0x01000001#32]] ∧
    Moments (twoDriven platform) model.backgrounds
      (Machine.boot (twoDriven platform) (Registry.after two) (world fun _ => 0)) firstWordsActions
      (s.threads 0).history moment ∧
    InOrder firstWords 8 (s.threads 0).history
      (fun j => roundsOf 8 ((firstWordsActions.take (moment j)).flatMap LiveAction.backgrounds)) numbers generated latches

theorem telemetry_in_order_two : ReadsFirstWords Posix.platform ∧ ReadsFirstWords Windows.platform := by
  have drivers : ∀ action ∈ firstWordsActions, action.Driver := by
    simp [firstWordsActions, LiveAction.Driver]
  have posix : Transition.run (Machine.live (twoDriven Posix.platform) model.backgrounds)
      (Machine.boot (twoDriven Posix.platform) (Registry.after two) (world fun _ => 0)) firstWordsActions =
        some (Transition.reach _ _ firstWordsActions) :=
    Transition.run_eq_reach (by decide +kernel)
  have windows : Transition.run (Machine.live (twoDriven Windows.platform) model.backgrounds)
      (Machine.boot (twoDriven Windows.platform) (Registry.after two) (world fun _ => 0)) firstWordsActions =
        some (Transition.reach _ _ firstWordsActions) :=
    Transition.run_eq_reach (by decide +kernel)
  have records := telemetry_in_order (Registry.after two) two_registered firstWords fun _ => 0
  constructor
  · obtain ⟨moment, moments, order⟩ :=
      records.1 firstWordsActions _ drivers posix ⟨by decide +kernel, by decide +kernel⟩
    obtain ⟨numbers, generated, latches, order⟩ := order 8
    exact ⟨_, moment, numbers, generated, latches, posix, by decide +kernel, moments, order⟩
  · obtain ⟨moment, moments, order⟩ :=
      records.2 firstWordsActions _ drivers windows ⟨by decide +kernel, by decide +kernel⟩
    obtain ⟨numbers, generated, latches, order⟩ := order 8
    exact ⟨_, moment, numbers, generated, latches, windows, by decide +kernel, moments, order⟩

end ExMM.FifoTelemetry
