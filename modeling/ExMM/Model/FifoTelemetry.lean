import ExMM.Model.Hooks

namespace ExMM.FifoTelemetry

structure StatusFields where
  statusUsage : BitVec 8
  statusFifoEmpty : Bool
  statusFifoFull : Bool
  statusFifoHalfFull : Bool
  statusInterruptFlag : Bool
  deriving DecidableEq, Repr

/-- The other member of the union: bit-fields are laid out from the lowest bit on. -/
def StatusFields.word (fields : StatusFields) : BitVec 32 :=
  BitVec.ofBool fields.statusInterruptFlag ++ 0#4 ++ BitVec.ofBool fields.statusFifoHalfFull ++
    BitVec.ofBool fields.statusFifoFull ++ BitVec.ofBool fields.statusFifoEmpty ++ 0#16 ++ fields.statusUsage

structure TelemetryRecord where
  words : Vector (BitVec 32) 4
  deriving DecidableEq, Repr

def TelemetryRecord.zero : TelemetryRecord where
  words := #v[0, 0, 0, 0]

def TelemetryRecord.generated (counter : BitVec 32) : TelemetryRecord where
  words := #v[(1#32 <<< 24) + counter, (2#32 <<< 24) + counter, (4#32 <<< 24) + counter, (8#32 <<< 24) + counter]

def fifoMaxSize : Nat := 255

/-- `counter` is the local variable of `GenerateTelemetry`. The front of the queue is the head of the list.
    `interrupts` counts the calls of `TriggerInterrupt`: what a connected routine does to registers is not followed. -/
structure Controller101 where
  fifo : List TelemetryRecord
  shadowRecord : TelemetryRecord
  shadowStatus : StatusFields
  counter : BitVec 32
  interrupts : Nat
  deriving DecidableEq, Repr

namespace Controller101

def start : Controller101 where
  fifo := []
  shadowRecord := .zero
  shadowStatus :=
    { statusUsage := 0
      statusFifoEmpty := false
      statusFifoFull := false
      statusFifoHalfFull := false
      statusInterruptFlag := false }
  counter := 0
  interrupts := 0

/-- One round of the loop: the section under the memory lock, then `++counter`. -/
def generateTelemetry (object : Controller101) : Controller101 :=
  let generated :=
    if object.fifo.length < fifoMaxSize then
      let fifo := object.fifo ++ [TelemetryRecord.generated object.counter]
      let newSize := fifo.length
      let status := { object.shadowStatus with statusUsage := BitVec.ofNat 8 newSize }
      if newSize > fifoMaxSize / 2 then
        { object with fifo, shadowStatus := { status with statusFifoHalfFull := true } }
      else if newSize = fifoMaxSize / 2 then
        { object with
          fifo
          shadowStatus := { status with statusFifoHalfFull := true }
          interrupts := object.interrupts + 1 }
      else if newSize = fifoMaxSize then
        { object with
          fifo
          shadowStatus := { status with statusFifoFull := true }
          interrupts := object.interrupts + 1 }
      else { object with fifo, shadowStatus := status }
    else object
  { generated with counter := object.counter + 1 }

def nextRecord (object : Controller101) : Controller101 :=
  match object.fifo with
  | [] => object
  | front :: fifo =>
    { object with
      fifo
      shadowRecord := front
      shadowStatus :=
        { object.shadowStatus with
          statusUsage := BitVec.ofNat 8 fifo.length
          statusFifoEmpty := fifo.isEmpty
          statusFifoFull := fifo.length < fifoMaxSize
          statusFifoHalfFull := fifo.length ≥ fifoMaxSize / 2 } }

end Controller101

/-- `Status`, its bit-fields and `NextRecord` are members of one union at the beginning of the structure. -/
def statusField : Nat := 0

def telemetryField : ArrayField := .words 4 4 (Nat.le_of_ble_eq_true rfl)

def registersSize : Nat := 20

def hookRead : Chain (Callback Controller101) :=
  .case statusField (fun _ status hooked => (Words.store hooked.1 status hooked.2.shadowStatus.word, hooked.2)) <|
  .caseArray telemetryField
    (fun index tm hooked => (Words.store hooked.1 tm (hooked.2.shadowRecord.words[index]?.getD 0), hooked.2))
  .done

def hookWrite : Chain (Callback Controller101) :=
  .case statusField
    (fun _ value hooked => if hooked.1 value ≠ 0 then (hooked.1, hooked.2.nextRecord) else hooked)
  .done

/-- The thread `tmGenerator` makes one round of its loop at each step. `AcquireMemoryLock` is held for the
    length of a section only, which is within one step. -/
def model : DeviceModel Controller101 Unit where
  getHookTypes := .readWrite
  hookRead := hookRead.hook
  hookWrite := hookWrite.hook
  background := fun _ file object => some (file, object.generateTelemetry)
  holdsMemoryLock := fun _ => false

inductive Request
  | status
  | telemetry (index : Fin 4)
  | nextRecord (value : Bool)
  | storeStatus (value : BitVec 32)
  | storeTelemetry (index : Fin 4) (value : BitVec 32)
  deriving DecidableEq, Repr

def Request.access : Request → Access
  | .status => .load statusField 4
  | .telemetry index => .load (telemetryField.start + index * telemetryField.size) 4
  | .nextRecord value => .store statusField 1 fun _ _ => if value then 1 else 0
  | .storeStatus value => .store statusField 4 fun _ => Words.byte value
  | .storeTelemetry index value =>
    .store (telemetryField.start + index * telemetryField.size) 4 fun _ => Words.byte value

end ExMM.FifoTelemetry
