import ExMM.Model.Hooks

namespace ExMM.LatchedTime

/-- `elapsed` is `high_resolution_clock::now() - whenStarted`, in nanoseconds; the clock need not be steady. -/
structure Controller007 where
  elapsed : Int
  latchedLoValue : BitVec 32
  deriving DecidableEq, Repr

def Controller007.start : Controller007 := { elapsed := 0, latchedLoValue := 0 }

/-- `duration_cast` and the operators of `duration` truncate towards zero. -/
def microseconds (elapsed : Int) : Int := (elapsed.tdiv 1000).tmod 1000000

def seconds (elapsed : Int) : Int := (elapsed.tdiv 1000).tdiv 1000000

def timeLoField : Nat := 0

def timeHiField : Nat := 4

def otherField : ArrayField := .words 8 10 (Nat.le_of_ble_eq_true rfl)

def registersSize : Nat := 48

def hookRead : Chain (Callback Controller007) :=
  .case timeLoField (fun _ timeLo hooked => (Words.store hooked.1 timeLo hooked.2.latchedLoValue, hooked.2)) <|
  .case timeHiField
    (fun _ timeHi hooked =>
      (Words.store hooked.1 timeHi (BitVec.ofInt 32 (seconds hooked.2.elapsed)),
        { hooked.2 with latchedLoValue := BitVec.ofInt 32 (microseconds hooked.2.elapsed) }))
  .done

/-- The only thing that goes on by itself is the clock, to any reading. `HookWrite` is not overridden. -/
def model : DeviceModel Controller007 Int where
  getHookTypes := .read
  hookRead := hookRead.hook
  hookWrite := fun file _ object => (file, object)
  background := fun elapsed file object => some (file, { object with elapsed })
  holdsMemoryLock := fun _ => false

inductive Request
  | timeLo
  | timeHi
  | other (index : Fin 10)
  | storeTimeLo (value : BitVec 32)
  | storeTimeHi (value : BitVec 32)
  | storeOther (index : Fin 10) (value : BitVec 32)
  deriving DecidableEq, Repr

def Request.access : Request → Access
  | .timeLo => .load timeLoField 4
  | .timeHi => .load timeHiField 4
  | .other index => .load (otherField.start + index * otherField.size) 4
  | .storeTimeLo value => .store timeLoField 4 fun _ => Words.byte value
  | .storeTimeHi value => .store timeHiField 4 fun _ => Words.byte value
  | .storeOther index value => .store (otherField.start + index * otherField.size) 4 fun _ => Words.byte value

end ExMM.LatchedTime
