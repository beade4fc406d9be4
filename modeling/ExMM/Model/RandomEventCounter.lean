import ExMM.Model.Hooks

namespace ExMM.RandomEventCounter

/-- The lambda that the constructor starts: before the test of `stopBackgroundThread`, before that of `Active`,
    and before the two halves of `regs->Counter = ++counter`. -/
inductive BackgroundThread
  | loop
  | active
  | count
  | publish (value : BitVec 32)
  | exited
  deriving DecidableEq, Repr

structure Controller005 where
  counter : BitVec 32
  backgroundThread : BackgroundThread
  stopBackgroundThread : Bool
  deriving DecidableEq, Repr

def Controller005.start : Controller005 where
  counter := 0
  backgroundThread := .loop
  stopBackgroundThread := false

def counterField : Nat := 0

def activeField : Nat := 4

theorem other_bounded : 8 + 4 * 10 ≤ maxObject := Nat.le_of_ble_eq_true rfl

def otherField : ArrayField := .words 8 10 other_bounded

def registersSize : Nat := 48

def Controller005.run (file : Nat → Byte) (object : Controller005) : Option ((Nat → Byte) × Controller005) :=
  match object.backgroundThread with
  | .loop =>
    if object.stopBackgroundThread then some (file, { object with backgroundThread := .exited })
    else some (file, { object with backgroundThread := .active })
  | .active =>
    if (Words.load32 file activeField).getLsbD 0 then some (file, { object with backgroundThread := .count })
    else some (file, { object with backgroundThread := .loop })
  | .count =>
    some (file, { object with counter := object.counter + 1, backgroundThread := .publish (object.counter + 1) })
  | .publish value => some (Words.store file counterField value, { object with backgroundThread := .loop })
  | .exited => none

def hookRead : Chain (Callback Controller005) := .case counterField (fun _ _ hooked => hooked) .done

inductive Step
  | thread
  | stop
  deriving DecidableEq, Repr

def model : DeviceModel Controller005 Step where
  getHookTypes := .read
  hookRead := hookRead.hook
  hookWrite := fun file _ object => (file, object)
  background := fun step file object =>
    match step with
    | .thread => object.run file
    | .stop => some (file, { object with stopBackgroundThread := true })
  holdsMemoryLock := fun _ => false

inductive Register
  | counter
  | active
  | other (index : Fin 10)
  deriving DecidableEq, Repr

def Register.offset : Register → Nat
  | .counter => counterField
  | .active => activeField
  | .other index => otherField.start + index * otherField.size

inductive Request
  | load (register : Register)
  | store (register : Register) (value : BitVec 32)
  deriving DecidableEq, Repr

def Request.access : Request → Access
  | .load register => .load register.offset 4
  | .store register value => .store register.offset 4 fun _ => Words.byte value

end ExMM.RandomEventCounter
