import ExMM.Dsl.Chains
import ExMM.Model.Hooks

namespace ExMM.TimeController

/-- `unnamed` is any value without an enumerator, which only memory that is not yet initialised can hold. -/
inductive TimerThreadControl
  | idle
  | abort
  | running
  | restart
  | unnamed
  deriving DecidableEq, Repr

/-- Where `TimerThread` is: before a statement of its loop or of `RaiseAndResetTimer`, with the locals that
    are still used. `interrupt` is inside the connected routine. The accesses of the routine are those of one more
    thread of the program, so that the thread does not hold the memory lock here and other threads may come in
    between. -/
inductive TimerThread
  | switch
  | restartClock
  | restartRegister
  | restartRunning
  | currentTime
  | acquire (timeHi timeLo : BitVec 32)
  | active (i : Nat) (timeHi timeLo : BitVec 32)
  | compareHi (i : Nat) (timeHi timeLo : BitVec 32)
  | compareEqual (i : Nat) (timeHi timeLo : BitVec 32)
  | compareLo (i : Nat) (timeHi timeLo : BitVec 32)
  | reset (i : Nat) (timeHi timeLo : BitVec 32)
  | status
  | control (status : BitVec 32)
  | trigger (status control : BitVec 32)
  | interrupt
  | exited
  deriving DecidableEq, Repr

/-- The next member that the constructor initialises. `timerThread` is running by then. -/
inductive Construction
  | timerThreadControl
  | whenStarted
  | whenStartedRegisterTime
  | done
  deriving DecidableEq, Repr

structure Stale where
  timerThreadControl : TimerThreadControl
  whenStarted : Int
  whenStartedRegisterTime : BitVec 32
  deriving DecidableEq, Repr

/-- `now` is `high_resolution_clock::now()` in nanoseconds, and a default `time_point` is its epoch; the clock need
    not be steady. `interrupts` counts the calls of `TriggerInterrupt`. -/
structure Controller102 where
  latchedCurrentTimeLo : BitVec 32
  shadowControl : BitVec 32
  shadowStatus : BitVec 32
  timerThreadControl : TimerThreadControl
  whenStarted : Int
  whenStartedRegisterTime : BitVec 32
  construction : Construction
  now : Int
  thread : TimerThread
  interrupts : Nat
  deriving DecidableEq, Repr

def initialTime : Nat := 8

def timerActiveShift : Nat := 16

def timerInterruptShift : Nat := 24

def timerInterruptMask : BitVec 32 := 0xFF#32 <<< timerInterruptShift

def triggerTimeHi (file : Nat → Byte) (i : Nat) : BitVec 32 :=
  Words.load32 file (Controller102.timers.start + i * Controller102.timers.size)

def triggerTimeLo (file : Nat → Byte) (i : Nat) : BitVec 32 :=
  Words.load32 file (Controller102.timers.start + i * Controller102.timers.size + 4)

namespace Controller102

def start (stale : Stale) (now : Int) : Controller102 where
  latchedCurrentTimeLo := 0
  shadowControl := 0
  shadowStatus := 0
  timerThreadControl := stale.timerThreadControl
  whenStarted := stale.whenStarted
  whenStartedRegisterTime := stale.whenStartedRegisterTime
  construction := .timerThreadControl
  now := now
  thread := .switch
  interrupts := 0

def construct (object : Controller102) : Option Controller102 :=
  match object.construction with
  | .timerThreadControl => some { object with timerThreadControl := .idle, construction := .whenStarted }
  | .whenStarted => some { object with whenStarted := 0, construction := .whenStartedRegisterTime }
  | .whenStartedRegisterTime => some { object with whenStartedRegisterTime := 0, construction := .done }
  | .done => none

def getCurrentTime (object : Controller102) : BitVec 32 × BitVec 32 :=
  let duration := (object.now - object.whenStarted).tdiv 1000
  (BitVec.ofInt 32 (object.whenStartedRegisterTime.toNat + duration.tdiv 1000000), BitVec.ofInt 32 (duration.tmod 1000000))

def controlChanged (object : Controller102) (value : BitVec 32) : BitVec 32 × Controller102 :=
  if value.getLsbD 0 then
    let cleared := value &&& ~~~1#32
    (cleared, { object with timerThreadControl := .restart, shadowControl := cleared })
  else (value, { object with shadowControl := value })

def timerThread (file : Nat → Byte) (object : Controller102) : Option Controller102 :=
  match object.thread with
  | .switch =>
    match object.timerThreadControl with
    | .abort => some { object with thread := .exited }
    | .idle => some object
    | .restart => some { object with thread := .restartClock }
    | .running | .unnamed => some { object with thread := .currentTime }
  | .restartClock => some { object with whenStarted := object.now, thread := .restartRegister }
  | .restartRegister =>
    some { object with whenStartedRegisterTime := Words.load32 file initialTime, thread := .restartRunning }
  | .restartRunning => some { object with timerThreadControl := .running, thread := .switch }
  | .currentTime => some { object with thread := .acquire object.getCurrentTime.1 object.getCurrentTime.2 }
  | .acquire timeHi timeLo => some { object with thread := .active 0 timeHi timeLo }
  | .active i timeHi timeLo =>
    if i < 8 then
      if object.shadowControl &&& 1#32 <<< (i + timerActiveShift) ≠ 0 then
        some { object with thread := .compareHi i timeHi timeLo }
      else some { object with thread := .active (i + 1) timeHi timeLo }
    else some { object with thread := .status }
  | .compareHi i timeHi timeLo =>
    if triggerTimeHi file i < timeHi then some { object with thread := .reset i timeHi timeLo }
    else some { object with thread := .compareEqual i timeHi timeLo }
  | .compareEqual i timeHi timeLo =>
    if timeHi = triggerTimeHi file i then some { object with thread := .compareLo i timeHi timeLo }
    else some { object with thread := .active (i + 1) timeHi timeLo }
  | .compareLo i timeHi timeLo =>
    if triggerTimeLo file i < timeLo then some { object with thread := .reset i timeHi timeLo }
    else some { object with thread := .active (i + 1) timeHi timeLo }
  | .reset i timeHi timeLo =>
    some { object with
      shadowControl := object.shadowControl &&& ~~~(1#32 <<< (i + timerActiveShift))
      shadowStatus := object.shadowStatus ||| 1#32 <<< (i + timerInterruptShift)
      thread := .active (i + 1) timeHi timeLo }
  | .status =>
    some { object with thread := .control ((object.shadowStatus &&& timerInterruptMask) >>> timerInterruptShift) }
  | .control status =>
    some { object with
      thread := .trigger status ((object.shadowControl &&& timerInterruptMask) >>> timerInterruptShift) }
  | .trigger status control =>
    if status &&& control ≠ 0 then some { object with interrupts := object.interrupts + 1, thread := .interrupt }
    else some { object with thread := .switch }
  | .interrupt => some { object with thread := .switch }
  | .exited => none

/-- The second `lock_guard` of the thread; the first one is within one statement. -/
def holdsMemoryLock (object : Controller102) : Bool :=
  match object.thread with
  | .active _ _ _ | .compareHi _ _ _ | .compareEqual _ _ _ | .compareLo _ _ _ | .reset _ _ _ => true
  | _ => false

end Controller102

def readCallback : Controller102.Callback → Callback Controller102
  | .controlWord, _, value, hooked => (Words.store hooked.1 value hooked.2.shadowControl, hooked.2)
  | .statusWord, _, value, hooked => (Words.store hooked.1 value hooked.2.shadowStatus, hooked.2)
  | .currentTimeHi, _, value, hooked =>
    (Words.store hooked.1 value hooked.2.getCurrentTime.1,
      { hooked.2 with latchedCurrentTimeLo := hooked.2.getCurrentTime.2 })
  | .currentTimeLo, _, value, hooked => (Words.store hooked.1 value hooked.2.latchedCurrentTimeLo, hooked.2)
  | .notUsed, _, value, hooked => (Words.store hooked.1 value 0#32, hooked.2)
  | _, _, _, hooked => hooked

def writeCallback : Controller102.Callback → Callback Controller102
  | .controlWord, _, value, hooked =>
    let changed := hooked.2.controlChanged (Words.load32 hooked.1 value)
    (Words.store hooked.1 value changed.1, changed.2)
  | .statusWord, _, value, hooked =>
    (hooked.1, { hooked.2 with
      shadowStatus := hooked.2.shadowStatus &&& ~~~(Words.load32 hooked.1 value &&& timerInterruptMask) })
  | .triggerTimeLo, _, value, hooked =>
    let written := Words.load32 hooked.1 value
    (Words.store hooked.1 value (if 999999#32 < written then 999999#32 else written), hooked.2)
  | _, _, _, hooked => hooked

def hookRead : (Nat → Byte) → Nat → Controller102 → (Nat → Byte) × Controller102 :=
  Controller102.hookRead.hookOf readCallback

def hookWrite : (Nat → Byte) → Nat → Controller102 → (Nat → Byte) × Controller102 :=
  Controller102.hookWrite.hookOf writeCallback

inductive Step
  | timer
  | clock (reading : Int)
  | construct
  | abort
  deriving DecidableEq, Repr

namespace Controller102

def step (file : Nat → Byte) (object : Controller102) : Step → Option Controller102
  | .timer => object.timerThread file
  | .clock reading => some { object with now := reading }
  | .construct => object.construct
  | .abort => if object.construction = .done then some { object with timerThreadControl := .abort } else none

end Controller102

def model : DeviceModel Controller102 Step where
  getHookTypes := .readWrite
  hookRead := hookRead
  hookWrite := hookWrite
  background := fun step file object => (object.step file step).map fun next => (file, next)
  holdsMemoryLock := Controller102.holdsMemoryLock

end ExMM.TimeController
