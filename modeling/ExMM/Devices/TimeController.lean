import ExMM.Dsl.Hooks
import ExMM.Live.Objects
import ExMM.Model.TimeController

namespace ExMM.TimeController

inductive Latched (x : Controller102) : Controller102 → Prop
  | same : Latched x x
  | hi : Latched x { x with latchedCurrentTimeLo := x.getCurrentTime.2 }

theorem Latched.refl (x : Controller102) : Latched x x := .same

theorem Latched.trans {x y z : Controller102} (first : Latched x y) (second : Latched y z) : Latched x z := by
  cases first with
  | same => exact second
  | hi =>
    cases second with
    | same => exact .hi
    | hi => exact .hi

theorem readCallback_latched (name : Controller102.Callback) : Callback.Keeps Latched (readCallback name) := by
  intro index address hooked
  cases name with
  | currentTimeHi => exact .hi
  | _ => exact .same

theorem hookRead_latched (file : Nat → Byte) (offset : Nat) (object : Controller102) :
    Latched object (hookRead file offset object).2 :=
  Invocation.perform_keeps Latched.refl Latched.trans readCallback (fun call _ => readCallback_latched call.callback)
    (file, object)

theorem hookWrite_control (file : Nat → Byte) (object : Controller102) :
    (hookWrite file 0 object).2 = (object.controlChanged (Words.load32 file 0)).2 := rfl

def Controller102.acknowledge (object : Controller102) (value : BitVec 32) : Controller102 :=
  { object with shadowStatus := object.shadowStatus &&& ~~~(value &&& timerInterruptMask) }

theorem hookWrite_status (file : Nat → Byte) (object : Controller102) :
    (hookWrite file 4 object).2 = object.acknowledge (Words.load32 file 4) := rfl

theorem hookWrite_other (file : Nat → Byte) {offset : Nat} (object : Controller102) (control : offset ≠ 0)
    (status : offset ≠ 4) : (hookWrite file offset object).2 = object := by
  have fires : Chain.Fires 0 offset [] Controller102.hookWrite (Controller102.hookWrite.invocations 0 offset) :=
    Controller102.hookWrite.call_fires (Chain.Tracks.fresh 0 offset)
  let keeps := fun name => Callback.Keeps Eq (writeCallback name)
  have calls : ∀ call ∈ Controller102.hookWrite.invocations 0 offset, keeps call.callback := by
    generalize Controller102.hookWrite.invocations 0 offset = calls at fires ⊢
    cases fires with
    | case contains => exact absurd contains control
    | caseMissed _ fires =>
      cases fires with
      | case contains => exact absurd contains status
      | caseMissed _ fires =>
        have others : Chain.All keeps (.insideArray Controller102.timers .timers
            (fun _ => .case 0 .triggerTimeHi (.case 4 .triggerTimeLo .done)) (.else' .notObserved .done)) :=
          ⟨fun _ _ _ => rfl, fun _ => ⟨fun _ _ _ => rfl, fun _ _ _ => rfl, trivial⟩, fun _ _ _ => rfl, trivial⟩
        exact fires.all others
  exact (Invocation.perform_keeps Eq.refl Eq.trans writeCallback calls (file, object)).symm

/-- What the hooks, the clock and the destructor can do to the object. -/
inductive Outside (x : Controller102) : ObjectAction Step → Controller102 → Prop
  | hookRead (file : Nat → Byte) (offset : Nat) {x' : Controller102} (free : x.holdsMemoryLock = false)
    (latched : Latched x x') : Outside x (.hookRead file offset) x'
  | controlWord (file : Nat → Byte) (free : x.holdsMemoryLock = false) :
    Outside x (.hookWrite file 0) (x.controlChanged (Words.load32 file 0)).2
  | statusWord (file : Nat → Byte) (free : x.holdsMemoryLock = false) :
    Outside x (.hookWrite file 4) (x.acknowledge (Words.load32 file 4))
  | notObserved (file : Nat → Byte) (offset : Nat) (control : offset ≠ 0) (status : offset ≠ 4) :
    Outside x (.hookWrite file offset) x
  | clock (reading : Int) (file : Nat → Byte) : Outside x (.background (.clock reading) file) { x with now := reading }
  | abort (file : Nat → Byte) : Outside x (.background .abort file) { x with timerThreadControl := .abort }

variable {x x' : Controller102}

theorem object_cases {action : ObjectAction Step} (taken : model.object x action = some x') :
    (∃ file, action = .background .timer file ∧ x.timerThread file = some x') ∨
      (∃ file, action = .background .construct file ∧ x.construct = some x') ∨ Outside x action x' := by
  cases action with
  | hookRead file offset =>
    obtain ⟨free, read⟩ := Option.ite_none_left_eq_some.mp taken
    cases read
    exact Or.inr (Or.inr (.hookRead file offset (eq_false_of_ne_true free) (hookRead_latched file offset x)))
  | hookWrite file offset =>
    obtain ⟨free, written⟩ := Option.ite_none_left_eq_some.mp taken
    cases written
    refine Or.inr (Or.inr ?_)
    by_cases control : offset = 0
    · subst control
      have changed : (model.hookWrite file 0 x).2 = (x.controlChanged (Words.load32 file 0)).2 := hookWrite_control file x
      rw [changed]
      exact .controlWord file (eq_false_of_ne_true free)
    · by_cases status : offset = 4
      · subst status
        have acknowledged : (model.hookWrite file 4 x).2 = x.acknowledge (Words.load32 file 4) := hookWrite_status file x
        rw [acknowledged]
        exact .statusWord file (eq_false_of_ne_true free)
      · have same : (model.hookWrite file offset x).2 = x := hookWrite_other file x control status
        rw [same]
        exact .notObserved file offset control status
  | background step file =>
    obtain ⟨_, background, rfl⟩ := Option.map_eq_some_iff.mp taken
    obtain ⟨next, moved, rfl⟩ := Option.map_eq_some_iff.mp background
    cases step with
    | timer => exact Or.inl ⟨file, rfl, moved⟩
    | construct => exact Or.inr (Or.inl ⟨file, rfl, moved⟩)
    | clock reading =>
      cases moved
      exact Or.inr (Or.inr (.clock reading file))
    | abort =>
      obtain ⟨_, stored⟩ := Option.ite_none_right_eq_some.mp moved
      cases stored
      exact Or.inr (Or.inr (.abort file))

theorem built_cases (built : x.construction = .done) {action : ObjectAction Step} (taken : model.object x action = some x') :
    (∃ file, action = .background .timer file ∧ x.timerThread file = some x') ∨ Outside x action x' := by
  rcases object_cases taken with timer | ⟨_, _, constructs⟩ | outside
  · exact Or.inl timer
  · simp only [Controller102.construct, built] at constructs
    cases constructs
  · exact Or.inr outside

structure Beside (x x' : Controller102) : Prop where
  thread : x'.thread = x.thread
  interrupts : x'.interrupts = x.interrupts
  construction : x'.construction = x.construction
  whenStarted : x'.whenStarted = x.whenStarted
  whenStartedRegisterTime : x'.whenStartedRegisterTime = x.whenStartedRegisterTime

theorem Controller102.controlChanged_cases (x : Controller102) (value : BitVec 32) :
    (value.getLsbD 0 = true ∧ (x.controlChanged value).2 =
      { x with timerThreadControl := .restart, shadowControl := value &&& ~~~1#32 }) ∨
    (value.getLsbD 0 = false ∧ (x.controlChanged value).2 = { x with shadowControl := value }) := by
  unfold Controller102.controlChanged
  cases start : value.getLsbD 0 with
  | true => exact Or.inl ⟨rfl, by rw [if_pos rfl]⟩
  | false => exact Or.inr ⟨rfl, by rw [if_neg (by decide)]⟩

theorem Outside.beside {action : ObjectAction Step} (outside : Outside x action x') : Beside x x' := by
  cases outside with
  | hookRead file offset free latched => cases latched <;> exact ⟨rfl, rfl, rfl, rfl, rfl⟩
  | controlWord file free =>
    obtain ⟨_, changed⟩ | ⟨_, changed⟩ := x.controlChanged_cases (Words.load32 file 0)
    · rw [changed]
      exact ⟨rfl, rfl, rfl, rfl, rfl⟩
    · rw [changed]
      exact ⟨rfl, rfl, rfl, rfl, rfl⟩
  | _ => exact ⟨rfl, rfl, rfl, rfl, rfl⟩

structure Builds (x x' : Controller102) : Prop where
  thread : x'.thread = x.thread
  shadowControl : x'.shadowControl = x.shadowControl
  shadowStatus : x'.shadowStatus = x.shadowStatus

theorem construct_builds (constructs : x.construct = some x') : Builds x x' := by
  unfold Controller102.construct at constructs
  split at constructs <;> cases constructs <;> exact ⟨rfl, rfl, rfl⟩

def TimerThread.Bounded : TimerThread → Prop
  | .compareHi i _ _ => i < 8
  | .compareEqual i _ _ => i < 8
  | .compareLo i _ _ => i < 8
  | .reset i _ _ => i < 8
  | _ => True

structure Sound (x : Controller102) : Prop where
  bounded : x.thread.Bounded
  start : x.shadowControl.getLsbD 0 = false
  reserved : ∀ k < 24, x.shadowStatus.getLsbD k = false

theorem Sound.boot (stale : Stale) (now : Int) : Sound (.start stale now) where
  bounded := trivial
  start := BitVec.getLsbD_zero
  reserved := fun _ _ => BitVec.getLsbD_zero

theorem Sound.goto (sound : Sound x) {thread : TimerThread} (bounded : thread.Bounded) : Sound { x with thread } :=
  ⟨bounded, sound.start, sound.reserved⟩

theorem Sound.outside {action : ObjectAction Step} (sound : Sound x) (outside : Outside x action x') : Sound x' := by
  have bounded : x'.thread.Bounded := by
    rw [outside.beside.thread]
    exact sound.bounded
  cases outside with
  | hookRead file offset free latched => cases latched <;> exact ⟨bounded, sound.start, sound.reserved⟩
  | controlWord file free =>
    obtain ⟨_, changed⟩ | ⟨clear, changed⟩ := x.controlChanged_cases (Words.load32 file 0)
    · rw [changed] at bounded ⊢
      refine ⟨bounded, ?_, sound.reserved⟩
      exact (Words.getLsbD_clear _ 0 0).trans (by simp)
    · rw [changed] at bounded ⊢
      exact ⟨bounded, clear, sound.reserved⟩
  | statusWord file free =>
    refine ⟨bounded, sound.start, fun k small => ?_⟩
    rw [Controller102.acknowledge, BitVec.getLsbD_and, sound.reserved k small, Bool.false_and]
  | _ => exact ⟨bounded, sound.start, sound.reserved⟩

theorem Sound.timer {file : Nat → Byte} (sound : Sound x) (moved : x.timerThread file = some x') : Sound x' := by
  have bounded := sound.bounded
  unfold Controller102.timerThread at moved
  cases here : x.thread with
  | switch =>
    simp only [here] at moved
    split at moved <;> cases moved
    · exact sound.goto trivial
    · exact sound
    all_goals exact sound.goto trivial
  | active i timeHi timeLo =>
    simp only [here] at moved
    split at moved
    · next small =>
      split at moved <;> cases moved
      · exact sound.goto small
      · exact sound.goto trivial
    · cases moved
      exact sound.goto trivial
  | compareHi i timeHi timeLo =>
    rw [here] at bounded
    simp only [here] at moved
    split at moved <;> cases moved <;> exact sound.goto bounded
  | compareEqual i timeHi timeLo =>
    rw [here] at bounded
    simp only [here] at moved
    split at moved <;> cases moved
    · exact sound.goto bounded
    · exact sound.goto trivial
  | compareLo i timeHi timeLo =>
    rw [here] at bounded
    simp only [here] at moved
    split at moved <;> cases moved
    · exact sound.goto bounded
    · exact sound.goto trivial
  | reset i timeHi timeLo =>
    simp only [here] at moved
    cases moved
    refine ⟨trivial, ?_, fun k small => ?_⟩
    · rw [BitVec.getLsbD_and, sound.start, Bool.false_and]
    · rw [BitVec.getLsbD_or, sound.reserved k small, BitVec.getLsbD_shiftLeft]
      simp [timerInterruptShift, (by omega : k < i + 24)]
  | trigger status control =>
    simp only [here] at moved
    split at moved <;> cases moved <;> exact ⟨trivial, sound.start, sound.reserved⟩
  | exited =>
    simp only [here] at moved
    cases moved
  | _ =>
    simp only [here] at moved
    cases moved
    exact ⟨trivial, sound.start, sound.reserved⟩

theorem Sound.step {action : ObjectAction Step} (sound : Sound x) (taken : model.object x action = some x') :
    Sound x' := by
  obtain ⟨file, rfl, moved⟩ | ⟨file, rfl, constructs⟩ | outside := object_cases taken
  · exact sound.timer moved
  · obtain ⟨thread, control, status⟩ := construct_builds constructs
    refine ⟨?_, ?_, ?_⟩
    · rw [thread]
      exact sound.bounded
    · rw [control]
      exact sound.start
    · rw [status]
      exact sound.reserved
  · exact sound.outside outside

def Controller102.Active (x : Controller102) (i : Nat) : Prop :=
  x.shadowControl.getLsbD (i + timerActiveShift) = true

def Triggers (file : Nat → Byte) (i : Nat) (time : BitVec 32 × BitVec 32) : Prop :=
  triggerTimeHi file i < time.1 ∨ time.1 = triggerTimeHi file i ∧ triggerTimeLo file i < time.2

def secondsAt (initialTime : BitVec 32) (elapsed : Int) : Int := initialTime.toNat + elapsed / 1000000000

def microsecondsAt (elapsed : Int) : Int := elapsed / 1000 % 1000000

def Passed (file : Nat → Byte) (i : Nat) (initialTime : BitVec 32) (elapsed : Int) : Prop :=
  (triggerTimeHi file i).toNat < secondsAt initialTime elapsed ∨
    (triggerTimeHi file i).toNat = secondsAt initialTime elapsed ∧ (triggerTimeLo file i).toNat < microsecondsAt elapsed

/-- The clock has not gone back behind the start, and the register of the seconds does not overflow. -/
def Fits (initialTime : BitVec 32) (elapsed : Int) : Prop :=
  0 ≤ elapsed ∧ secondsAt initialTime elapsed < 0x100000000

instance (file : Nat → Byte) (i : Nat) (initialTime : BitVec 32) (elapsed : Int) :
    Decidable (Passed file i initialTime elapsed) :=
  inferInstanceAs (Decidable (_ ∨ _ ∧ _))

instance (initialTime : BitVec 32) (elapsed : Int) : Decidable (Fits initialTime elapsed) :=
  inferInstanceAs (Decidable (_ ∧ _))

theorem triggers_iff {file : Nat → Byte} {i : Nat} (fits : Fits x.whenStartedRegisterTime (x.now - x.whenStarted)) :
    Triggers file i x.getCurrentTime ↔ Passed file i x.whenStartedRegisterTime (x.now - x.whenStarted) := by
  obtain ⟨positive, small⟩ := fits
  unfold Passed
  unfold secondsAt microsecondsAt at *
  have whole : (x.now - x.whenStarted).tdiv 1000 = (x.now - x.whenStarted) / 1000 := Int.tdiv_eq_ediv_of_nonneg positive
  have nonneg : 0 ≤ (x.now - x.whenStarted) / 1000 := Int.ediv_nonneg positive (by decide)
  have hi : (x.getCurrentTime.1.toNat : Int) = x.whenStartedRegisterTime.toNat + (x.now - x.whenStarted) / 1000000000 := by
    simp only [Controller102.getCurrentTime, whole, Int.tdiv_eq_ediv_of_nonneg nonneg]
    rw [Words.toNat_ofInt (by omega) (by omega)]
    omega
  have lo : (x.getCurrentTime.2.toNat : Int) = (x.now - x.whenStarted) / 1000 % 1000000 := by
    simp only [Controller102.getCurrentTime, whole, Int.tmod_eq_emod_of_nonneg nonneg]
    exact Words.toNat_ofInt (by omega) (by omega)
  rw [Triggers, BitVec.lt_def, BitVec.lt_def, ← BitVec.toNat_inj]
  omega

def SameTimers (file other : Nat → Byte) : Prop :=
  ∀ i < 8, triggerTimeHi other i = triggerTimeHi file i ∧ triggerTimeLo other i = triggerTimeLo file i

instance (file other : Nat → Byte) : Decidable (SameTimers file other) :=
  inferInstanceAs (Decidable (∀ i < 8, _ ∧ _))

/-- What the first rounds of the loop make of the two words: the timers that are active and due fire, and no
    other bit changes. -/
structure Fired (due : Nat → Prop) (count : Nat) (x : Controller102) (control status : BitVec 32) : Prop where
  control : ∀ k, control.getLsbD k = true ↔ x.shadowControl.getLsbD k = true ∧
    ¬ ∃ i < count, k = i + timerActiveShift ∧ due i
  status : ∀ k, status.getLsbD k = true ↔ x.shadowStatus.getLsbD k = true ∨
    ∃ i < count, k = i + timerInterruptShift ∧ x.Active i ∧ due i

section

variable {file : Nat → Byte} {time : BitVec 32 × BitVec 32} {count : Nat} {control status : BitVec 32} {due : Nat → Prop}

theorem Fired.congr {y : Controller102} {due' : Nat → Prop} (fired : Fired due count x control status)
    (shadowControl : x.shadowControl = y.shadowControl) (shadowStatus : x.shadowStatus = y.shadowStatus)
    (same : ∀ i, due i ↔ due' i) : Fired due' count y control status where
  control := by
    intro k
    rw [fired.control, shadowControl]
    simp only [same]
  status := by
    intro k
    rw [fired.status, shadowStatus]
    simp only [Controller102.Active, shadowControl, same]

theorem Fired.none : Fired due 0 x x.shadowControl x.shadowStatus := by
  constructor <;> intro k <;> simp

theorem Fired.active_iff (fired : Fired due count x control status) :
    control.getLsbD (count + timerActiveShift) = true ↔ x.Active count := by
  rw [fired.control]
  refine ⟨And.left, fun active => ⟨active, ?_⟩⟩
  rintro ⟨i, small, same, _⟩
  omega

theorem Fired.skip (fired : Fired due count x control status) (quiet : x.Active count → ¬ due count) :
    Fired due (count + 1) x control status := by
  constructor
  · intro k
    rw [fired.control]
    refine and_congr_right fun set => not_congr ⟨?_, ?_⟩
    · rintro ⟨i, small, same⟩
      exact ⟨i, Nat.lt_succ_of_lt small, same⟩
    · rintro ⟨i, small, rfl, isDue⟩
      rcases Nat.lt_succ_iff_lt_or_eq.mp small with before | rfl
      · exact ⟨i, before, rfl, isDue⟩
      · exact absurd isDue (quiet set)
  · intro k
    rw [fired.status]
    refine or_congr_right ⟨?_, ?_⟩
    · rintro ⟨i, small, same⟩
      exact ⟨i, Nat.lt_succ_of_lt small, same⟩
    · rintro ⟨i, small, same, active, isDue⟩
      rcases Nat.lt_succ_iff_lt_or_eq.mp small with before | rfl
      · exact ⟨i, before, same, active, isDue⟩
      · exact absurd isDue (quiet active)

theorem Fired.fire (fired : Fired due count x control status) (small : count < 8) (active : x.Active count)
    (isDue : due count) :
    Fired due (count + 1) x (control &&& ~~~(1#32 <<< (count + timerActiveShift)))
      (status ||| 1#32 <<< (count + timerInterruptShift)) := by
  constructor
  · intro k
    rw [Words.getLsbD_clear, Bool.and_eq_true, fired.control, and_assoc]
    refine and_congr_right fun _ => ?_
    simp only [Bool.not_eq_true', decide_eq_false_iff_not, Nat.lt_succ_iff_lt_or_eq]
    constructor
    · rintro ⟨before, other⟩ ⟨i, earlier | rfl, same, found⟩
      · exact before ⟨i, earlier, same, found⟩
      · exact other same
    · intro none
      exact ⟨fun ⟨i, earlier, same⟩ => none ⟨i, Or.inl earlier, same⟩, fun same => none ⟨count, Or.inr rfl, same, isDue⟩⟩
  · intro k
    have bound : count + timerInterruptShift < 32 := by
      simp only [timerInterruptShift]
      omega
    rw [Words.getLsbD_set _ bound, Bool.or_eq_true, fired.status, or_assoc]
    refine or_congr_right ?_
    simp only [decide_eq_true_eq, Nat.lt_succ_iff_lt_or_eq]
    constructor
    · rintro (⟨i, earlier, same⟩ | same)
      · exact ⟨i, Or.inl earlier, same⟩
      · exact ⟨count, Or.inr rfl, same, active, isDue⟩
    · rintro ⟨i, earlier | rfl, same, rest⟩
      · exact Or.inl ⟨i, earlier, same, rest⟩
      · exact Or.inr same

def InSection (file : Nat → Byte) (time : BitVec 32 × BitVec 32) (x y : Controller102) : Prop :=
  match y.thread with
  | .active i timeHi timeLo => (timeHi, timeLo) = time ∧ i ≤ 8 ∧ Fired (Triggers file · time) i x y.shadowControl y.shadowStatus
  | .compareHi i timeHi timeLo => (timeHi, timeLo) = time ∧ i < 8 ∧ Fired (Triggers file · time) i x y.shadowControl y.shadowStatus ∧ x.Active i
  | .compareEqual i timeHi timeLo =>
    (timeHi, timeLo) = time ∧ i < 8 ∧ Fired (Triggers file · time) i x y.shadowControl y.shadowStatus ∧ x.Active i ∧ ¬ triggerTimeHi file i < time.1
  | .compareLo i timeHi timeLo =>
    (timeHi, timeLo) = time ∧ i < 8 ∧ Fired (Triggers file · time) i x y.shadowControl y.shadowStatus ∧ x.Active i ∧ time.1 = triggerTimeHi file i
  | .reset i timeHi timeLo =>
    (timeHi, timeLo) = time ∧ i < 8 ∧ Fired (Triggers file · time) i x y.shadowControl y.shadowStatus ∧ x.Active i ∧ Triggers file i time
  | .status => Fired (Triggers file · time) 8 x y.shadowControl y.shadowStatus
  | _ => False

variable {y : Controller102}

theorem InSection.timer {other : Nat → Byte} (within : InSection file time x y) (locked : y.holdsMemoryLock = true)
    (same : SameTimers file other) (moved : y.timerThread other = some x') : InSection file time x x' := by
  unfold InSection at within
  unfold Controller102.timerThread at moved
  cases here : y.thread with
  | active i timeHi timeLo =>
    simp only [here] at moved within
    obtain ⟨rfl, le, fired⟩ := within
    split at moved
    · next small =>
      have bit : y.shadowControl &&& 1#32 <<< (i + timerActiveShift) ≠ 0 ↔ x.Active i := by
        rw [Words.and_bit_ne_zero _ (by simp only [timerActiveShift]; omega)]
        exact fired.active_iff
      split at moved
      · next active =>
        cases moved
        exact ⟨rfl, small, fired, bit.mp active⟩
      · next inactive =>
        cases moved
        exact ⟨rfl, small, fired.skip fun active => absurd (bit.mpr active) inactive⟩
    · next last =>
      cases moved
      obtain rfl : i = 8 := by omega
      exact fired
  | compareHi i timeHi timeLo =>
    simp only [here] at moved within
    obtain ⟨rfl, small, fired, active⟩ := within
    rw [(same i small).1] at moved
    split at moved
    · next past =>
      cases moved
      exact ⟨rfl, small, fired, active, Or.inl past⟩
    · next notPast =>
      cases moved
      exact ⟨rfl, small, fired, active, notPast⟩
  | compareEqual i timeHi timeLo =>
    simp only [here] at moved within
    obtain ⟨rfl, small, fired, active, notPast⟩ := within
    rw [(same i small).1] at moved
    split at moved
    · next equal =>
      cases moved
      exact ⟨rfl, small, fired, active, equal⟩
    · next unequal =>
      cases moved
      refine ⟨rfl, small, fired.skip fun _ due => ?_⟩
      rcases due with past | ⟨equal, _⟩
      · exact notPast past
      · exact unequal equal
  | compareLo i timeHi timeLo =>
    simp only [here] at moved within
    obtain ⟨rfl, small, fired, active, equal⟩ := within
    rw [(same i small).2] at moved
    split at moved
    · next past =>
      cases moved
      exact ⟨rfl, small, fired, active, Or.inr ⟨equal, past⟩⟩
    · next notPast =>
      cases moved
      refine ⟨rfl, small, fired.skip fun _ due => ?_⟩
      rcases due with past | ⟨_, past⟩
      · rw [equal] at past
        exact BitVec.lt_irrefl _ past
      · exact notPast past
  | reset i timeHi timeLo =>
    simp only [here] at moved within
    obtain ⟨rfl, small, fired, active, due⟩ := within
    cases moved
    exact ⟨rfl, small, fired.fire small active due⟩
  | _ => simp [Controller102.holdsMemoryLock, here] at locked

theorem InSection.outside {action : ObjectAction Step} (within : InSection file time x y)
    (locked : y.holdsMemoryLock = true) (outside : Outside y action x') : InSection file time x x' := by
  cases outside with
  | hookRead file offset free latched => rw [locked] at free; cases free
  | controlWord file free => rw [locked] at free; cases free
  | statusWord file free => rw [locked] at free; cases free
  | notObserved file offset control status => exact within
  | clock reading file => exact within
  | abort file => exact within

theorem InSection.construct (within : InSection file time x y) (constructs : y.construct = some x') :
    InSection file time x x' := by
  obtain ⟨thread, control, status⟩ := construct_builds constructs
  unfold InSection
  rw [thread, control, status]
  exact within

theorem InSection.left (within : InSection file time x y) (unlocked : y.holdsMemoryLock = false) :
    y.thread = .status ∧ Fired (Triggers file · time) 8 x y.shadowControl y.shadowStatus := by
  unfold InSection at within
  cases here : y.thread with
  | status =>
    simp only [here] at within
    exact ⟨rfl, within⟩
  | _ => simp [Controller102.holdsMemoryLock, here] at unlocked within

def TimerThread.rank : TimerThread → Nat
  | .exited => 0
  | .switch => 0
  | .interrupt => 1
  | .trigger _ _ => 2
  | .control _ => 3
  | .status => 4
  | .active i _ _ => 5 + 5 * (8 - i)
  | .reset i _ _ => 6 + 5 * (7 - i)
  | .compareLo i _ _ => 7 + 5 * (7 - i)
  | .compareEqual i _ _ => 8 + 5 * (7 - i)
  | .compareHi i _ _ => 9 + 5 * (7 - i)
  | .acquire _ _ => 46
  | .currentTime => 47
  | .restartRunning => 1
  | .restartRegister => 2
  | .restartClock => 3

theorem TimerThread.rank_le (thread : TimerThread) : thread.rank ≤ 47 := by
  cases thread <;> simp only [rank] <;> omega

theorem rank_timer {other : Nat → Byte} (moved : y.timerThread other = some x') (inside : y.thread ≠ .switch) :
    x'.thread.rank + 1 ≤ y.thread.rank := by
  unfold Controller102.timerThread at moved
  cases here : y.thread with
  | switch => exact absurd here inside
  | trigger status control =>
    simp only [here] at moved
    split at moved <;> cases moved
    · exact Nat.le_refl _
    · exact Nat.le_succ _
  | exited =>
    simp only [here] at moved
    cases moved
  | active i timeHi timeLo =>
    simp only [here] at moved
    split at moved
    · split at moved <;> cases moved <;> simp only [TimerThread.rank] <;> omega
    · cases moved
      simp only [TimerThread.rank]
      omega
  | compareHi i timeHi timeLo =>
    simp only [here] at moved
    split at moved <;> cases moved <;> simp only [TimerThread.rank] <;> omega
  | compareEqual i timeHi timeLo =>
    simp only [here] at moved
    split at moved <;> cases moved <;> simp only [TimerThread.rank] <;> omega
  | compareLo i timeHi timeLo =>
    simp only [here] at moved
    split at moved <;> cases moved <;> simp only [TimerThread.rank] <;> omega
  | reset i timeHi timeLo =>
    simp only [here] at moved
    cases moved
    simp only [TimerThread.rank]
    omega
  | _ =>
    simp only [here] at moved
    cases moved
    exact Nat.le_refl _

theorem timer_currentTime (here : x.thread = .currentTime) (moved : x.timerThread file = some x') :
    x'.thread = .acquire x.getCurrentTime.1 x.getCurrentTime.2 := by
  simp only [Controller102.timerThread, here] at moved
  cases moved
  rfl

theorem timer_acquire {timeHi timeLo : BitVec 32} (here : x.thread = .acquire timeHi timeLo)
    (moved : x.timerThread file = some x') : x' = { x with thread := .active 0 timeHi timeLo } := by
  simp only [Controller102.timerThread, here] at moved
  cases moved
  rfl

def Sees (holds : (Nat → Byte) → Prop) : ObjectAction Step → Prop
  | .background .timer file => holds file
  | _ => True

instance {holds : (Nat → Byte) → Prop} [DecidablePred holds] : DecidablePred (Sees holds)
  | .background .timer file => inferInstanceAs (Decidable (holds file))
  | .background (.clock _) _ => .isTrue trivial
  | .background .construct _ => .isTrue trivial
  | .background .abort _ => .isTrue trivial
  | .hookRead _ _ => .isTrue trivial
  | .hookWrite _ _ => .isTrue trivial

def timerStep : ObjectAction Step → Nat
  | .background .timer _ => 1
  | _ => 0

theorem Outside.timerStep {action : ObjectAction Step} (outside : Outside x action x') : timerStep action = 0 := by
  cases outside <;> rfl

/-- Under the lock the loop is one step: what else happens in the meantime makes no difference. -/
theorem section_fires {actions : List (ObjectAction Step)} (entered : x.thread = .active 0 time.1 time.2)
    (locked : Transition.Meets model.object (fun y _ => y.holdsMemoryLock = true) x actions)
    (ran : Transition.run model.object x actions = some y) (unlocked : y.holdsMemoryLock = false)
    (same : ∀ action ∈ actions, Sees (SameTimers file) action) :
    y.thread = .status ∧ Fired (Triggers file · time) 8 x y.shadowControl y.shadowStatus := by
  have start : InSection file time x x := by
    simp only [InSection, entered]
    exact ⟨trivial, Nat.zero_le 8, .none⟩
  have keep : ∀ (y : Controller102) (action : ObjectAction Step) (y' : Controller102), InSection file time x y →
      y.holdsMemoryLock = true ∧ Sees (SameTimers file) action → model.object y action = some y' →
        InSection file time x y' := by
    rintro y action y' within ⟨locked, sees⟩ taken
    obtain ⟨other, rfl, moved⟩ | ⟨other, rfl, constructs⟩ | outside := object_cases taken
    · exact within.timer locked sees moved
    · exact within.construct constructs
    · exact within.outside locked outside
  exact (Transition.run_guarded keep start (locked.allowed same) ran).left unlocked

theorem section_spent {actions : List (ObjectAction Step)}
    (locked : Transition.Meets model.object (fun y _ => y.holdsMemoryLock = true) x actions)
    (ran : Transition.run model.object x actions = some y) :
    Transition.spent timerStep actions + y.thread.rank ≤ x.thread.rank := by
  have pays : ∀ (y : Controller102) (action : ObjectAction Step) (y' : Controller102), True →
      y.holdsMemoryLock = true → model.object y action = some y' →
        timerStep action + 0 + y'.thread.rank ≤ 0 + y.thread.rank := by
    intro y action y' _ locked taken
    obtain ⟨other, rfl, moved⟩ | ⟨other, rfl, constructs⟩ | outside := object_cases taken
    · have inside : y.thread ≠ .switch := by
        intro here
        simp [Controller102.holdsMemoryLock, here] at locked
      have less := rank_timer moved inside
      simp only [timerStep]
      omega
    · exact Nat.le_of_eq (congrArg (fun thread => 0 + thread.rank) (construct_builds constructs).thread)
    · exact Nat.le_of_eq (by rw [outside.timerStep, outside.beside.thread])
  have paid := Transition.run_cost (fun _ _ _ _ _ _ => trivial) pays trivial locked ran
  omega

end

def world (memory : Nat → Byte) (stale : ControllerPtr → Stale) (now : Int) : World (ControllerPtr → Controller102) :=
  { memory, device := fun controller => .start (stale controller) now, trace := [] }

section

variable {Area : Type} {cfg : Config Area (ControllerPtr → Controller102)} {registry : Registry}
  {s : Machine Area (ControllerPtr → Controller102)}

theorem Sound.live (controllers : cfg.controllers = model.controllers) {memory : Nat → Byte}
    {stale : ControllerPtr → Stale} {now : Int} {actions : List (LiveAction Step)}
    (ran : Transition.run (Machine.live cfg model.backgrounds) (Machine.boot cfg registry (world memory stale now))
      actions = some s) (controller : ControllerPtr) : Sound (s.world.device controller) := by
  have keep : ∀ (x : Controller102) (action : ObjectAction Step) (x' : Controller102), Sound x →
      model.object x action = some x' → Sound x' := fun _ _ _ sound taken => sound.step taken
  exact Transition.run_invariant keep (Sound.boot _ now) (Machine.live_performed controllers ran)

/-- A round of the thread of one controller in a run in which everything else does what it likes: in the state `s`
    the thread reads the clock, in the state `ready` it takes the memory lock, with which it is in the state `locked`,
    and in the state `left` it has left it. The registers of the timers are as in `file` whenever the thread loads
    them. -/
structure TimerRound (cfg : Config Area (ControllerPtr → Controller102)) (controller : ControllerPtr)
    (file : Nat → Byte) (s ready locked left : Machine Area (ControllerPtr → Controller102))
    (waiting inside : List (LiveAction Step)) : Prop where
  clock : (s.world.device controller).thread = .currentTime
  waits : .background controller .timer ∉ waiting
  reads : Transition.run (Machine.live cfg model.backgrounds) s (.background controller .timer :: waiting) = some ready
  locks : Machine.live cfg model.backgrounds ready (.background controller .timer) = some locked
  held : Transition.Meets (Machine.live cfg model.backgrounds)
    (fun m _ => (m.world.device controller).holdsMemoryLock = true) locked inside
  leaves : Transition.run (Machine.live cfg model.backgrounds) locked inside = some left
  unlocked : (left.world.device controller).holdsMemoryLock = false
  timers : ∀ action ∈ locked.performed cfg model.backgrounds controller inside, Sees (SameTimers file) action

/-- Exactly the timers fire that are active when the lock is taken and whose time has passed when the clock is read. -/
def FiresDueTimers (cfg : Config Area (ControllerPtr → Controller102)) : Prop :=
  ∀ (controller : ControllerPtr) (file : Nat → Byte)
    (s ready locked left : Machine Area (ControllerPtr → Controller102)) (waiting inside : List (LiveAction Step)),
    TimerRound cfg controller file s ready locked left waiting inside →
      let x := s.world.device controller
      (Fits x.whenStartedRegisterTime (x.now - x.whenStarted) →
        Fired (fun i => Passed file i x.whenStartedRegisterTime (x.now - x.whenStarted)) 8
          (ready.world.device controller) (left.world.device controller).shadowControl
          (left.world.device controller).shadowStatus) ∧
      Transition.spent timerStep (locked.performed cfg model.backgrounds controller inside) ≤ 41

theorem thread_waits (controllers : cfg.controllers = model.controllers) {controller : ControllerPtr}
    {thread : TimerThread} {waiting : List (LiveAction Step)} {m m' : Machine Area (ControllerPtr → Controller102)}
    (here : (m.world.device controller).thread = thread) (waits : .background controller .timer ∉ waiting)
    (ran : Transition.run (Machine.live cfg model.backgrounds) m waiting = some m') :
    (m'.world.device controller).thread = thread := by
  have keep : ∀ (m : Machine Area (ControllerPtr → Controller102)) (action : LiveAction Step)
      (m' : Machine Area (ControllerPtr → Controller102)), (m.world.device controller).thread = thread →
        action ≠ .background controller .timer → Machine.live cfg model.backgrounds m action = some m' →
          (m'.world.device controller).thread = thread := by
    intro m action m' here other taken
    cases performs : m.objectAction controller action with
    | none =>
      have object : Transition.run model.object (m.world.device controller) (m.objectAction controller action).toList =
          some (m'.world.device controller) := Machine.live_object controllers taken
      rw [performs] at object
      rw [← Option.some.inj object]
      exact here
    | some own =>
      obtain ⟨file, rfl, _⟩ | ⟨file, _, constructs⟩ | outside :=
        object_cases (Machine.live_performs controllers performs taken)
      · exact absurd (Machine.objectAction_background performs) other
      · exact (construct_builds constructs).thread.trans here
      · exact outside.beside.thread.trans here
  have others : ∀ action ∈ waiting, action ≠ LiveAction.background controller Step.timer := by
    rintro action member rfl
    exact waits member
  exact Transition.run_guarded keep here (Transition.meets_all _ _ others) ran

theorem live_timer (controllers : cfg.controllers = model.controllers) {controller : ControllerPtr}
    {m m' : Machine Area (ControllerPtr → Controller102)}
    (taken : Machine.live cfg model.backgrounds m (.background controller .timer) = some m') :
    ∃ file, (m.world.device controller).timerThread file = some (m'.world.device controller) := by
  obtain ⟨file, performs⟩ := Machine.live_objectAction taken
  obtain ⟨other, _, moved⟩ | ⟨_, same, _⟩ | outside := object_cases (Machine.live_performs controllers performs taken)
  · exact ⟨other, moved⟩
  · cases same
  · cases outside

theorem timers_fire (platform : Platform Area) (program : ThreadId → Program) :
    FiresDueTimers { platform, controllers := model.controllers, program } := by
  intro controller file s ready locked left waiting inside round x
  have reads := round.reads
  rw [Transition.run_cons] at reads
  obtain ⟨read, first, waited⟩ := Option.bind_eq_some_iff.mp reads
  obtain ⟨_, moved⟩ := live_timer rfl first
  have arrives : (ready.world.device controller).thread = .acquire x.getCurrentTime.1 x.getCurrentTime.2 :=
    thread_waits rfl (timer_currentTime round.clock moved) round.waits waited
  obtain ⟨_, enters⟩ := live_timer rfl round.locks
  have entered := timer_acquire arrives enters
  have meets := Machine.meets_performed rfl (fun y => y.holdsMemoryLock = true) round.leaves round.held
  have performed : Transition.run model.object (locked.world.device controller)
      (locked.performed _ model.backgrounds controller inside) = some (left.world.device controller) :=
    Machine.live_performed rfl round.leaves
  have thread : (locked.world.device controller).thread = .active 0 x.getCurrentTime.1 x.getCurrentTime.2 := by
    rw [entered]
  obtain ⟨ended, fired⟩ := section_fires thread meets performed round.unlocked round.timers
  have spent := section_spent meets performed
  rw [thread, ended] at spent
  refine ⟨fun fits => ?_, Nat.le_of_add_le_add_right spent⟩
  exact fired.congr (by rw [entered]) (by rw [entered]) fun i => triggers_iff fits

end

def timersSet : Nat → Byte :=
  Words.store (Words.store (Words.store (Words.store (Words.store (fun _ => 0) initialTime 100#32)
    (Controller102.timers.start + 8) 105#32) (Controller102.timers.start + 12) 250000#32)
    (Controller102.timers.start + 24) 110#32) (Controller102.timers.start + 28) 200000#32

def startTimers : ThreadId → Program := fun t history =>
  match t, history with
  | 0, [] => some [.store 0x10000 4 fun _ => Words.byte 0x020A0001#32]
  | 0, [_] => some [.store 0x10000 4 fun _ => Words.byte 0x020A0001#32]
  | 1, [] => some [.load 0x10004 4]
  | _, _ => none

def timersDriven : Config Posix.IoSpace (ControllerPtr → Controller102) :=
  { platform := Posix.platform, controllers := model.controllers, program := startTimers }

def one : Registry := Registry.after [.construct 8 96 .readWrite ⟨100, 0x10000, 0x50000⟩]

def timersMemory : Nat → Byte := Bytes.write (fun _ => 0) 0x10000 96 timersSet

def afterTimers (command : TimerThreadControl) (actions : List (LiveAction Step)) :
    Machine Posix.IoSpace (ControllerPtr → Controller102) :=
  Transition.reach (Machine.live timersDriven model.backgrounds)
    (Machine.boot timersDriven one (world timersMemory (fun _ => ⟨command, 5, 0⟩) 7000000000)) actions

def threadSteps (count : Nat) : List (LiveAction Step) := List.replicate count (.background 8 .timer)

def driverSteps (t : ThreadId) (count : Nat) : List (LiveAction Step) := List.replicate count (.processor t ⟨0, true⟩)

def constructed : List (LiveAction Step) := List.replicate 3 (.background 8 .construct)

def timersStarted : List (LiveAction Step) :=
  constructed ++ driverSteps 0 9 ++ threadSteps 5 ++ [.background 8 (.clock 12250001000)]

set_option maxRecDepth 10000 in
/-- Timer 1 fires and timer 3 does not, although the clock goes back and the other thread comes in between. -/
theorem timersStarted_fire :
    ∃ ready locked left waiting inside,
      TimerRound timersDriven 8 timersSet (afterTimers .unnamed timersStarted) ready locked left waiting inside ∧
        Fired (fun i => Passed timersSet i 100#32 5250001000) 8 (ready.world.device 8) 0x02080000#32 0x02000000#32 := by
  let ready := timersStarted ++ (.background 8 .timer :: [.background 8 (.clock 0)])
  let inside := threadSteps 7 ++ driverSteps 1 2 ++ threadSteps 8
  have round : TimerRound timersDriven 8 timersSet (afterTimers .unnamed timersStarted) (afterTimers .unnamed ready)
      (afterTimers .unnamed (ready ++ threadSteps 1)) (afterTimers .unnamed (ready ++ threadSteps 1 ++ inside))
      [.background 8 (.clock 0)] inside :=
    { clock := by decide +kernel
      waits := by simp
      reads := Transition.run_reach (by decide +kernel)
      locks := (Transition.run_single _ _ _).symm.trans (Transition.run_reach (by decide +kernel))
      held := by decide +kernel
      leaves := Transition.run_reach (by decide +kernel)
      unlocked := by decide +kernel
      timers := by decide +kernel }
  have seconds : ((afterTimers .unnamed timersStarted).world.device 8).whenStartedRegisterTime = 100#32 := by decide +kernel
  have elapsed : ((afterTimers .unnamed timersStarted).world.device 8).now -
      ((afterTimers .unnamed timersStarted).world.device 8).whenStarted = 5250001000 := by decide +kernel
  have control : ((afterTimers .unnamed (ready ++ threadSteps 1 ++ inside)).world.device 8).shadowControl = 0x02080000#32 := by
    decide +kernel
  have status : ((afterTimers .unnamed (ready ++ threadSteps 1 ++ inside)).world.device 8).shadowStatus = 0x02000000#32 := by
    decide +kernel
  refine ⟨_, _, _, _, _, round, ?_⟩
  rw [← seconds, ← elapsed, ← control, ← status]
  refine (timers_fire Posix.platform startTimers 8 timersSet _ _ _ _ _ _ round).1 ?_
  rw [seconds, elapsed]
  exact ⟨by decide, by decide⟩

end ExMM.TimeController
