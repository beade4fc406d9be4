import ExMM.Devices.TimerCommands

namespace ExMM.TimeController

variable {x x' : Controller102} {file : Nat → Byte} {i : Nat}

structure Overdue (file : Nat → Byte) (i : Nat) (x : Controller102) (reading : Int) : Prop where
  fits : Fits x.whenStartedRegisterTime (reading - x.whenStarted)
  passed : Passed file i x.whenStartedRegisterTime (reading - x.whenStarted)

instance (file : Nat → Byte) (i : Nat) (x : Controller102) (reading : Int) : Decidable (Overdue file i x reading) :=
  decidable_of_iff (_ ∧ _) ⟨fun both => ⟨both.1, both.2⟩, fun overdue => ⟨overdue.fits, overdue.passed⟩⟩

theorem Overdue.triggers (overdue : Overdue file i x x.now) : Triggers file i x.getCurrentTime :=
  (triggers_iff overdue.fits).mpr overdue.passed

def Controller102.Flagged (x : Controller102) (i : Nat) : Prop :=
  x.shadowStatus.getLsbD (i + timerInterruptShift) = true

def Controller102.Enabled (x : Controller102) (i : Nat) : Prop :=
  x.shadowControl.getLsbD (i + timerInterruptShift) = true

/-- The timer is left alone: its registers are as in `file`, it stays active with its interrupt enabled, the
    interrupt is not acknowledged, the thread gets no command, and the clock does not go back behind the time of the
    timer, which counts from the start of `x`. -/
def Leaves (file : Nat → Byte) (i : Nat) (x : Controller102) : ObjectAction Step → Prop
  | .hookWrite other offset =>
    (offset = 0 → (Words.load32 other 0).getLsbD 0 = false ∧
      (Words.load32 other 0).getLsbD (i + timerActiveShift) = true ∧
      (Words.load32 other 0).getLsbD (i + timerInterruptShift) = true) ∧
    (offset = 4 → (Words.load32 other 4).getLsbD (i + timerInterruptShift) = false)
  | .background .timer other =>
    triggerTimeHi other i = triggerTimeHi file i ∧ triggerTimeLo other i = triggerTimeLo file i
  | .background (.clock reading) _ => Overdue file i x reading
  | .background .abort _ => False
  | _ => True

instance (file : Nat → Byte) (i : Nat) (x : Controller102) : DecidablePred (Leaves file i x)
  | .hookWrite _ _ => inferInstanceAs (Decidable ((_ → _ ∧ _ ∧ _) ∧ (_ → _)))
  | .background .timer _ => inferInstanceAs (Decidable (_ ∧ _))
  | .background (.clock reading) _ => inferInstanceAs (Decidable (Overdue file i x reading))
  | .background .abort _ => .isFalse id
  | .background .construct _ => .isTrue trivial
  | .hookRead _ _ => .isTrue trivial

theorem Leaves.stores {action : ObjectAction Step} (leaves : Leaves file i x action) : ¬ Stores action := by
  cases action with
  | hookRead other offset => exact id
  | hookWrite other offset =>
    rintro ⟨rfl, set⟩
    rw [(leaves.1 rfl).1] at set
    cases set
  | background step other =>
    cases step with
    | abort => exact absurd leaves id
    | _ => exact id

theorem timer_now (moved : x.timerThread file = some x') : x'.now = x.now := by
  revert moved
  fun_cases Controller102.timerThread file x <;> intro moved <;> cases moved <;> rfl

theorem Outside.now {start : Controller102} {action : ObjectAction Step} (outside : Outside x action x')
    (leaves : Leaves file i start action) (overdue : Overdue file i start x.now) : Overdue file i start x'.now := by
  cases outside with
  | hookRead other offset free latched => cases latched <;> exact overdue
  | controlWord other free =>
    obtain ⟨_, changed⟩ | ⟨_, changed⟩ := x.controlChanged_cases (Words.load32 other 0)
    · rw [changed]
      exact overdue
    · rw [changed]
      exact overdue
  | clock reading other => exact leaves
  | _ => exact overdue

/-- The thread runs since `start`, and the timer has fired, or it is active and overdue. -/
structure Waiting (file : Nat → Byte) (i : Nat) (start x : Controller102) : Prop where
  built : x.construction = .done
  sound : Sound x
  command : x.timerThreadControl = .running
  restarts : ¬ x.thread.Restarts
  enabled : x.Enabled i
  pending : x.Flagged i ∨ x.Active i
  whenStarted : x.whenStarted = start.whenStarted
  whenStartedRegisterTime : x.whenStartedRegisterTime = start.whenStartedRegisterTime
  overdue : Overdue file i start x.now

theorem Waiting.triggers {start : Controller102} (waiting : Waiting file i start x) : Triggers file i x.getCurrentTime := by
  apply Overdue.triggers
  constructor
  · rw [waiting.whenStarted, waiting.whenStartedRegisterTime]
    exact waiting.overdue.fits
  · rw [waiting.whenStarted, waiting.whenStartedRegisterTime]
    exact waiting.overdue.passed

structure Kept (i : Nat) (x x' : Controller102) : Prop where
  enabled : x.Enabled i → x'.Enabled i
  flagged : x.Flagged i → x'.Flagged i
  active : x.Active i → x'.Flagged i ∨ x'.Active i

theorem timer_kept (small : i < 8) (bounded : x.thread.Bounded) (moved : x.timerThread file = some x') :
    Kept i x x' := by
  unfold Controller102.timerThread at moved
  cases here : x.thread with
  | reset j timeHi timeLo =>
    simp only [here] at moved
    rw [here] at bounded
    cases moved
    have index : j < 8 := bounded
    have bound : j + timerInterruptShift < 32 := by
      simp only [timerInterruptShift]
      omega
    refine ⟨fun enabled => ?_, fun flagged => ?_, fun active => ?_⟩
    · have other : i + timerInterruptShift ≠ j + timerActiveShift := by
        simp only [timerInterruptShift, timerActiveShift]
        omega
      simp only [Controller102.Enabled, Words.getLsbD_clear, other, decide_false, Bool.not_false, Bool.and_true]
      exact enabled
    · simp only [Controller102.Flagged, Words.getLsbD_set _ bound, Bool.or_eq_true]
      exact Or.inl flagged
    · by_cases mine : i = j
      · left
        simp only [Controller102.Flagged, Words.getLsbD_set _ bound, mine, decide_true, Bool.or_true]
      · right
        have other : i + timerActiveShift ≠ j + timerActiveShift := fun same => mine (Nat.add_right_cancel same)
        simp only [Controller102.Active, Words.getLsbD_clear, other, decide_false, Bool.not_false, Bool.and_true]
        exact active
  | switch =>
    simp only [here] at moved
    split at moved <;> cases moved <;> exact ⟨id, id, Or.inr⟩
  | active j timeHi timeLo =>
    simp only [here] at moved
    split at moved
    · split at moved <;> cases moved <;> exact ⟨id, id, Or.inr⟩
    · cases moved
      exact ⟨id, id, Or.inr⟩
  | compareHi j timeHi timeLo =>
    simp only [here] at moved
    split at moved <;> cases moved <;> exact ⟨id, id, Or.inr⟩
  | compareEqual j timeHi timeLo =>
    simp only [here] at moved
    split at moved <;> cases moved <;> exact ⟨id, id, Or.inr⟩
  | compareLo j timeHi timeLo =>
    simp only [here] at moved
    split at moved <;> cases moved <;> exact ⟨id, id, Or.inr⟩
  | trigger status control =>
    simp only [here] at moved
    split at moved <;> cases moved
    · exact ⟨id, id, Or.inr⟩
    · exact ⟨id, id, Or.inr⟩
  | exited =>
    simp only [here] at moved
    cases moved
  | _ =>
    simp only [here] at moved
    cases moved
    exact ⟨id, id, Or.inr⟩

theorem Outside.kept {start : Controller102} {action : ObjectAction Step} (outside : Outside x action x')
    (leaves : Leaves file i start action) : Kept i x x' := by
  cases outside with
  | hookRead other offset free latched => cases latched <;> exact ⟨id, id, Or.inr⟩
  | controlWord other free =>
    obtain ⟨clear, active, enabled⟩ := leaves.1 rfl
    obtain ⟨set, _⟩ | ⟨_, changed⟩ := x.controlChanged_cases (Words.load32 other 0)
    · rw [clear] at set
      cases set
    · rw [changed]
      exact ⟨fun _ => enabled, id, fun _ => Or.inr active⟩
  | statusWord other free =>
    refine ⟨id, fun flagged => ?_, Or.inr⟩
    have bound : i + timerInterruptShift < 32 := BitVec.lt_of_getLsbD flagged
    rw [Controller102.Flagged] at flagged
    rw [Controller102.Flagged, Controller102.acknowledge, BitVec.getLsbD_and, BitVec.getLsbD_not, BitVec.getLsbD_and,
      leaves.2 rfl, flagged]
    simp [bound]
  | notObserved other offset control status => exact ⟨id, id, Or.inr⟩
  | clock reading other => exact ⟨id, id, Or.inr⟩
  | abort other => exact absurd leaves id

theorem Waiting.step (small : i < 8) {start : Controller102} {action : ObjectAction Step}
    (waiting : Waiting file i start x) (leaves : Leaves file i start action)
    (taken : model.object x action = some x') : Waiting file i start x' := by
  have sound := waiting.sound.step taken
  have built := construction_done waiting.built taken
  obtain ⟨other, rfl, moved⟩ | outside := built_cases waiting.built taken
  · have kept := timer_kept small waiting.sound.bounded moved
    have pending := waiting.pending.elim (fun flagged => Or.inl (kept.flagged flagged)) kept.active
    have overdue := waiting.overdue
    rw [← timer_now moved] at overdue
    by_cases here : x.thread = .switch
    · have next := timer_switch here moved
      have branch : x.timerThreadControl.branch = .currentTime := congrArg TimerThreadControl.branch waiting.command
      rw [branch] at next
      subst next
      exact ⟨built, sound, waiting.command, id, kept.enabled waiting.enabled, pending, waiting.whenStarted,
        waiting.whenStartedRegisterTime, overdue⟩
    · have round := timer_round here waiting.restarts moved
      exact ⟨built, sound, round.command.trans waiting.command, round.restarts, kept.enabled waiting.enabled, pending,
        round.whenStarted.trans waiting.whenStarted,
        round.whenStartedRegisterTime.trans waiting.whenStartedRegisterTime, overdue⟩
  · have kept := outside.kept leaves
    have pending := waiting.pending.elim (fun flagged => Or.inl (kept.flagged flagged)) kept.active
    have beside := outside.beside
    have restarts := waiting.restarts
    rw [← beside.thread] at restarts
    exact ⟨built, sound, (outside.command leaves.stores).trans waiting.command, restarts, kept.enabled waiting.enabled,
      pending, beside.whenStarted.trans waiting.whenStarted,
      beside.whenStartedRegisterTime.trans waiting.whenStartedRegisterTime, outside.now leaves waiting.overdue⟩

def Caught (file : Nat → Byte) (i : Nat) (x : Controller102) : Prop :=
  match x.thread with
  | .switch => True
  | .currentTime => True
  | .acquire timeHi timeLo => x.Flagged i ∨ Triggers file i (timeHi, timeLo)
  | .active j timeHi timeLo => x.Flagged i ∨ j ≤ i ∧ Triggers file i (timeHi, timeLo)
  | .compareHi j timeHi timeLo => x.Flagged i ∨ j ≤ i ∧ Triggers file i (timeHi, timeLo)
  | .compareEqual j timeHi timeLo =>
    x.Flagged i ∨ j ≤ i ∧ Triggers file i (timeHi, timeLo) ∧ (j = i → ¬ triggerTimeHi file i < timeHi)
  | .compareLo j timeHi timeLo =>
    x.Flagged i ∨ j ≤ i ∧ Triggers file i (timeHi, timeLo) ∧ (j = i → timeHi = triggerTimeHi file i)
  | .reset j timeHi timeLo => x.Flagged i ∨ j ≤ i ∧ Triggers file i (timeHi, timeLo)
  | .status => x.Flagged i
  | .control status => x.Flagged i ∧ status.getLsbD i = true
  | .trigger status control => x.Flagged i ∧ status.getLsbD i = true ∧ control.getLsbD i = true
  | .interrupt => True
  | _ => False

theorem Caught.outside {start : Controller102} {action : ObjectAction Step} (caught : Caught file i x)
    (outside : Outside x action x') (leaves : Leaves file i start action) : Caught file i x' := by
  have flagged := (outside.kept leaves).flagged
  have thread := outside.beside.thread
  unfold Caught at caught ⊢
  rw [thread]
  cases here : x.thread with
  | switch => trivial
  | currentTime => trivial
  | interrupt => trivial
  | status =>
    simp only [here] at caught
    exact flagged caught
  | control status =>
    simp only [here] at caught
    exact ⟨flagged caught.1, caught.2⟩
  | trigger status control =>
    simp only [here] at caught
    exact ⟨flagged caught.1, caught.2⟩
  | restartClock => simp only [here] at caught
  | restartRegister => simp only [here] at caught
  | restartRunning => simp only [here] at caught
  | exited => simp only [here] at caught
  | _ =>
    simp only [here] at caught
    exact caught.imp_left flagged

theorem interrupts_bit (word : BitVec 32) (small : i < 8) :
    ((word &&& timerInterruptMask) >>> timerInterruptShift).getLsbD i = word.getLsbD (i + timerInterruptShift) := by
  have mask : timerInterruptMask.getLsbD (timerInterruptShift + i) = true := by
    have cases : i = 0 ∨ i = 1 ∨ i = 2 ∨ i = 3 ∨ i = 4 ∨ i = 5 ∨ i = 6 ∨ i = 7 := by omega
    rcases cases with rfl | rfl | rfl | rfl | rfl | rfl | rfl | rfl <;> decide
  rw [BitVec.getLsbD_ushiftRight, BitVec.getLsbD_and, mask, Bool.and_true, Nat.add_comm]

def SameTimer (file other : Nat → Byte) (i : Nat) : Prop :=
  triggerTimeHi other i = triggerTimeHi file i ∧ triggerTimeLo other i = triggerTimeLo file i

theorem caught_next {j : Nat} {time : BitVec 32 × BitVec 32} (missed : x.Flagged i ∨ j ≤ i ∧ Triggers file i time)
    (other : ¬ x.Flagged i → j ≠ i) : x.Flagged i ∨ j + 1 ≤ i ∧ Triggers file i time := by
  by_cases flagged : x.Flagged i
  · exact Or.inl flagged
  · obtain ⟨le, due⟩ := missed.resolve_left flagged
    have different := other flagged
    exact Or.inr ⟨by omega, due⟩

theorem Caught.timer {start : Controller102} {other : Nat → Byte} (small : i < 8) (waiting : Waiting file i start x)
    (caught : Caught file i x) (same : SameTimer file other i)
    (inside : ∀ status control, x.thread ≠ .trigger status control) (moved : x.timerThread other = some x') :
    Caught file i x' := by
  have flags := (timer_kept small waiting.sound.bounded moved).flagged
  unfold Caught at caught
  unfold Controller102.timerThread at moved
  cases here : x.thread with
  | switch =>
    simp only [here, waiting.command] at moved
    cases moved
    trivial
  | currentTime =>
    simp only [here] at moved
    cases moved
    exact Or.inr waiting.triggers
  | acquire timeHi timeLo =>
    simp only [here] at moved caught
    cases moved
    exact caught.imp_right fun due => ⟨Nat.zero_le i, due⟩
  | active j timeHi timeLo =>
    simp only [here] at moved caught
    split at moved
    · next bound =>
      split at moved
      · cases moved
        exact caught
      · next inactive =>
        cases moved
        refine caught_next caught fun unflagged here => ?_
        subst here
        have active := waiting.pending.resolve_left unflagged
        have shifted : j + timerActiveShift < 32 := by
          simp only [timerActiveShift]
          omega
        exact inactive ((Words.and_bit_ne_zero _ shifted).mpr active)
    · next past =>
      cases moved
      rcases caught with flagged | ⟨le, _⟩
      · exact flagged
      · exact absurd (Nat.lt_of_le_of_lt le small) past
  | compareHi j timeHi timeLo =>
    simp only [here] at moved caught
    split at moved
    · cases moved
      exact caught
    · next notPast =>
      cases moved
      refine caught.imp_right fun found => ⟨found.1, found.2, fun mine => ?_⟩
      subst mine
      rw [← same.1]
      exact notPast
  | compareEqual j timeHi timeLo =>
    simp only [here] at moved caught
    split at moved
    · next equal =>
      cases moved
      refine caught.imp_right fun found => ⟨found.1, found.2.1, fun mine => ?_⟩
      subst mine
      rw [← same.1]
      exact equal
    · next unequal =>
      cases moved
      refine caught_next (caught.imp_right fun found => ⟨found.1, found.2.1⟩) fun unflagged mine => ?_
      subst mine
      obtain ⟨_, past | ⟨equal, _⟩, notPast⟩ := caught.resolve_left unflagged
      · exact notPast rfl past
      · rw [same.1] at unequal
        exact unequal equal
  | compareLo j timeHi timeLo =>
    simp only [here] at moved caught
    split at moved
    · cases moved
      exact caught.imp_right fun found => ⟨found.1, found.2.1⟩
    · next notPast =>
      cases moved
      refine caught_next (caught.imp_right fun found => ⟨found.1, found.2.1⟩) fun unflagged mine => ?_
      subst mine
      obtain ⟨_, past | ⟨_, past⟩, equal⟩ := caught.resolve_left unflagged
      · have same := equal rfl
        subst same
        exact BitVec.lt_irrefl _ past
      · rw [same.2] at notPast
        exact notPast past
  | reset j timeHi timeLo =>
    simp only [here] at moved caught
    have bounded := waiting.sound.bounded
    rw [here] at bounded
    cases moved
    rcases caught with flagged | ⟨le, due⟩
    · exact Or.inl (flags flagged)
    · by_cases mine : j = i
      · subst mine
        left
        have bound : j + timerInterruptShift < 32 := by
          simp only [timerInterruptShift]
          omega
        simp only [Controller102.Flagged, Words.getLsbD_set _ bound, decide_true, Bool.or_true]
      · exact Or.inr ⟨by omega, due⟩
  | status =>
    simp only [here] at moved caught
    cases moved
    exact ⟨caught, (interrupts_bit _ small).trans caught⟩
  | control status =>
    simp only [here] at moved caught
    cases moved
    exact ⟨caught.1, caught.2, (interrupts_bit _ small).trans waiting.enabled⟩
  | trigger status control => exact absurd here (inside status control)
  | interrupt =>
    simp only [here] at moved
    cases moved
    trivial
  | _ =>
    simp only [here] at caught

theorem trigger_interrupts {status control : BitVec 32} {other : Nat → Byte} (here : x.thread = .trigger status control)
    (raised : status.getLsbD i = true) (enabled : control.getLsbD i = true) (moved : x.timerThread other = some x') :
    x'.interrupts = x.interrupts + 1 := by
  have nonzero : status &&& control ≠ 0 := by
    intro zero
    have bit := congrArg (fun word => word.getLsbD i) zero
    rw [BitVec.getLsbD_and, raised, enabled] at bit
    simp at bit
  simp only [Controller102.timerThread, here, nonzero, ne_eq, not_false_iff, if_true] at moved
  cases moved
  rfl

def TimerThread.roundLeft : TimerThread → Nat
  | .switch => 48
  | .interrupt => 49
  | thread => thread.rank

theorem TimerThread.roundLeft_of {thread : TimerThread} (inside : ¬ thread.Between) : thread.roundLeft = thread.rank := by
  cases thread with
  | switch => exact absurd trivial inside
  | interrupt => exact absurd trivial inside
  | _ => rfl

theorem TimerThread.roundLeft_le (thread : TimerThread) : thread.roundLeft ≤ 49 := by
  have bound := thread.rank_le
  cases thread <;> simp only [roundLeft] <;> omega

theorem roundLeft_timer {start : Controller102} {other : Nat → Byte} (waiting : Waiting file i start x)
    (inside : ∀ status control, x.thread ≠ .trigger status control) (moved : x.timerThread other = some x') :
    x'.thread.roundLeft + 1 ≤ x.thread.roundLeft := by
  by_cases here : x.thread = .switch
  · have next := timer_switch here moved
    have branch : x.timerThreadControl.branch = .currentTime := congrArg TimerThreadControl.branch waiting.command
    rw [next, branch, here]
    exact Nat.le_refl _
  · by_cases routine : x.thread = .interrupt
    · simp only [Controller102.timerThread, routine] at moved
      cases moved
      rw [routine]
      exact Nat.le_refl _
    · have round := timer_round here waiting.restarts moved
      have notLast : ¬ x'.thread.Between := by
        intro last
        obtain interrupt | ⟨status, control, trigger⟩ := round.last last
        · exact routine interrupt
        · exact inside status control trigger
      have notBetween : ¬ x.thread.Between := by
        intro between
        cases thread : x.thread with
        | switch => exact here thread
        | interrupt => exact routine thread
        | _ =>
          rw [thread] at between
          exact between
      rw [TimerThread.roundLeft_of notBetween, TimerThread.roundLeft_of notLast]
      exact rank_timer moved here

open Classical in
noncomputable def interruptLeft (file : Nat → Byte) (i : Nat) (x : Controller102) : Nat :=
  if Caught file i x then x.thread.roundLeft else x.thread.roundLeft + 48

theorem interruptLeft_caught (caught : Caught file i x) : interruptLeft file i x = x.thread.roundLeft := by
  rw [interruptLeft, if_pos caught]

theorem Caught.between (between : x.thread.Between) : Caught file i x := by
  unfold Caught
  cases here : x.thread with
  | switch => trivial
  | interrupt => trivial
  | _ =>
    rw [here] at between
    exact absurd between id

theorem interruptLeft_le (file : Nat → Byte) (i : Nat) (x : Controller102) : interruptLeft file i x ≤ 95 := by
  by_cases between : x.thread.Between
  · have bound := x.thread.roundLeft_le
    rw [interruptLeft_caught (Caught.between between)]
    omega
  · have bound := x.thread.rank_le
    rw [interruptLeft, TimerThread.roundLeft_of between]
    split <;> omega

inductive Raised (i : Nat) (x : Controller102) : ObjectAction Step → Prop
  | trigger {status control : BitVec 32} (file : Nat → Byte) (here : x.thread = .trigger status control)
    (flagged : x.Flagged i) (raised : status.getLsbD i = true) (enabled : control.getLsbD i = true) :
    Raised i x (.background .timer file)

theorem interrupt_pays (small : i < 8) {start : Controller102} {action : ObjectAction Step}
    (waiting : Waiting file i start x) (leaves : Leaves file i start action)
    (taken : model.object x action = some x') :
    Raised i x action ∨ timerStep action + interruptLeft file i x' ≤ interruptLeft file i x := by
  obtain ⟨other, rfl, moved⟩ | outside := built_cases waiting.built taken
  · simp only [timerStep]
    by_cases trigger : ∃ status control, x.thread = .trigger status control
    · obtain ⟨status, control, here⟩ := trigger
      by_cases caught : Caught file i x
      · unfold Caught at caught
        rw [here] at caught
        exact Or.inl (.trigger other here caught.1 caught.2.1 caught.2.2)
      · right
        have between : x'.thread.Between := by
          simp only [Controller102.timerThread, here] at moved
          split at moved <;> cases moved <;> trivial
        have bound := x'.thread.roundLeft_le
        have test : x.thread.roundLeft = 2 := congrArg TimerThread.roundLeft here
        rw [interruptLeft_caught (Caught.between between), interruptLeft, if_neg caught, test]
        omega
    · right
      have inside : ∀ status control, x.thread ≠ .trigger status control := fun status control here =>
        trigger ⟨status, control, here⟩
      have less := roundLeft_timer waiting inside moved
      by_cases caught : Caught file i x
      · rw [interruptLeft_caught caught, interruptLeft_caught (caught.timer small waiting leaves inside moved)]
        omega
      · rw [interruptLeft, interruptLeft, if_neg caught]
        split <;> omega
  · right
    rw [outside.timerStep, Nat.zero_add, interruptLeft, interruptLeft, outside.beside.thread]
    by_cases caught : Caught file i x
    · simp only [if_pos caught, if_pos (caught.outside outside leaves), Nat.le_refl]
    · simp only [if_neg caught]
      split <;> omega

theorem Waiting.interrupted {y start : Controller102} {actions : List (ObjectAction Step)} (small : i < 8)
    (waiting : Waiting file i start x) (leaves : ∀ action ∈ actions, Leaves file i start action)
    (ran : Transition.run model.object x actions = some y) :
    (∃ first action rest m, actions = first ++ action :: rest ∧ Transition.run model.object x first = some m ∧
      Raised i m action) ∨ Transition.spent timerStep actions < 96 := by
  have moves : ∀ (z : Controller102) (action : ObjectAction Step) (z' : Controller102), Waiting file i start z →
      Leaves file i start action → model.object z action = some z' → Raised i z action ∨
        Waiting file i start z' ∧ timerStep action + interruptLeft file i z' ≤ interruptLeft file i z :=
    fun _ _ _ waiting leaves taken =>
      (interrupt_pays small waiting leaves taken).imp_right fun paid => ⟨waiting.step small leaves taken, paid⟩
  refine (Transition.run_until moves waiting (Transition.meets_all _ _ leaves) ran).imp_right fun spent => ?_
  have bound := interruptLeft_le file i x
  omega

section

variable {Area : Type}

structure DueTimer (file : Nat → Byte) (i : Nat) (x : Controller102) : Prop where
  index : i < 8
  built : x.construction = .done
  command : x.timerThreadControl = .running
  restarts : ¬ x.thread.Restarts
  enabled : x.Enabled i
  active : x.Active i
  overdue : Overdue file i x x.now

/-- In any run, from any state `s` with a timer that is due and is left alone from then on: in the state `m` the
    timer has fired, and the step from there calls `TriggerInterrupt`. -/
def InterruptsWhenDue (cfg : Config Area (ControllerPtr → Controller102)) (registry : Registry) (memory : Nat → Byte)
    (stale : ControllerPtr → Stale) (now : Int) : Prop :=
  ∀ (earlier actions : List (LiveAction Step)) (s s' : Machine Area (ControllerPtr → Controller102))
    (controller : ControllerPtr) (i : Nat) (file : Nat → Byte),
    Transition.run (Machine.live cfg model.backgrounds) (Machine.boot cfg registry (world memory stale now)) earlier =
        some s →
      Transition.run (Machine.live cfg model.backgrounds) s actions = some s' →
        DueTimer file i (s.world.device controller) →
          (∀ action ∈ s.performed cfg model.backgrounds controller actions,
            Leaves file i (s.world.device controller) action) →
            (∃ first rest m m', actions = first ++ .background controller .timer :: rest ∧
              Transition.run (Machine.live cfg model.backgrounds) s first = some m ∧
              Machine.live cfg model.backgrounds m (.background controller .timer) = some m' ∧
              (m.world.device controller).Flagged i ∧
              (m'.world.device controller).interrupts = (m.world.device controller).interrupts + 1) ∨
            Transition.spent timerStep (s.performed cfg model.backgrounds controller actions) < 96

/-- A due timer fires and its interrupt is triggered within two rounds of the thread, whatever the other threads
    do to the other registers, and whenever they wait for the memory lock. -/
theorem interrupts_when_due (platform : Platform Area) (program : ThreadId → Program) (registry : Registry)
    (memory : Nat → Byte) (stale : ControllerPtr → Stale) (now : Int) :
    InterruptsWhenDue { platform, controllers := model.controllers, program } registry memory stale now := by
  intro earlier actions s s' controller i file ran more due leaves
  have waiting : Waiting file i (s.world.device controller) (s.world.device controller) :=
    ⟨due.built, Sound.live rfl ran controller, due.command, due.restarts, due.enabled, Or.inr due.active, rfl, rfl,
      due.overdue⟩
  refine (waiting.interrupted due.index leaves (Machine.live_performed rfl more)).imp_left ?_
  rintro ⟨first, own, rest, x, split, before, found⟩
  obtain ⟨prior, last, after, m, rfl, reached, rfl, performs⟩ := Machine.performed_split more split
  have here : Transition.run model.object (s.world.device controller)
      (s.performed _ model.backgrounds controller prior) = some (m.world.device controller) :=
    Machine.live_performed rfl reached
  cases before.symm.trans here
  obtain ⟨seen, test, flagged, raised, enabled⟩ := found
  cases Machine.objectAction_background performs
  rw [Transition.run_append, reached, Option.bind_some, Transition.run_cons] at more
  obtain ⟨m', taken, _⟩ := Option.bind_eq_some_iff.mp more
  obtain ⟨_, moved⟩ := live_timer rfl taken
  exact ⟨prior, after, m, m', rfl, reached, taken, flagged, trigger_interrupts test raised enabled moved⟩

end

def timersLeft : List (LiveAction Step) :=
  threadSteps 10 ++ driverSteps 1 2 ++ threadSteps 7 ++ driverSteps 1 6 ++ [.background 8 (.clock 12450001000)] ++
    threadSteps 90

set_option maxRecDepth 10000 in
theorem timersLeft_interrupt :
    ∃ first rest m m', timersLeft = first ++ .background 8 .timer :: rest ∧
      Transition.run (Machine.live timersDriven model.backgrounds) (afterTimers .unnamed timersStarted) first = some m ∧
      Machine.live timersDriven model.backgrounds m (.background 8 .timer) = some m' ∧
      (m.world.device 8).Flagged 1 ∧ (m'.world.device 8).interrupts = (m.world.device 8).interrupts + 1 := by
  have due : DueTimer timersSet 1 ((afterTimers .unnamed timersStarted).world.device 8) :=
    { index := by decide
      built := by decide +kernel
      command := by decide +kernel
      restarts := by decide +kernel
      enabled := by
        unfold Controller102.Enabled
        decide +kernel
      active := by
        unfold Controller102.Active
        decide +kernel
      overdue := by decide +kernel }
  have interrupts := interrupts_when_due Posix.platform startTimers one timersMemory (fun _ => ⟨.unnamed, 5, 0⟩) 7000000000
    timersStarted timersLeft (afterTimers .unnamed timersStarted) _ 8 1 timersSet
    (Transition.run_eq_reach (by decide +kernel)) (Transition.run_reach (by decide +kernel)) due (by decide +kernel)
  exact interrupts.resolve_right (by decide +kernel)

end ExMM.TimeController
