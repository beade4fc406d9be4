import ExMM.Devices.TimeController
import ExMM.Machine.Removal

namespace ExMM.TimeController

def TimerThread.Restarts : TimerThread → Prop
  | .restartClock => True
  | .restartRegister => True
  | .restartRunning => True
  | _ => False

instance : DecidablePred TimerThread.Restarts := fun thread =>
  decidable_of_iff (thread = .restartClock ∨ thread = .restartRegister ∨ thread = .restartRunning) (by
    cases thread <;> simp [TimerThread.Restarts])

def TimerThreadControl.branch : TimerThreadControl → TimerThread
  | .idle => .switch
  | .abort => .exited
  | .running => .currentTime
  | .restart => .restartClock
  | .unnamed => .currentTime

variable {x x' : Controller102} {file : Nat → Byte}

theorem timer_switch (here : x.thread = .switch) (moved : x.timerThread file = some x') :
    x' = { x with thread := x.timerThreadControl.branch } := by
  unfold Controller102.timerThread at moved
  simp only [here] at moved
  split at moved
  · next command =>
    have branch : x.timerThreadControl.branch = .exited := congrArg TimerThreadControl.branch command
    cases moved
    rw [branch]
  · next command =>
    have branch : x.timerThreadControl.branch = x.thread := (congrArg TimerThreadControl.branch command).trans here.symm
    cases moved
    rw [branch]
  · next command =>
    have branch : x.timerThreadControl.branch = .restartClock := congrArg TimerThreadControl.branch command
    cases moved
    rw [branch]
  · next command =>
    have branch : x.timerThreadControl.branch = .currentTime := congrArg TimerThreadControl.branch command
    cases moved
    rw [branch]
  · next command =>
    have branch : x.timerThreadControl.branch = .currentTime := congrArg TimerThreadControl.branch command
    cases moved
    rw [branch]

theorem timer_construction (moved : x.timerThread file = some x') : x'.construction = x.construction := by
  revert moved
  fun_cases Controller102.timerThread file x <;> intro moved <;> cases moved <;> rfl

theorem construction_done {action : ObjectAction Step} (built : x.construction = .done)
    (taken : model.object x action = some x') : x'.construction = .done := by
  obtain ⟨file, rfl, moved⟩ | outside := built_cases built taken
  · exact (timer_construction moved).trans built
  · exact outside.beside.construction.trans built

def TimerThread.Between : TimerThread → Prop
  | .switch => True
  | .interrupt => True
  | _ => False

structure Round (x x' : Controller102) : Prop where
  command : x'.timerThreadControl = x.timerThreadControl
  whenStarted : x'.whenStarted = x.whenStarted
  whenStartedRegisterTime : x'.whenStartedRegisterTime = x.whenStartedRegisterTime
  restarts : ¬ x'.thread.Restarts
  running : x'.thread ≠ .exited
  last : x'.thread.Between → x.thread = .interrupt ∨ ∃ status control, x.thread = .trigger status control

theorem timer_round (inside : x.thread ≠ .switch) (restarts : ¬ x.thread.Restarts)
    (moved : x.timerThread file = some x') : Round x x' := by
  unfold Controller102.timerThread at moved
  cases here : x.thread with
  | switch => exact absurd here inside
  | restartClock =>
    rw [here] at restarts
    exact absurd trivial restarts
  | restartRegister =>
    rw [here] at restarts
    exact absurd trivial restarts
  | restartRunning =>
    rw [here] at restarts
    exact absurd trivial restarts
  | exited =>
    simp only [here] at moved
    cases moved
  | active i timeHi timeLo =>
    simp only [here] at moved
    split at moved
    · split at moved <;> cases moved <;> exact ⟨rfl, rfl, rfl, id, TimerThread.noConfusion, False.elim⟩
    · cases moved
      exact ⟨rfl, rfl, rfl, id, TimerThread.noConfusion, False.elim⟩
  | compareHi i timeHi timeLo =>
    simp only [here] at moved
    split at moved <;> cases moved <;> exact ⟨rfl, rfl, rfl, id, TimerThread.noConfusion, False.elim⟩
  | compareEqual i timeHi timeLo =>
    simp only [here] at moved
    split at moved <;> cases moved <;> exact ⟨rfl, rfl, rfl, id, TimerThread.noConfusion, False.elim⟩
  | compareLo i timeHi timeLo =>
    simp only [here] at moved
    split at moved <;> cases moved <;> exact ⟨rfl, rfl, rfl, id, TimerThread.noConfusion, False.elim⟩
  | trigger status control =>
    simp only [here] at moved
    split at moved <;> cases moved <;>
      exact ⟨rfl, rfl, rfl, id, TimerThread.noConfusion, fun _ => Or.inr ⟨status, control, here⟩⟩
  | interrupt =>
    simp only [here] at moved
    cases moved
    exact ⟨rfl, rfl, rfl, id, TimerThread.noConfusion, fun _ => Or.inl here⟩
  | _ =>
    simp only [here] at moved
    cases moved
    exact ⟨rfl, rfl, rfl, id, TimerThread.noConfusion, False.elim⟩

def StoresRestart : ObjectAction Step → Prop
  | .hookWrite file offset => offset = 0 ∧ (Words.load32 file 0).getLsbD 0 = true
  | _ => False

def Stores : ObjectAction Step → Prop
  | .background .abort _ => True
  | action => StoresRestart action

instance : DecidablePred StoresRestart
  | .hookWrite file offset => inferInstanceAs (Decidable (offset = 0 ∧ (Words.load32 file 0).getLsbD 0 = true))
  | .background _ _ => .isFalse id
  | .hookRead _ _ => .isFalse id

instance : DecidablePred Stores
  | .hookWrite file offset => inferInstanceAs (Decidable (StoresRestart (.hookWrite file offset)))
  | .background .abort _ => .isTrue trivial
  | .background .timer _ => .isFalse id
  | .background (.clock _) _ => .isFalse id
  | .background .construct _ => .isFalse id
  | .hookRead _ _ => .isFalse id

theorem Outside.command {action : ObjectAction Step} (outside : Outside x action x') (none : ¬ Stores action) :
    x'.timerThreadControl = x.timerThreadControl := by
  cases outside with
  | hookRead file offset free latched => cases latched <;> rfl
  | controlWord file free =>
    obtain ⟨set, _⟩ | ⟨_, changed⟩ := x.controlChanged_cases (Words.load32 file 0)
    · exact absurd (And.intro rfl set) none
    · rw [changed]
  | abort file => exact absurd trivial none
  | _ => rfl

theorem Outside.restart {action : ObjectAction Step} (outside : Outside x action x') (stores : StoresRestart action) :
    x'.timerThreadControl = .restart := by
  cases outside with
  | controlWord file free =>
    obtain ⟨_, changed⟩ | ⟨clear, _⟩ := x.controlChanged_cases (Words.load32 file 0)
    · rw [changed]
    · rw [stores.2] at clear
      cases clear
  | notObserved file offset control status => exact absurd stores.1 control
  | statusWord file free => cases stores.1
  | _ => exact absurd stores id

theorem abort_stores (aborted : model.object x (.background .abort file) = some x') :
    x.construction = .done ∧ x' = { x with timerThreadControl := .abort } := by
  obtain ⟨_, moved, rfl⟩ := Option.map_eq_some_iff.mp aborted
  obtain ⟨next, stored, rfl⟩ := Option.map_eq_some_iff.mp moved
  obtain ⟨built, same⟩ := Option.ite_none_right_eq_some.mp stored
  exact ⟨built, (Option.some.inj same).symm⟩

structure Aborting (x : Controller102) : Prop where
  built : x.construction = .done
  command : x.timerThreadControl = .abort
  restarts : ¬ x.thread.Restarts

theorem Aborting.step {action : ObjectAction Step} (aborting : Aborting x) (none : ¬ Stores action)
    (taken : model.object x action = some x') :
    Aborting x' ∧ (x'.thread = .exited ∨ timerStep action + x'.thread.rank ≤ x.thread.rank) := by
  have built := construction_done aborting.built taken
  obtain ⟨file, rfl, moved⟩ | outside := built_cases aborting.built taken
  · by_cases here : x.thread = .switch
    · have ended := timer_switch here moved
      have branch : x.timerThreadControl.branch = .exited := congrArg TimerThreadControl.branch aborting.command
      rw [branch] at ended
      subst ended
      exact ⟨⟨built, aborting.command, id⟩, Or.inl rfl⟩
    · have round := timer_round here aborting.restarts moved
      have less := rank_timer moved here
      refine ⟨⟨built, round.command.trans aborting.command, round.restarts⟩, Or.inr ?_⟩
      simp only [timerStep]
      omega
  · have beside := outside.beside
    refine ⟨⟨built, (outside.command none).trans aborting.command, ?_⟩, Or.inr (Nat.le_of_eq ?_)⟩
    · rw [beside.thread]
      exact aborting.restarts
    · rw [outside.timerStep, beside.thread, Nat.zero_add]

inductive Overwriting (x : Controller102) : Prop
  | restarting (restarts : x.thread.Restarts)
  | running (command : x.timerThreadControl = .running) (restarts : ¬ x.thread.Restarts) (running : x.thread ≠ .exited)

theorem Overwriting.exited (overwriting : Overwriting x) : x.thread ≠ .exited := by
  cases overwriting with
  | restarting restarts =>
    intro ended
    rw [ended] at restarts
    exact restarts
  | running command restarts running => exact running

theorem Overwriting.timer (overwriting : Overwriting x) (moved : x.timerThread file = some x') : Overwriting x' := by
  cases overwriting with
  | restarting restarts =>
    unfold Controller102.timerThread at moved
    cases here : x.thread with
    | restartClock =>
      simp only [here] at moved
      cases moved
      exact .restarting trivial
    | restartRegister =>
      simp only [here] at moved
      cases moved
      exact .restarting trivial
    | restartRunning =>
      simp only [here] at moved
      cases moved
      exact .running rfl id TimerThread.noConfusion
    | _ =>
      rw [here] at restarts
      exact absurd restarts id
  | running command restarts running =>
    by_cases here : x.thread = .switch
    · have next := timer_switch here moved
      have branch : x.timerThreadControl.branch = .currentTime := congrArg TimerThreadControl.branch command
      rw [branch] at next
      subst next
      exact .running command id TimerThread.noConfusion
    · have round := timer_round here restarts moved
      exact .running (round.command.trans command) round.restarts round.running

theorem Overwriting.outside {action : ObjectAction Step} (overwriting : Overwriting x) (none : ¬ Stores action)
    (outside : Outside x action x') : Overwriting x' := by
  have beside := outside.beside
  cases overwriting with
  | restarting restarts =>
    rw [← beside.thread] at restarts
    exact .restarting restarts
  | running command restarts running =>
    rw [← beside.thread] at restarts running
    exact .running ((outside.command none).trans command) restarts running

theorem Overwriting.step {action : ObjectAction Step} (overwriting : Overwriting x) (built : x.construction = .done)
    (none : ¬ Stores action) (taken : model.object x action = some x') : Overwriting x' := by
  obtain ⟨file, rfl, moved⟩ | outside := built_cases built taken
  · exact overwriting.timer moved
  · exact overwriting.outside none outside

/-- The clock of the current restart has been read, but `Running` not yet been stored. -/
def TimerThread.Late : TimerThread → Prop
  | .restartRegister => True
  | .restartRunning => True
  | _ => False

instance : DecidablePred TimerThread.Late := fun thread =>
  decidable_of_iff (thread = .restartRegister ∨ thread = .restartRunning) (by cases thread <;> simp [TimerThread.Late])

theorem TimerThread.late_restarts {thread : TimerThread} (late : thread.Late) : thread.Restarts := by
  cases thread with
  | restartRegister => trivial
  | restartRunning => trivial
  | _ => exact absurd late id

theorem TimerThread.restarts_late {thread : TimerThread} (restarts : thread.Restarts) (other : thread ≠ .restartClock) :
    thread.Late := by
  cases thread with
  | restartClock => exact absurd rfl other
  | restartRegister => trivial
  | restartRunning => trivial
  | _ => exact restarts

def TimerThread.restartLeft : TimerThread → Nat
  | .restartClock => 1
  | thread => thread.rank + 2

theorem TimerThread.restartLeft_of {thread : TimerThread} (other : thread ≠ .restartClock) :
    thread.restartLeft = thread.rank + 2 := by
  cases thread with
  | restartClock => exact absurd rfl other
  | _ => rfl

theorem TimerThread.restartLeft_le (thread : TimerThread) : thread.restartLeft ≤ 49 := by
  have bound := thread.rank_le
  cases thread <;> simp only [restartLeft] <;> omega

theorem TimerThread.restartLeft_pos (thread : TimerThread) : 0 < thread.restartLeft := by
  cases thread <;> simp only [restartLeft] <;> omega

structure Restarting (x : Controller102) : Prop where
  built : x.construction = .done
  command : x.timerThreadControl = .restart
  early : ¬ x.thread.Late
  runs : x.thread ≠ .exited

def ReadsClock (x : Controller102) : ObjectAction Step → Prop
  | .background .timer _ => x.thread = .restartClock
  | _ => False

theorem Restarting.step {action : ObjectAction Step} (restarting : Restarting x) (none : ¬ Stores action)
    (taken : model.object x action = some x') :
    ReadsClock x action ∨ Restarting x' ∧ timerStep action + x'.thread.restartLeft ≤ x.thread.restartLeft := by
  obtain ⟨before, command, early, runs⟩ := restarting
  have built := construction_done before taken
  obtain ⟨file, rfl, moved⟩ | outside := built_cases before taken
  · by_cases clock : x.thread = .restartClock
    · exact Or.inl clock
    right
    by_cases here : x.thread = .switch
    · have next := timer_switch here moved
      have branch : x.timerThreadControl.branch = .restartClock := congrArg TimerThreadControl.branch command
      rw [branch] at next
      subst next
      refine ⟨⟨built, command, id, TimerThread.noConfusion⟩, ?_⟩
      rw [here]
      exact Nat.le_refl _
    · have round := timer_round here (fun restarts => early (TimerThread.restarts_late restarts clock)) moved
      have less := rank_timer moved here
      have notClock : x'.thread ≠ .restartClock := by
        intro reached
        apply round.restarts
        rw [reached]
        trivial
      refine ⟨⟨built, round.command.trans command, fun late => round.restarts (TimerThread.late_restarts late),
        round.running⟩, ?_⟩
      rw [TimerThread.restartLeft_of clock, TimerThread.restartLeft_of notClock, timerStep]
      omega
  · have beside := outside.beside
    refine Or.inr ⟨⟨built, (outside.command none).trans command, ?_, ?_⟩, Nat.le_of_eq ?_⟩
    · rw [beside.thread]
      exact early
    · rw [beside.thread]
      exact runs
    · rw [outside.timerStep, beside.thread, Nat.zero_add]

/-- The clock has been read for the last time: the thread restarts already, runs without a command or has ended. -/
inductive Settled (x : Controller102) : Prop
  | late (late : x.thread.Late)
  | running (command : x.timerThreadControl = .running) (restarts : ¬ x.thread.Restarts)
  | exited (ended : x.thread = .exited)

theorem Settled.timer (settled : Settled x) (moved : x.timerThread file = some x') :
    Settled x' ∧ x'.whenStarted = x.whenStarted := by
  cases settled with
  | late late =>
    unfold Controller102.timerThread at moved
    cases here : x.thread with
    | restartRegister =>
      simp only [here] at moved
      cases moved
      exact ⟨.late trivial, rfl⟩
    | restartRunning =>
      simp only [here] at moved
      cases moved
      exact ⟨.running rfl id, rfl⟩
    | _ =>
      rw [here] at late
      exact absurd late id
  | running command restarts =>
    by_cases here : x.thread = .switch
    · have next := timer_switch here moved
      have branch : x.timerThreadControl.branch = .currentTime := congrArg TimerThreadControl.branch command
      rw [branch] at next
      subst next
      exact ⟨.running command id, rfl⟩
    · have round := timer_round here restarts moved
      exact ⟨.running (round.command.trans command) round.restarts, round.whenStarted⟩
  | exited ended =>
    simp only [Controller102.timerThread, ended] at moved
    cases moved

theorem Settled.outside {action : ObjectAction Step} (settled : Settled x) (none : ¬ Stores action)
    (outside : Outside x action x') : Settled x' := by
  have thread := outside.beside.thread
  cases settled with
  | late late =>
    rw [← thread] at late
    exact .late late
  | running command restarts =>
    rw [← thread] at restarts
    exact .running ((outside.command none).trans command) restarts
  | exited ended => exact .exited (thread.trans ended)

theorem Settled.step {action : ObjectAction Step} (settled : Settled x) (built : x.construction = .done)
    (none : ¬ Stores action) (taken : model.object x action = some x') :
    Settled x' ∧ x'.whenStarted = x.whenStarted := by
  obtain ⟨file, rfl, moved⟩ | outside := built_cases built taken
  · exact settled.timer moved
  · exact ⟨settled.outside none outside, outside.beside.whenStarted⟩

section

variable {y : Controller102} {actions : List (ObjectAction Step)}

theorem Aborting.joins (aborting : Aborting x) (quiet : ∀ action ∈ actions, ¬ Stores action)
    (ran : Transition.run model.object x actions = some y) :
    y.thread = .exited ∨ Transition.spent timerStep actions < 48 := by
  have keep : ∀ (x : Controller102) (action : ObjectAction Step) (x' : Controller102), Aborting x →
      ¬ Stores action → model.object x action = some x' → Aborting x' :=
    fun _ _ _ aborting none taken => (aborting.step none taken).1
  have stays : ∀ (x : Controller102) (action : ObjectAction Step) (x' : Controller102), Aborting x →
      x.thread = .exited → ¬ Stores action → model.object x action = some x' → x'.thread = .exited := by
    intro x action x' aborting ended _ taken
    obtain ⟨file, rfl, moved⟩ | outside := built_cases aborting.built taken
    · simp only [Controller102.timerThread, ended] at moved
      cases moved
    · exact outside.beside.thread.trans ended
  have pays : ∀ (x : Controller102) (action : ObjectAction Step) (x' : Controller102), Aborting x →
      ¬ Stores action → model.object x action = some x' →
        x'.thread = .exited ∨ timerStep action + x'.thread.rank ≤ x.thread.rank :=
    fun _ _ _ aborting none taken => (aborting.step none taken).2
  have counted := Transition.run_countdown keep stays pays aborting (Transition.meets_all _ _ quiet) ran
  have bound := x.thread.rank_le
  exact counted.imp_right fun paid => by omega

theorem Overwriting.spins (overwriting : Overwriting x) (built : x.construction = .done)
    (quiet : ∀ action ∈ actions, ¬ Stores action) (ran : Transition.run model.object x actions = some y) :
    y.thread ≠ .exited := by
  have keep : ∀ (x : Controller102) (action : ObjectAction Step) (x' : Controller102),
      x.construction = .done ∧ Overwriting x → ¬ Stores action → model.object x action = some x' →
        x'.construction = .done ∧ Overwriting x' := by
    rintro x action x' ⟨built, overwriting⟩ none taken
    exact ⟨construction_done built taken, overwriting.step built none taken⟩
  exact (Transition.run_guarded keep ⟨built, overwriting⟩ (Transition.meets_all _ _ quiet) ran).2.exited

theorem Settled.kept (settled : Settled x) (built : x.construction = .done) (quiet : ∀ action ∈ actions, ¬ Stores action)
    (ran : Transition.run model.object x actions = some y) : y.whenStarted = x.whenStarted := by
  have keep : ∀ (z : Controller102) (action : ObjectAction Step) (z' : Controller102),
      z.construction = .done ∧ Settled z ∧ z.whenStarted = x.whenStarted → ¬ Stores action →
        model.object z action = some z' → z'.construction = .done ∧ Settled z' ∧ z'.whenStarted = x.whenStarted := by
    rintro z action z' ⟨built, settled, same⟩ none taken
    obtain ⟨onwards, started⟩ := settled.step built none taken
    exact ⟨construction_done built taken, onwards, started.trans same⟩
  exact (Transition.run_guarded keep ⟨built, settled, rfl⟩ (Transition.meets_all _ _ quiet) ran).2.2

theorem Restarting.restarts (restarting : Restarting x) (quiet : ∀ action ∈ actions, ¬ Stores action)
    (ran : Transition.run model.object x actions = some y) :
    (∃ first file rest m, actions = first ++ .background .timer file :: rest ∧
      Transition.run model.object x first = some m ∧ m.thread = .restartClock ∧ y.whenStarted = m.now) ∨ Transition.spent timerStep actions < 49 := by
  have moves : ∀ (z : Controller102) (action : ObjectAction Step) (z' : Controller102), Restarting z →
      ¬ Stores action → model.object z action = some z' →
        ReadsClock z action ∧ z.construction = .done ∨
          Restarting z' ∧ timerStep action + z'.thread.restartLeft ≤ z.thread.restartLeft :=
    fun _ _ _ restarting none taken => (restarting.step none taken).imp_left fun reads => ⟨reads, restarting.built⟩
  rcases Transition.run_until moves restarting (Transition.meets_all _ _ quiet) ran with
    ⟨first, action, rest, m, rfl, before, reads, built⟩ | spent
  · left
    rw [Transition.run_append, before, Option.bind_some, Transition.run_cons] at ran
    obtain ⟨next, taken, after⟩ := Option.bind_eq_some_iff.mp ran
    obtain ⟨file, rfl, moved⟩ | outside := built_cases built taken
    · refine ⟨first, file, rest, m, rfl, before, reads, ?_⟩
      have onwards : next = { m with whenStarted := m.now, thread := .restartRegister } := by
        have clock : m.thread = .restartClock := reads
        simp only [Controller102.timerThread, clock] at moved
        exact (Option.some.inj moved).symm
      have others : ∀ action ∈ rest, ¬ Stores action := fun action member =>
        quiet action (List.mem_append_right _ (List.mem_cons_of_mem _ member))
      have settled : Settled next := .late (by rw [onwards]; trivial)
      rw [settled.kept (construction_done built taken) others after, onwards]
    · cases outside <;> cases reads
  · right
    have bound := x.thread.restartLeft_le
    have last := y.thread.restartLeft_pos
    omega

end

section

variable {Area : Type}

theorem exists_timer (file : Nat → Byte) (runs : x.thread ≠ .exited) : ∃ x', x.timerThread file = some x' := by
  fun_cases Controller102.timerThread file x
  case case26 ended => exact absurd ended runs
  all_goals exact ⟨_, rfl⟩

theorem live_registry {cfg : Config Area (ControllerPtr → Controller102)} {m m' : Machine Area (ControllerPtr → Controller102)}
    {action : LiveAction Step} (taken : Machine.live cfg model.backgrounds m action = some m') :
    m'.registry = m.registry := by
  cases action with
  | processor t report => exact (Machine.step_held (Option.ite_none_left_eq_some.mp taken).2).1
  | background target step =>
    obtain ⟨_, moved⟩ := Option.ite_none_left_eq_some.mp taken
    obtain ⟨world, _, rfl⟩ := Option.map_eq_some_iff.mp moved
    rfl

theorem run_registry {cfg : Config Area (ControllerPtr → Controller102)}
    {m m' : Machine Area (ControllerPtr → Controller102)} {actions : List (LiveAction Step)}
    (ran : Transition.run (Machine.live cfg model.backgrounds) m actions = some m') : m'.registry = m.registry :=
  Transition.run_invariant
    (fun _ _ _ (same : _ = m.registry) taken => (live_registry taken).trans same) rfl ran

/-- The thread waits for nobody for ever: its next step is enabled until it ends. -/
theorem timer_enabled {cfg : Config Area (ControllerPtr → Controller102)}
    {s next m : Machine Area (ControllerPtr → Controller102)} {controller : ControllerPtr} {step : Step}
    (earlier : Machine.live cfg model.backgrounds s (.background controller step) = some next)
    (same : m.registry = s.registry) (alive : m.process ≠ .killed) (runs : (m.world.device controller).thread ≠ .exited) :
    ∃ m', Machine.live cfg model.backgrounds m (.background controller .timer) = some m' := by
  obtain ⟨_, moved⟩ := Option.ite_none_left_eq_some.mp earlier
  obtain ⟨world, stepped, _⟩ := Option.map_eq_some_iff.mp moved
  obtain ⟨ioSpace, entry, stepped⟩ := Option.bind_eq_some_iff.mp stepped
  obtain ⟨space, present, _⟩ := Option.bind_eq_some_iff.mp stepped
  obtain ⟨x, timer⟩ := exists_timer (space.file m.world.memory) runs
  rw [← same] at entry present
  simp only [Machine.live, if_neg alive, World.background, Option.bind_eq_bind]
  simp [entry, present, DeviceModel.backgrounds, model, Controller102.step, timer]

/-- The destructor stores `Abort` in the state `s` and waits in `join`, and nobody stores another command. -/
def JoinsUnlessRestarting (cfg : Config Area (ControllerPtr → Controller102)) : Prop :=
  ∀ (actions : List (LiveAction Step)) (s stored s' : Machine Area (ControllerPtr → Controller102))
    (controller : ControllerPtr),
    Machine.live cfg model.backgrounds s (.background controller .abort) = some stored →
      Transition.run (Machine.live cfg model.backgrounds) stored actions = some s' →
        (∀ action ∈ stored.performed cfg model.backgrounds controller actions, ¬ Stores action) →
          (¬ (s.world.device controller).thread.Restarts → (s'.world.device controller).thread = .exited ∨
            Transition.spent timerStep (stored.performed cfg model.backgrounds controller actions) < 48) ∧
          ((s.world.device controller).thread.Restarts → (s'.world.device controller).thread ≠ .exited) ∧
          (s'.process ≠ .killed → (s'.world.device controller).thread ≠ .exited →
            ∃ next, Machine.live cfg model.backgrounds s' (.background controller .timer) = some next)

/-- `join` returns within one round of the thread, unless the destructor begins while the thread restarts: then
    the thread overwrites `Abort` and never ends. -/
theorem joins_unless_restarting (platform : Platform Area) (program : ThreadId → Program) :
    JoinsUnlessRestarting { platform, controllers := model.controllers, program } := by
  intro actions s stored s' controller aborted ran quiet
  obtain ⟨file, performs⟩ := Machine.live_objectAction aborted
  obtain ⟨built, abort⟩ := abort_stores (Machine.live_performs rfl performs aborted)
  have object : Transition.run model.object (stored.world.device controller)
      (stored.performed _ model.backgrounds controller actions) = some (s'.world.device controller) :=
    Machine.live_performed rfl ran
  rw [abort] at object
  refine ⟨?_, ?_, timer_enabled aborted ((run_registry ran).trans (live_registry aborted))⟩
  · intro restarts
    have aborting : Aborting { s.world.device controller with timerThreadControl := .abort } := ⟨built, rfl, restarts⟩
    exact aborting.joins quiet object
  · intro restarts
    have overwriting : Overwriting { s.world.device controller with timerThreadControl := .abort } := .restarting restarts
    exact overwriting.spins built quiet object

def timersRestarting : List (LiveAction Step) :=
  constructed ++ driverSteps 0 9 ++ threadSteps 2

def aborted (earlier : List (LiveAction Step)) : List (LiveAction Step) := earlier ++ [.background 8 .abort]

set_option maxRecDepth 10000 in
theorem destructor_joins :
    (((afterTimers .unnamed (aborted timersStarted ++ threadSteps 22)).world.device 8).thread = .exited ∨
      Transition.spent timerStep
        ((afterTimers .unnamed (aborted timersStarted)).performed timersDriven model.backgrounds 8 (threadSteps 22)) < 48) ∧
    ((afterTimers .unnamed (aborted timersRestarting ++ threadSteps 60)).world.device 8).thread ≠ .exited ∧
    ∃ next, Machine.live timersDriven model.backgrounds (afterTimers .unnamed (aborted timersRestarting ++ threadSteps 60))
      (.background 8 .timer) = some next := by
  constructor
  · have joins := joins_unless_restarting Posix.platform startTimers (threadSteps 22) (afterTimers .unnamed timersStarted) _ _ 8
      ((Transition.run_single _ _ _).symm.trans (Transition.run_reach (by decide +kernel)))
      (Transition.run_reach (by decide +kernel)) (by decide +kernel)
    exact joins.1 (by decide +kernel)
  · have joins := joins_unless_restarting Posix.platform startTimers (threadSteps 60) (afterTimers .unnamed timersRestarting) _ _ 8
      ((Transition.run_single _ _ _).symm.trans (Transition.run_reach (by decide +kernel)))
      (Transition.run_reach (by decide +kernel)) (by decide +kernel)
    have spins := joins.2.1 (by decide +kernel)
    exact ⟨spins, joins.2.2 (by decide +kernel) spins⟩

structure Starts (cfg : Config Area (ControllerPtr → Controller102)) (controller : ControllerPtr)
    (s stored : Machine Area (ControllerPtr → Controller102)) (action : LiveAction Step) : Prop where
  built : (s.world.device controller).construction = .done
  stores : ∃ own ∈ s.objectAction controller action, StoresRestart own
  taken : Machine.live cfg model.backgrounds s action = some stored

/-- In the rest of the run nobody stores another command. The thread reads the clock in the state `m`. -/
def RestartsUnlessLate (cfg : Config Area (ControllerPtr → Controller102)) : Prop :=
  ∀ (actions : List (LiveAction Step)) (s stored s' : Machine Area (ControllerPtr → Controller102))
    (controller : ControllerPtr) (action : LiveAction Step),
    Starts cfg controller s stored action →
      Transition.run (Machine.live cfg model.backgrounds) stored actions = some s' →
        (∀ action ∈ stored.performed cfg model.backgrounds controller actions, ¬ Stores action) →
          (¬ (s.world.device controller).thread.Late → (s.world.device controller).thread ≠ .exited →
            (∃ first rest m, actions = first ++ .background controller .timer :: rest ∧
              Transition.run (Machine.live cfg model.backgrounds) stored first = some m ∧
              (m.world.device controller).thread = .restartClock ∧
              (s'.world.device controller).whenStarted = (m.world.device controller).now) ∨
            Transition.spent timerStep (stored.performed cfg model.backgrounds controller actions) < 49) ∧
          ((s.world.device controller).thread.Late ∨ (s.world.device controller).thread = .exited →
            (s'.world.device controller).whenStarted = (s.world.device controller).whenStarted)

/-- After each write of `Start` the clock starts again within one round of the thread, unless it comes between the
    clock and the store of `Running` of another restart or the thread has ended: then it has no effect. -/
theorem restarts_unless_late (platform : Platform Area) (program : ThreadId → Program) :
    RestartsUnlessLate { platform, controllers := model.controllers, program } := by
  intro actions s stored s' controller action starts ran quiet
  have object : Transition.run model.object (stored.world.device controller)
      (stored.performed _ model.backgrounds controller actions) = some (s'.world.device controller) :=
    Machine.live_performed rfl ran
  obtain ⟨own, performs, stores⟩ := starts.stores
  obtain ⟨_, rfl, _⟩ | outside := built_cases starts.built (Machine.live_performs rfl performs starts.taken)
  · exact absurd stores id
  · have beside := outside.beside
    have built := beside.construction.trans starts.built
    constructor
    · intro early runs
      have restarting : Restarting (stored.world.device controller) := by
        refine ⟨built, outside.restart stores, ?_, ?_⟩
        · rw [beside.thread]
          exact early
        · rw [beside.thread]
          exact runs
      refine (restarting.restarts quiet object).imp_left ?_
      rintro ⟨first, seen, rest, x, split, before, clock, started⟩
      obtain ⟨prior, last, after, m, rfl, reached, rfl, found⟩ := Machine.performed_split ran split
      have here : Transition.run model.object (stored.world.device controller)
          (stored.performed _ model.backgrounds controller prior) = some (m.world.device controller) :=
        Machine.live_performed rfl reached
      cases before.symm.trans here
      rw [Machine.objectAction_background found]
      exact ⟨prior, after, m, rfl, reached, clock, started⟩
    · intro missed
      have settled : Settled (stored.world.device controller) := by
        rcases missed with late | ended
        · rw [← beside.thread] at late
          exact .late late
        · exact .exited (beside.thread.trans ended)
      exact (settled.kept built quiet object).trans beside.whenStarted

def starting (earlier : List (LiveAction Step)) : List (LiveAction Step) := earlier ++ driverSteps 0 6

def goesOn : List (LiveAction Step) := .background 8 (.clock 8000000000) :: threadSteps 60

set_option maxRecDepth 10000 in
/-- `Start` is written to a thread that is idle, in the middle of a restart, and after a stale `Abort`. -/
theorem starts_restart :
    (∃ first rest m, goesOn = first ++ .background 8 .timer :: rest ∧
      Transition.run (Machine.live timersDriven model.backgrounds)
        (afterTimers .unnamed (starting constructed ++ driverSteps 0 1)) first = some m ∧
      (m.world.device 8).thread = .restartClock ∧
      ((afterTimers .unnamed (starting constructed ++ driverSteps 0 1 ++ goesOn)).world.device 8).whenStarted =
        (m.world.device 8).now) ∧
    ((afterTimers .unnamed (starting timersRestarting ++ driverSteps 0 1 ++ goesOn)).world.device 8).whenStarted =
      ((afterTimers .unnamed (starting timersRestarting)).world.device 8).whenStarted ∧
    ((afterTimers .abort (starting (threadSteps 1 ++ constructed) ++ driverSteps 0 1 ++ driverSteps 0 2)).world.device
      8).whenStarted = ((afterTimers .abort (starting (threadSteps 1 ++ constructed))).world.device 8).whenStarted := by
  have idle : Starts timersDriven 8 (afterTimers .unnamed (starting constructed))
      (afterTimers .unnamed (starting constructed ++ driverSteps 0 1)) (.processor 0 ⟨0, true⟩) :=
    ⟨by decide +kernel, by decide +kernel,
      (Transition.run_single _ _ _).symm.trans (Transition.run_reach (by decide +kernel))⟩
  have restarting : Starts timersDriven 8 (afterTimers .unnamed (starting timersRestarting))
      (afterTimers .unnamed (starting timersRestarting ++ driverSteps 0 1)) (.processor 0 ⟨0, true⟩) :=
    ⟨by decide +kernel, by decide +kernel,
      (Transition.run_single _ _ _).symm.trans (Transition.run_reach (by decide +kernel))⟩
  have ended : Starts timersDriven 8 (afterTimers .abort (starting (threadSteps 1 ++ constructed)))
      (afterTimers .abort (starting (threadSteps 1 ++ constructed) ++ driverSteps 0 1)) (.processor 0 ⟨0, true⟩) :=
    ⟨by decide +kernel, by decide +kernel,
      (Transition.run_single _ _ _).symm.trans (Transition.run_reach (by decide +kernel))⟩
  refine ⟨?_, ?_, ?_⟩
  · have restarts := restarts_unless_late Posix.platform startTimers goesOn _ _ _ 8 _ idle
      (Transition.run_reach (by decide +kernel)) (by decide +kernel)
    exact (restarts.1 (by decide +kernel) (by decide +kernel)).resolve_right (by decide +kernel)
  · have restarts := restarts_unless_late Posix.platform startTimers goesOn _ _ _ 8 _ restarting
      (Transition.run_reach (by decide +kernel)) (by decide +kernel)
    exact restarts.2 (by decide +kernel)
  · have restarts := restarts_unless_late Posix.platform startTimers (driverSteps 0 2) _ _ _ 8 _ ended
      (Transition.run_reach (by decide +kernel)) (by decide +kernel)
    exact restarts.2 (by decide +kernel)

end

end ExMM.TimeController
