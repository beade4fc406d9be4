import ExMM.Dsl.Hooks
import ExMM.Live.Histories
import ExMM.Live.Passive
import ExMM.Model.RandomEventCounter

namespace ExMM.RandomEventCounter

variable {Area : Type}

/-- What the controller is for: words of memory, and a thread that counts events into one of them. `steps` and
    `stops` are how often the thread has gone on and how often it has been told to stop. -/
structure Events where
  words : Register → BitVec 32
  generated : Nat
  thread : BackgroundThread
  steps : Nat
  stops : Nat

namespace Events

def start (words : Register → BitVec 32) : Events :=
  { words, generated := 0, thread := .loop, steps := 0, stops := 0 }

def isActive (c : Events) : Bool := (c.words .active).getLsbD 0

def run (c : Events) : Option Events :=
  let later := { c with steps := c.steps + 1 }
  match c.thread with
  | .loop => some { later with thread := if 0 < c.stops then .exited else .active }
  | .active => some { later with thread := if c.isActive then .count else .loop }
  | .count =>
    some { later with generated := c.generated + 1, thread := .publish (BitVec.ofNat 32 (c.generated + 1)) }
  | .publish value => some { later with words := Function.update c.words .counter value, thread := .loop }
  | .exited => none

end Events

def registers : RegisterSet Request Events Step where
  access := Request.access
  respond := fun request c =>
    match request with
    | .load register => (c, [Words.bytes (c.words register)])
    | .store register value => ({ c with words := Function.update c.words register value }, [])
  background := fun step c =>
    match step with
    | .thread => c.run
    | .stop => some { c with stops := c.stops + 1 }

structure Represents (c : Events) (file : Nat → Byte) (object : Controller005) : Prop where
  words : Words.bank Register.offset file = c.words
  counter : object.counter = BitVec.ofNat 32 c.generated
  thread : object.backgroundThread = c.thread
  stop : object.stopBackgroundThread = decide (0 < c.stops)

theorem Register.inside (register : Register) : register.offset + 4 ≤ registersSize := by
  cases register with
  | other index =>
    simp only [Register.offset, otherField, ArrayField.words, registersSize]
    omega
  | _ => decide

theorem Register.apart : Words.Apart Register.offset := by
  intro first second different
  have behind : ∀ index : Fin 10, activeField + 4 ≤ (Register.other index).offset := by
    intro index
    simp only [Register.offset, activeField, otherField, ArrayField.words]
    omega
  have before : counterField + 4 ≤ activeField := by decide
  cases first with
  | counter =>
    cases second with
    | counter => exact absurd rfl different
    | active => exact Or.inl before
    | other index => exact Or.inl (Nat.le_trans (Nat.le_trans before (Nat.le_add_right _ 4)) (behind index))
  | active =>
    cases second with
    | counter => exact Or.inr before
    | active => exact absurd rfl different
    | other index => exact Or.inl (behind index)
  | other index =>
    cases second with
    | counter => exact Or.inr (Nat.le_trans (Nat.le_trans before (Nat.le_add_right _ 4)) (behind index))
    | active => exact Or.inr (behind index)
    | other index' =>
      have indices : index.val ≠ index'.val := fun same => different (congrArg Register.other (Fin.ext same))
      simp only [Register.offset, otherField, ArrayField.words]
      omega

theorem hookRead_passive (file : Nat → Byte) (offset : Nat) (object : Controller005) :
    hookRead.hook file offset object = (file, object) := by
  have fires : Chain.Fires 0 offset [] hookRead (hookRead.invocations 0 offset) :=
    hookRead.call_fires (Chain.Tracks.fresh 0 offset)
  rw [Chain.hook_fires fires]
  generalize hookRead.invocations 0 offset = calls at fires ⊢
  cases fires with
  | case contains later =>
    cases later
    rfl
  | caseMissed missed later =>
    cases later
    rfl

theorem passive : model.Passive := fun file offset object => ⟨hookRead_passive file offset object, rfl⟩

theorem Represents.thread_run {c : Events} {file file' : Nat → Byte} {object object' : Controller005}
    (represents : Represents c file object) (moved : object.run file = some (file', object')) :
    ∃ next, c.run = some next ∧ Represents next file' object' := by
  obtain ⟨words, counter, thread, stop⟩ := represents
  have active : Words.load32 file activeField = c.words .active := congrFun words Register.active
  unfold Controller005.run at moved
  unfold Events.run Events.isActive
  rw [thread] at moved
  rw [active] at moved
  cases phase : c.thread with
  | loop =>
    rw [phase, stop] at moved
    by_cases stopped : 0 < c.stops
    · simp only [stopped, decide_true, if_true, Option.some.injEq, Prod.mk.injEq] at moved
      obtain ⟨rfl, rfl⟩ := moved
      exact ⟨_, rfl, words, counter, (if_pos stopped).symm, (decide_eq_true stopped).symm⟩
    · simp only [stopped, decide_false, Bool.false_eq_true, if_false, Option.some.injEq, Prod.mk.injEq] at moved
      obtain ⟨rfl, rfl⟩ := moved
      exact ⟨_, rfl, words, counter, (if_neg stopped).symm, (decide_eq_false stopped).symm⟩
  | active =>
    rw [phase] at moved
    cases set : (c.words .active).getLsbD 0 with
    | true =>
      simp only [set, if_true, Option.some.injEq, Prod.mk.injEq] at moved
      obtain ⟨rfl, rfl⟩ := moved
      exact ⟨_, rfl, words, counter, rfl, stop⟩
    | false =>
      simp only [set, Bool.false_eq_true, if_false, Option.some.injEq, Prod.mk.injEq] at moved
      obtain ⟨rfl, rfl⟩ := moved
      exact ⟨_, rfl, words, counter, rfl, stop⟩
  | count =>
    rw [phase] at moved
    cases moved
    have next : object.counter + 1 = BitVec.ofNat 32 (c.generated + 1) := by
      rw [counter, BitVec.ofNat_add]
      rfl
    exact ⟨_, rfl, words, next, congrArg BackgroundThread.publish next, stop⟩
  | publish value =>
    rw [phase] at moved
    cases moved
    refine ⟨_, rfl, ?_, counter, rfl, stop⟩
    rw [← words]
    exact Words.bank_store Register.apart file .counter value
  | exited =>
    rw [phase] at moved
    cases moved

theorem implements : Implements registers model registersSize Represents where
  inside := by
    intro request
    cases request with
    | load register => exact ⟨Nat.succ_pos 3, register.inside⟩
    | store register value => exact ⟨Nat.succ_pos 3, register.inside⟩
  load := by
    rintro request address width c file object access ⟨words, counter, thread, stop⟩
    cases request with
    | load register =>
      cases access
      have same : model.load file register.offset object = (file, object) := hookRead_passive file _ object
      rw [same, read_word _ register.inside]
      refine ⟨⟨?_, counter, thread, stop⟩, ?_⟩
      · rw [registerFile_bank Register.inside]
        exact words
      · simp only [registers, ← words]
        rfl
    | store register value => cases access
  store := by
    rintro request address width value c file object access ⟨words, counter, thread, stop⟩
    cases request with
    | load register => cases access
    | store register value =>
      cases access
      refine ⟨⟨?_, counter, thread, stop⟩, rfl⟩
      rw [registerFile_bank Register.inside]
      exact (Words.bank_store Register.apart file register value).trans (by rw [words]; rfl)
  background := by
    intro step c file file' object object' represents moved
    cases step with
    | thread =>
      obtain ⟨next, ran, ⟨words, counter, thread, stop⟩⟩ := represents.thread_run moved
      refine ⟨next, ran, ?_, counter, thread, stop⟩
      rw [registerFile_bank Register.inside, words]
    | stop =>
      cases moved
      obtain ⟨words, counter, thread, stop⟩ := represents
      refine ⟨_, rfl, ?_, counter, thread, ?_⟩
      · rw [registerFile_bank Register.inside, words]
      · simp only [Nat.succ_pos, decide_true]

inductive Moves (c : Events) : Events → Prop
  | stop : Moves c { c with stops := c.stops + 1 }
  | exit (phase : c.thread = .loop) (stopped : 0 < c.stops) :
    Moves c { c with thread := .exited, steps := c.steps + 1 }
  | again (phase : c.thread = .loop) (alive : c.stops = 0) : Moves c { c with thread := .active, steps := c.steps + 1 }
  | generate (phase : c.thread = .active) (active : c.isActive = true) :
    Moves c { c with thread := .count, steps := c.steps + 1 }
  | skip (phase : c.thread = .active) (inactive : c.isActive = false) :
    Moves c { c with thread := .loop, steps := c.steps + 1 }
  | count (phase : c.thread = .count) :
    Moves c { c with
      generated := c.generated + 1
      thread := .publish (BitVec.ofNat 32 (c.generated + 1))
      steps := c.steps + 1 }
  | publish (value : BitVec 32) (phase : c.thread = .publish value) :
    Moves c { c with words := Function.update c.words .counter value, thread := .loop, steps := c.steps + 1 }

theorem background_moves (step : Step) (c c' : Events) (moved : registers.background step c = some c') : Moves c c' := by
  cases step with
  | stop =>
    cases moved
    exact .stop
  | thread =>
    have ran : c.run = some c' := moved
    unfold Events.run at ran
    cases phase : c.thread with
    | loop =>
      rw [phase] at ran
      by_cases stopped : 0 < c.stops
      · simp only [stopped, if_true, Option.some.injEq] at ran
        subst ran
        exact .exit phase stopped
      · simp only [stopped, if_false, Option.some.injEq] at ran
        subst ran
        exact .again phase (by omega)
    | active =>
      rw [phase] at ran
      cases set : c.isActive with
      | true =>
        simp only [set, if_true, Option.some.injEq] at ran
        subst ran
        exact .generate phase set
      | false =>
        simp only [set, Bool.false_eq_true, if_false, Option.some.injEq] at ran
        subst ran
        exact .skip phase set
    | count =>
      rw [phase] at ran
      cases ran
      exact .count phase
    | publish value =>
      rw [phase] at ran
      cases ran
      exact .publish value phase
    | exited =>
      rw [phase] at ran
      cases ran

namespace Events

def published (c : Events) : Nat :=
  match c.thread with
  | .publish _ => c.generated - 1
  | _ => c.generated

/-- The events whose number will get there without another test of `Active`. -/
def settled (c : Events) : Nat :=
  match c.thread with
  | .count => c.generated + 1
  | _ => c.generated

def owed (c : Events) : Nat :=
  match c.thread with
  | .count => 2
  | .publish _ => 1
  | _ => 0

def position (c : Events) : Nat :=
  4 * c.published +
    match c.thread with
    | .loop | .exited => 0
    | .active => 1
    | .count => 2
    | .publish _ => 3

structure Consistent (c : Events) : Prop where
  counter : c.words .counter = BitVec.ofNat 32 c.published
  publish : ∀ value, c.thread = .publish value → 0 < c.generated ∧ value = BitVec.ofNat 32 c.generated

theorem published_le (c : Events) : c.published ≤ c.settled := by
  unfold published settled
  cases c.thread <;> simp only [Nat.le_refl, Nat.sub_le, Nat.le_add_right]

theorem Consistent.settled_le {c : Events} (consistent : c.Consistent) : c.settled ≤ c.published + 1 := by
  unfold published settled
  cases phase : c.thread with
  | publish value =>
    have positive := (consistent.publish value phase).1
    simp only
    omega
  | _ => simp only [Nat.le_refl, Nat.le_add_right]

theorem settled_of_owed {c : Events} (none : c.owed = 0) : c.settled = c.published := by
  unfold owed at none
  unfold published settled
  cases phase : c.thread with
  | count => rw [phase] at none; cases none
  | publish value => rw [phase] at none; cases none
  | _ => rfl

theorem position_le (c : Events) : 4 * c.published ≤ c.position ∧ c.position ≤ 4 * c.published + 3 := by
  unfold position
  cases c.thread <;> simp only <;> omega

end Events

variable {c c' : Events}

theorem Moves.consistent (moves : Moves c c') (consistent : c.Consistent) : c'.Consistent := by
  obtain ⟨counter, publish⟩ := consistent
  unfold Events.published at counter
  cases moves with
  | stop => exact ⟨counter, publish⟩
  | publish value phase =>
    have register : Function.update c.words .counter value .counter = BitVec.ofNat 32 c.generated := by
      rw [Function.update_self, (publish value phase).2]
    exact ⟨register, fun _ other => by cases other⟩
  | count phase =>
    rw [phase] at counter
    refine ⟨counter, ?_⟩
    rintro value ⟨⟩
    exact ⟨Nat.succ_pos _, rfl⟩
  | _ phase =>
    rw [phase] at counter
    exact ⟨counter, fun _ other => by cases other⟩

structure Onwards (c c' : Events) : Prop where
  published : c.published ≤ c'.published
  steps : c.steps ≤ c'.steps
  stops : c.stops ≤ c'.stops
  position : c'.position + c.steps ≤ c.position + c'.steps

theorem Moves.onwards (moves : Moves c c') (consistent : c.Consistent) : Onwards c c' := by
  cases moves with
  | stop => exact ⟨Nat.le_refl _, Nat.le_refl _, Nat.le_succ _, Nat.le_refl _⟩
  | publish value phase =>
    have positive := (consistent.publish value phase).1
    refine ⟨?_, Nat.le_succ _, Nat.le_refl _, ?_⟩
    all_goals
      simp only [Events.position, Events.published, phase]
      omega
  | _ phase =>
    refine ⟨?_, Nat.le_succ _, Nat.le_refl _, ?_⟩
    all_goals
      simp only [Events.position, Events.published, phase]
      omega

structure Settles (c c' : Events) : Prop where
  inactive : c'.isActive = false
  settled : c'.settled = c.settled
  steps : c.steps ≤ c'.steps
  owed : c'.owed = 0 ∨ c'.owed + c'.steps ≤ c.owed + c.steps

theorem isActive_publish (words : Register → BitVec 32) (value : BitVec 32) :
    Function.update words .counter value Register.active = words .active := by
  rw [Function.update_of_ne]
  exact Register.noConfusion

theorem Moves.settles (moves : Moves c c') (inactive : c.isActive = false) : Settles c c' := by
  have stays := inactive
  unfold Events.isActive at stays
  cases moves with
  | stop => exact ⟨inactive, rfl, Nat.le_refl _, Or.inr (Nat.le_refl _)⟩
  | generate phase active =>
    rw [inactive] at active
    cases active
  | publish value phase =>
    refine ⟨?_, ?_, Nat.le_succ _, Or.inl rfl⟩
    · simp only [Events.isActive, isActive_publish, stays]
    · simp only [Events.settled, phase]
  | count phase =>
    refine ⟨inactive, ?_, Nat.le_succ _, Or.inr ?_⟩
    · simp only [Events.settled, phase]
    · simp only [Events.owed, phase]
      omega
  | _ phase =>
    refine ⟨inactive, ?_, Nat.le_succ _, Or.inl rfl⟩
    simp only [Events.settled, phase]

structure Counts (c c' : Events) : Prop where
  active : c'.isActive = true
  position : c'.position + c.steps = c.position + c'.steps

theorem Moves.counts (moves : Moves c c') (consistent : c.Consistent) (active : c.isActive = true)
    (alive : c'.stops = 0) : Counts c c' := by
  have stays := active
  unfold Events.isActive at stays
  cases moves with
  | stop => cases alive
  | exit phase stopped =>
    simp only at alive
    omega
  | skip phase inactive =>
    rw [active] at inactive
    cases inactive
  | publish value phase =>
    have positive := (consistent.publish value phase).1
    refine ⟨?_, ?_⟩
    · simp only [Events.isActive, isActive_publish, stays]
    · simp only [Events.position, Events.published, phase]
      omega
  | _ phase =>
    refine ⟨active, ?_⟩
    simp only [Events.position, Events.published, phase]
    omega

variable {driver : Driver Request} {controller : ControllerPtr} {d : Driven Events} {before : Nat → ControllerPtr → Events}
  {initial : ControllerPtr → Events}

def Polls (driver : Driver Request) (controller : ControllerPtr) (history : List Loaded) : Prop :=
  ∀ m < history.length, ∀ value, driver (history.take m) ≠ some (controller, .store .counter value)

def Switches (driver : Driver Request) (controller : ControllerPtr) (history : List Loaded) (m : Nat) (active : Bool) : Prop :=
  ∃ value, driver (history.take m) = some (controller, .store .active value) ∧ value.getLsbD 0 = active

def Stays (driver : Driver Request) (controller : ControllerPtr) (history : List Loaded) (low high : Nat)
    (active : Bool) : Prop :=
  ∀ m, low ≤ m → m < high → ¬ Switches driver controller history m (!active)

/-- What the driver has loaded from one controller, with `published j` the number of events in the register and
    `steps j` the steps of the thread at its request behind the first `j` ones. -/
structure CountsEvents (driver : Driver Request) (controller : ControllerPtr) (history : List Loaded)
    (steps : Nat → Nat) (alive : Prop) (published : Nat → Nat) : Prop where
  counter : ∀ j < history.length, driver (history.take j) = some (controller, .load .counter) →
    history[j]? = some [Words.bytes (BitVec.ofNat 32 (published j))]
  monotone : ∀ j k, j ≤ k → k ≤ history.length → published j ≤ published k ∧ steps j ≤ steps k ∧
    4 * published k + steps j ≤ 4 * published j + steps k + 3
  bounded : ∀ j ≤ history.length, 4 * published j ≤ steps j
  early : ∀ k ≤ history.length, Stays driver controller history 0 k false → published k = 0
  active : ∀ j k, j < k → k ≤ history.length → Switches driver controller history j true →
    Stays driver controller history (j + 1) k true → alive → steps k + 4 * published j ≤ steps j + 4 * published k + 3
  inactive : ∀ j k, j < k → k ≤ history.length → Switches driver controller history j false →
    Stays driver controller history (j + 1) k false → published k ≤ published j + 1
  settled : ∀ j i k, j < i → i ≤ k → k ≤ history.length → Switches driver controller history j false →
    Stays driver controller history (j + 1) k false → steps j + 2 ≤ steps i → published k = published i

theorem CountsEvents.congr {driver : Driver Request} {controller : ControllerPtr} {history : List Loaded} {alive : Prop}
    {published steps steps' : Nat → Nat} (counts : CountsEvents driver controller history steps alive published)
    (same : ∀ j ≤ history.length, steps j = steps' j) : CountsEvents driver controller history steps' alive published where
  counter := counts.counter
  monotone := by
    intro j k le present
    rw [← same j (Nat.le_trans le present), ← same k present]
    exact counts.monotone j k le present
  bounded := by
    intro j present
    rw [← same j present]
    exact counts.bounded j present
  early := counts.early
  active := by
    intro j k less present
    rw [← same j (Nat.le_trans (Nat.le_of_lt less) present), ← same k present]
    exact counts.active j k less present
  inactive := counts.inactive
  settled := by
    intro j i k less le present
    rw [← same j (Nat.le_trans (Nat.le_of_lt less) (Nat.le_trans le present)), ← same i (Nat.le_trans le present)]
    exact counts.settled j i k less le present

theorem Onwards.refl (c : Events) : Onwards c c := ⟨Nat.le_refl _, Nat.le_refl _, Nat.le_refl _, Nat.le_refl _⟩

theorem Onwards.trans {first second third : Events} (one : Onwards first second) (two : Onwards second third) :
    Onwards first third where
  published := Nat.le_trans one.published two.published
  steps := Nat.le_trans one.steps two.steps
  stops := Nat.le_trans one.stops two.stops
  position := by
    have first := one.position
    have second := two.position
    omega

theorem Settles.trans {first second third : Events} (one : Settles first second) (two : Settles second third) :
    Settles first third where
  inactive := two.inactive
  settled := two.settled.trans one.settled
  steps := Nat.le_trans one.steps two.steps
  owed := by
    have earlier := one.owed
    have later := two.owed
    have longer := two.steps
    omega

theorem Counts.trans {first second third : Events} (one : Counts first second) (two : Counts second third) :
    Counts first third where
  active := two.active
  position := by
    have first := one.position
    have second := two.position
    omega

theorem respond_words (request : Request) (c : Events) :
    ∃ words, (registers.respond request c).1 = { c with words } := by
  cases request with
  | load register => exact ⟨c.words, rfl⟩
  | store register value => exact ⟨_, rfl⟩

theorem respond_consistent {request : Request} (polls : ∀ value, request ≠ .store .counter value)
    (consistent : c.Consistent) : (registers.respond request c).1.Consistent := by
  cases request with
  | load register => exact consistent
  | store register value =>
    have other : Register.counter ≠ register := by
      rintro rfl
      exact polls value rfl
    have same : Function.update c.words register value .counter = c.words .counter := Function.update_of_ne other _ _
    exact ⟨same.trans consistent.counter, consistent.publish⟩

theorem respond_active {request : Request} {active : Bool} (same : c.isActive = active)
    (stays : ∀ value, request = .store .active value → value.getLsbD 0 ≠ !active) :
    (registers.respond request c).1.isActive = active := by
  cases request with
  | load register => exact same
  | store register value =>
    by_cases mine : register = .active
    · subst mine
      have written : value.getLsbD 0 = active := by
        have different := stays value rfl
        revert different
        cases value.getLsbD 0 <;> cases active <;> decide
      simp only [registers, Events.isActive, Function.update_self, written]
    · simp only [registers, Events.isActive, Function.update_of_ne (Ne.symm mine)]
      exact same

section

variable {j k : Nat}

theorem onwards_step (step : Step) (c c' : Events) (moved : registers.background step c = some c')
    (consistent : c.Consistent) : c'.Consistent ∧ Onwards c c' := by
  have moves := background_moves step c c' moved
  exact ⟨moves.consistent consistent, moves.onwards consistent⟩

theorem onwards_respond {request : Request} (polls : ∀ value, request ≠ .store .counter value) (c : Events)
    (consistent : c.Consistent) :
    (registers.respond request c).1.Consistent ∧ Onwards c (registers.respond request c).1 := by
  obtain ⟨words, same⟩ := respond_words request c
  refine ⟨respond_consistent polls consistent, ?_⟩
  rw [same]
  exact ⟨Nat.le_refl _, Nat.le_refl _, Nat.le_refl _, Nat.le_refl _⟩

theorem onwards_trans {first second third : Events} (one : first.Consistent → second.Consistent ∧ Onwards first second)
    (two : second.Consistent → third.Consistent ∧ Onwards second third) (consistent : first.Consistent) :
    third.Consistent ∧ Onwards first third :=
  ⟨(two (one consistent).1).1, (one consistent).2.trans (two (one consistent).1).2⟩

theorem polls_request (polls : Polls driver controller d.history) {m : Nat} (present : m < d.history.length)
    {request : Request} (asked : driver (d.history.take m) = some (controller, request)) (value : BitVec 32) :
    request ≠ .store .counter value := by
  rintro rfl
  exact polls m present value asked

theorem consistent_before (stamped : Stamped registers driver initial d before) (polls : Polls driver controller d.history)
    (fresh : (initial controller).Consistent) (present : k ≤ d.history.length) :
    (before k controller).Consistent ∧ Onwards (initial controller) (before k controller) :=
  stamped.throughout (fun c c' => c.Consistent → c'.Consistent ∧ Onwards c c')
    (fun c consistent => ⟨consistent, Onwards.refl c⟩) onwards_trans onwards_step present
    (fun _ high _ asked => onwards_respond (polls_request polls (Nat.lt_of_lt_of_le high present) asked)) fresh

theorem onwards_between (stamped : Stamped registers driver initial d before) (polls : Polls driver controller d.history)
    (fresh : (initial controller).Consistent) (le : j ≤ k) (present : k ≤ d.history.length) :
    Onwards (before j controller) (before k controller) := by
  have consistent := (consistent_before stamped polls fresh (Nat.le_trans le present)).1
  have between : (before j controller).Consistent →
      (before k controller).Consistent ∧ Onwards (before j controller) (before k controller) :=
    stamped.between (fun c c' => c.Consistent → c'.Consistent ∧ Onwards c c')
      (fun c consistent => ⟨consistent, Onwards.refl c⟩) onwards_trans onwards_step le present
      fun _ _ high _ asked => onwards_respond (polls_request polls (Nat.lt_of_lt_of_le high present) asked)
  exact (between consistent).2

theorem settles_step (step : Step) (c c' : Events) (moved : registers.background step c = some c')
    (inactive : c.isActive = false) : Settles c c' := (background_moves step c c' moved).settles inactive

theorem Settles.refl {c : Events} (inactive : c.isActive = false) : Settles c c :=
  ⟨inactive, rfl, Nat.le_refl _, Or.inr (Nat.le_refl _)⟩

theorem settles_respond {low high m : Nat} (stays : Stays driver controller d.history low high false) (le : low ≤ m)
    (less : m < high) (request : Request) (asked : driver (d.history.take m) = some (controller, request)) (c : Events)
    (inactive : c.isActive = false) : Settles c (registers.respond request c).1 := by
  have kept : (registers.respond request c).1.isActive = false := by
    refine respond_active inactive fun value same written => ?_
    subst same
    exact stays m le less ⟨value, asked, written⟩
  obtain ⟨words, same⟩ := respond_words request c
  rw [same] at kept ⊢
  exact ⟨kept, rfl, Nat.le_refl _, Or.inr (Nat.le_refl _)⟩

theorem settles_onwards (stamped : Stamped registers driver initial d before) (less : j < k)
    (present : k ≤ d.history.length) (switches : Switches driver controller d.history j false)
    (stays : Stays driver controller d.history (j + 1) k false) :
    (before k controller).isActive = false ∧ (before k controller).settled = (before j controller).settled ∧
      ((before k controller).owed = 0 ∨
        (before k controller).owed + (before k controller).steps ≤ 2 + (before j controller).steps) := by
  obtain ⟨value, asked, cleared⟩ := switches
  have trans : ∀ {first second third : Events}, (first.isActive = false → Settles first second) →
      (second.isActive = false → Settles second third) → first.isActive = false → Settles first third :=
    fun one two inactive => (one inactive).trans (two (one inactive).inactive)
  have onwards := stamped.onwards (fun c c' => c.isActive = false → Settles c c') (fun _ => Settles.refl) trans
    settles_step less present asked (fun m low high => settles_respond stays low high)
  have settles := onwards (by simp only [registers, Events.isActive, Function.update_self, cleared])
  have owes : (before j controller).owed ≤ 2 := by
    unfold Events.owed
    cases (before j controller).thread <;> simp only <;> omega
  have owed := settles.owed
  simp only [registers, Events.owed] at owed
  refine ⟨settles.inactive, settles.settled, ?_⟩
  unfold Events.owed at owes ⊢
  omega

theorem counts_onwards (stamped : Stamped registers driver initial d before) (polls : Polls driver controller d.history)
    (fresh : (initial controller).Consistent) (less : j < k) (present : k ≤ d.history.length)
    (switches : Switches driver controller d.history j true)
    (stays : Stays driver controller d.history (j + 1) k true) (alive : (before k controller).stops = 0) :
    (before k controller).position + (before j controller).steps =
      (before j controller).position + (before k controller).steps := by
  obtain ⟨value, asked, set⟩ := switches
  let related := fun c c' : Events => c.stops ≤ c'.stops ∧
    (c.Consistent → c.isActive = true → c'.stops = 0 → c'.Consistent ∧ Counts c c')
  have refl : ∀ c, related c c := fun c => ⟨Nat.le_refl _, fun consistent active _ => ⟨consistent, active, rfl⟩⟩
  have trans : ∀ {first second third : Events}, related first second → related second third → related first third := by
    intro first second third one two
    refine ⟨Nat.le_trans one.1 two.1, fun consistent active alive => ?_⟩
    have later := two.1
    have middle := one.2 consistent active (by omega)
    have last := two.2 middle.1 middle.2.active alive
    exact ⟨last.1, middle.2.trans last.2⟩
  have background : ∀ step c c', registers.background step c = some c' → related c c' := by
    intro step c c' moved
    have moves := background_moves step c c' moved
    refine ⟨?_, fun consistent active alive => ⟨moves.consistent consistent, moves.counts consistent active alive⟩⟩
    cases moves <;> simp only [Nat.le_refl, Nat.le_succ]
  have onwards := stamped.onwards related refl trans background less present asked (by
    intro m low high request asked c
    obtain ⟨words, same⟩ := respond_words request c
    have kept := respond_consistent (c := c) (polls_request polls (Nat.lt_of_lt_of_le high present) asked)
    have stay : c.isActive = true → (registers.respond request c).1.isActive = true := fun active =>
      respond_active active fun value same written => stays m low high ⟨value, same ▸ asked, written⟩
    refine ⟨by rw [same], fun consistent active alive => ⟨kept consistent, stay active, ?_⟩⟩
    rw [same]
    rfl)
  have consistent := (consistent_before stamped polls fresh (Nat.le_of_lt (Nat.lt_of_lt_of_le less present))).1
  have answered := respond_consistent (polls_request polls (Nat.lt_of_lt_of_le less present) asked) consistent
  have active : (registers.respond (.store .active value) (before j controller)).1.isActive = true := by
    simp only [registers, Events.isActive, Function.update_self, set]
  exact (onwards.2 answered active alive).2.position

theorem CountsEvents.of_stamped (stamped : Stamped registers driver initial d before)
    (polls : Polls driver controller d.history) (fresh : (initial controller) = .start fun _ => 0) {alive : Prop}
    (stopped : alive → (d.objects controller).stops = 0) :
    CountsEvents driver controller d.history (fun j => (before j controller).steps) alive
      fun j => (before j controller).published := by
  have consistent : (initial controller).Consistent := by
    rw [fresh]
    exact ⟨rfl, fun _ other => by cases other⟩
  have last {k : Nat} (present : k ≤ d.history.length) : Onwards (before k controller) (d.objects controller) := by
    rw [← stamped.now]
    exact onwards_between stamped polls consistent present (Nat.le_refl _)
  refine ⟨?_, ?_, ?_, ?_, ?_, ?_, ?_⟩
  · intro j present asked
    obtain ⟨loaded, -⟩ := stamped.answer_of present asked
    rw [loaded, ← (consistent_before stamped polls consistent (Nat.le_of_lt present)).1.counter]
    rfl
  · intro j k le present
    have onwards := onwards_between stamped polls consistent le present
    have first := (before j controller).position_le
    have second := (before k controller).position_le
    have position := onwards.position
    exact ⟨onwards.published, onwards.steps, by omega⟩
  · intro j present
    have position := (consistent_before stamped polls consistent present).2.position
    have here := (before j controller).position_le
    rw [fresh] at position
    simp only [Events.start, Events.position, Events.published] at position
    simp only [Events.position, Events.published] at here ⊢
    omega
  · intro k present stays
    have settles : (initial controller).isActive = false → Settles (initial controller) (before k controller) :=
      stamped.throughout (fun c c' => c.isActive = false → Settles c c') (fun _ => Settles.refl)
        (fun one two inactive => (one inactive).trans (two (one inactive).inactive)) settles_step present
        fun m high => settles_respond stays (Nat.zero_le m) high
    have settled := (settles (by rw [fresh]; rfl)).settled
    rw [fresh] at settled
    have most := (before k controller).published_le
    rw [settled] at most
    exact Nat.le_zero.mp most
  · intro j k less present switches stays live
    have later := (last present).stops
    rw [stopped live] at later
    have position := counts_onwards stamped polls consistent less present switches stays (Nat.le_zero.mp later)
    have first := (before j controller).position_le
    have second := (before k controller).position_le
    omega
  · intro j k less present switches stays
    obtain ⟨-, settled, -⟩ := settles_onwards stamped less present switches stays
    have most := (before k controller).published_le
    rw [settled] at most
    exact Nat.le_trans most
      (consistent_before stamped polls consistent (Nat.le_of_lt (Nat.lt_of_lt_of_le less present))).1.settled_le
  · intro j i k less le present switches stays enough
    have earlier : Stays driver controller d.history (j + 1) i false := fun m low high =>
      stays m low (Nat.lt_of_lt_of_le high le)
    obtain ⟨-, settledHere, owed⟩ := settles_onwards stamped less (Nat.le_trans le present) switches earlier
    obtain ⟨-, settledThere, -⟩ := settles_onwards stamped (Nat.lt_of_lt_of_le less le) present switches stays
    have here := Events.settled_of_owed (c := before i controller) (by omega)
    have most := (before k controller).published_le
    have grows := (onwards_between stamped polls consistent le present).published
    omega

end

def Step.going : Step → Nat
  | .thread => 1
  | .stop => 0

def Step.stopping : Step → Nat
  | .thread => 0
  | .stop => 1

theorem respond_steps (request : Request) (c : Events) : (registers.respond request c).1.steps = c.steps := by
  obtain ⟨words, same⟩ := respond_words request c
  rw [same]

theorem respond_stops (request : Request) (c : Events) : (registers.respond request c).1.stops = c.stops := by
  obtain ⟨words, same⟩ := respond_words request c
  rw [same]

theorem background_counted (step : Step) (c c' : Events) (moved : registers.background step c = some c') :
    c'.steps = c.steps + step.going ∧ c'.stops = c.stops + step.stopping := by
  cases step with
  | stop =>
    cases moved
    exact ⟨rfl, rfl⟩
  | thread =>
    have ran : c.run = some c' := moved
    unfold Events.run at ran
    split at ran <;> cases ran <;> exact ⟨rfl, rfl⟩

def world (memory : Nat → Byte) : World (ControllerPtr → Controller005) :=
  { memory, device := fun _ => Controller005.start, trace := [] }

def Fresh (registry : Registry) (memory : Nat → Byte) : Prop :=
  ∀ {ioSpace : IoSpacePtr} {space : IoSpace}, registry.ioSpaces[ioSpace]? = some space → space.file memory = fun _ => 0

def CountsRandomEvents (cfg : Config Area (ControllerPtr → Controller005)) (registry : Registry)
    (driver : Driver Request) (memory : Nat → Byte) : Prop :=
  ∀ (actions : List (LiveAction Step)) (s : Machine Area (ControllerPtr → Controller005)),
    Transition.run (Machine.live cfg model.backgrounds) (Machine.boot cfg registry (world memory)) actions = some s →
      ∃ moment,
        Moments cfg model.backgrounds (Machine.boot cfg registry (world memory)) actions (s.threads 0).history moment ∧
        ∀ controller, Polls driver controller (s.threads 0).history →
          ∃ published, CountsEvents driver controller (s.threads 0).history
            (fun j => total Step.going controller ((actions.take (moment j)).flatMap LiveAction.backgrounds))
            ((controller, .stop) ∉ actions.flatMap LiveAction.backgrounds) published

theorem CountsRandomEvents.of_passive {cfg : Config Area (ControllerPtr → Controller005)} {registry : Registry}
    (same : Registered model registersSize registry) (controllers : cfg.controllers = model.controllers)
    (program : cfg.program = registers.program registry driver) {memory : Nat → Byte} (fresh : Fresh registry memory) :
    CountsRandomEvents cfg registry driver memory := by
  intro actions s ran
  have start : ∀ {controller : ControllerPtr} {ioSpace : IoSpacePtr} {space : IoSpace},
      registry.ioMap[controller]? = some ioSpace → registry.ioSpaces[ioSpace]? = some space →
        Represents (.start fun _ => 0) (space.file (world memory).memory) ((world memory).device controller) := by
    intro controller ioSpace space _ present
    have zero : space.file (world memory).memory = fun _ => 0 := fresh present
    rw [zero]
    exact ⟨Words.bank_zero _, rfl, rfl, rfl⟩
  obtain ⟨answers, lockstep⟩ := PassiveRefines.of_passive implements passive same controllers program start actions s ran
  obtain ⟨m, d, reached, driven, shows⟩ := lockstep.ran
  rw [ran, Option.some.injEq] at reached
  subst reached
  obtain ⟨moment, before, timed⟩ := Timed.of_run driven
  have moments := timed.moments lockstep
  rw [shows.history]
  refine ⟨moment, moments, fun controller polls => ⟨fun j => (before j controller).published, ?_⟩⟩
  have steps {j : Nat} (present : j ≤ d.history.length) : (before j controller).steps =
      total Step.going controller ((actions.take (moment j)).flatMap LiveAction.backgrounds) :=
    timed.total_before lockstep respond_steps (fun step c c' moved => (background_counted step c c' moved).1)
      controller rfl present
  have stopped (alive : (controller, .stop) ∉ actions.flatMap LiveAction.backgrounds) :
      (d.objects controller).stops = 0 := by
    have stops := timed.total_before lockstep respond_stops
      (fun step c c' moved => (background_counted step c c' moved).2) controller rfl (Nat.le_refl _)
    rw [timed.now, moments.ends, List.take_length] at stops
    rw [stops]
    refine total_eq_zero fun step member => ?_
    cases step with
    | thread => rfl
    | stop => exact absurd member alive
  have counts : CountsEvents driver controller d.history (fun j => (before j controller).steps)
      ((controller, .stop) ∉ actions.flatMap LiveAction.backgrounds) fun j => (before j controller).published :=
    CountsEvents.of_stamped timed.toStamped polls rfl stopped
  exact counts.congr fun j present => steps present

theorem random_events_counted (platform : Platform Area) (registry : Registry)
    (same : Registered model registersSize registry) (driver : Driver Request) (memory : Nat → Byte)
    (fresh : Fresh registry memory) :
    CountsRandomEvents { platform, controllers := model.controllers, program := registers.program registry driver }
      registry driver memory :=
  CountsRandomEvents.of_passive same rfl rfl fresh

def one : List Lifetime := [.construct 8 48 .read ⟨100, 0x10000, 0x50000⟩]

def onAndOff : Driver Request := fun history =>
  match history.length with
  | 0 => some (8, .load .counter)
  | 1 => some (8, .store .active 1)
  | 2 => some (8, .store .active 0)
  | 3 => some (8, .load .counter)
  | 4 => some (8, .load .counter)
  | _ => none

def onAndOffDriven : Config Posix.IoSpace (ControllerPtr → Controller005) :=
  { platform := Posix.platform
    controllers := model.controllers
    program := registers.program (Registry.after one) onAndOff }

/-- Each access of the driver is eight or nine steps of the handlers, and the thread goes on between the accesses. -/
def onAndOffActions : List (LiveAction Step) :=
  [(9, 3), (8, 9), (8, 5), (9, 3), (9, 0)].flatMap fun counts =>
    List.replicate counts.1 (.processor 0 ⟨0, true⟩) ++ List.replicate counts.2 (.background 8 .thread)

theorem onAndOff_counted :
    ∃ s moment published,
      Transition.run (Machine.live onAndOffDriven model.backgrounds)
        (Machine.boot onAndOffDriven (Registry.after one) (world fun _ => 0)) onAndOffActions = some s ∧
      (s.threads 0).history[4]? = some [Words.bytes 3#32] ∧
      Moments onAndOffDriven model.backgrounds (Machine.boot onAndOffDriven (Registry.after one) (world fun _ => 0))
        onAndOffActions (s.threads 0).history moment ∧
      CountsEvents onAndOff 8 (s.threads 0).history
        (fun j => total Step.going 8 ((onAndOffActions.take (moment j)).flatMap LiveAction.backgrounds))
        ((8, .stop) ∉ onAndOffActions.flatMap LiveAction.backgrounds) published := by
  have ran : Transition.run (Machine.live onAndOffDriven model.backgrounds)
      (Machine.boot onAndOffDriven (Registry.after one) (world fun _ => 0)) onAndOffActions =
        some (Transition.reach _ _ onAndOffActions) :=
    Transition.run_eq_reach (by decide +kernel)
  have polls (history : List Loaded) : Polls onAndOff 8 history := by
    intro m _ value
    unfold onAndOff
    split <;> simp
  obtain ⟨moment, moments, counts⟩ := random_events_counted Posix.platform (Registry.after one)
    (Registered.after one (by decide) (by decide)) onAndOff (fun _ => 0) (fun _ => funext fun k => by simp [IoSpace.file])
    onAndOffActions _ ran
  obtain ⟨published, counts⟩ := counts 8 (polls _)
  exact ⟨_, moment, published, ran, by decide +kernel, moments, counts⟩

end ExMM.RandomEventCounter
