import ExMM.Library.Log
import ExMM.Threads.Locking

namespace ExMM.Threads

def Event.callback (controller : ControllerPtr) (vector : Int) : Event → Option Callback
  | .connect _ c v callback => if c = controller ∧ v = vector then some callback else none
  | _ => none

def Event.starts (call : Call) : Event → Bool
  | .start other _ _ _ => other == call
  | _ => false

theorem Event.of_starts {event : Event} {call : Call} (starts : event.starts call = true) :
    ∃ c v f, event = .start call c v f := by
  cases event with
  | start other c v f => exact ⟨c, v, f, by rw [beq_iff_eq.mp starts]⟩
  | _ => cases starts

def Updated (call : Call) (controller : ControllerPtr) (vector : Int) (callback : Callback)
    (log : List Event) : Prop :=
  ∃ first between, log = first ++ .connect call controller vector callback :: between ∧
    ∀ event ∈ between, event.callback controller vector = none

def Event.Explained (past : List Event) : Event → Prop
  | .trigger call _ _ => ∀ c v, .trigger call c v ∉ past
  | .connect _ _ _ _ => True
  | .connected call controller vector callback => Updated call controller vector callback past
  | .lookup call controller vector result =>
    .trigger call controller vector ∈ past ∧ result = Log.last (Event.callback controller vector) past
  | .start call controller vector routine => .lookup call controller vector (some (some routine)) ∈ past

def Statement.Explained (log : List Event) : Statement → Prop
  | .lock (.lookupInterruptHandler call controller vector) => .trigger call controller vector ∈ log
  | .lock (.routine call controller vector routine) =>
    .lookup call controller vector (some (some routine)) ∈ log
  | _ => True

def Region.Explained (log : List Event) : Region → Prop
  | .connectInterruptHandler call controller vector callback => Updated call controller vector callback log
  | _ => True

def Frame.Explained (log : List Event) : Frame → Prop
  | .main => True
  | .plain statement => statement.Explained log
  | .guarded (.lookupInterruptHandler call controller vector) => .trigger call controller vector ∈ log
  | .guarded _ => True
  | .unlock region next => region.Explained log ∧ next.Explained log

/-- The invariant on the log: the maps hold what was connected last, and every event and every active
    function has its reason in the log. -/
structure Traced (s : State) : Prop where
  interrupts : ∀ c v, s.interrupts c v = Log.last (Event.callback c v) s.trace
  events : Log.Each Event.Explained s.trace
  frames : ∀ {t frame}, frame ∈ s.frames t → frame.Explained s.trace
  numbers : ∀ {call c v}, .trigger call c v ∈ s.trace → call.number < s.calls call.thread

section

variable {s s' : State} {t : ThreadId} {top : Frame} {below : List Frame}

theorem Statement.Explained.append {statement : Statement} {log : List Event}
    (explained : statement.Explained log) (events : List Event) : statement.Explained (log ++ events) := by
  cases statement with
  | lock region =>
    cases region with
    | lookupInterruptHandler call controller vector => exact List.mem_append_left _ explained
    | routine call controller vector routine => exact List.mem_append_left _ explained
    | _ => trivial
  | _ => trivial

theorem Frame.Explained.append {frame : Frame} {log events : List Event} (explained : frame.Explained log)
    (silent : ∀ call c v callback next, frame = .unlock (.connectInterruptHandler call c v callback) next →
      ∀ event ∈ events, event.callback c v = none) : frame.Explained (log ++ events) := by
  cases frame with
  | main => trivial
  | plain statement => exact Statement.Explained.append explained events
  | guarded region =>
    cases region with
    | lookupInterruptHandler call controller vector => exact List.mem_append_left _ explained
    | _ => trivial
  | unlock region next =>
    refine ⟨?_, explained.2.append events⟩
    cases region with
    | connectInterruptHandler call controller vector callback =>
      obtain ⟨first, between, rfl, none⟩ := explained.1
      refine ⟨first, between ++ events, by simp, ?_⟩
      intro event member
      rcases List.mem_append.mp member with earlier | later
      · exact none event earlier
      · exact silent call controller vector callback next rfl event later
    | _ => trivial

theorem Traced.next (traced : Traced s) (shape : s.frames t = top :: below) (added : List Frame)
    {events : List Event} (update : s'.frames = Function.update s.frames t (added ++ below))
    (trace : s'.trace = s.trace ++ events)
    (interrupts : ∀ c v, s'.interrupts c v = Log.last (Event.callback c v) (s.trace ++ events))
    (explained : Log.Each (fun past event => Event.Explained (s.trace ++ past) event) events)
    (kept : ∀ u, ∀ frame ∈ s.frames u, frame.Explained (s.trace ++ events))
    (fresh : ∀ frame ∈ added, frame.Explained (s.trace ++ events))
    (numbers : ∀ call c v, .trigger call c v ∈ s.trace ++ events → call.number < s'.calls call.thread) :
    Traced s' where
  interrupts := by
    rw [trace]
    exact interrupts
  events := by
    rw [trace]
    exact Log.each_append traced.events explained
  frames := by
    intro u frame member
    rw [trace]
    rcases State.frame_cases added update (State.below_subset shape) member with ⟨rfl, new⟩ | old
    · exact fresh frame new
    · exact kept u frame old
  numbers := by
    intro call c v member
    rw [trace] at member
    exact numbers call c v member

theorem Traced.silent (traced : Traced s) (shape : s.frames t = top :: below) (added : List Frame)
    {events : List Event} (update : s'.frames = Function.update s.frames t (added ++ below))
    (trace : s'.trace = s.trace ++ events) (interrupts : s'.interrupts = s.interrupts)
    (calls : s'.calls = s.calls) (none : ∀ c v, ∀ event ∈ events, event.callback c v = none)
    (uncalled : ∀ call c v, .trigger call c v ∉ events)
    (explained : Log.Each (fun past event => Event.Explained (s.trace ++ past) event) events)
    (fresh : ∀ frame ∈ added, frame.Explained (s.trace ++ events)) : Traced s' := by
  refine traced.next shape added update trace ?_ explained ?_ fresh ?_
  · intro c v
    rw [interrupts, traced.interrupts, Log.last_silent (none c v)]
  · intro u frame member
    exact (traced.frames member).append fun _ c v _ _ _ => none c v
  · intro call c v member
    rw [calls]
    rcases List.mem_append.mp member with earlier | now
    · exact traced.numbers earlier
    · exact absurd now (uncalled call c v)

theorem Traced.unseen (traced : Traced s) (shape : s.frames t = top :: below) (added : List Frame)
    (update : s'.frames = Function.update s.frames t (added ++ below)) (trace : s'.trace = s.trace)
    (interrupts : s'.interrupts = s.interrupts) (calls : s'.calls = s.calls)
    (fresh : ∀ frame ∈ added, frame.Explained s.trace) : Traced s' := by
  refine traced.silent shape added update (trace.trans (List.append_nil _).symm) interrupts calls ?_ ?_
    Log.each_nil ?_
  · simp
  · simp
  · rwa [List.append_nil]

theorem Traced.enter (traced : Traced s) {region : Region} {mutexes : Locks.Table ThreadId Lock}
    (shape : s.frames t = .plain (.lock region) :: below) :
    Traced { s.goto t (.guarded region :: below) with
      mutexes, trace := s.trace ++ State.entered region } := by
  have explained : (Frame.plain (.lock region)).Explained s.trace := traced.frames (shape ▸ List.mem_cons_self)
  refine traced.silent shape [.guarded region] rfl rfl rfl rfl ?_ ?_ ?_ ?_
  · cases region <;> simp [State.entered, Event.callback]
  · cases region <;> simp [State.entered]
  · cases region with
    | routine call controller vector routine =>
      exact Log.each_singleton (List.mem_append_left _ explained)
    | _ => exact Log.each_nil
  · rintro frame member
    rw [List.mem_singleton.mp member]
    cases region with
    | lookupInterruptHandler call controller vector => exact List.mem_append_left _ explained
    | _ => trivial

theorem Traced.leave (traced : Traced s) {region : Region} {next : Statement}
    {mutexes : Locks.Table ThreadId Lock} (shape : s.frames t = .unlock region next :: below) :
    Traced { s.goto t (.plain next :: below) with mutexes, trace := s.trace ++ State.left region } := by
  have explained : (Frame.unlock region next).Explained s.trace := traced.frames (shape ▸ List.mem_cons_self)
  refine traced.silent shape [.plain next] rfl rfl rfl rfl ?_ ?_ ?_ ?_
  · cases region <;> simp [State.left, Event.callback]
  · cases region <;> simp [State.left]
  · cases region with
    | connectInterruptHandler call controller vector callback =>
      refine Log.each_singleton ?_
      rw [List.append_nil]
      exact explained.1
    | _ => exact Log.each_nil
  · rintro frame member
    rw [List.mem_singleton.mp member]
    exact explained.2.append _

theorem last_connect {interrupts : ControllerPtr → Int → Option Callback} {log : List Event}
    (held : ∀ c v, interrupts c v = Log.last (Event.callback c v) log) (call : Call)
    (controller : ControllerPtr) (vector : Int) (callback : Callback) (c : ControllerPtr) (v : Int) :
    Function.update interrupts controller
        (Function.update (interrupts controller) vector (some callback)) c v =
      Log.last (Event.callback c v) (log ++ [.connect call controller vector callback]) := by
  rw [Log.last_append]
  by_cases sameController : controller = c
  · subst sameController
    rw [Function.update_self]
    by_cases sameVector : vector = v
    · subst sameVector
      simp [Log.last, Event.callback]
    · rw [Function.update_of_ne (Ne.symm sameVector), held]
      simp [Log.last, Event.callback, sameVector]
  · rw [Function.update_of_ne (Ne.symm sameController), held]
    simp [Log.last, Event.callback, sameController]

theorem Traced.connect (traced : Traced s) (sound : Sound s) {call : Call} {controller : ControllerPtr}
    {vector : Int} {callback : Callback}
    (shape : s.frames t = .guarded (.connectInterruptHandler call controller vector callback) :: below) :
    Traced { s.goto t (.unlock (.connectInterruptHandler call controller vector callback) .done :: below) with
      interrupts := Function.update s.interrupts controller
        (Function.update (s.interrupts controller) vector (some callback))
      trace := s.trace ++ [.connect call controller vector callback] } := by
  refine traced.next shape [.unlock (.connectInterruptHandler call controller vector callback) .done] rfl rfl
    (last_connect traced.interrupts call controller vector callback) (Log.each_singleton trivial) ?_ ?_ ?_
  · intro u frame member
    refine (traced.frames member).append ?_
    rintro other c v g next rfl event now
    rw [List.mem_singleton.mp now]
    by_cases sameController : controller = c
    · subst sameController
      have mine : Lock.interruptsMutex controller ∈
          (Frame.guarded (.connectInterruptHandler call controller vector callback)).held := List.mem_cons_self
      obtain ⟨-, -, head⟩ := sound.exclusive (shape ▸ List.mem_cons_self) member mine List.mem_cons_self rfl
      rw [shape] at head
      cases head
    · simp [Event.callback, sameController]
  · rintro frame member
    rw [List.mem_singleton.mp member]
    exact ⟨⟨s.trace, [], rfl, fun _ member => by cases member⟩, trivial⟩
  · intro other c v member
    rcases List.mem_append.mp member with earlier | now
    · exact traced.numbers earlier
    · simp at now

theorem Operation.start_explained (operation : Operation) (call : Call) (log : List Event) :
    (operation.start call).Explained (log ++ State.called call operation) := by
  cases operation with
  | triggerInterrupt controller vector => exact List.mem_append_right _ List.mem_cons_self
  | _ => trivial

theorem Traced.call (traced : Traced s) (shape : s.frames t = top :: below) (operation : Operation) :
    Traced { (s.construct operation).goto t
        (.plain (operation.start { thread := t, number := s.calls t }) :: top :: below) with
      calls := Function.update s.calls t (s.calls t + 1)
      trace := s.trace ++ State.called { thread := t, number := s.calls t } operation } := by
  have top_explained : top.Explained s.trace := traced.frames (shape ▸ List.mem_cons_self)
  have silent : ∀ c v, ∀ event ∈ State.called { thread := t, number := s.calls t } operation,
      event.callback c v = none := by
    cases operation <;> simp [State.called, Event.callback]
  have kept : ∀ frame : Frame, frame.Explained s.trace →
      frame.Explained (s.trace ++ State.called { thread := t, number := s.calls t } operation) :=
    fun frame explained => explained.append fun _ c v _ _ _ => silent c v
  refine traced.next shape [.plain (operation.start { thread := t, number := s.calls t }), top] ?_ rfl ?_ ?_
    (fun u frame member => kept frame (traced.frames member)) ?_ ?_
  · exact s.construct_frames operation t _
  · intro c v
    rw [Log.last_silent (silent c v), ← traced.interrupts]
    cases operation <;> rfl
  · cases operation with
    | triggerInterrupt controller vector =>
      refine Log.each_singleton ?_
      rw [List.append_nil]
      exact fun c v called => absurd (traced.numbers called) (Nat.lt_irrefl _)
    | _ => exact Log.each_nil
  · rintro frame member
    rcases List.mem_cons.mp member with rfl | member
    · exact operation.start_explained _ _
    · rw [List.mem_singleton.mp member]
      exact kept top top_explained
  · intro call c v member
    rcases List.mem_append.mp member with earlier | now
    · have small := traced.numbers earlier
      by_cases mine : call.thread = t
      · rw [mine] at small
        simp only [mine, Function.update_self]
        omega
      · simp only [Function.update_of_ne mine]
        exact small
    · cases operation with
      | triggerInterrupt controller vector =>
        cases List.mem_singleton.mp now
        simp
      | _ => cases now

theorem Traced.step (traced : Traced s) (sound : Sound s) {choice : Choice}
    (taken : s.step (t, choice) = some s') : Traced s' := by
  obtain ⟨top, below, shape, move⟩ := State.step_move taken
  have explained : top.Explained s.trace := traced.frames (shape ▸ List.mem_cons_self)
  cases move with
  | done => exact traced.unseen shape [] rfl rfl rfl rfl (by simp)
  | ended => exact traced.unseen shape [] rfl rfl rfl rfl (by simp)
  | enter region mutexes acquired => exact traced.enter shape
  | leave region next mutexes released => exact traced.leave shape
  | add controller size hookTypes allocation registry entries =>
    refine traced.unseen shape [_] rfl rfl rfl rfl ?_
    simp [Frame.Explained, Region.Explained, Statement.Explained]
  | remove controller registry entries =>
    refine traced.unseen shape [_] rfl rfl rfl rfl ?_
    simp [Frame.Explained, Region.Explained, Statement.Explained]
  | found siAddr write result entry =>
    refine traced.unseen shape [_] rfl rfl rfl rfl ?_
    cases write <;> simp [Frame.Explained, Region.Explained, Statement.Explained]
  | missed siAddr write =>
    refine traced.unseen shape [_] rfl rfl rfl rfl ?_
    simp [Frame.Explained, Region.Explained, Statement.Explained]
  | connect call controller vector callback => exact traced.connect sound shape
  | lookup call controller vector routine connected =>
    refine traced.silent shape [_] rfl rfl rfl rfl ?_ ?_ (Log.each_singleton ?_) ?_
    · simp [Event.callback]
    · simp
    · rw [List.append_nil]
      exact ⟨explained, connected ▸ traced.interrupts controller vector⟩
    · simp [Frame.Explained, Region.Explained, Statement.Explained]
  | lookupNone call controller vector missing =>
    refine traced.silent shape [_] rfl rfl rfl rfl ?_ ?_ (Log.each_singleton ?_) ?_
    · simp [Event.callback]
    · simp
    · rw [List.append_nil]
      exact ⟨explained, traced.interrupts controller vector⟩
    · simp [Frame.Explained, Region.Explained, Statement.Explained]
  | install found write data named =>
    refine traced.unseen shape [_] rfl rfl rfl rfl ?_
    simp [Frame.Explained, Statement.Explained]
  | trapped found recorded =>
    refine traced.unseen shape [_] rfl rfl rfl rfl ?_
    simp [Frame.Explained, Statement.Explained]
  | quiet next plain =>
    refine traced.unseen shape [_] rfl rfl rfl rfl ?_
    rcases plain with rfl | rfl <;> simp [Frame.Explained, Statement.Explained]
  | uninstall data empty =>
    refine traced.unseen shape [_] rfl rfl rfl rfl ?_
    simp [Frame.Explained, Statement.Explained]
  | call _ operation user permitted => exact traced.call shape operation
  | returned region user =>
    refine traced.unseen shape [_] rfl rfl rfl rfl ?_
    cases region <;> simp_all [Frame.Explained, Region.Explained, Statement.Explained, Region.afterBody,
      Frame.isUser]

theorem Traced.start : Traced State.start where
  interrupts := by
    intro c v
    rfl
  events := Log.each_nil
  frames := by
    intro u frame member
    rw [List.mem_singleton.mp member]
    trivial
  numbers := by
    intro call c v member
    cases member

theorem Traced.start_number (traced : Traced s) {call : Call} {c : ControllerPtr} {v : Int} {f : RoutineId}
    (started : .start call c v f ∈ s.trace) : call.number < s.calls call.thread := by
  obtain ⟨before, after, split, looked⟩ := traced.events.of_mem started
  have lookedUp : .lookup call c v (some (some f)) ∈ s.trace := split ▸ List.mem_append_left _ looked
  obtain ⟨before, after, split, triggered, -⟩ := traced.events.of_mem lookedUp
  exact traced.numbers (split ▸ List.mem_append_left _ triggered)

end

def Statement.mayStart (call : Call) : Statement → Bool
  | .lock (.lookupInterruptHandler other _ _) | .lock (.routine other _ _ _) => other == call
  | _ => false

def Frame.mayStart (call : Call) : Frame → Bool
  | .plain statement => statement.mayStart call
  | .guarded (.lookupInterruptHandler other _ _) => other == call
  | .unlock _ next => next.mayStart call
  | _ => false

/-- The invariant on calls: what a call has started and may still start is one callback at most. -/
structure Counted (s : State) : Prop where
  owned : ∀ {t frame call}, frame ∈ s.frames t → frame.mayStart call = true →
    call.thread = t ∧ call.number < s.calls t
  once : ∀ call : Call,
    (s.frames call.thread).countP (Frame.mayStart call) + s.trace.countP (Event.starts call) ≤ 1

section

variable {s s' : State} {t : ThreadId} {top : Frame} {below : List Frame}

theorem Counted.next (counted : Counted s) (shape : s.frames t = top :: below) (added : List Frame)
    {events : List Event} (update : s'.frames = Function.update s.frames t (added ++ below))
    (trace : s'.trace = s.trace ++ events) (calls : s'.calls = s.calls)
    (less : ∀ call, added.countP (Frame.mayStart call) + events.countP (Event.starts call) ≤
      [top].countP (Frame.mayStart call)) : Counted s' := by
  have inherited : ∀ call, [top].countP (Frame.mayStart call) ≠ 0 → call.thread = t ∧ call.number < s.calls t := by
    intro call some
    obtain ⟨frame, member, may⟩ := List.countP_pos_iff.mp (Nat.pos_of_ne_zero some)
    rw [List.mem_singleton.mp member] at may
    exact counted.owned (shape ▸ List.mem_cons_self) may
  constructor
  · intro u frame call member may
    rw [calls]
    rcases State.frame_cases added update (State.below_subset shape) member with ⟨rfl, new⟩ | old
    · have positive := List.countP_pos_iff.mpr ⟨frame, new, may⟩
      have bound := less call
      exact inherited call (by omega)
    · exact counted.owned old may
  · intro call
    have before := counted.once call
    have bound := less call
    rw [trace, update, List.countP_append]
    by_cases mine : call.thread = t
    · rw [mine, shape, ← List.singleton_append, List.countP_append] at before
      rw [mine, Function.update_self, List.countP_append]
      omega
    · rw [Function.update_of_ne mine]
      have nothing : [top].countP (Frame.mayStart call) = 0 :=
        by_contra fun some => mine (inherited call some).1
      omega

theorem Operation.start_mayStart {operation : Operation} {call other : Call}
    (may : (operation.start call).mayStart other = true) : other = call := by
  cases operation with
  | triggerInterrupt controller vector => exact (beq_iff_eq.mp may).symm
  | _ => cases may

theorem Counted.call (counted : Counted s) (traced : Traced s) (shape : s.frames t = top :: below)
    (operation : Operation) :
    Counted { (s.construct operation).goto t
        (.plain (operation.start { thread := t, number := s.calls t }) :: top :: below) with
      calls := Function.update s.calls t (s.calls t + 1)
      trace := s.trace ++ State.called { thread := t, number := s.calls t } operation } := by
  have update := s.construct_frames operation t
    (.plain (operation.start { thread := t, number := s.calls t }) :: top :: below)
  constructor
  · intro u frame call member may
    rcases State.frame_cases [_] update (fun _ member => shape ▸ member) member with ⟨rfl, new⟩ | old
    · rw [List.mem_singleton.mp new] at may
      rw [Operation.start_mayStart may]
      simp
    · obtain ⟨thread, small⟩ := counted.owned old may
      by_cases mine : u = t
      · subst mine
        simp only [Function.update_self]
        exact ⟨thread, by omega⟩
      · simp only [Function.update_of_ne mine]
        exact ⟨thread, small⟩
  · intro call
    have before := counted.once call
    have unseen : (State.called { thread := t, number := s.calls t } operation).countP (Event.starts call) = 0 := by
      cases operation <;> simp [State.called, Event.starts]
    rw [update]
    simp only [List.countP_append, unseen, Nat.add_zero]
    by_cases mine : call.thread = t
    · rw [mine, Function.update_self, List.countP_cons, ← shape]
      rw [mine] at before
      split
      · next may =>
        have same : call = { thread := t, number := s.calls t } := Operation.start_mayStart may
        subst same
        have noFrame : (s.frames t).countP (Frame.mayStart { thread := t, number := s.calls t }) = 0 := by
          refine List.countP_eq_zero.mpr fun frame member may => ?_
          exact absurd (counted.owned member may).2 (Nat.lt_irrefl _)
        have noStart : s.trace.countP (Event.starts { thread := t, number := s.calls t }) = 0 := by
          refine List.countP_eq_zero.mpr fun event member starts => ?_
          obtain ⟨c, v, f, rfl⟩ := Event.of_starts starts
          exact absurd (traced.start_number member) (Nat.lt_irrefl _)
        omega
      · omega
    · rw [Function.update_of_ne mine]
      exact before

theorem Counted.step (counted : Counted s) (traced : Traced s) {choice : Choice}
    (taken : s.step (t, choice) = some s') : Counted s' := by
  obtain ⟨top, below, shape, move⟩ := State.step_move taken
  cases move with
  | done => exact counted.next shape [] rfl (List.append_nil _).symm rfl (by simp)
  | ended => exact counted.next shape [] rfl (List.append_nil _).symm rfl (by simp)
  | enter region mutexes acquired =>
    refine counted.next shape [_] rfl rfl rfl fun call => ?_
    cases region <;> simp [Frame.mayStart, Statement.mayStart, State.entered, Event.starts]
  | leave region next mutexes released =>
    refine counted.next shape [_] rfl rfl rfl fun call => ?_
    have unseen : (State.left region).countP (Event.starts call) = 0 := by
      cases region <;> simp [State.left, Event.starts]
    rw [unseen]
    exact Nat.le_refl _
  | found siAddr write result entry =>
    refine counted.next shape [_] rfl (List.append_nil _).symm rfl fun call => ?_
    cases write <;> simp [Frame.mayStart, Statement.mayStart]
  | connect call controller vector callback =>
    refine counted.next shape [_] rfl rfl rfl fun other => ?_
    simp [Frame.mayStart, Statement.mayStart, Event.starts]
  | lookup call controller vector routine connected =>
    refine counted.next shape [_] rfl rfl rfl fun other => ?_
    simp [Frame.mayStart, Statement.mayStart, Event.starts]
  | lookupNone call controller vector missing =>
    refine counted.next shape [_] rfl rfl rfl fun other => ?_
    simp [Frame.mayStart, Statement.mayStart, Event.starts]
  | call _ operation user permitted => exact counted.call traced shape operation
  | quiet next plain =>
    refine counted.next shape [_] rfl (List.append_nil _).symm rfl fun call => ?_
    rcases plain with rfl | rfl <;> simp [Frame.mayStart, Statement.mayStart]
  | returned region user =>
    refine counted.next shape [_] rfl (List.append_nil _).symm rfl fun call => ?_
    cases region <;> simp_all [Frame.mayStart, Statement.mayStart, Region.afterBody, Frame.isUser]
  | _ =>
    refine counted.next shape [_] rfl (List.append_nil _).symm rfl fun call => ?_
    simp [Frame.mayStart, Statement.mayStart]

theorem Counted.start : Counted State.start where
  owned := by
    intro u frame call member may
    rw [List.mem_singleton.mp member] at may
    cases may
  once := by
    intro call
    simp [State.start, Frame.mayStart]

theorem Counted.run {actions : List (ThreadId × Choice)}
    (ran : Transition.run State.step State.start actions = some s) : Traced s ∧ Counted s := by
  have keep : ∀ (s : State) (action : ThreadId × Choice) (next : State), Sound s ∧ Traced s ∧ Counted s →
      s.step action = some next → Sound next ∧ Traced next ∧ Counted next := by
    rintro s action next ⟨sound, traced, counted⟩ taken
    exact ⟨sound.step taken, traced.step sound taken, counted.step traced taken⟩
  exact (Transition.run_invariant keep ⟨Sound.start, Traced.start, Counted.start⟩ ran).2

end

/-- No callback that was connected to the vector before is started after the call that has connected another one,
    unless it is connected again. -/
def ReplacedDead (trace : List Event) : Prop :=
  ∀ before middle after replacing earlier call c v g f,
    trace = before ++ .connected replacing c v g :: (middle ++ .start call c v f :: after) →
    .connect earlier c v (some f) ∈ before → g ≠ some f → ∃ again, .connect again c v (some f) ∈ middle

def connecting (t : ThreadId) (controller : ControllerPtr) (vector : Int) (callback : Callback) :
    List (ThreadId × Choice) :=
  (t, .call (.connectInterruptHandler controller vector callback)) :: List.replicate 4 (t, .next)

/-- Thread 1 has looked up the first callback when thread 0 connects the second. -/
def straddling : List (ThreadId × Choice) :=
  constructing 0 4 ⟨100, 0x10000, 0x50000⟩ ++ connecting 0 4 0 (some 1) ++
    (1, .call (.triggerInterrupt 4 0)) :: List.replicate 3 (1, .next) ++ connecting 0 4 0 (some 2)

theorem replaced_callback_starts : ∃ returned s,
    Transition.run State.step State.start straddling = some returned ∧ returned.frames 0 = [.main] ∧
    returned.step (1, .next) = some s ∧ ¬ ReplacedDead s.trace := by
  refine ⟨_, _, rfl, rfl, rfl, fun dead => ?_⟩
  obtain ⟨again, member⟩ := dead
    [.connect ⟨0, 1⟩ 4 0 (some 1), .connected ⟨0, 1⟩ 4 0 (some 1), .trigger ⟨1, 0⟩ 4 0,
      .lookup ⟨1, 0⟩ 4 0 (some (some 1)), .connect ⟨0, 2⟩ 4 0 (some 2)]
    [] [] ⟨0, 2⟩ ⟨0, 1⟩ ⟨1, 0⟩ 4 0 (some 2) 1 rfl (by simp) (by simp)
  cases member

/-- What can be said of the callbacks: a call of `TriggerInterrupt` that has looked up its callback before the
    update still starts it. -/
structure Invocations (trace : List Event) : Prop where
  trigger : ∀ before after call c v, trace = before ++ .trigger call c v :: after →
    ∀ d w, .trigger call d w ∉ before
  once : ∀ call, trace.countP (Event.starts call) ≤ 1
  connected : ∀ before after call c v f, trace = before ++ .start call c v f :: after →
    .trigger call c v ∈ before ∧ ∃ earlier, .connect earlier c v (some f) ∈ before
  replaced : ∀ before middle after replacing call c v g f,
    trace = before ++ .connected replacing c v g :: (middle ++ .start call c v f :: after) → g ≠ some f →
    (∃ again, .connect again c v (some f) ∈ middle) ∨
    ∃ first between, before = first ++ .connect replacing c v g :: between ∧
      .lookup call c v (some (some f)) ∈ first

theorem Event.of_callback {event : Event} {c : ControllerPtr} {v : Int} {callback : Callback}
    (connects : event.callback c v = some callback) : ∃ call, event = .connect call c v callback := by
  cases event with
  | connect call controller vector other =>
    simp only [Event.callback, Option.ite_none_right_eq_some, Option.some.injEq] at connects
    obtain ⟨⟨rfl, rfl⟩, rfl⟩ := connects
    exact ⟨call, rfl⟩
  | _ => cases connects

/-- A callback that is looked up after an update with another one has been connected since. -/
theorem reconnected {first rest : List Event} {replacing call : Call} {c : ControllerPtr} {v : Int}
    {g : Callback} {f : RoutineId}
    (each : Log.Each Event.Explained (first ++ .connect replacing c v g :: rest)) (different : g ≠ some f)
    (looked : .lookup call c v (some (some f)) ∈ rest) : ∃ again, .connect again c v (some f) ∈ rest := by
  obtain ⟨past, later, rfl⟩ := List.append_of_mem looked
  have explained : (Event.lookup call c v (some (some f))).Explained
      (first ++ .connect replacing c v g :: past) := each _ _ later (by simp)
  have connects : (Event.connect replacing c v g).callback c v = some g := by simp [Event.callback]
  obtain ⟨event, member, renewed⟩ := Log.last_renewed connects different explained.2.symm
  obtain ⟨again, rfl⟩ := Event.of_callback renewed
  exact ⟨again, List.mem_append_left _ member⟩

theorem invocations_connected (actions : List (ThreadId × Choice)) (s : State)
    (ran : Transition.run State.step State.start actions = some s) : Invocations s.trace := by
  obtain ⟨traced, counted⟩ := Counted.run ran
  refine ⟨?_, ?_, ?_, ?_⟩
  · intro before after call c v split
    exact traced.events before _ after split
  · intro call
    have counts := counted.once call
    omega
  · intro before after call c v f split
    have looked : .lookup call c v (some (some f)) ∈ before := traced.events before _ after split
    obtain ⟨past, rest, rfl⟩ := List.append_of_mem looked
    have explained : (Event.lookup call c v (some (some f))).Explained past :=
      traced.events past _ (rest ++ .start call c v f :: after) (by simp [split])
    obtain ⟨triggered, result⟩ := explained
    obtain ⟨event, member, connects⟩ := Log.last_mem result.symm
    obtain ⟨earlier, rfl⟩ := Event.of_callback connects
    exact ⟨List.mem_append_left _ triggered, earlier, List.mem_append_left _ member⟩
  · intro before middle after replacing call c v g f split different
    obtain ⟨first, between, rfl, none⟩ : Updated replacing c v g before := traced.events before _ _ split
    have shape : s.trace = (first ++ .connect replacing c v g :: (between ++ .connected replacing c v g :: middle)) ++
        .start call c v f :: after := by simp [split]
    have looked : .lookup call c v (some (some f)) ∈
        first ++ .connect replacing c v g :: (between ++ .connected replacing c v g :: middle) :=
      traced.events _ (.start call c v f) after shape
    rcases List.mem_append.mp looked with early | late
    · exact Or.inr ⟨first, between, rfl, early⟩
    · rcases List.mem_cons.mp late with same | late
      · cases same
      · obtain ⟨again, inside⟩ := reconnected (shape ▸ traced.events).earlier different late
        rcases List.mem_append.mp inside with early | now
        · have silent := none _ early
          simp [Event.callback] at silent
        · rcases List.mem_cons.mp now with same | now
          · cases same
          · exact Or.inl ⟨again, now⟩

theorem straddling_invocations : ∃ s,
    Transition.run State.step State.start (straddling ++ [(1, .next)]) = some s ∧ Invocations s.trace :=
  ⟨_, rfl, invocations_connected (straddling ++ [(1, .next)]) _ rfl⟩

end ExMM.Threads
