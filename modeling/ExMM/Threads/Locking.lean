import ExMM.Threads.Moves
import Mathlib.Data.Fin.VecNotation

namespace ExMM.Threads

def Region.controllers : Region → List ControllerPtr
  | .add controller _ _ _ | .remove controller | .connectInterruptHandler _ controller _ _
  | .lookupInterruptHandler _ controller _ | .routine _ controller _ _ | .memoryLock controller => [controller]
  | .hookRead found | .hookWrite found => [found.controller]
  | .findController _ _ => []

def Statement.controllers : Statement → List ControllerPtr
  | .lock region => region.controllers
  | .installBreakPoint found _ => [found.controller]
  | _ => []

def Frame.controllers : Frame → List ControllerPtr
  | .main => []
  | .plain statement => statement.controllers
  | .guarded region => region.controllers
  | .unlock region next => region.controllers ++ next.controllers

def Lock.Within (controllers : List ControllerPtr) : Lock → Prop
  | .ioMapMutex => True
  | .interruptsMutex controller | .memoryLockMutex controller => controller ∈ controllers

theorem Region.mutex_within (region : Region) : region.mutex.Within region.controllers := by
  cases region <;> simp [mutex, controllers, Lock.Within]

theorem Frame.requests_within {frame : Frame} {l : Lock} (requested : frame.requests = some l) :
    l.Within frame.controllers := by
  match frame with
  | .plain (.lock region) =>
    cases requested
    exact region.mutex_within

theorem Frame.user_held {frame : Frame} (user : frame.isUser = true) {l : Lock} (member : l ∈ frame.held) :
    l.recursive = true := by
  cases frame with
  | main => cases member
  | plain statement => cases member
  | guarded region =>
    rw [List.mem_singleton.mp member]
    cases region <;> first | rfl | cases user
  | unlock region next => cases user

theorem Frame.held_of_requests {frame : Frame} {l : Lock} (requested : frame.requests = some l) :
    frame.held = [] := by
  match frame with
  | .plain (.lock region) => rfl

/-- The invariant over all interleavings. A function of the library that is not at the top of its stack
    runs code of the user. -/
structure Sound (s : State) : Prop where
  accounts : Locks.Accounts s.mutexes s.held
  suspended : ∀ {t top below}, s.frames t = top :: below → ∀ frame ∈ below, frame.isUser = true
  named : ∀ {t frame}, frame ∈ s.frames t → ∀ c ∈ frame.controllers, (s.constructed c).isSome
  entries : ∀ c : ControllerPtr, (s.registry.ioMap[c]?).isSome → (s.constructed c).isSome
  recorded : ∀ {t c}, (s.breakPoint t).controller = some c → (s.constructed c).isSome

section

variable {s s' : State} {t : ThreadId} {top : Frame} {below : List Frame}

theorem State.held_update (frames : s'.frames = Function.update s.frames t below) :
    s'.held = Function.update s.held t (below.flatMap Frame.held) := by
  funext u
  by_cases mine : u = t
  · subst mine
    simp only [held, frames, Function.update_self]
  · simp only [held, frames, Function.update_of_ne mine]

theorem State.held_top (shape : s.frames t = top :: below) :
    s.held t = top.held ++ below.flatMap Frame.held := by
  rw [held, shape, List.flatMap_cons]

theorem accounts_kept (accounts : Locks.Accounts s.mutexes s.held) (shape : s.frames t = top :: below)
    {frames : List Frame} (update : s'.frames = Function.update s.frames t frames)
    (same : frames.flatMap Frame.held = top.held ++ below.flatMap Frame.held)
    (mutexes : s'.mutexes = s.mutexes) : Locks.Accounts s'.mutexes s'.held := by
  have unchanged : s'.held = s.held := by
    rw [State.held_update update, same, ← State.held_top shape, Function.update_eq_self]
  rw [unchanged, mutexes]
  exact accounts

theorem Sound.next (sound : Sound s) (shape : s.frames t = top :: below) {frame : Frame}
    (update : s'.frames = Function.update s.frames t (frame :: below))
    (accounts : Locks.Accounts s'.mutexes s'.held) (constructed : s'.constructed = s.constructed)
    (named : ∀ c ∈ frame.controllers, (s.constructed c).isSome)
    (entries : ∀ c : ControllerPtr, (s'.registry.ioMap[c]?).isSome → (s.constructed c).isSome)
    (recorded : ∀ c, (s'.breakPoint t).controller = some c → (s.constructed c).isSome)
    (others : ∀ u, u ≠ t → s'.breakPoint u = s.breakPoint u) : Sound s' where
  accounts := accounts
  suspended := by
    intro u top' below' shape'
    rcases State.stack_cases update shape' with ⟨rfl, same⟩ | before
    · cases same
      exact sound.suspended shape
    · exact sound.suspended before
  named := by
    intro u other member
    rw [constructed]
    rcases State.frame_cases [frame] update (State.below_subset shape) member with ⟨rfl, new⟩ | old
    · rw [List.mem_singleton.mp new]
      exact named
    · exact sound.named old
  entries := by
    rw [constructed]
    exact entries
  recorded := by
    intro u c holds
    rw [constructed]
    by_cases mine : u = t
    · subst mine
      exact recorded c holds
    · rw [others u mine] at holds
      exact sound.recorded holds

theorem Sound.goto (sound : Sound s) (shape : s.frames t = top :: below) {frame : Frame}
    (update : s'.frames = Function.update s.frames t (frame :: below)) (same : frame.held = top.held)
    (mutexes : s'.mutexes = s.mutexes) (constructed : s'.constructed = s.constructed)
    (named : ∀ c ∈ frame.controllers, (s.constructed c).isSome)
    (entries : ∀ c : ControllerPtr, (s'.registry.ioMap[c]?).isSome → (s.constructed c).isSome)
    (breakPoint : s'.breakPoint = s.breakPoint) : Sound s' := by
  refine sound.next shape update ?_ constructed named entries ?_ ?_
  · refine accounts_kept sound.accounts shape update ?_ mutexes
    rw [List.flatMap_cons, same]
  · intro c holds
    rw [breakPoint] at holds
    exact sound.recorded holds
  · intro u _
    rw [breakPoint]

theorem Sound.drop (sound : Sound s) (shape : s.frames t = top :: below) (free : top.held = []) :
    Sound (s.goto t below) where
  accounts := accounts_kept sound.accounts shape rfl (by rw [free, List.nil_append]) rfl
  suspended := by
    intro u top' below' shape'
    rcases State.stack_cases rfl shape' with ⟨rfl, rfl⟩ | before
    · exact fun frame member => sound.suspended shape frame (List.mem_cons_of_mem _ member)
    · exact sound.suspended before
  named := by
    intro u frame member
    rcases State.frame_cases [] rfl (State.below_subset shape) member with ⟨rfl, new⟩ | old
    · cases new
    · exact sound.named old
  entries := sound.entries
  recorded := sound.recorded

theorem State.construct_constructed (s : State) (operation : Operation) {c : ControllerPtr}
    (before : (s.constructed c).isSome) : ((s.construct operation).constructed c).isSome := by
  cases operation with
  | construct controller size hookTypes allocation =>
    by_cases mine : c = controller
    · subst mine
      simp [construct]
    · simpa [construct, mine] using before
  | _ => exact before

theorem State.construct_same (s : State) (operation : Operation) :
    (s.construct operation).mutexes = s.mutexes ∧ (s.construct operation).registry = s.registry ∧
      (s.construct operation).breakPoint = s.breakPoint := by
  cases operation <;> exact ⟨rfl, rfl, rfl⟩

theorem State.construct_frames (s : State) (operation : Operation) (t : ThreadId) (stack : List Frame) :
    ((s.construct operation).goto t stack).frames = Function.update s.frames t stack := by
  cases operation <;> rfl

theorem State.start_named {operation : Operation} (permitted : s.permits operation = true) (call : Call)
    (c : ControllerPtr) (member : c ∈ (operation.start call).controllers) :
    ((s.construct operation).constructed c).isSome := by
  cases operation with
  | construct controller size hookTypes allocation =>
    rw [List.mem_singleton.mp member]
    simp [construct]
  | access siAddr write => cases member
  | trap => cases member
  | destroy controller =>
    rw [List.mem_singleton.mp member]
    exact permitted
  | connectInterruptHandler controller vector callback =>
    rw [List.mem_singleton.mp member]
    exact permitted
  | triggerInterrupt controller vector =>
    rw [List.mem_singleton.mp member]
    exact permitted
  | acquireMemoryLock controller =>
    rw [List.mem_singleton.mp member]
    exact permitted

theorem Sound.call (sound : Sound s) (shape : s.frames t = top :: below) {operation : Operation}
    (user : top.isUser = true) (permitted : s.permits operation = true) :
    Sound { (s.construct operation).goto t
        (.plain (operation.start { thread := t, number := s.calls t }) :: top :: below) with
      calls := Function.update s.calls t (s.calls t + 1)
      trace := s.trace ++ State.called { thread := t, number := s.calls t } operation } := by
  obtain ⟨mutexes, registry, breakPoint⟩ := s.construct_same operation
  have update := s.construct_frames operation t
    (.plain (operation.start { thread := t, number := s.calls t }) :: top :: below)
  refine ⟨accounts_kept sound.accounts shape update ?_ mutexes, ?_, ?_, ?_, ?_⟩
  · rw [List.flatMap_cons, List.flatMap_cons]
    rfl
  · intro u top' below' shape'
    rcases State.stack_cases update shape' with ⟨rfl, same⟩ | before
    · cases same
      intro frame member
      rcases List.mem_cons.mp member with rfl | member
      · exact user
      · exact sound.suspended shape frame member
    · exact sound.suspended before
  · intro u frame member c named
    rcases State.frame_cases [_] update (fun _ member => shape ▸ member) member with ⟨rfl, new⟩ | old
    · rw [List.mem_singleton.mp new] at named
      exact State.start_named permitted _ c named
    · exact s.construct_constructed operation (sound.named old c named)
  · intro c present
    simp only [State.goto, registry] at present
    exact s.construct_constructed operation (sound.entries c present)
  · intro u c holds
    simp only [State.goto, breakPoint] at holds
    exact s.construct_constructed operation (sound.recorded holds)

theorem Sound.enter (sound : Sound s) {region : Region} {mutexes : Locks.Table ThreadId Lock}
    (shape : s.frames t = .plain (.lock region) :: below)
    (taken : Locks.acquire Lock.recursive s.mutexes t region.mutex = some mutexes) :
    Sound { s.goto t (.guarded region :: below) with
      mutexes, trace := s.trace ++ State.entered region } := by
  refine sound.next shape rfl ?_ rfl ?_ sound.entries (fun c => sound.recorded) fun u _ => rfl
  · have acquired := sound.accounts.acquire taken
    rw [State.held_top shape] at acquired
    rw [@State.held_update s _ t (.guarded region :: below) rfl]
    exact acquired
  · have known : ∀ c ∈ (Frame.plain (.lock region)).controllers, (s.constructed c).isSome :=
      sound.named (shape ▸ List.mem_cons_self)
    exact known

theorem Sound.leave (sound : Sound s) {region : Region} {next : Statement}
    {mutexes : Locks.Table ThreadId Lock} (shape : s.frames t = .unlock region next :: below)
    (released : Locks.release s.mutexes t region.mutex = some mutexes) :
    Sound { s.goto t (.plain next :: below) with mutexes, trace := s.trace ++ State.left region } := by
  refine sound.next shape rfl ?_ rfl ?_ sound.entries (fun c => sound.recorded) fun u _ => rfl
  · obtain ⟨table, released', accounts⟩ := sound.accounts.release (State.held_top shape)
    rw [released, Option.some.injEq] at released'
    subst released'
    rw [@State.held_update s _ t (.plain next :: below) rfl]
    exact accounts
  · intro c member
    exact sound.named (shape ▸ List.mem_cons_self) c (List.mem_append_right _ member)

theorem Sound.step (sound : Sound s) {choice : Choice} (taken : s.step (t, choice) = some s') : Sound s' := by
  obtain ⟨top, below, shape, move⟩ := State.step_move taken
  have mine : ∀ c ∈ top.controllers, (s.constructed c).isSome := sound.named (shape ▸ List.mem_cons_self)
  cases move with
  | done => exact sound.drop shape rfl
  | ended => exact sound.drop shape rfl
  | enter region mutexes acquired => exact sound.enter shape acquired
  | leave region next mutexes released => exact sound.leave shape released
  | add controller size hookTypes allocation registry entries =>
    refine sound.goto shape rfl rfl rfl rfl ?_ ?_ rfl
    · simpa [Frame.controllers, Statement.controllers] using mine
    · intro c present
      rcases entries c present with rfl | before
      · exact mine c List.mem_cons_self
      · exact sound.entries c before
  | remove controller registry entries =>
    refine sound.goto shape rfl rfl rfl rfl ?_ (fun c present => sound.entries c (entries c present)) rfl
    simpa [Frame.controllers, Statement.controllers] using mine
  | found siAddr write result entry =>
    refine sound.goto shape rfl rfl rfl rfl ?_ sound.entries rfl
    have named := sound.entries result.controller (by rw [entry]; rfl)
    cases write <;> simpa [Frame.controllers, Statement.controllers, Region.controllers] using named
  | missed siAddr write =>
    refine sound.goto shape rfl rfl rfl rfl ?_ sound.entries rfl
    simp [Frame.controllers, Statement.controllers, Region.controllers]
  | connect call controller vector callback =>
    refine sound.goto shape rfl rfl rfl rfl ?_ sound.entries rfl
    simpa [Frame.controllers, Statement.controllers] using mine
  | lookup call controller vector routine connected =>
    refine sound.goto shape rfl rfl rfl rfl ?_ sound.entries rfl
    simpa [Frame.controllers, Statement.controllers, Region.controllers] using mine
  | lookupNone call controller vector missing =>
    refine sound.goto shape rfl rfl rfl rfl ?_ sound.entries rfl
    simpa [Frame.controllers, Statement.controllers] using mine
  | install found write data named =>
    refine sound.next shape rfl ?_ rfl (by simp [Frame.controllers, Statement.controllers]) sound.entries ?_
      fun u other => Function.update_of_ne other _ _
    · exact accounts_kept sound.accounts shape rfl rfl rfl
    · intro c holds
      simp only [Function.update_self] at holds
      rw [named c holds]
      exact mine _ List.mem_cons_self
  | trapped found recorded =>
    refine sound.goto shape rfl rfl rfl rfl ?_ sound.entries rfl
    simpa [Frame.controllers, Statement.controllers, Region.controllers] using sound.recorded recorded
  | quiet next plain =>
    refine sound.goto shape rfl rfl rfl rfl ?_ sound.entries rfl
    rcases plain with rfl | rfl <;> simp [Frame.controllers, Statement.controllers]
  | uninstall data empty =>
    refine sound.next shape rfl ?_ rfl (by simp [Frame.controllers, Statement.controllers]) sound.entries ?_
      fun u other => Function.update_of_ne other _ _
    · exact accounts_kept sound.accounts shape rfl rfl rfl
    · intro c holds
      simp [empty] at holds
  | call _ operation user permitted => exact sound.call shape user permitted
  | returned region user =>
    refine sound.goto shape rfl rfl rfl rfl ?_ sound.entries rfl
    cases region <;>
      simp_all [Frame.controllers, Statement.controllers, Region.controllers, Region.afterBody]

theorem Sound.start : Sound State.start where
  accounts := by
    constructor
    · intro u l
      rfl
    · intro u l n present
      cases present
  suspended := by
    intro u top' below' shape'
    cases shape'
    exact fun frame member => by cases member
  named := by
    intro u frame member
    rw [List.mem_singleton.mp member]
    exact fun c named => by cases named
  entries := by
    intro c present
    simp [State.start, Registry.empty] at present
  recorded := by
    intro u c holds
    cases holds

theorem Sound.run {actions : List (ThreadId × Choice)}
    (ran : Transition.run State.step State.start actions = some s) : Sound s :=
  Transition.run_invariant (fun _ _ _ sound taken => sound.step taken) Sound.start ran

theorem Sound.disciplined (sound : Sound s) : Locks.Disciplined Lock.recursive s.held s.requests := by
  intro u l requested k member
  rcases shape : s.frames u with _ | ⟨top, below⟩
  · simp [State.requests, shape] at requested
  · simp only [State.requests, shape, List.head?_cons, Option.bind_some] at requested
    rw [State.held_top shape, Frame.held_of_requests requested, List.nil_append] at member
    obtain ⟨frame, inside, holds⟩ := List.mem_flatMap.mp member
    exact Frame.user_held (sound.suspended shape frame inside) holds

theorem Frame.not_user {frame : Frame} {l : Lock} (member : l ∈ frame.held) (once : l.recursive = false) :
    frame.isUser = false := by
  cases user : frame.isUser with
  | false => rfl
  | true =>
    have again := frame.user_held user member
    rw [once] at again
    cases again

theorem Sound.exclusive (sound : Sound s) {u : ThreadId} {frame other : Frame} {l : Lock}
    (here : frame ∈ s.frames t) (there : other ∈ s.frames u) (first : l ∈ frame.held)
    (second : l ∈ other.held) (once : l.recursive = false) :
    t = u ∧ (s.frames t).head? = some frame ∧ (s.frames t).head? = some other := by
  have atTop : ∀ {v frame}, frame ∈ s.frames v → l ∈ frame.held → (s.frames v).head? = some frame := by
    intro v frame member holds
    rcases shape : s.frames v with _ | ⟨top, below⟩
    · simp [shape] at member
    · rw [shape] at member
      rcases List.mem_cons.mp member with rfl | suspended
      · rfl
      · have user := sound.suspended shape frame suspended
        rw [Frame.not_user holds once] at user
        cases user
  have mine : l ∈ s.held t := List.mem_flatMap.mpr ⟨frame, here, first⟩
  have yours : l ∈ s.held u := List.mem_flatMap.mpr ⟨other, there, second⟩
  have same : t = u := sound.accounts.unique mine yours
  subst same
  exact ⟨rfl, atTop here first, atTop there second⟩

theorem Sound.requests_named (sound : Sound s) {l : Lock} {c : ControllerPtr}
    (requested : s.requests t = some l) (memory : l = .memoryLockMutex c) : (s.constructed c).isSome := by
  subst memory
  rcases shape : s.frames t with _ | ⟨top, below⟩
  · simp [State.requests, shape] at requested
  · simp only [State.requests, shape, List.head?_cons, Option.bind_some] at requested
    exact sound.named (shape ▸ List.mem_cons_self) c (Frame.requests_within requested)

end

theorem Lock.memory_of_recursive {l : Lock} (again : l.recursive = true) : ∃ c, l = .memoryLockMutex c := by
  cases l with
  | memoryLockMutex c => exact ⟨c, rfl⟩
  | ioMapMutex => cases again
  | interruptsMutex c => cases again

def State.Holds (s : State) (t : ThreadId) (l : Lock) : Prop := ∃ n, s.mutexes l = some (t, n)

/-- The order of the locks: `ioMapMutex` and every `interruptsMutex` are taken last, and only memory locks
    of different controllers can be waited for in a circle. -/
structure LockDiscipline (s : State) : Prop where
  last : ∀ t l k, s.requests t = some l → s.Holds t k → k ≠ .ioMapMutex ∧ ∀ c, k ≠ .interruptsMutex c
  again : ∀ t l, s.requests t = some l → s.Holds t l → l.recursive = true
  cycle : ∀ n (threads : Fin (n + 1) → ThreadId) (locks : Fin (n + 1) → Lock),
    Locks.Cycle Lock.recursive s.mutexes s.requests n threads locks →
      (∀ i, ∃ c, locks i = .memoryLockMutex c) ∧
      ∃ i j c d, locks i = .memoryLockMutex c ∧ locks j = .memoryLockMutex d ∧ c ≠ d
  single : (∀ c d, (s.constructed c).isSome → (s.constructed d).isSome → c = d) →
    ∀ threads, ¬ Locks.Deadlocked Lock.recursive s.mutexes s.requests threads

theorem lock_discipline (actions : List (ThreadId × Choice)) (s : State)
    (ran : Transition.run State.step State.start actions = some s) : LockDiscipline s := by
  have sound := Sound.run ran
  have disciplined := sound.disciplined
  refine ⟨?_, ?_, ?_, ?_⟩
  · rintro t l k requested ⟨n, present⟩
    obtain ⟨c, rfl⟩ := Lock.memory_of_recursive (disciplined t l requested k (sound.accounts.member present))
    exact ⟨by simp, by simp⟩
  · rintro t l requested ⟨n, present⟩
    exact disciplined t l requested l (sound.accounts.member present)
  · intro n threads locks cycle
    have each := cycle.locks sound.accounts disciplined
    refine ⟨fun i => Lock.memory_of_recursive (each i).1, ?_⟩
    obtain ⟨c, here⟩ := Lock.memory_of_recursive (each 0).1
    obtain ⟨d, next⟩ := Lock.memory_of_recursive (each (0 + 1)).1
    refine ⟨0, 0 + 1, c, d, here, next, ?_⟩
    rintro rfl
    exact (each 0).2 (here.trans next.symm)
  · intro only threads deadlocked
    obtain ⟨t, u, l, k, first, second, againL, againK, different⟩ :=
      deadlocked.locks sound.accounts disciplined
    obtain ⟨c, rfl⟩ := Lock.memory_of_recursive againL
    obtain ⟨d, rfl⟩ := Lock.memory_of_recursive againK
    apply different
    rw [only c d (sound.requests_named first rfl) (sound.requests_named second rfl)]

def constructing (t : ThreadId) (controller : ControllerPtr) (allocation : Allocation) :
    List (ThreadId × Choice) :=
  (t, .call (.construct controller 64 .readWrite (some allocation))) :: List.replicate 4 (t, .next)

/-- Each of two threads holds the memory lock that the other one asks for. -/
def crossing : List (ThreadId × Choice) :=
  constructing 0 4 ⟨100, 0x10000, 0x50000⟩ ++ constructing 0 8 ⟨200, 0x11000, 0x60000⟩ ++
    [(0, .call (.acquireMemoryLock 4)), (0, .next), (1, .call (.acquireMemoryLock 8)), (1, .next),
      (0, .call (.acquireMemoryLock 8)), (1, .call (.acquireMemoryLock 4))]

theorem crossing_disciplined : ∃ s, Transition.run State.step State.start crossing = some s ∧
    LockDiscipline s ∧
    Locks.Cycle Lock.recursive s.mutexes s.requests 1 ![0, 1] ![.memoryLockMutex 8, .memoryLockMutex 4] := by
  refine ⟨_, rfl, lock_discipline crossing _ rfl, ⟨fun i => ?_⟩⟩
  match i with
  | 0 => exact ⟨rfl, ⟨1, rfl⟩, rfl⟩
  | 1 => exact ⟨rfl, ⟨1, rfl⟩, rfl⟩

end ExMM.Threads
