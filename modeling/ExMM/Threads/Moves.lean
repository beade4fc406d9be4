import ExMM.Model.Threads
import ExMM.Registry.Lifetimes

namespace ExMM.Threads

inductive Move (s : State) (t : ThreadId) (below : List Frame) : Frame → State → Prop
  | done : Move s t below (.plain .done) (s.goto t below)
  | enter (region : Region) (mutexes : Locks.Table ThreadId Lock)
      (taken : Locks.acquire Lock.recursive s.mutexes t region.mutex = some mutexes) :
      Move s t below (.plain (.lock region)) { s.goto t (.guarded region :: below) with
        mutexes, trace := s.trace ++ State.entered region }
  | leave (region : Region) (next : Statement) (mutexes : Locks.Table ThreadId Lock)
      (released : Locks.release s.mutexes t region.mutex = some mutexes) :
      Move s t below (.unlock region next) { s.goto t (.plain next :: below) with
        mutexes, trace := s.trace ++ State.left region }
  | add (controller : ControllerPtr) (size : Nat) (hookTypes : HookTypes) (allocation : Option Allocation)
      (registry : Registry) (entries : ∀ c : ControllerPtr, (registry.ioMap[c]?).isSome →
        c = controller ∨ (s.registry.ioMap[c]?).isSome) :
      Move s t below (.guarded (.add controller size hookTypes allocation))
        { s.goto t (.unlock (.add controller size hookTypes allocation) .done :: below) with registry }
  | remove (controller : ControllerPtr) (registry : Registry)
      (entries : ∀ c : ControllerPtr, (registry.ioMap[c]?).isSome → (s.registry.ioMap[c]?).isSome) :
      Move s t below (.guarded (.remove controller))
        { s.goto t (.unlock (.remove controller) .done :: below) with registry }
  | found (siAddr : Nat) (write : Bool) (result : Found)
      (entry : s.registry.ioMap[result.controller]? = some result.ioSpace) :
      Move s t below (.guarded (.findController siAddr write)) (s.goto t (.unlock (.findController siAddr write)
        (if write then .installBreakPoint result true else .lock (.hookRead result)) :: below))
  | missed (siAddr : Nat) (write : Bool) : Move s t below (.guarded (.findController siAddr write))
      (s.goto t (.unlock (.findController siAddr write) .done :: below))
  | connect (call : Call) (controller : ControllerPtr) (vector : Int) (callback : Callback) :
      Move s t below (.guarded (.connectInterruptHandler call controller vector callback))
        { s.goto t (.unlock (.connectInterruptHandler call controller vector callback) .done :: below) with
          interrupts := Function.update s.interrupts controller
            (Function.update (s.interrupts controller) vector (some callback))
          trace := s.trace ++ [.connect call controller vector callback] }
  | lookup (call : Call) (controller : ControllerPtr) (vector : Int) (routine : RoutineId)
      (connected : s.interrupts controller vector = some (some routine)) :
      Move s t below (.guarded (.lookupInterruptHandler call controller vector))
        { s.goto t (.unlock (.lookupInterruptHandler call controller vector)
            (.lock (.routine call controller vector routine)) :: below) with
          trace := s.trace ++ [.lookup call controller vector (some (some routine))] }
  | lookupNone (call : Call) (controller : ControllerPtr) (vector : Int)
      (missing : ∀ routine, s.interrupts controller vector ≠ some (some routine)) :
      Move s t below (.guarded (.lookupInterruptHandler call controller vector))
        { s.goto t (.unlock (.lookupInterruptHandler call controller vector) .done :: below) with
          trace := s.trace ++ [.lookup call controller vector (s.interrupts controller vector)] }
  | install (found : Found) (write : Bool) (data : BreakPointData Unit)
      (named : ∀ c, data.controller = some c → c = found.controller) :
      Move s t below (.plain (.installBreakPoint found write))
        { s.goto t (.plain .done :: below) with breakPoint := Function.update s.breakPoint t data }
  | trapped (found : Found) (recorded : (s.breakPoint t).controller = some found.controller) :
      Move s t below (.plain .getBreakPoint) (s.goto t (.plain (.lock (.hookWrite found)) :: below))
  | quiet (next : Statement) (plain : next = .done ∨ next = .uninstallBreakPoint) :
      Move s t below (.plain .getBreakPoint) (s.goto t (.plain next :: below))
  | uninstall (data : BreakPointData Unit) (empty : data.controller = none) :
      Move s t below (.plain .uninstallBreakPoint)
        { s.goto t (.plain .done :: below) with breakPoint := Function.update s.breakPoint t data }
  | call (top : Frame) (operation : Operation) (user : top.isUser = true) (permitted : s.permits operation = true) :
      Move s t below top { (s.construct operation).goto t
          (.plain (operation.start { thread := t, number := s.calls t }) :: top :: below) with
        calls := Function.update s.calls t (s.calls t + 1)
        trace := s.trace ++ State.called { thread := t, number := s.calls t } operation }
  | ended : Move s t below .main (s.goto t below)
  | returned (region : Region) (user : (Frame.guarded region).isUser = true) :
      Move s t below (.guarded region) (s.goto t (.unlock region region.afterBody :: below))

theorem scan_mem {ioSpaces : Std.TreeMap IoSpacePtr IoSpace} {a : Nat}
    {order : List (ControllerPtr × IoSpacePtr)} {found : Found}
    (result : scan ioSpaces a order = some (some found)) : (found.controller, found.ioSpace) ∈ order := by
  induction order with
  | nil => cases result
  | cons entry rest ih =>
    obtain ⟨controller, ioSpace⟩ := entry
    simp only [scan, Option.bind_eq_bind, Option.bind_eq_some_iff] at result
    obtain ⟨space, -, chosen⟩ := result
    split at chosen
    · cases chosen
      exact List.mem_cons_self
    · exact List.mem_cons_of_mem _ (ih chosen)

theorem findController_entry {registry : Registry} {a : Nat} {found : Found}
    (result : registry.findController a = some (some found)) :
    registry.ioMap[found.controller]? = some found.ioSpace :=
  Std.TreeMap.mem_toList_iff_getElem?_eq_some.mp (scan_mem result)

theorem add_entries (registry : Registry) (controller : ControllerPtr) (size : Nat) (hookTypes : HookTypes)
    (allocation : Allocation) (c : ControllerPtr)
    (present : ((registry.add controller size hookTypes allocation).1.ioMap[c]?).isSome) :
    c = controller ∨ (registry.ioMap[c]?).isSome := by
  simp only [Registry.add, Registry.initPlatform_ioMap, Std.TreeMap.getElem?_insertIfNew] at present
  split at present
  · next new => exact Or.inl (Std.compare_eq_iff_eq.mp new.1).symm
  · exact Or.inr present

theorem remove_entries (registry : Registry) (controller c : ControllerPtr)
    (present : ((registry.remove controller).ioMap[c]?).isSome) : (registry.ioMap[c]?).isSome := by
  unfold Registry.remove at present
  split at present
  · simp only [Std.TreeMap.getElem?_erase] at present
    split at present
    · cases present
    · exact present
  · exact present

section

variable {s s' : State} {t : ThreadId} {below : List Frame}

theorem State.perform_move {region : Region} {result : State × Statement}
    (performed : s.perform region = some result) :
    Move s t below (.guarded region) (result.1.goto t (.unlock region result.2 :: below)) := by
  cases region with
  | add controller size hookTypes allocation =>
    cases allocation with
    | none =>
      cases performed
      exact .add controller size hookTypes none _ fun c present =>
        Or.inr (by rwa [Registry.initPlatform_ioMap] at present)
    | some allocation =>
      cases performed
      exact .add controller size hookTypes (some allocation) _ fun c present => add_entries _ _ _ _ _ c present
  | remove controller =>
    cases performed
    exact .remove controller _ fun c present => remove_entries _ _ c present
  | findController siAddr write =>
    obtain ⟨found, searched, rfl⟩ := Option.map_eq_some_iff.mp performed
    cases found with
    | none => exact .missed siAddr write
    | some found => exact .found siAddr write found (findController_entry searched)
  | connectInterruptHandler call controller vector callback =>
    cases performed
    exact .connect call controller vector callback
  | lookupInterruptHandler call controller vector =>
    simp only [perform, Option.some.injEq] at performed
    subst performed
    have silent := @Move.lookupNone s t below call controller vector
    rcases handler : s.interrupts controller vector with _ | _ | routine
    · rw [handler] at silent
      exact silent (by simp)
    · rw [handler] at silent
      exact silent (by simp)
    · exact .lookup call controller vector routine handler
  | hookRead found => cases performed
  | hookWrite found => cases performed
  | routine call controller vector routine => cases performed
  | memoryLock controller => cases performed

theorem State.statement_move {statement : Statement}
    (taken : s.stepStatement t below statement = some s') : Move s t below (.plain statement) s' := by
  cases statement with
  | done =>
    cases taken
    exact .done
  | lock region =>
    obtain ⟨mutexes, acquired, rfl⟩ := Option.map_eq_some_iff.mp taken
    exact .enter region mutexes acquired
  | installBreakPoint found write =>
    cases taken
    refine .install found write _ fun c named => ?_
    cases write with
    | false => cases named
    | true => exact (Option.some.inj named).symm
  | getBreakPoint =>
    simp only [stepStatement] at taken
    split at taken
    · simp only [Option.bind_eq_bind, Option.bind_eq_some_iff] at taken
      obtain ⟨ioSpace, -, taken⟩ := taken
      split at taken
      · next controller recorded =>
        obtain ⟨hookTypes, -, taken⟩ := Option.bind_eq_some_iff.mp taken
        split at taken
        · cases taken
          exact .trapped _ recorded
        · cases taken
          exact .quiet _ (Or.inr rfl)
      · cases taken
        exact .quiet _ (Or.inr rfl)
    · cases taken
      exact .quiet _ (Or.inl rfl)
  | uninstallBreakPoint =>
    cases taken
    exact .uninstall _ rfl

theorem State.user_move {top : Frame} {choice : Choice} (user : top.isUser = true)
    (taken : s.stepUser t top below choice = some s') : Move s t below top s' := by
  cases choice with
  | next => cases taken
  | call operation =>
    simp only [stepUser] at taken
    split at taken
    · next permitted =>
      cases taken
      exact .call top operation user permitted
    · cases taken
  | finish =>
    simp only [stepUser] at taken
    cases top with
    | main =>
      cases taken
      exact .ended
    | guarded region =>
      cases taken
      exact .returned region user
    | plain statement => cases user
    | unlock region next => cases user

/-- The inversion of `step`: the only place where it is unfolded. -/
theorem State.step_move {choice : Choice} (taken : s.step (t, choice) = some s') :
    ∃ top below, s.frames t = top :: below ∧ Move s t below top s' := by
  simp only [step] at taken
  split at taken
  · cases taken
  · next top below shape =>
    refine ⟨top, below, shape, ?_⟩
    split at taken
    · next user => exact user_move user taken
    · split at taken
      · exact statement_move taken
      · obtain ⟨result, performed, rfl⟩ := Option.map_eq_some_iff.mp taken
        exact perform_move performed
      · obtain ⟨mutexes, released, rfl⟩ := Option.map_eq_some_iff.mp taken
        exact .leave _ _ mutexes released
      · cases taken

theorem State.stack_cases {frames stack : List Frame} {u : ThreadId}
    (update : s'.frames = Function.update s.frames t frames) (here : s'.frames u = stack) :
    (u = t ∧ frames = stack) ∨ s.frames u = stack := by
  rw [update] at here
  by_cases mine : u = t
  · subst mine
    rw [Function.update_self] at here
    exact Or.inl ⟨rfl, here⟩
  · rw [Function.update_of_ne mine] at here
    exact Or.inr here

theorem State.frame_cases (added : List Frame) {rest : List Frame} {u : ThreadId} {frame : Frame}
    (update : s'.frames = Function.update s.frames t (added ++ rest)) (old : rest ⊆ s.frames t)
    (member : frame ∈ s'.frames u) : (u = t ∧ frame ∈ added) ∨ frame ∈ s.frames u := by
  have here : s'.frames u = s'.frames u := rfl
  rcases State.stack_cases update here with ⟨rfl, stack⟩ | same
  · rw [← stack] at member
    rcases List.mem_append.mp member with new | suspended
    · exact Or.inl ⟨rfl, new⟩
    · exact Or.inr (old suspended)
  · rw [← same] at member
    exact Or.inr member

theorem State.below_subset {top : Frame} (shape : s.frames t = top :: below) : below ⊆ s.frames t := by
  rw [shape]
  exact List.subset_cons_self top below

end

end ExMM.Threads
