import ExMM.Library.Run
import ExMM.Model.Objects

namespace ExMM

variable {Area Device State Step : Type}

theorem World.access_device (t : ThreadId) (state : World Device × Loaded) (access : Access) :
    (World.access t state access).1.device = state.1.device := by
  cases access <;> rfl

theorem World.perform_device (world : World Device) (t : ThreadId) (instruction : Instruction) :
    (world.perform t instruction).1.device = world.device := by
  unfold World.perform
  generalize ([] : Loaded) = loaded
  induction instruction generalizing world loaded with
  | nil => rfl
  | cons access rest ih => exact (ih _ _).trans (World.access_device t (world, loaded) access)

namespace Machine

section

variable {cfg : Config Area Device} {s s' : Machine Area Device} {t : ThreadId}

theorem fault_device (siAddr : Nat) (write : Bool) : (s.fault t siAddr write).world.device = s.world.device := by
  unfold fault
  split <;> rfl

theorem stepUser_device (report : Report) (instruction : Instruction) :
    (s.stepUser cfg t report instruction).world.device = s.world.device := by
  simp only [stepUser]
  split
  · exact World.perform_device s.world t instruction
  · exact fault_device _ _

theorem stepHandler_device {control : Control} (stepped : s.stepHandler cfg t control = some s')
    (noRead : ∀ found, control ≠ .doHookRead found)
    (noWrite : ∀ ioSpace controller offset, control ≠ .doHookWrite ioSpace controller offset) :
    s'.world.device = s.world.device := by
  cases control with
  | user => cases stepped
  | findController siAddr write =>
    simp only [stepHandler] at stepped
    split at stepped <;> cases stepped <;> rfl
  | doHookRead found => exact absurd rfl (noRead found)
  | unprotect found write =>
    obtain ⟨space, _, stepped⟩ := Option.bind_eq_some_iff.mp stepped
    obtain ⟨area, _, stepped⟩ := Option.bind_eq_some_iff.mp stepped
    cases stepped
    rfl
  | installBreakPoint found write =>
    cases stepped
    rfl
  | getBreakPoint =>
    simp only [stepHandler] at stepped
    split at stepped
    · obtain ⟨ioSpace, _, stepped⟩ := Option.bind_eq_some_iff.mp stepped
      split at stepped
      · split at stepped <;> cases stepped <;> rfl
      · cases stepped
        rfl
    · cases stepped
      rfl
  | doHookWrite ioSpace controller offset => exact absurd rfl (noWrite ioSpace controller offset)
  | uninstallBreakPoint ioSpace =>
    cases stepped
    rfl
  | restoreProtection ioSpace =>
    obtain ⟨space, _, stepped⟩ := Option.bind_eq_some_iff.mp stepped
    obtain ⟨area, _, stepped⟩ := Option.bind_eq_some_iff.mp stepped
    cases stepped
    rfl

end

section

variable {model : DeviceModel State Step} {cfg : Config Area (ControllerPtr → State)}
  {s s' : Machine Area (ControllerPtr → State)} {controller : ControllerPtr}

theorem live_object (controllers : cfg.controllers = model.controllers) {action : LiveAction Step}
    (taken : live cfg model.backgrounds s action = some s') :
    Transition.run model.object (s.world.device controller) (s.objectAction controller action).toList =
      some (s'.world.device controller) := by
  cases action with
  | processor t report =>
    simp only [live] at taken
    split at taken
    · cases taken
    · next free =>
      simp only [step] at taken
      split at taken
      · cases taken
      · cases control : (s.threads t).control with
        | user =>
          simp only [control] at taken
          obtain ⟨instruction, _, rfl⟩ := Option.map_eq_some_iff.mp taken
          simp only [objectAction, control, Option.toList, Transition.run_nil, stepUser_device]
        | doHookRead found =>
          simp only [control, stepHandler] at taken
          obtain ⟨space, present, stepped⟩ := Option.bind_eq_some_iff.mp taken
          cases stepped
          simp only [waits, control, DeviceModel.backgrounds] at free
          simp only [objectAction, control, present, controllers]
          by_cases mine : found.controller = controller
          · subst mine
            simp [Transition.run_single, DeviceModel.object, free, World.doHookRead, DeviceModel.controllers]
          · simp [World.doHookRead, DeviceModel.controllers, mine, Function.update_of_ne (Ne.symm mine)]
        | doHookWrite ioSpace target offset =>
          simp only [control, stepHandler] at taken
          obtain ⟨space, present, stepped⟩ := Option.bind_eq_some_iff.mp taken
          cases stepped
          simp only [waits, control, DeviceModel.backgrounds] at free
          simp only [objectAction, control, present, controllers]
          by_cases mine : target = controller
          · subst mine
            simp [Transition.run_single, DeviceModel.object, free, World.doHookWrite, DeviceModel.controllers]
          · simp [World.doHookWrite, DeviceModel.controllers, mine, Function.update_of_ne (Ne.symm mine)]
        | _ =>
          simp only [control] at taken
          have same := stepHandler_device taken (by simp) (by simp)
          simp only [objectAction, control, Option.toList, Transition.run_nil, same]
  | background target step =>
    simp only [live] at taken
    split at taken
    · cases taken
    · obtain ⟨world, stepped, rfl⟩ := Option.map_eq_some_iff.mp taken
      obtain ⟨ioSpace, entry, stepped⟩ := Option.bind_eq_some_iff.mp stepped
      obtain ⟨space, present, stepped⟩ := Option.bind_eq_some_iff.mp stepped
      obtain ⟨result, moved, stepped⟩ := Option.bind_eq_some_iff.mp stepped
      obtain ⟨own, ownMoved, rfl⟩ := Option.map_eq_some_iff.mp moved
      cases stepped
      by_cases mine : target = controller
      · subst mine
        simp [objectAction, entry, present, Transition.run_single, DeviceModel.object, ownMoved]
      · simp [objectAction, mine, Function.update_of_ne (Ne.symm mine)]

theorem live_performs (controllers : cfg.controllers = model.controllers) {action : LiveAction Step}
    {own : ObjectAction Step} (performs : s.objectAction controller action = some own)
    (taken : live cfg model.backgrounds s action = some s') :
    model.object (s.world.device controller) own = some (s'.world.device controller) := by
  have object : Transition.run model.object (s.world.device controller) (s.objectAction controller action).toList =
      some (s'.world.device controller) := live_object controllers taken
  rw [performs] at object
  exact (Transition.run_single model.object _ own).symm.trans object

theorem live_objectAction {step : Step} {background : Background Device Step} {cfg : Config Area Device}
    {s s' : Machine Area Device} (taken : live cfg background s (.background controller step) = some s') :
    ∃ file, s.objectAction controller (.background controller step) = some (.background step file) := by
  simp only [live] at taken
  split at taken
  · cases taken
  · obtain ⟨world, stepped, _⟩ := Option.map_eq_some_iff.mp taken
    obtain ⟨ioSpace, entry, stepped⟩ := Option.bind_eq_some_iff.mp stepped
    obtain ⟨space, present, _⟩ := Option.bind_eq_some_iff.mp stepped
    refine ⟨space.file s.world.memory, ?_⟩
    simp only [objectAction, if_true, entry, Option.bind_some, present, Option.map_some]

theorem objectAction_background {Device : Type} {s : Machine Area Device} {action : LiveAction Step} {step : Step}
    {file : Nat → Byte} (performs : s.objectAction controller action = some (.background step file)) :
    action = .background controller step := by
  cases action with
  | processor t report =>
    simp only [objectAction] at performs
    split at performs
    · split at performs
      · obtain ⟨_, _, same⟩ := Option.map_eq_some_iff.mp performs
        cases same
      · cases performs
    · split at performs
      · obtain ⟨_, _, same⟩ := Option.map_eq_some_iff.mp performs
        cases same
      · cases performs
    · cases performs
  | background target other =>
    simp only [objectAction] at performs
    split at performs
    · next mine =>
      obtain ⟨_, _, same⟩ := Option.map_eq_some_iff.mp performs
      cases same
      rw [mine]
    · cases performs

/-- Whatever programs and other controllers do, a controller goes through the states of its own object. -/
theorem live_performed (controllers : cfg.controllers = model.controllers) {actions : List (LiveAction Step)}
    (ran : Transition.run (live cfg model.backgrounds) s actions = some s') :
    Transition.run model.object (s.world.device controller) (s.performed cfg model.backgrounds controller actions) =
      some (s'.world.device controller) := by
  induction actions generalizing s with
  | nil =>
    cases ran
    rfl
  | cons action rest ih =>
    rw [Transition.run_cons] at ran
    obtain ⟨next, taken, ran⟩ := Option.bind_eq_some_iff.mp ran
    simp only [performed, taken, Option.map_some, Option.getD_some]
    rw [Transition.run_append, live_object controllers taken, Option.bind_some, ih ran]

theorem meets_performed (controllers : cfg.controllers = model.controllers) (guard : State → Prop)
    {actions : List (LiveAction Step)} (ran : Transition.run (live cfg model.backgrounds) s actions = some s')
    (meets : Transition.Meets (live cfg model.backgrounds) (fun m _ => guard (m.world.device controller)) s actions) :
    Transition.Meets model.object (fun state _ => guard state) (s.world.device controller)
      (s.performed cfg model.backgrounds controller actions) := by
  induction actions generalizing s with
  | nil => trivial
  | cons action rest ih =>
    obtain ⟨here, later⟩ := meets
    rw [Transition.run_cons] at ran
    obtain ⟨next, taken, ran⟩ := Option.bind_eq_some_iff.mp ran
    have object : Transition.run model.object (s.world.device controller) (s.objectAction controller action).toList =
        some (next.world.device controller) := live_object controllers taken
    simp only [performed, taken, Option.map_some, Option.getD_some]
    refine Transition.meets_append.mpr ⟨?_, fun reached first => ?_⟩
    · cases s.objectAction controller action with
      | none => trivial
      | some performed => exact ⟨here, fun _ _ => trivial⟩
    · rw [object] at first
      cases first
      exact ih ran (later next taken)

theorem performed_split {background : Background Device Step} {cfg : Config Area Device} {s s' : Machine Area Device}
    {actions : List (LiveAction Step)} {first rest : List (ObjectAction Step)} {own : ObjectAction Step}
    (ran : Transition.run (live cfg background) s actions = some s')
    (split : s.performed cfg background controller actions = first ++ own :: rest) :
    ∃ before action after m, actions = before ++ action :: after ∧ Transition.run (live cfg background) s before = some m ∧
      s.performed cfg background controller before = first ∧ m.objectAction controller action = some own := by
  induction actions generalizing s first with
  | nil => cases first <;> cases split
  | cons action after ih =>
    rw [Transition.run_cons] at ran
    obtain ⟨next, taken, ran⟩ := Option.bind_eq_some_iff.mp ran
    simp only [performed, taken, Option.map_some, Option.getD_some] at split
    cases performs : s.objectAction controller action with
    | none =>
      rw [performs] at split
      obtain ⟨before, last, others, m, rfl, reached, same, found⟩ := ih ran split
      refine ⟨action :: before, last, others, m, rfl, ?_, ?_, found⟩
      · rw [Transition.run_cons, taken, Option.bind_some, reached]
      · simp only [performed, taken, performs, Option.map_some, Option.getD_some, same, Option.toList, List.nil_append]
    | some done =>
      rw [performs] at split
      cases first with
      | nil =>
        cases split
        exact ⟨[], action, after, s, rfl, rfl, rfl, performs⟩
      | cons head tail =>
        obtain ⟨rfl, onwards⟩ := List.cons.inj split
        obtain ⟨before, last, others, m, rfl, reached, same, found⟩ := ih ran onwards
        refine ⟨action :: before, last, others, m, rfl, ?_, ?_, found⟩
        · rw [Transition.run_cons, taken, Option.bind_some, reached]
        · simp only [performed, taken, performs, Option.map_some, Option.getD_some, same, Option.toList, List.cons_append,
            List.nil_append]

end

end Machine

end ExMM
