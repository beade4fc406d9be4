import ExMM.Interrupts.Handlers
import ExMM.Machine.DeviceModel

namespace ExMM.Interrupts

variable {Device : Type} {cfg : Config Device}

theorem initialAreas_present {registry : Registry} {ioSpace : IoSpacePtr} {space : IoSpace}
    (present : registry.ioSpaces[ioSpace]? = some space) :
    State.initialAreas registry ioSpace = Posix.IoSpace.initializeArea space.hookTypes := by
  simp [State.initialAreas, present]

theorem denied_initial (accesses : Registered cfg) {access : Access} {found : Found} {space : IoSpace}
    (covers : cfg.registry.Covers access found) (present : cfg.registry.ioSpaces[found.ioSpace]? = some space) :
    denied cfg.registry (State.initialAreas cfg.registry) access =
      if (initialProtection space.hookTypes).allows access.kind then none else some access.address := by
  rw [denied_covered accesses.registered covers, initialAreas_present present,
    ← Posix.publicFlags_eq]
  rfl

theorem initialAreas_restored (registry : Registry) (ioSpace : IoSpacePtr) :
    Function.update (Function.update (State.initialAreas registry) ioSpace
        (State.initialAreas registry ioSpace).unprotect) ioSpace
      (Function.update (State.initialAreas registry) ioSpace
        (State.initialAreas registry ioSpace).unprotect ioSpace).restoreProtection =
      State.initialAreas registry := by
  rw [Function.update_self, Function.update_idem]
  funext other
  by_cases mine : other = ioSpace
  · subst mine
    rw [Function.update_self]
    rfl
  · rw [Function.update_of_ne mine]

theorem perform_plain (accesses : Registered cfg) {access : Access} {found : Found} {space : IoSpace}
    (covers : cfg.registry.Covers access found) (present : cfg.registry.ioSpaces[found.ioSpace]? = some space)
    (allowed : (initialProtection space.hookTypes).allows access.kind = true) (world : World Device) :
    perform cfg access world = some (World.access 0 (world, []) access) := by
  have found_eq := (accesses.registered.owner_some _ _).mpr covers.resolves
  have hookTypes := accesses.getHookTypes covers.1 present
  cases kind : access.kind with
  | load =>
    rw [kind, initialProtection_load] at allowed
    have reads : space.hookTypes.and .read = false := by simpa using allowed
    simp [perform, found_eq, present, hookTypes, kind, reads]
  | store =>
    rw [kind] at allowed
    simp [perform, found_eq, present, hookTypes, kind, and_write_of_allows_store allowed]

theorem perform_hooked (accesses : Registered cfg) {access : Access} {found : Found} {space : IoSpace}
    (covers : cfg.registry.Covers access found) (present : cfg.registry.ioSpaces[found.ioSpace]? = some space)
    (closed : (initialProtection space.hookTypes).allows access.kind = false) (world : World Device) :
    perform cfg access world =
      (violationHook cfg (State.initialAreas cfg.registry) found space (access.kind == .store) world).bind
        fun before => (traceHook cfg (Function.update (State.initialAreas cfg.registry) found.ioSpace
            (State.initialAreas cfg.registry found.ioSpace).unprotect) found space (access.kind == .store)
            (World.access 0 (before, []) access).1).map
          fun after => (after, (World.access 0 (before, []) access).2) := by
  have found_eq := (accesses.registered.owner_some _ _).mpr covers.resolves
  have hookTypes := accesses.getHookTypes covers.1 present
  cases kind : access.kind with
  | load =>
    rw [kind, initialProtection_load] at closed
    have reads : space.hookTypes.and .read = true := by simpa using closed
    simp [perform, found_eq, present, hookTypes, kind, reads, violationHook, traceHook, hookRead]
  | store =>
    cases writes : space.hookTypes.and .write with
    | true =>
      simp [perform, found_eq, present, hookTypes, kind, violationHook, traceHook, hookWrite, writes,
        Option.map_eq_bind]
    | false =>
      simp [perform, found_eq, present, hookTypes, kind, violationHook, traceHook, writes]

theorem Outer.outcome (accesses : Registered cfg) (outer : Outer Device) {access : Access}
    (issued : cfg.program outer.history = some access) :
    Outcome cfg outer.history (outer.rest cfg) ((perform cfg access outer.world).map fun result =>
      Outer.rest cfg { world := result.1, history := outer.history ++ [result.2] }) := by
  obtain ⟨found, covers⟩ := accesses.program issued
  obtain ⟨space, present, -⟩ := covers.2
  have check := denied_initial accesses covers present
  have starts : State.step cfg (outer.rest cfg) = some ((outer.rest cfg).issue cfg access
      fun loaded s => { s with history := s.history ++ [loaded] }) := by
    simp [State.step, Outer.rest, State.rest, issued]
  by_cases allowed : (initialProtection space.hookTypes).allows access.kind = true
  · rw [if_pos allowed] at check
    rw [State.issue_clear (outer.rest cfg) check rfl] at starts
    rw [perform_plain accesses covers present allowed]
    exact Outcome.next (Or.inl rfl) starts (Outcome.stay cfg _ _)
  · rw [if_neg allowed] at check
    rw [State.issue_denied (outer.rest cfg) check] at starts
    refine Outcome.next (Or.inl rfl) starts ?_
    rw [perform_hooked accesses covers present (by simpa using allowed), Option.map_bind]
    let handler : State Device :=
      { outer.rest cfg with
        context := { code := .sigreturn, trapFlag := false, blocked := [.sigsegv] }
        interrupted := [(outer.rest cfg).context] }
    have violated : Outcome cfg outer.history _ _ := AccessViolationHandler.outcome accesses handler rfl rfl
      List.mem_cons_self rfl covers.resolves present (access.kind == .store) outer.world
    refine Outcome.bind violated fun before => ?_
    let opened := Function.update (State.initialAreas cfg.registry) found.ioSpace
      (State.initialAreas cfg.registry found.ioSpace).unprotect
    let restarted := handler.back (outer.rest cfg).context [] true opened (record found (access.kind == .store))
      before
    let performed := World.access 0 (before, []) access
    let ended : State Device :=
      { restarted with world := performed.1, history := outer.history ++ [performed.2] }
    have clear : denied cfg.registry restarted.areas access = none :=
      denied_opened accesses.registered covers (State.initialAreas cfg.registry)
    have restarts : State.step cfg restarted = some (ended.raise .sigtrap .getBreakPoint) := by
      have issues : State.step cfg restarted = some (restarted.issue cfg access
          fun loaded s => { s with history := s.history ++ [loaded] }) := by
        simp [State.step, restarted, handler, State.back, Outer.rest, State.rest, issued]
      rw [State.issue_traced restarted clear rfl] at issues
      exact issues
    refine Outcome.next (Or.inl rfl) restarts ?_
    let tracer : State Device :=
      { ended with
        context := { code := .sigreturn, trapFlag := false, blocked := [.sigtrap] }
        interrupted := [ended.context] }
    have traced : Outcome cfg outer.history _ _ := TracePointHandler.outcome accesses tracer rfl rfl
      (by simp [tracer]) (by simp [tracer]) rfl rfl present performed.1
    rw [Function.comp_apply, Option.map_map]
    refine Outcome.map traced fun after => ?_
    have rests : tracer.back ended.context [] false
        (Function.update tracer.areas found.ioSpace (tracer.areas found.ioSpace).restoreProtection) (.fresh ())
          after = Outer.rest cfg { world := after, history := outer.history ++ [performed.2] } := by
      simp only [tracer, ended, restarted, opened, State.back, initialAreas_restored]
      rfl
    rw [rests]
    exact Outcome.stay cfg _ _

theorem Outer.step_some {outer next : Outer Device} (stepped : outer.step cfg = some next) :
    ∃ access, cfg.program outer.history = some access ∧
      ∃ result, perform cfg access outer.world = some result ∧
        next = { world := result.1, history := outer.history ++ [result.2] } := by
  simp only [Outer.step, Option.bind_eq_bind, Option.bind_eq_some_iff, Option.some.injEq] at stepped
  obtain ⟨access, issued, result, performed, rfl⟩ := stepped
  exact ⟨access, issued, result, performed, rfl⟩

theorem Outer.step_next (accesses : Registered cfg) {outer next : Outer Device}
    (stepped : outer.step cfg = some next) :
    StateTransition.Reaches₁ (State.step cfg) (outer.rest cfg) (next.rest cfg) := by
  obtain ⟨access, issued, result, performed, rfl⟩ := Outer.step_some stepped
  have reached := outer.outcome accesses issued
  rw [performed] at reached
  rcases Relation.reflTransGen_iff_eq_or_transGen.mp (Leads.reaches reached) with same | later
  · have lengths := congrArg (fun s => s.history.length) same
    simp [Outer.rest, State.rest] at lengths
  · exact later

structure Outer.Dies (cfg : Config Device) (outer : Outer Device) (last dead : State Device) : Prop where
  leads : Leads cfg outer.history (outer.rest cfg) last
  underWay : last.UnderWay outer.history
  killed : KilledBlocked cfg last dead

theorem Outer.fatal_dies (accesses : Registered cfg) {outer : Outer Device} (fatal : outer.Fatal cfg) :
    ∃ last dead, outer.Dies cfg last dead := by
  obtain ⟨access, issued, denied⟩ := fatal
  have reached := outer.outcome accesses issued
  rw [denied] at reached
  obtain ⟨last, dead, leads, underWay, killed⟩ := reached
  exact ⟨last, dead, leads, underWay, killed⟩

inductive Expected (cfg : Config Device) (outer : Outer Device) (s : State Device) : Prop
  | ended (finished : cfg.program outer.history = none) (rests : s = outer.rest cfg)
  | dies (fatal : outer.Fatal cfg) (last dead : State Device) (dies : outer.Dies cfg last dead)
      (later : Leads cfg outer.history s last)
  | died (fatal : outer.Fatal cfg) (last : State Device) (dies : outer.Dies cfg last s)
  | completes (next : Outer Device) (stepped : outer.step cfg = some next)
      (later : StateTransition.Reaches₁ (State.step cfg) s (next.rest cfg))

theorem Expected.start (accesses : Registered cfg) (outer : Outer Device) :
    Expected cfg outer (outer.rest cfg) := by
  cases issued : cfg.program outer.history with
  | none => exact .ended issued rfl
  | some access =>
    cases performed : perform cfg access outer.world with
    | none =>
      have fatal : outer.Fatal cfg := ⟨access, issued, performed⟩
      obtain ⟨last, dead, dies⟩ := Outer.fatal_dies accesses fatal
      exact .dies fatal last dead dies dies.leads
    | some result =>
      have stepped : outer.step cfg = some { world := result.1, history := outer.history ++ [result.2] } := by
        simp [Outer.step, issued, performed]
      exact .completes _ stepped (Outer.step_next accesses stepped)

theorem State.step_killed {s : State Device} (killed : s.process = .killed) : State.step cfg s = none := by
  simp [step, killed]

/-- A run of the process: the accesses completed so far, and the one under way. -/
def Traced (cfg : Config Device) (world : World Device) (s : State Device) : Prop :=
  ∃ outer, StateTransition.Reaches (Outer.step cfg) { world, history := [] } outer ∧
    StateTransition.Reaches (State.step cfg) (outer.rest cfg) s ∧ Expected cfg outer s

theorem Traced.step (accesses : Registered cfg) {world : World Device} {s s' : State Device}
    (traced : Traced cfg world s) (taken : State.step cfg s = some s') : Traced cfg world s' := by
  obtain ⟨outer, before, since, expected⟩ := traced
  have since' : StateTransition.Reaches (State.step cfg) (outer.rest cfg) s' := since.tail taken
  cases expected with
  | ended finished rests =>
    subst rests
    simp [State.step, Outer.rest, State.rest, finished] at taken
  | dies fatal last dead dies later =>
    rcases Relation.ReflTransGen.cases_head later with here | ⟨middle, ⟨-, first⟩, rest⟩
    · subst here
      have same : dead = s' := Option.mem_unique dies.killed.taken taken
      subst same
      exact ⟨outer, before, since', .died fatal s dies⟩
    · have same : middle = s' := Option.mem_unique first taken
      subst same
      exact ⟨outer, before, since', .dies fatal last dead dies rest⟩
  | died fatal last dies =>
    rw [State.step_killed dies.killed.killed] at taken
    cases taken
  | completes next stepped later =>
    have reaches : StateTransition.Reaches (State.step cfg) s' (next.rest cfg) :=
      StateTransition.reaches₁_fwd later taken
    rcases Relation.reflTransGen_iff_eq_or_transGen.mp reaches with here | later'
    · rw [← here]
      exact ⟨next, before.tail stepped, Relation.ReflTransGen.refl, Expected.start accesses next⟩
    · exact ⟨outer, before, since', .completes next stepped later'⟩

theorem Traced.run (accesses : Registered cfg) {world : World Device} {s : State Device}
    (ran : StateTransition.Reaches (State.step cfg) (State.rest cfg world []) s) : Traced cfg world s := by
  induction ran with
  | refl => exact ⟨{ world, history := [] }, .refl, .refl, Expected.start accesses _⟩
  | tail _ taken ih => exact ih.step accesses taken

/-- Whatever the routines of the hooks access: the accesses of the program are completed one by one, as
    `perform` says, and in the first one of them that is fatal a blocked signal kills the process. -/
theorem routines_direct_or_fatal (cfg : Config Device) (accesses : Registered cfg) (world : World Device)
    (s : State Device) (ran : StateTransition.Reaches (State.step cfg) (State.rest cfg world []) s) :
    ∃ outer, StateTransition.Reaches (Outer.step cfg) { world, history := [] } outer ∧
      StateTransition.Reaches (State.step cfg) (outer.rest cfg) s ∧
      ((cfg.program outer.history = none ∧ s = outer.rest cfg) ∨
        (outer.Fatal cfg ∧ ∃ last dead, outer.Dies cfg last dead ∧
          (Leads cfg outer.history s last ∨ s = dead)) ∨
        ∃ next, outer.step cfg = some next ∧ s.process ≠ .killed ∧
          StateTransition.Reaches (State.step cfg) s (next.rest cfg)) := by
  obtain ⟨outer, before, since, expected⟩ := Traced.run accesses ran
  refine ⟨outer, before, since, ?_⟩
  cases expected with
  | ended finished rests => exact Or.inl ⟨finished, rests⟩
  | dies fatal last dead dies later => exact Or.inr (Or.inl ⟨fatal, last, dead, dies, Or.inl later⟩)
  | died fatal last dies => exact Or.inr (Or.inl ⟨fatal, last, s, dies, Or.inr rfl⟩)
  | completes next stepped later =>
    refine Or.inr (Or.inr ⟨next, stepped, fun killed => ?_, later.to_reflTransGen⟩)
    obtain ⟨after, taken, -⟩ := Relation.TransGen.head'_iff.mp later
    rw [Option.mem_def, State.step_killed killed] at taken
    cases taken

theorem reaches_of_run {s final : State Device} {actions : List Unit}
    (ran : Transition.run (fun s (_ : Unit) => State.step cfg s) s actions = some final) :
    StateTransition.Reaches (State.step cfg) s final := by
  induction actions generalizing s with
  | nil =>
    cases ran
    exact .refl
  | cons action rest ih =>
    rw [Transition.run_cons] at ran
    obtain ⟨next, taken, ran⟩ := Option.bind_eq_some_iff.mp ran
    exact Relation.ReflTransGen.head taken (ih ran)

def readingRoutine : Config Nat where
  registry := Registry.after solo
  controllers := fun _ =>
    { getHookTypes := .readWrite
      interrupts := fun vector => if vector = 0 then some (.load 0x10000 1 fun _ => .done) else none
      hookRead := fun _ => .triggerInterrupt 0 .done
      hookWrite := fun _ => .triggerInterrupt 0 .done }
  program
    | [] => some (.store 0x10004 1 fun _ _ => 0)
    | [_] => some (.load 0x10000 1)
    | _ => none

theorem registered_readingRoutine : Registered readingRoutine := by
  obtain ⟨represents, formed⟩ := Registry.represents_after solo solo_promised
  have first : ∃ found, (Registry.after solo).Covers (.load 0x10000 1) found :=
    ⟨⟨8, 100, 0⟩, by decide, ⟨.readWrite, 64, 0x10000, 0x50000⟩, by decide, Nat.one_pos,
      (by decide : 0x10000 ≤ 0x10000), (by decide : 0x10000 + 1 ≤ 0x10000 + 64),
      (by decide : 0 = 0x10000 - 0x10000)⟩
  refine ⟨represents.wellFormed formed, ?_, ?_, ?_⟩
  · intro controller ioSpace space entry present
    have agree : ∀ entry ∈ LiveController.after solo,
        (readingRoutine.controllers entry.controller).getHookTypes = entry.space.hookTypes := by decide
    exact represents.of_live formed agree entry present
  · intro history access issued
    match history with
    | [] =>
      cases issued
      exact ⟨⟨8, 100, 4⟩, by decide, ⟨.readWrite, 64, 0x10000, 0x50000⟩, by decide, Nat.one_pos,
        (by decide : 0x10000 ≤ 0x10004), (by decide : 0x10004 + 1 ≤ 0x10000 + 64),
        (by decide : 4 = 0x10004 - 0x10000)⟩
    | [_] =>
      cases issued
      exact first
    | _ :: _ :: _ => cases issued
  · intro controller vector routine connected
    simp only [readingRoutine] at connected
    split at connected
    · cases connected
      exact ⟨first, fun _ => trivial⟩
    · cases connected

/-- The routine of the `HookWrite` loads without a `HookRead`; the one of the `HookRead` kills the process. -/
theorem readingRoutine_killed : ∃ s,
    Transition.run (fun s (_ : Unit) => State.step readingRoutine s) (State.rest readingRoutine zeroWorld [])
      (List.replicate 20 ()) = some s ∧
    s.process = .killed ∧
    s.world.trace = [.store 0 0x10004 [0], .hookWrite 0 8 4, .load 0 0x10000 [0], .hookRead 0 8 0] := by
  have enabled : (Transition.run (fun s (_ : Unit) => State.step readingRoutine s)
      (State.rest readingRoutine zeroWorld []) (List.replicate 20 ())).map
        (fun s => (s.process, s.world.trace)) =
      some (.killed, [.store 0 0x10004 [0], .hookWrite 0 8 4, .load 0 0x10000 [0], .hookRead 0 8 0]) := by
    decide
  obtain ⟨s, ran, result⟩ := Option.map_eq_some_iff.mp enabled
  exact ⟨s, ran, congrArg Prod.fst result, congrArg Prod.snd result⟩

theorem readingRoutine_fatal : ∃ outer,
    StateTransition.Reaches (Outer.step readingRoutine) { world := zeroWorld, history := [] } outer ∧
      outer.Fatal readingRoutine ∧ ∃ last dead, outer.Dies readingRoutine last dead := by
  have enabled : (Transition.run (fun s (_ : Unit) => State.step readingRoutine s)
      (State.rest readingRoutine zeroWorld []) (List.replicate 20 ())).map State.process = some .killed := by
    decide
  obtain ⟨s, ran, killed⟩ := Option.map_eq_some_iff.mp enabled
  obtain ⟨outer, before, -, ⟨-, rests⟩ | ⟨fatal, last, dead, dies, -⟩ | ⟨next, -, alive, -⟩⟩ := routines_direct_or_fatal readingRoutine
    registered_readingRoutine zeroWorld s (reaches_of_run ran)
  · rw [rests] at killed
    cases killed
  · exact ⟨outer, before, fatal, last, dead, dies⟩
  · exact absurd killed alive

end ExMM.Interrupts
