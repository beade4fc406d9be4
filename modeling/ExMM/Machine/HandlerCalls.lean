import ExMM.IoSpace.Calls
import ExMM.Machine.Protections

namespace ExMM

variable {Area Device : Type}

def Machine.callsOn (s : Machine Area Device) (ioSpace : IoSpacePtr) : List (ThreadId × ProtectionCall) :=
  s.calls.filterMap fun entry => if entry.2.1 = ioSpace then some (entry.1, entry.2.2) else none

theorem handlerCalls_concat (calls : List ProtectionCall) (call : ProtectionCall) :
    HandlerCalls (calls ++ [call]) ↔
      HandlerCalls calls ∧ (call = .restoreProtection → calls.getLast? = some .unprotect) := by
  have chain : (calls ++ [call]).IsChain (fun first second => first = .restoreProtection → second = .unprotect) ↔
      calls.IsChain (fun first second => first = .restoreProtection → second = .unprotect) ∧
        (calls.getLast? = some .restoreProtection → call = .unprotect) := by
    simp only [List.isChain_append, List.isChain_singleton, List.head?_cons, true_and]
    constructor
    · rintro ⟨before, joint⟩
      exact ⟨before, fun last => joint _ last call rfl rfl⟩
    · rintro ⟨before, joint⟩
      refine ⟨before, ?_⟩
      rintro last member _ ⟨⟩ rfl
      exact joint member
  rcases List.eq_nil_or_concat calls with rfl | ⟨earlier, last, rfl⟩
  · constructor
    · rintro ⟨first, -⟩
      exact ⟨⟨by simp, .nil⟩, fun restores => absurd (congrArg some restores) first⟩
    · rintro ⟨-, opened⟩
      refine ⟨fun restores => ?_, .singleton _⟩
      cases opened (Option.some.inj restores)
  · rw [List.concat_eq_append] at chain ⊢
    have head : (earlier ++ [last] ++ [call]).head? = (earlier ++ [last]).head? := by
      rw [List.head?_append_of_ne_nil _ (by simp)]
    have turns : ((earlier ++ [last]).getLast? = some .restoreProtection → call = .unprotect) ↔
        (call = .restoreProtection → (earlier ++ [last]).getLast? = some .unprotect) := by
      cases last <;> cases call <;> simp
    constructor
    · rintro ⟨first, restored⟩
      obtain ⟨before, joint⟩ := chain.mp restored
      exact ⟨⟨head ▸ first, before⟩, turns.mp joint⟩
    · rintro ⟨⟨first, restored⟩, joint⟩
      exact ⟨head ▸ first, chain.mpr ⟨restored, turns.mpr joint⟩⟩

theorem callsOf_concat (t u : ThreadId) (calls : List (ThreadId × ProtectionCall)) (call : ProtectionCall) :
    callsOf t (calls ++ [(u, call)]) = if u = t then callsOf t calls ++ [call] else callsOf t calls := by
  by_cases mine : u = t
  · simp [callsOf, mine]
  · simp [callsOf, mine]

section

variable {cfg : Config Area Device} {law : cfg.platform.Law} {registry : Registry} {origin : Origin}
  {world : World Device} {s s' : Machine Area Device} {t : ThreadId}

theorem Machine.callsOn_concat {u : ThreadId} {ioSpace : IoSpacePtr} {call : ProtectionCall}
    (calls : s'.calls = s.calls ++ [(u, ioSpace, call)]) (other : IoSpacePtr) :
    s'.callsOn other = if ioSpace = other then s.callsOn other ++ [(u, call)] else s.callsOn other := by
  by_cases mine : ioSpace = other
  · simp [callsOn, calls, mine]
  · simp [callsOn, calls, mine]

structure Accounted (cfg : Config Area Device) (registry : Registry) (s : Machine Area Device) : Prop where
  areas : ∀ (ioSpace : IoSpacePtr) (space : IoSpace), registry.ioSpaces[ioSpace]? = some space →
    cfg.platform.after space.hookTypes ((s.callsOn ioSpace).map Prod.snd) = some (s.areas ioSpace)
  interleaved : ∀ ioSpace, Interleaved (s.callsOn ioSpace)
  held : ∀ t ioSpace, (s.threads t).Holds ioSpace →
    (callsOf t (s.callsOn ioSpace)).getLast? = some .unprotect

theorem Accounted.frame (accounted : Accounted cfg registry s) (areas : s'.areas = s.areas)
    (calls : s'.calls = s.calls) (others : ∀ u, u ≠ t → s'.threads u = s.threads u)
    (own : ∀ ioSpace, (s'.threads t).Holds ioSpace → (s.threads t).Holds ioSpace) : Accounted cfg registry s' := by
  have same : ∀ ioSpace, s'.callsOn ioSpace = s.callsOn ioSpace := by
    intro ioSpace
    rw [Machine.callsOn, Machine.callsOn, calls]
  refine ⟨?_, ?_, ?_⟩
  · intro ioSpace space live
    rw [same, areas]
    exact accounted.areas ioSpace space live
  · intro ioSpace
    rw [same]
    exact accounted.interleaved ioSpace
  · intro u ioSpace holds
    rw [same]
    by_cases mine : u = t
    · subst mine
      exact accounted.held u ioSpace (own ioSpace holds)
    · rw [others u mine] at holds
      exact accounted.held u ioSpace holds

theorem Accounted.call (accounted : Accounted cfg registry s) {ioSpace : IoSpacePtr} {call : ProtectionCall}
    {area : Area} (changed : cfg.platform.call (s.areas ioSpace) call = some area)
    (areas : s'.areas = Function.update s.areas ioSpace area)
    (calls : s'.calls = s.calls ++ [(t, ioSpace, call)])
    (others : ∀ u, u ≠ t → s'.threads u = s.threads u)
    (known : call = .restoreProtection → (s.threads t).Holds ioSpace)
    (own : ∀ other, (s'.threads t).Holds other →
      if ioSpace = other then call = .unprotect else (s.threads t).Holds other) : Accounted cfg registry s' := by
  refine ⟨?_, ?_, ?_⟩
  · intro other space live
    have before := accounted.areas other space live
    rw [Machine.callsOn_concat calls, areas]
    by_cases mine : ioSpace = other
    · subst mine
      rw [if_pos rfl, List.map_append, Function.update_self]
      exact (Platform.after_concat _ _ _ _).trans (by rw [before]; exact changed)
    · rw [if_neg mine, Function.update_of_ne (Ne.symm mine)]
      exact before
  · intro other u
    have before := accounted.interleaved other u
    rw [Machine.callsOn_concat calls]
    by_cases mine : ioSpace = other
    · subst mine
      rw [if_pos rfl, callsOf_concat]
      by_cases acting : t = u
      · subst acting
        rw [if_pos rfl, handlerCalls_concat]
        exact ⟨before, fun restores => accounted.held t ioSpace (known restores)⟩
      · rw [if_neg acting]
        exact before
    · rw [if_neg mine]
      exact before
  · intro u other holds
    rw [Machine.callsOn_concat calls]
    by_cases acting : u = t
    · subst acting
      have later := own other holds
      by_cases mine : ioSpace = other
      · rw [if_pos mine] at later
        simp [mine, callsOf_concat, later]
      · rw [if_neg mine] at later
        rw [if_neg mine]
        exact accounted.held u other later
    · rw [others u acting] at holds
      have before := accounted.held u other holds
      by_cases mine : ioSpace = other
      · simp [mine, callsOf_concat, Ne.symm acting, before]
      · rw [if_neg mine]
        exact before

theorem Accounted.step (accounted : Accounted cfg registry s)
    (effect : Effect cfg registry origin s t (s.threads t).control s') : Accounted cfg registry s' := by
  generalize control : (s.threads t).control = statement at effect
  cases effect with
  | executed instruction settled next clear =>
    refine accounted.frame rfl rfl (fun u other => Machine.execute_other s _ other) fun ioSpace => ?_
    rw [Machine.execute_self]
    cases flag : (s.threads t).trapFlag <;> simp [Thread.Holds, control]
  | faulted instruction access a write found settled next denied resolves raised =>
    refine accounted.frame rfl rfl (fun u other => Machine.setThread_other s _ other) fun ioSpace => ?_
    simp [Thread.Holds, control]
  | resolved a write found settled resolves raised =>
    refine accounted.frame rfl rfl (fun u other => Machine.goto_other s _ other) fun ioSpace => ?_
    cases write <;> simp [Thread.Holds, control]
  | hookedRead found space settled raised present =>
    refine accounted.frame rfl rfl (fun u other => Machine.goto_other s _ other) fun ioSpace => ?_
    simp [Thread.Holds, control]
  | unprotected found write space area settled raised present changed =>
    have called : cfg.platform.call (s.areas found.ioSpace) .unprotect = some area := changed
    refine accounted.call called rfl rfl (fun u other => Machine.goto_other s _ other) (by simp)
      fun ioSpace holds => ?_
    simp only [Thread.Holds, Machine.goto_self, control] at holds ⊢
    by_cases mine : found.ioSpace = ioSpace
    · simp [mine]
    · simpa [mine] using holds
  | installed found write settled raised =>
    refine accounted.frame rfl rfl (fun u other => Machine.setThread_other s _ other) fun ioSpace holds => ?_
    have same : found.ioSpace = ioSpace := by simpa [Thread.Holds] using holds
    simp [Thread.Holds, control, same]
  | trapped found write raised recorded =>
    refine accounted.frame rfl rfl (fun u other => Machine.goto_other s _ other) fun ioSpace => ?_
    rcases afterTrap_cases cfg found write with next | next <;> simp [Thread.Holds, control, next]
  | hookedWrite found space raised recorded hooked present =>
    refine accounted.frame rfl rfl (fun u other => Machine.goto_other s _ other) fun ioSpace => ?_
    simp [Thread.Holds, control]
  | uninstalled found write raised recorded =>
    refine accounted.frame rfl rfl (fun u other => Machine.setThread_other s _ other) fun ioSpace => ?_
    simp [Thread.Holds, control, recorded.breakPoint]
  | restored found write space area raised idle present changed =>
    have called : cfg.platform.call (s.areas found.ioSpace) .restoreProtection = some area := changed
    refine accounted.call called rfl rfl (fun u other => Machine.goto_other s _ other)
      (by simp [Thread.Holds, control]) fun ioSpace holds => ?_
    simp [Thread.Holds, idle.breakPoint, BreakPointData.fresh] at holds

theorem Accounted.boot (cfg : Config Area Device) (registry : Registry) (world : World Device) :
    Accounted cfg registry (Machine.boot cfg registry world) where
  areas := by
    intro ioSpace space live
    simp [Machine.callsOn, Machine.boot, Platform.after, live]
  interleaved := fun ioSpace u => ⟨by simp [callsOf, Machine.callsOn, Machine.boot], .nil⟩
  held := by
    intro u ioSpace holds
    simp [Thread.Holds, Machine.boot, Thread.start, BreakPointData.fresh] at holds

/-- In every run of any threads the calls on an area interleave what single handlers do, and the area is
    what they have made of it. -/
theorem Scenario.calls_interleaved (scenario : Scenario cfg law registry origin)
    {actions : List (ThreadId × Report)}
    (ran : Transition.run (Machine.step cfg) (Machine.boot cfg registry world) actions = some s)
    (ioSpace : IoSpacePtr) :
    Interleaved (s.callsOn ioSpace) ∧
      ∀ space, registry.ioSpaces[ioSpace]? = some space →
        cfg.platform.after space.hookTypes ((s.callsOn ioSpace).map Prod.snd) = some (s.areas ioSpace) := by
  have accounted := (scenario.run_keeps (fun _ _ => True) (Accounted cfg registry)
    (fun m t report m' _ accounted _ effect => accounted.step effect)
    (Accounted.boot cfg registry world) (Transition.meets_true _ _ _) ran).2
  exact ⟨accounted.interleaved ioSpace, fun space live => accounted.areas ioSpace space live⟩

end

end ExMM
