import ExMM.Machine.SingleAccess

namespace ExMM

variable {Area Device : Type}

def AreasAt {platform : Platform Area} (law : platform.Law) (registry : Registry)
    (areas : IoSpacePtr → Area) (openAt : Option IoSpacePtr) : Prop :=
  ∀ (ioSpace : IoSpacePtr) (space : IoSpace), registry.ioSpaces[ioSpace]? = some space →
    if openAt = some ioSpace then law.opened space.hookTypes (areas ioSpace)
    else law.closed space.hookTypes (areas ioSpace)

section

variable {platform : Platform Area} {law : platform.Law} {registry : Registry}
  {areas : IoSpacePtr → Area} {ioSpace : IoSpacePtr} {space : IoSpace} {area : Area}

theorem AreasAt.closed (rest : AreasAt law registry areas none)
    (present : registry.ioSpaces[ioSpace]? = some space) :
    law.closed space.hookTypes (areas ioSpace) := by
  simpa using rest ioSpace space present

theorem AreasAt.opened (rest : AreasAt law registry areas (some ioSpace))
    (present : registry.ioSpaces[ioSpace]? = some space) :
    law.opened space.hookTypes (areas ioSpace) := by
  simpa using rest ioSpace space present

theorem AreasAt.unprotect (rest : AreasAt law registry areas none)
    (present : registry.ioSpaces[ioSpace]? = some space)
    (changed : platform.unprotect (areas ioSpace) = some area) :
    AreasAt law registry (Function.update areas ioSpace area) (some ioSpace) := by
  intro other otherSpace live
  by_cases mine : other = ioSpace
  · subst mine
    rw [present] at live
    cases live
    obtain ⟨next, same, opened⟩ := law.unprotect_closed (rest.closed present)
    rw [changed] at same
    cases same
    simpa using opened
  · have elsewhere : some ioSpace ≠ some other := fun h => mine (Option.some.inj h).symm
    rw [if_neg elsewhere, Function.update_of_ne mine]
    exact rest.closed live

theorem AreasAt.restore (rest : AreasAt law registry areas (some ioSpace))
    (present : registry.ioSpaces[ioSpace]? = some space)
    (changed : platform.restoreProtection (areas ioSpace) = some area) :
    AreasAt law registry (Function.update areas ioSpace area) none := by
  intro other otherSpace live
  rw [if_neg (by simp)]
  by_cases mine : other = ioSpace
  · subst mine
    rw [present] at live
    cases live
    obtain ⟨next, same, closed⟩ := law.restore_opened (rest.opened present)
    rw [changed] at same
    cases same
    simpa using closed
  · have elsewhere : some ioSpace ≠ some other := fun h => mine (Option.some.inj h).symm
    have kept := rest other otherSpace live
    rw [if_neg elsewhere] at kept
    rw [Function.update_of_ne mine]
    exact kept

end

def Machine.rank (s : Machine Area Device) (t : ThreadId) : Nat :=
  match (s.threads t).control with
  | .restoreProtection _ => 1
  | .uninstallBreakPoint _ => 2
  | .doHookWrite _ _ _ => 3
  | .getBreakPoint => 4
  | .user => if (s.threads t).breakPoint.active then 5 else 10
  | .installBreakPoint _ _ => 6
  | .unprotect _ _ => 7
  | .doHookRead _ => 8
  | .findController _ _ => 9

/-- The simulation relation of thread 0, one case for each statement: until the instruction has executed
    the reference machine is before it, afterwards it has already completed it. -/
inductive Follows (cfg : Config Area Device) (law : cfg.platform.Law) (registry : Registry)
    (r : Reference Device) (s : Machine Area Device) : Control → Prop
  | resting (idle : (s.threads 0).Idle) (faults : (s.threads 0).faults = 0)
      (world : s.world = r.world) (areas : AreasAt law registry s.areas none) : Follows cfg law registry r s .user
  | faulted (a : Nat) (write : Bool) (idle : (s.threads 0).Idle) (faults : 0 < (s.threads 0).faults)
      (world : s.world = r.world) (areas : AreasAt law registry s.areas none) :
      Follows cfg law registry r s (.findController a write)
  | hooking (found : Found) (idle : (s.threads 0).Idle) (faults : 0 < (s.threads 0).faults)
      (world : s.world = r.world) (areas : AreasAt law registry s.areas none) :
      Follows cfg law registry r s (.doHookRead found)
  | hooked (found : Found) (write : Bool) (idle : (s.threads 0).Idle) (faults : 0 < (s.threads 0).faults)
      (world : s.world = afterFault cfg.controllers registry 0 found write r.world)
      (areas : AreasAt law registry s.areas none) : Follows cfg law registry r s (.unprotect found write)
  | opened (found : Found) (write : Bool) (idle : (s.threads 0).Idle) (faults : 0 < (s.threads 0).faults)
      (world : s.world = afterFault cfg.controllers registry 0 found write r.world)
      (areas : AreasAt law registry s.areas (some found.ioSpace)) :
      Follows cfg law registry r s (.installBreakPoint found write)
  | pending (found : Found) (write : Bool) (recorded : (s.threads 0).Recorded found write)
      (raised : singleOrigin cfg.program registry 0 (s.threads 0).history found write)
      (faults : 0 < (s.threads 0).faults) (world : s.world = afterFault cfg.controllers registry 0 found write r.world)
      (areas : AreasAt law registry s.areas (some found.ioSpace)) : Follows cfg law registry r s .user
  | trapped (found : Found) (write : Bool) (recorded : (s.threads 0).Recorded found write)
      (raised : singleOrigin cfg.program registry 0 (s.threads 0).history.dropLast found write)
      (faults : (s.threads 0).faults = 0) (world : r.world = afterHook cfg.controllers registry 0 found write s.world)
      (areas : AreasAt law registry s.areas (some found.ioSpace)) :
      Follows cfg law registry r s .getBreakPoint
  | hookingWrite (found : Found) (faults : (s.threads 0).faults = 0)
      (world : r.world = Reference.writeHook cfg.controllers registry 0 found s.world)
      (areas : AreasAt law registry s.areas (some found.ioSpace)) :
      Follows cfg law registry r s (.doHookWrite found.ioSpace found.controller found.offset)
  | uninstalling (ioSpace : IoSpacePtr) (faults : (s.threads 0).faults = 0) (world : s.world = r.world)
      (areas : AreasAt law registry s.areas (some ioSpace)) :
      Follows cfg law registry r s (.uninstallBreakPoint ioSpace)
  | restoring (ioSpace : IoSpacePtr) (faults : (s.threads 0).faults = 0) (world : s.world = r.world)
      (areas : AreasAt law registry s.areas (some ioSpace)) :
      Follows cfg law registry r s (.restoreProtection ioSpace)

inductive Advance (cfg : Config Area Device) (law : cfg.platform.Law) (registry : Registry)
    (r : Reference Device) (s s' : Machine Area Device) : Prop
  | before (follows : Follows cfg law registry r s' (s'.threads 0).control)
      (history : (s'.threads 0).history = (s.threads 0).history)
      (pending : 4 < s'.rank 0) (less : s'.rank 0 < s.rank 0)
  | after (follows : Follows cfg law registry r s' (s'.threads 0).control)
      (history : (s'.threads 0).history = (s.threads 0).history) (executed : s.rank 0 ≤ 4)
      (less : s'.Between 0 ∨ s'.rank 0 < s.rank 0)
  | perform (next : Reference Device)
      (stepped : Reference.step cfg.controllers cfg.program registry r 0 = some next)
      (follows : Follows cfg law registry next s' (s'.threads 0).control)
      (history : (s'.threads 0).history = next.history 0) (pending : 4 < s.rank 0)
      (less : s'.Between 0 ∨ s'.rank 0 ≤ 4)

section

variable {cfg : Config Area Device} {law : cfg.platform.Law} {registry : Registry}
  {r : Reference Device} {s s' : Machine Area Device}

theorem Advance.execute_resting (single : SingleAccess cfg.controllers cfg.program registry)
    (same : s.registry = registry) (control : (s.threads 0).control = .user)
    (idle : (s.threads 0).Idle) (world : s.world = r.world) (history : (s.threads 0).history = r.history 0)
    (areas : AreasAt law registry s.areas none) {instruction : Instruction}
    (next : cfg.program 0 (s.threads 0).history = some instruction)
    (clear : Machine.faulting cfg s instruction = []) :
    Advance cfg law registry r s (s.execute 0 instruction) := by
  have plain : instruction.foldl (Reference.access cfg.controllers registry 0) (r.world, []) =
      s.world.perform 0 instruction := by
    rw [World.perform, world]
    rcases single.instructions next with rfl | ⟨access, found, rfl, covers⟩
    · rfl
    · obtain ⟨space, present, -⟩ := covers.2
      have registered : s.registry.WellFormed := same ▸ single.registered
      have coversHere : s.registry.Covers access found := same ▸ covers
      rw [Machine.faulting_covered registered coversHere,
        law.protection_closed (areas.closed present)] at clear
      have allowed : (initialProtection space.hookTypes).allows access.kind = true := by
        by_contra denied
        simp [denied] at clear
      simp only [List.foldl_cons, List.foldl_nil,
        single.reference_plain covers present allowed]
  have after : ((s.execute 0 instruction).threads 0).control = .user := by
    simp [idle.trapFlag]
  refine .perform { world := (s.world.perform 0 instruction).1
                    history := Function.update r.history 0
                      (r.history 0 ++ [(s.world.perform 0 instruction).2]) } ?_ ?_ ?_ ?_ ?_
  · simp only [Reference.step, ← history, next, Option.map_some, plain]
  · rw [after]
    refine .resting ⟨?_, ?_⟩ (by simp) rfl areas
    · simpa using idle.breakPoint
    · simpa using idle.trapFlag
  · simp [history]
  · simp [Machine.rank, control, idle.breakPoint, BreakPointData.fresh]
  · exact Or.inl ⟨after, by simp⟩

theorem Advance.execute_pending (single : SingleAccess cfg.controllers cfg.program registry)
    (control : (s.threads 0).control = .user) {found : Found} {write : Bool}
    (recorded : (s.threads 0).Recorded found write)
    (raised : singleOrigin cfg.program registry 0 (s.threads 0).history found write)
    (world : s.world = afterFault cfg.controllers registry 0 found write r.world)
    (history : (s.threads 0).history = r.history 0)
    (areas : AreasAt law registry s.areas (some found.ioSpace)) {instruction : Instruction}
    (next : cfg.program 0 (s.threads 0).history = some instruction) :
    Advance cfg law registry r s (s.execute 0 instruction) := by
  have raised' := raised
  obtain ⟨access, space, issued, covers, present, denied, kind⟩ := raised
  rw [issued, Option.some.injEq] at next
  subst next
  have performed : [access].foldl (Reference.access cfg.controllers registry 0) (r.world, []) =
      (afterHook cfg.controllers registry 0 found write (s.world.perform 0 [access]).1,
        (s.world.perform 0 [access]).2) := by
    simp only [World.perform, List.foldl_cons, List.foldl_nil, world,
      single.reference_hooked covers present denied kind]
  have after : ((s.execute 0 [access]).threads 0).control = .getBreakPoint := by
    simp [recorded.trapFlag]
  refine .perform { world := afterHook cfg.controllers registry 0 found write (s.world.perform 0 [access]).1
                    history := Function.update r.history 0
                      (r.history 0 ++ [(s.world.perform 0 [access]).2]) } ?_ ?_ ?_ ?_ ?_
  · simp only [Reference.step, ← history, issued, Option.map_some, performed]
  · rw [after]
    refine .trapped found write ⟨?_, ?_⟩ ?_ (by simp) rfl areas
    · simpa using recorded.breakPoint
    · simpa using recorded.trapFlag
    · simpa using raised'
  · simp [history]
  · simp [Machine.rank, control, recorded.breakPoint]
  · right
    simp [Machine.rank, recorded.trapFlag]

theorem Follows.step (single : SingleAccess cfg.controllers cfg.program registry)
    (disciplined : Disciplined cfg law registry (singleOrigin cfg.program registry) s)
    (history : (s.threads 0).history = r.history 0)
    (follows : Follows cfg law registry r s (s.threads 0).control)
    (effect : Effect cfg registry (singleOrigin cfg.program registry) s 0 (s.threads 0).control s') :
    Advance cfg law registry r s s' := by
  generalize control : (s.threads 0).control = statement at follows effect
  cases follows with
  | resting idle faults world areas =>
    cases effect with
    | executed instruction settled next clear =>
      exact Advance.execute_resting single disciplined.same control idle world history areas next clear
    | faulted instruction access a write found settled next denied resolves raised =>
      refine .before ?_ (by simp) (by simp [Machine.rank]) (by
        simp [Machine.rank, control, idle.breakPoint, BreakPointData.fresh])
      rw [Machine.setThread_self]
      refine .faulted a write ⟨?_, ?_⟩ (by simp) world areas
      · simpa using idle.breakPoint
      · simpa using idle.trapFlag
  | faulted a write idle faults world areas =>
    cases effect with
    | resolved _ _ found settled resolves raised =>
      have idle' : ((s.goto 0 (if write then .unprotect found write else .doHookRead found)).threads 0).Idle := by
        rw [Machine.goto_self]
        exact ⟨idle.breakPoint, idle.trapFlag⟩
      cases write with
      | false =>
        refine .before ?_ (by simp) (by simp [Machine.rank]) (by simp [Machine.rank, control])
        simp only [Machine.goto_self]
        exact .hooking found idle' (by simpa using faults) world areas
      | true =>
        refine .before ?_ (by simp) (by simp [Machine.rank]) (by simp [Machine.rank, control])
        simp only [Machine.goto_self]
        exact .hooked found true idle' (by simpa using faults) world areas
  | hooking found idle faults world areas =>
    cases effect with
    | hookedRead _ space settled raised present =>
      refine .before ?_ (by simp) (by simp [Machine.rank]) (by simp [Machine.rank, control])
      simp only [Machine.goto_self]
      refine .hooked found false ⟨?_, ?_⟩ (by simpa using faults) ?_ areas
      · simpa using idle.breakPoint
      · simpa using idle.trapFlag
      · simp [afterFault, Reference.doHookRead_eq present, world]
  | hooked found write idle faults world areas =>
    cases effect with
    | unprotected _ _ space area settled raised present changed =>
      refine .before ?_ (by simp) (by simp [Machine.rank]) (by simp [Machine.rank, control])
      simp only [Machine.goto_self]
      refine .opened found write ⟨?_, ?_⟩ (by simpa using faults) world (areas.unprotect present changed)
      · simpa using idle.breakPoint
      · simpa using idle.trapFlag
  | opened found write idle faults world areas =>
    cases effect with
    | installed _ _ settled raised =>
      refine .before ?_ (by simp) (by simp [Machine.rank]) (by simp [Machine.rank, control])
      rw [Machine.setThread_self]
      exact .pending found write ⟨by simp, by simp⟩ (by simpa using raised) (by simpa using faults) world areas
  | pending found write recorded raised faults world areas =>
    cases effect with
    | executed instruction settled next clear =>
      exact Advance.execute_pending single control recorded raised world history areas next
    | faulted instruction other a write' found' settled next isDenied resolves raised' =>
      -- the only area the instruction touches is open
      exfalso
      obtain ⟨access, space, issued, covers, present, -⟩ := raised
      rw [issued, Option.some.injEq] at next
      subst next
      have registered : s.registry.WellFormed := disciplined.same ▸ single.registered
      have coversHere : s.registry.Covers access found := disciplined.same ▸ covers
      rw [Machine.faulting_covered registered coversHere,
        law.protection_opened (areas.opened present)] at isDenied
      simp [allows_readWrite] at isDenied
  | trapped found write recorded raised faults world areas =>
    cases effect with
    | trapped found' write' raised' recorded' =>
      obtain ⟨rfl, rfl⟩ := single.origin_unique raised raised'
      by_cases hooked : (write && (cfg.controllers found.controller).getHookTypes.and .write) = true
      · have destination : afterTrap cfg found write =
            .doHookWrite found.ioSpace found.controller found.offset := if_pos hooked
        rw [destination]
        refine .after ?_ (by simp) (by simp [Machine.rank, control])
          (Or.inr (by simp [Machine.rank, control]))
        rw [Machine.goto_self]
        refine .hookingWrite found (by simpa using faults) ?_ areas
        rw [world, afterHook, if_pos hooked]
        rfl
      · have destination : afterTrap cfg found write = .uninstallBreakPoint found.ioSpace := if_neg hooked
        rw [destination]
        refine .after ?_ (by simp) (by simp [Machine.rank, control])
          (Or.inr (by simp [Machine.rank, control]))
        rw [Machine.goto_self]
        refine .uninstalling found.ioSpace (by simpa using faults) ?_ areas
        rw [world, afterHook, if_neg hooked]
        rfl
  | hookingWrite found faults world areas =>
    obtain ⟨controller, ioSpace, offset⟩ := found
    cases effect with
    | hookedWrite found space raised recorded hooked present =>
      refine .after ?_ (by simp) (by simp [Machine.rank, control])
        (Or.inr (by simp [Machine.rank, control]))
      simp only [Machine.goto_self]
      refine .uninstalling found.ioSpace (by simpa using faults) ?_ areas
      rw [world]
      exact Reference.doHookWrite_eq present 0 s.world
  | uninstalling ioSpace faults world areas =>
    cases effect with
    | uninstalled found write raised recorded =>
      refine .after ?_ (by simp) (by simp [Machine.rank, control])
        (Or.inr (by simp [Machine.rank, control]))
      rw [Machine.setThread_self]
      exact .restoring found.ioSpace (by simpa using faults) world areas
  | restoring ioSpace faults world areas =>
    cases effect with
    | restored found write space area raised idle present changed =>
      refine .after ?_ (by simp) (by simp [Machine.rank, control])
        (Or.inl ⟨by simp, by simpa using faults⟩)
      simp only [Machine.goto_self]
      refine .resting ⟨?_, ?_⟩ (by simpa using faults) world (areas.restore present changed)
      · simpa using idle.breakPoint
      · simpa using idle.trapFlag

end

end ExMM
