import ExMM.Library.Log
import ExMM.Machine.DeviceModel

namespace ExMM

variable {Area Device : Type}

def Machine.Pending (s : Machine Area Device) (t : ThreadId) : Prop :=
  (s.threads t).control ≠ .user ∨ (s.threads t).breakPoint.active = true

def Machine.Opened (s : Machine Area Device) (t : ThreadId) (ioSpace : IoSpacePtr) : Prop :=
  Log.Unmatched s.calls (t, ioSpace, .unprotect) (t, ioSpace, .restoreProtection)

def Thread.Holds (thread : Thread) (ioSpace : IoSpacePtr) : Prop :=
  match thread.control with
  | .installBreakPoint found _ => found.ioSpace = ioSpace ∨ thread.breakPoint.ioSpace = some ioSpace
  | .restoreProtection closing => closing = ioSpace
  | _ => thread.breakPoint.ioSpace = some ioSpace

theorem Thread.holds_record {thread : Thread} {ioSpace : IoSpacePtr}
    (kept : thread.breakPoint.ioSpace = some ioSpace)
    (elsewhere : ∀ closing, thread.control ≠ .restoreProtection closing) : thread.Holds ioSpace := by
  unfold Holds
  split
  · exact Or.inr kept
  · exact absurd (by assumption) (elsewhere _)
  · exact kept

section

variable {cfg : Config Area Device} {law : cfg.platform.Law} {registry : Registry}
  {world : World Device} {s s' : Machine Area Device} {t : ThreadId}

/-- An area that differs from its initial state is explained by a thread that has opened it and still
    knows that it has. -/
structure Explained (cfg : Config Area Device) (law : cfg.platform.Law) (registry : Registry)
    (s : Machine Area Device) : Prop where
  disciplined : Disciplined cfg law registry (singleOrigin cfg.program registry) s
  opened : ∀ (ioSpace : IoSpacePtr) (space : IoSpace), registry.ioSpaces[ioSpace]? = some space →
    cfg.platform.protection (s.areas ioSpace) ≠ initialProtection space.hookTypes → ∃ t, s.Opened t ioSpace
  held : ∀ t ioSpace, s.Opened t ioSpace → (s.threads t).Holds ioSpace

theorem Explained.frame (explained : Explained cfg law registry s)
    (disciplined : Disciplined cfg law registry (singleOrigin cfg.program registry) s')
    (areas : s'.areas = s.areas) (calls : s'.calls = s.calls)
    (others : ∀ u, u ≠ t → s'.threads u = s.threads u)
    (own : ∀ ioSpace, (s.threads t).Holds ioSpace → (s'.threads t).Holds ioSpace) :
    Explained cfg law registry s' := by
  refine ⟨disciplined, ?_, ?_⟩
  · intro ioSpace space live changed
    rw [areas] at changed
    obtain ⟨u, opened⟩ := explained.opened ioSpace space live changed
    exact ⟨u, by rw [Machine.Opened, calls]; exact opened⟩
  · intro u ioSpace opened
    rw [Machine.Opened, calls] at opened
    have before := explained.held u ioSpace opened
    by_cases mine : u = t
    · subst mine
      exact own ioSpace before
    · rw [others u mine]
      exact before

theorem Machine.opened_unprotect {u : ThreadId} {ioSpace other : IoSpacePtr}
    (calls : s'.calls = s.calls ++ [(t, ioSpace, .unprotect)]) :
    s'.Opened u other ↔ (t = u ∧ ioSpace = other) ∨ s.Opened u other := by
  simp [Opened, calls, Log.unmatched_concat]

theorem Machine.opened_restore {u : ThreadId} {ioSpace other : IoSpacePtr}
    (calls : s'.calls = s.calls ++ [(t, ioSpace, .restoreProtection)]) :
    s'.Opened u other ↔ s.Opened u other ∧ ¬ (t = u ∧ ioSpace = other) := by
  simp [Opened, calls, Log.unmatched_concat]

theorem Explained.unprotected (explained : Explained cfg law registry s) {found : Found} {write : Bool}
    {area : Area} (control : (s.threads t).control = .unprotect found write)
    (disciplined : Disciplined cfg law registry (singleOrigin cfg.program registry)
      { s.goto t (.installBreakPoint found write) with
        areas := Function.update s.areas found.ioSpace area
        calls := s.calls ++ [(t, found.ioSpace, .unprotect)] }) :
    Explained cfg law registry
      { s.goto t (.installBreakPoint found write) with
        areas := Function.update s.areas found.ioSpace area
        calls := s.calls ++ [(t, found.ioSpace, .unprotect)] } := by
  refine ⟨disciplined, ?_, ?_⟩
  · intro ioSpace space live changed
    by_cases mine : ioSpace = found.ioSpace
    · exact ⟨t, (Machine.opened_unprotect rfl).mpr (Or.inl ⟨rfl, mine.symm⟩)⟩
    · dsimp only at changed
      rw [Function.update_of_ne mine] at changed
      obtain ⟨u, opened⟩ := explained.opened ioSpace space live changed
      exact ⟨u, (Machine.opened_unprotect rfl).mpr (Or.inr opened)⟩
  · intro u ioSpace opened
    by_cases mine : u = t
    · subst mine
      simp only [Machine.goto_self, Thread.Holds]
      rcases (Machine.opened_unprotect rfl).mp opened with ⟨-, same⟩ | earlier
      · exact Or.inl same
      · have before := explained.held u ioSpace earlier
        simp only [Thread.Holds, control] at before
        exact Or.inr before
    · simp only [Machine.goto_other s _ mine]
      rcases (Machine.opened_unprotect rfl).mp opened with ⟨same, -⟩ | earlier
      · exact absurd same.symm mine
      · exact explained.held u ioSpace earlier

theorem Explained.restored
    (restores : ∀ {hookTypes area next}, law.sound hookTypes area →
      cfg.platform.restoreProtection area = some next →
        cfg.platform.protection next = initialProtection hookTypes)
    (explained : Explained cfg law registry s) {found : Found} {area : Area} {space : IoSpace}
    (control : (s.threads t).control = .restoreProtection found.ioSpace)
    (present : registry.ioSpaces[found.ioSpace]? = some space)
    (changed : cfg.platform.restoreProtection (s.areas found.ioSpace) = some area)
    (disciplined : Disciplined cfg law registry (singleOrigin cfg.program registry)
      { s.goto t .user with
        areas := Function.update s.areas found.ioSpace area
        calls := s.calls ++ [(t, found.ioSpace, .restoreProtection)] }) :
    Explained cfg law registry
      { s.goto t .user with
        areas := Function.update s.areas found.ioSpace area
        calls := s.calls ++ [(t, found.ioSpace, .restoreProtection)] } := by
  refine ⟨disciplined, ?_, ?_⟩
  · intro ioSpace other live differs
    by_cases mine : ioSpace = found.ioSpace
    · subst mine
      rw [present] at live
      cases live
      dsimp only at differs
      rw [Function.update_self] at differs
      exact absurd (restores (explained.disciplined.sound _ _ present) changed) differs
    · dsimp only at differs
      rw [Function.update_of_ne mine] at differs
      obtain ⟨u, opened⟩ := explained.opened ioSpace other live differs
      exact ⟨u, (Machine.opened_restore rfl).mpr ⟨opened, fun same => mine same.2.symm⟩⟩
  · intro u ioSpace opened
    obtain ⟨earlier, still⟩ := (Machine.opened_restore rfl).mp opened
    have before := explained.held u ioSpace earlier
    by_cases mine : u = t
    · subst mine
      simp only [Thread.Holds, control] at before
      exact absurd ⟨rfl, before⟩ still
    · simp only [Machine.goto_other s _ mine]
      exact before

theorem Explained.step (single : SingleAccess cfg.controllers cfg.program registry)
    (restores : ∀ {hookTypes area next}, law.sound hookTypes area →
      cfg.platform.restoreProtection area = some next →
        cfg.platform.protection next = initialProtection hookTypes)
    (explained : Explained cfg law registry s)
    (effect : Effect cfg registry (singleOrigin cfg.program registry) s t (s.threads t).control s') :
    Explained cfg law registry s' := by
  have disciplined := effect.disciplined explained.disciplined
  generalize control : (s.threads t).control = statement at effect
  -- all cases but the last four keep the record, and with it what the thread holds
  have record_kept : ∀ ioSpace, (s.threads t).Holds ioSpace →
      (∀ found write, statement ≠ .installBreakPoint found write) →
      (∀ closing, statement ≠ .restoreProtection closing) →
      (s.threads t).breakPoint.ioSpace = some ioSpace := by
    intro ioSpace holds install restore
    unfold Thread.Holds at holds
    rw [control] at holds
    split at holds
    · exact absurd rfl (install _ _)
    · exact absurd rfl (restore _)
    · exact holds
  cases effect with
  | executed instruction settled next clear =>
    refine explained.frame disciplined rfl rfl (fun u other => Machine.execute_other s _ other) ?_
    intro ioSpace holds
    refine Thread.holds_record ?_ ?_
    · simpa using record_kept ioSpace holds (by simp) (by simp)
    · intro closing
      simp only [Machine.execute_self]
      split <;> simp
  | faulted instruction access a write found settled next denied resolves raised =>
    refine explained.frame disciplined rfl rfl (fun u other => Machine.setThread_other s _ other) ?_
    intro ioSpace holds
    refine Thread.holds_record ?_ (by simp)
    simpa using record_kept ioSpace holds (by simp) (by simp)
  | resolved a write found settled resolves raised =>
    refine explained.frame disciplined rfl rfl (fun u other => Machine.goto_other s _ other) ?_
    intro ioSpace holds
    refine Thread.holds_record ?_ ?_
    · simpa using record_kept ioSpace holds (by simp) (by simp)
    · intro closing
      cases write <;> simp
  | hookedRead found space settled raised present =>
    refine explained.frame disciplined rfl rfl (fun u other => Machine.goto_other s _ other) ?_
    intro ioSpace holds
    refine Thread.holds_record ?_ (by simp)
    simpa using record_kept ioSpace holds (by simp) (by simp)
  | unprotected found write space area settled raised present changed =>
    exact explained.unprotected control disciplined
  | installed found write settled raised =>
    refine explained.frame disciplined rfl rfl (fun u other => Machine.setThread_other s _ other) ?_
    intro ioSpace holds
    simp only [Machine.setThread_self, Thread.Holds, record_ioSpace, Option.some.injEq]
    simp only [Thread.Holds, control] at holds
    rcases holds with same | earlier
    · exact same
    · -- an earlier record is of the same fault, restarted
      rcases settled with idle | ⟨other, kind, raised', recorded⟩
      · simp [idle.breakPoint, BreakPointData.fresh] at earlier
      · obtain ⟨rfl, rfl⟩ := single.origin_unique raised raised'
        simpa [recorded.breakPoint] using earlier
  | trapped found write raised recorded =>
    refine explained.frame disciplined rfl rfl (fun u other => Machine.goto_other s _ other) ?_
    intro ioSpace holds
    refine Thread.holds_record ?_ ?_
    · simpa using record_kept ioSpace holds (by simp) (by simp)
    · intro closing
      simp only [Machine.goto_self, afterTrap]
      split <;> simp
  | hookedWrite found space raised recorded hooked present =>
    refine explained.frame disciplined rfl rfl (fun u other => Machine.goto_other s _ other) ?_
    intro ioSpace holds
    refine Thread.holds_record ?_ (by simp)
    simpa using record_kept ioSpace holds (by simp) (by simp)
  | uninstalled found write raised recorded =>
    refine explained.frame disciplined rfl rfl (fun u other => Machine.setThread_other s _ other) ?_
    intro ioSpace holds
    have kept := record_kept ioSpace holds (by simp) (by simp)
    simpa [Thread.Holds, recorded.breakPoint] using kept
  | restored found write space area raised idle present changed =>
    exact explained.restored restores control present changed disciplined

theorem Explained.boot (cfg : Config Area Device) (law : cfg.platform.Law) (registry : Registry)
    (world : World Device) : Explained cfg law registry (Machine.boot cfg registry world) where
  disciplined := Disciplined.boot cfg law registry _ world
  opened := by
    intro ioSpace space live changed
    simp only [Machine.boot, live, Option.map_some, Option.getD_some] at changed
    exact absurd (law.protection_closed (law.closed_initial space.hookTypes)) changed
  held := fun t ioSpace opened => absurd opened (Log.not_unmatched_nil _ _)

theorem Explained.run (single : SingleAccess cfg.controllers cfg.program registry)
    (restores : ∀ {hookTypes area next}, law.sound hookTypes area →
      cfg.platform.restoreProtection area = some next →
        cfg.platform.protection next = initialProtection hookTypes)
    {actions : List (ThreadId × Report)}
    (ran : Transition.run (Machine.step cfg) (Machine.boot cfg registry world) actions = some s) :
    Explained cfg law registry s := by
  refine Transition.run_invariant ?_ (Explained.boot cfg law registry world) ran
  rintro s ⟨t, report⟩ s' explained taken
  exact explained.step single restores ((single.scenario law).step_effect explained.disciplined taken)

end

theorem Posix.restores {hookTypes : HookTypes} {area next : Posix.IoSpace}
    (sound : Posix.law.sound hookTypes area) (changed : Posix.platform.restoreProtection area = some next) :
    Posix.platform.protection next = initialProtection hookTypes := by
  cases changed
  exact sound.1

theorem Thread.Holds.pending {thread : Thread} {ioSpace : IoSpacePtr} {origin : Origin} {t : ThreadId}
    (settled : thread.control = .user → thread.Settled origin t) (holds : thread.Holds ioSpace) :
    thread.control ≠ .user ∨ thread.breakPoint.active = true := by
  by_cases control : thread.control = .user
  · right
    simp only [Holds, control] at holds
    rcases settled control with idle | ⟨found, write, -, recorded⟩
    · simp [idle.breakPoint, BreakPointData.fresh] at holds
    · simp [recorded.breakPoint]
  · exact Or.inl control

theorem Thread.Settled.trapFlag_iff {thread : Thread} {origin : Origin} {t : ThreadId}
    (settled : thread.Settled origin t) : thread.trapFlag = true ↔ thread.breakPoint.active = true := by
  rcases settled with idle | ⟨found, write, -, recorded⟩
  · simp [idle.trapFlag, idle.breakPoint, BreakPointData.fresh]
  · simp [recorded.trapFlag, recorded.breakPoint]

/-- Whatever the threads interleave, an area that is not as `Initialize` left it is open, and is so
    because of a thread whose access is not finished. -/
theorem protections_explained (controllers : ControllerPtr → Controller Device)
    (program : ThreadId → Program) (registry : Registry)
    (single : SingleAccess controllers program registry) (world : World Device)
    (actions : List (ThreadId × Report)) (s : Machine Posix.IoSpace Device)
    (ran : Transition.run (Machine.step { platform := Posix.platform, controllers, program })
      (Machine.boot { platform := Posix.platform, controllers, program } registry world) actions = some s) :
    (∀ (ioSpace : IoSpacePtr) (space : IoSpace), registry.ioSpaces[ioSpace]? = some space →
      ((s.areas ioSpace).protection = Posix.publicFlags space.hookTypes ∨
        (s.areas ioSpace).protection = .readWrite) ∧
      ((s.areas ioSpace).protection ≠ Posix.publicFlags space.hookTypes →
        ∃ t, s.Opened t ioSpace ∧ s.Pending t)) ∧
    (∀ t, (s.threads t).control = .user →
      ((s.threads t).trapFlag = true ↔ (s.threads t).breakPoint.active = true)) ∧
    ((∀ t, ¬ s.Pending t) →
      ∀ (ioSpace : IoSpacePtr) (space : IoSpace), registry.ioSpaces[ioSpace]? = some space →
        (s.areas ioSpace).protection = Posix.publicFlags space.hookTypes) := by
  have explained : Explained { platform := Posix.platform, controllers, program } Posix.law registry s :=
    Explained.run single Posix.restores ran
  have settled : ∀ t, (s.threads t).control = .user →
      (s.threads t).Settled (singleOrigin program registry) t :=
    fun t control => (explained.disciplined.threads t).settled control
  have cause : ∀ (ioSpace : IoSpacePtr) (space : IoSpace), registry.ioSpaces[ioSpace]? = some space →
      (s.areas ioSpace).protection ≠ Posix.publicFlags space.hookTypes →
        ∃ t, s.Opened t ioSpace ∧ s.Pending t := by
    intro ioSpace space live changed
    rw [Posix.publicFlags_eq] at changed
    obtain ⟨t, opened⟩ := explained.opened ioSpace space live changed
    exact ⟨t, opened, (explained.held t ioSpace opened).pending (settled t)⟩
  refine ⟨fun ioSpace space live => ⟨?_, cause ioSpace space live⟩, fun t control => ?_, ?_⟩
  · rw [Posix.publicFlags_eq]
    exact Posix.law.protection_sound (explained.disciplined.sound ioSpace space live)
  · exact (settled t control).trapFlag_iff
  · intro none ioSpace space live
    by_contra changed
    obtain ⟨t, -, pending⟩ := cause ioSpace space live changed
    exact none t pending

def crossing : List (ThreadId × Report) :=
  [0, 1, 0, 1, 0, 1, 0, 1, 0, 1, 0, 0, 0, 0, 1].map fun t => (t, { choice := 0, write := false })

theorem crossing_explained : ∃ s : Machine Posix.IoSpace Nat,
    Transition.run
      (Machine.step { platform := Posix.platform, controllers := counting, program := fun _ => copyRegister })
      (Machine.boot { platform := Posix.platform, controllers := counting, program := fun _ => copyRegister }
        (Registry.after pair) zeroWorld) crossing = some s ∧
    ∀ (ioSpace : IoSpacePtr) (space : IoSpace), (Registry.after pair).ioSpaces[ioSpace]? = some space →
      (s.areas ioSpace).protection ≠ Posix.publicFlags space.hookTypes →
        ∃ t, s.Opened t ioSpace ∧ s.Pending t := by
  have enabled : (Transition.run
      (Machine.step { platform := Posix.platform, controllers := counting, program := fun _ => copyRegister })
      (Machine.boot { platform := Posix.platform, controllers := counting, program := fun _ => copyRegister }
        (Registry.after pair) zeroWorld) crossing).isSome = true := by decide
  obtain ⟨s, ran⟩ := Option.isSome_iff_exists.mp enabled
  have explained := protections_explained counting (fun _ => copyRegister) (Registry.after pair)
    single_copyRegister zeroWorld crossing s ran
  exact ⟨s, ran, fun ioSpace space live => (explained.1 ioSpace space live).2⟩

end ExMM
