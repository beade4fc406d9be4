import ExMM.Model.Arm

namespace ExMM.Arm

def width (thumb : Bool) : Nat := if thumb then 2 else 4

theorem width_le (thumb : Bool) : width thumb ≤ 4 := by
  cases thumb <;> decide

def bkptByte (thumb : Bool) (i : Nat) : BitVec 8 :=
  if thumb then Words.byte bkptThumb i else Words.byte bkptArm i

def footprint (a width : Nat) : List Nat := (List.range width).map fun i => a + i

theorem mem_footprint {a width b : Nat} : b ∈ footprint a width ↔ ∃ i < width, b = a + i := by
  simp only [footprint, List.mem_map, List.mem_range]
  constructor
  · rintro ⟨i, bound, rfl⟩
    exact ⟨i, bound, rfl⟩
  · rintro ⟨i, bound, rfl⟩
    exact ⟨i, bound, rfl⟩

namespace Thread

def Active (thread : Thread) : Prop := thread.breakPoint.active = true

instance (thread : Thread) : Decidable thread.Active := inferInstanceAs (Decidable (_ = true))

def planted (thread : Thread) : List Nat :=
  footprint thread.breakPoint.payload.Address (width thread.thumb)

def restored (thread : Thread) : List Nat := footprint thread.breakPoint.payload.Address 4

theorem planted_subset (thread : Thread) : thread.planted ⊆ thread.restored := by
  intro a member
  obtain ⟨i, bound, rfl⟩ := mem_footprint.mp member
  have narrow := width_le thread.thumb
  exact mem_footprint.mpr ⟨i, by omega, rfl⟩

end Thread

namespace Machine

def Planted (s : Machine) (t : ThreadId) : Prop :=
  let address := (s.threads t).breakPoint.payload.Address
  if (s.threads t).thumb then Words.load16 s.code address = bkptThumb
  else Words.load32 s.code address = bkptArm

/-- Every pending breakpoint is in the code with the original word saved, and without one the code is
    the original. -/
structure Intact (original : Code) (s : Machine) : Prop where
  planted : ∀ t, (s.threads t).Active → s.Planted t
  opcode : ∀ t, (s.threads t).Active → (s.threads t).breakPoint.payload.Opcode =
    Words.load32 original (s.threads t).breakPoint.payload.Address
  unchanged : (∀ t, ¬ (s.threads t).Active) → s.code = original

/-- No pending breakpoint is in the way: of the word that is saved for an installation, or of the word
    that is written back. -/
def Clear (s : Machine) : Call → Prop
  | .installBreakPoint t pc thumb _ _ _ => ¬ (s.threads t).Active ∧
      ∀ u, (s.threads u).Active →
        ∀ a ∈ (s.threads u).planted, a ∉ footprint (nextInstruction s.code pc thumb) 4
  | .uninstallBreakPoint t =>
      ∀ u, u ≠ t → (s.threads u).Active → ∀ a ∈ (s.threads u).planted, a ∉ (s.threads t).restored

structure Patched (original : Code) (s : Machine) : Prop where
  address : ∀ t, (s.threads t).Active → (s.threads t).breakPoint.payload.Address ≠ 0
  opcode : ∀ t, (s.threads t).Active → (s.threads t).breakPoint.payload.Opcode =
    Words.load32 original (s.threads t).breakPoint.payload.Address
  bytes : ∀ t, (s.threads t).Active → ∀ i < width (s.threads t).thumb,
    s.code ((s.threads t).breakPoint.payload.Address + i) = bkptByte (s.threads t).thumb i
  elsewhere : ∀ a, (∀ t, (s.threads t).Active → a ∉ (s.threads t).planted) → s.code a = original a

variable {original : Code} {s s' : Machine} {page : Nat}

theorem Patched.intact (patched : Patched original s) : Intact original s where
  planted := by
    intro t active
    have bytes := patched.bytes t active
    unfold Planted
    cases thumb : (s.threads t).thumb with
    | true =>
      rw [thumb] at bytes
      exact Words.load16_of_bytes bytes
    | false =>
      rw [thumb] at bytes
      exact Words.load32_of_bytes bytes
  opcode := patched.opcode
  unchanged := by
    intro none
    funext a
    exact patched.elsewhere a fun t active => absurd active (none t)

theorem Patched.start (original : Code) (writable : Nat → Bool) :
    Patched original (Machine.start original writable) where
  address := fun t active => absurd active (by simp [Machine.start, Thread.Active, BreakPointData.fresh])
  opcode := fun t active => absurd active (by simp [Machine.start, Thread.Active, BreakPointData.fresh])
  bytes := fun t active => absurd active (by simp [Machine.start, Thread.Active, BreakPointData.fresh])
  elsewhere := fun _ _ => rfl

theorem nextInstruction_pos (code : Code) (pc : Nat) (thumb : Bool) : nextInstruction code pc thumb ≠ 0 := by
  unfold nextInstruction
  split
  · dsimp only
    split <;> omega
  · omega

theorem plant_some {thumb : Bool} {next : Nat} {code : Code} (planted : s.plant thumb next = some code) :
    (∀ i < width thumb, code (next + i) = bkptByte thumb i) ∧
      ∀ a, a ∉ footprint next (width thumb) → code a = s.code a := by
  have outside : ∀ {w : Nat} (value : BitVec w) a, a ∉ footprint next (w / 8) →
      Words.store s.code next value a = s.code a := by
    intro w value a absent
    refine Words.store_outside _ _ _ _ fun i bound same => ?_
    exact absent (mem_footprint.mpr ⟨i, bound, same⟩)
  unfold plant at planted
  cases thumb with
  | true =>
    simp only [if_true] at planted
    split at planted
    · cases planted
      exact ⟨fun i bound => Words.store_inside _ _ _ _ bound, outside bkptThumb⟩
    · cases planted
  | false =>
    simp only [Bool.false_eq_true, if_false] at planted
    split at planted
    · cases planted
      exact ⟨fun i bound => Words.store_inside _ _ _ _ bound, outside bkptArm⟩
    · cases planted

theorem Patched.install (patched : Patched original s) {t : ThreadId} {pc : Nat} {thumb : Bool}
    {ioSpace : IoSpacePtr} {controller : Option ControllerPtr} {offset : Nat}
    (clear : s.Clear (.installBreakPoint t pc thumb ioSpace controller offset))
    (taken : s.step page (.installBreakPoint t pc thumb ioSpace controller offset) = some s') :
    Patched original s' := by
  obtain ⟨idle, free⟩ := clear
  obtain ⟨code, planted, rfl⟩ := Option.map_eq_some_iff.mp taken
  obtain ⟨inside, outside⟩ := plant_some planted
  dsimp only at inside outside
  have others : ∀ u, (s.threads u).Active → u ≠ t := by
    rintro u active rfl
    exact idle active
  have word : ∀ a ∈ footprint (nextInstruction s.code pc thumb) 4, s.code a = original a :=
    fun a member => patched.elsewhere a fun u active hit => free u active a hit member
  constructor
  · intro u active
    by_cases mine : u = t
    · subst mine
      simpa [Bkpt.save] using nextInstruction_pos s.code pc thumb
    · simp only [Function.update_of_ne mine] at active ⊢
      exact patched.address u active
  · intro u active
    by_cases mine : u = t
    · subst mine
      simp only [Function.update_self, Bkpt.save]
      exact Words.load32_congr fun i bound => word _ (mem_footprint.mpr ⟨i, bound, rfl⟩)
    · simp only [Function.update_of_ne mine] at active ⊢
      exact patched.opcode u active
  · intro u active i bound
    by_cases mine : u = t
    · subst mine
      simp only [Function.update_self, Bkpt.save] at bound ⊢
      exact inside i bound
    · simp only [Function.update_of_ne mine] at active bound ⊢
      have kept : (s.threads u).breakPoint.payload.Address + i ∉
          footprint (nextInstruction s.code pc thumb) (width thumb) := by
        intro hit
        obtain ⟨j, small, same⟩ := mem_footprint.mp hit
        have narrow := width_le thumb
        exact free u active _ (mem_footprint.mpr ⟨i, bound, rfl⟩) (mem_footprint.mpr ⟨j, by omega, same⟩)
      rw [outside _ kept]
      exact patched.bytes u active i bound
  · intro a missed
    have own := missed t (by simp [Thread.Active, BreakPointData.set])
    simp only [Function.update_self, Thread.planted, Bkpt.save] at own
    refine (outside a own).trans (patched.elsewhere a fun u active => ?_)
    have other := missed u
    simp only [Function.update_of_ne (others u active)] at other
    exact other active

theorem Patched.uninstall (patched : Patched original s) {t : ThreadId}
    (clear : s.Clear (.uninstallBreakPoint t))
    (taken : s.step page (.uninstallBreakPoint t) = some s') : Patched original s' := by
  simp only [step] at taken
  split at taken
  case isFalse => cases taken
  case isTrue active =>
  split at taken
  case isFalse => cases taken
  case isTrue =>
  have address : (s.threads t).breakPoint.unset.payload.Address ≠ 0 := patched.address t active
  simp only [Bkpt.restore, if_pos address, Option.some.injEq] at taken
  subst taken
  have word : ∀ a ∈ (s.threads t).restored,
      Words.store s.code (s.threads t).breakPoint.payload.Address
        (s.threads t).breakPoint.payload.Opcode a = original a := by
    intro a member
    obtain ⟨i, bound, rfl⟩ := mem_footprint.mp member
    rw [Words.store_inside _ _ _ _ bound, patched.opcode t active, Words.byte_load32 _ _ _ bound]
  have rest : ∀ a, a ∉ (s.threads t).restored →
      Words.store s.code (s.threads t).breakPoint.payload.Address
        (s.threads t).breakPoint.payload.Opcode a = s.code a := by
    intro a absent
    refine Words.store_outside _ _ _ _ fun i bound same => ?_
    exact absent (mem_footprint.mpr ⟨i, bound, same⟩)
  have others : ∀ u, (Function.update s.threads t
      { s.threads t with breakPoint := { (s.threads t).breakPoint.unset with payload := .empty } } u).Active →
      u ≠ t ∧ (s.threads u).Active := by
    intro u pending
    by_cases mine : u = t
    · subst mine
      simp [Thread.Active, BreakPointData.unset] at pending
    · rw [Function.update_of_ne mine] at pending
      exact ⟨mine, pending⟩
  constructor
  · intro u pending
    obtain ⟨other, active'⟩ := others u pending
    simp only [Function.update_of_ne other]
    exact patched.address u active'
  · intro u pending
    obtain ⟨other, active'⟩ := others u pending
    simp only [Function.update_of_ne other]
    exact patched.opcode u active'
  · intro u pending i bound
    obtain ⟨other, active'⟩ := others u pending
    simp only [Function.update_of_ne other] at bound ⊢
    have member : (s.threads u).breakPoint.payload.Address + i ∈ (s.threads u).planted :=
      mem_footprint.mpr ⟨i, bound, rfl⟩
    have kept := rest _ fun hit => clear u other active' _ member hit
    exact kept.trans (patched.bytes u active' i bound)
  · intro a missed
    by_cases hit : a ∈ (s.threads t).restored
    · exact word a hit
    · refine (rest a hit).trans (patched.elsewhere a fun u active' => ?_)
      by_cases mine : u = t
      · subst mine
        exact fun member => hit ((s.threads u).planted_subset member)
      · have other := missed u
        simp only [Function.update_of_ne mine] at other
        exact other active'

/-- Runs in which no installation or removal meets a pending breakpoint keep the code intact. -/
theorem guarded_breakpoints_intact (page : Nat) (original : Code) (writable : Nat → Bool)
    (calls : List Call) (s : Machine)
    (ran : Transition.run (Machine.step page) (Machine.start original writable) calls = some s)
    (clear : Transition.Meets (Machine.step page) Machine.Clear (Machine.start original writable) calls) :
    Intact original s := by
  have keep : ∀ (m : Machine) call m', Patched original m → m.Clear call → m.step page call = some m' →
      Patched original m' := by
    intro m call m' patched clear taken
    cases call with
    | installBreakPoint t pc thumb ioSpace controller offset => exact patched.install clear taken
    | uninstallBreakPoint t => exact patched.uninstall clear taken
  exact (Transition.run_guarded keep (Patched.start original writable) clear ran).intact

def blank : Code := fun _ => 0

def apart : List Call :=
  [.installBreakPoint 0 0x8000 false 100 none 0, .installBreakPoint 1 0x9000 true 100 (some 8) 4,
    .uninstallBreakPoint 0, .uninstallBreakPoint 1]

theorem apart_intact : ∃ s, Transition.run (Machine.step 4096) (Machine.start blank fun _ => false) apart = some s ∧
    Intact blank s := by
  have enabled : (Transition.run (Machine.step 4096) (Machine.start blank fun _ => false) apart).isSome = true := by
    decide
  obtain ⟨s, ran⟩ := Option.isSome_iff_exists.mp enabled
  refine ⟨s, ran, guarded_breakpoints_intact 4096 blank _ apart s ran ?_⟩
  refine ⟨⟨by decide, ?_⟩, ?_⟩
  · intro u active
    exact absurd active (by simp [Machine.start, Thread.Active, BreakPointData.fresh])
  rintro m ⟨⟩
  refine ⟨⟨by decide, ?_⟩, ?_⟩
  · intro u active
    by_cases first : u = 0
    · subst first
      decide
    · simp [first, Machine.start, Thread.Active, BreakPointData.fresh] at active
  rintro m ⟨⟩
  refine ⟨?_, ?_⟩
  · intro u other active
    by_cases second : u = 1
    · subst second
      decide
    · simp [other, second, Machine.start, Thread.Active, BreakPointData.fresh] at active
  rintro m ⟨⟩
  refine ⟨?_, fun _ _ => trivial⟩
  intro u other active
  by_cases first : u = 0
  · subst first
    simp [Thread.Active, BreakPointData.unset] at active
  · simp [other, first, Machine.start, Thread.Active, BreakPointData.fresh] at active

/-- Two threads at the same instruction: the second saves the breakpoint of the first as the original
    word, and the last of them to be trapped leaves it in the code. -/
def crossing : List Call :=
  [.installBreakPoint 0 0x8000 false 100 none 0, .installBreakPoint 1 0x8000 false 100 none 0]

theorem crossing_not_intact :
    (∃ s, Transition.run (Machine.step 4096) (Machine.start blank fun _ => false) crossing = some s ∧
      ¬ Intact blank s) ∧
    ∃ s, Transition.run (Machine.step 4096) (Machine.start blank fun _ => false)
        (crossing ++ [.uninstallBreakPoint 0, .uninstallBreakPoint 1]) = some s ∧
      ¬ (s.threads 0).Active ∧ ¬ (s.threads 1).Active ∧ Words.load32 s.code 0x8004 = bkptArm := by
  have installed : (Transition.run (Machine.step 4096) (Machine.start blank fun _ => false) crossing).map
      (fun s => ((s.threads 1).breakPoint.active, (s.threads 1).breakPoint.payload)) =
      some (true, { Address := 0x8004, Opcode := bkptArm }) := by decide
  have removed : (Transition.run (Machine.step 4096) (Machine.start blank fun _ => false)
      (crossing ++ [.uninstallBreakPoint 0, .uninstallBreakPoint 1])).map (fun s =>
        (decide (s.threads 0).Active, decide (s.threads 1).Active, Words.load32 s.code 0x8004)) =
      some (false, false, bkptArm) := by decide
  constructor
  · obtain ⟨s, ran, result⟩ := Option.map_eq_some_iff.mp installed
    obtain ⟨active, payload⟩ := Prod.mk.inj result
    refine ⟨s, ran, fun intact => ?_⟩
    have opcode := intact.opcode 1 active
    rw [payload] at opcode
    revert opcode
    decide
  · obtain ⟨s, ran, result⟩ := Option.map_eq_some_iff.mp removed
    simp only [Prod.mk.injEq, decide_eq_false_iff_not] at result
    exact ⟨s, ran, result⟩

end Machine

end ExMM.Arm
