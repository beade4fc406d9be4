import Mathlib.Data.BitVec
import ExMM.Arm.Breakpoints

namespace ExMM.Arm

/-- How long the instruction at the program counter is: a Thumb instruction has 32 bits exactly if the top
    five bits of its first halfword are 11101, 11110 or 11111. -/
def instructionLength (code : Code) (pc : Nat) (thumb : Bool) : Nat :=
  if thumb ∧ Words.load16 code pc < 0xE800 then 2 else 4

theorem masked_eq_shifted (first : BitVec 16) : first &&& 0xF800#16 = (first >>> 11) <<< 11 := by
  apply BitVec.eq_of_getLsbD_eq
  intro i bound
  have cases : i < 11 ∨ i = 11 ∨ i = 12 ∨ i = 13 ∨ i = 14 ∨ i = 15 := by omega
  rcases cases with low | rfl | rfl | rfl | rfl | rfl
  · have clear : (0xF800#16).getLsbD i = false := by
      revert i
      decide
    rw [BitVec.getLsbD_and, BitVec.getLsbD_shiftLeft, clear]
    simp [low]
  all_goals simp

theorem wide_iff (first : BitVec 16) :
    (first &&& 0xF800#16 = 0xE800#16 ∨ first &&& 0xF800#16 = 0xF000#16 ∨
      first &&& 0xF800#16 = 0xF800#16) ↔ ¬ first < 0xE800#16 := by
  have bound := first.isLt
  rw [masked_eq_shifted]
  simp only [← BitVec.toNat_inj, BitVec.toNat_shiftLeft, BitVec.toNat_ushiftRight, BitVec.lt_def,
    BitVec.toNat_ofNat, Nat.shiftLeft_eq, Nat.shiftRight_eq_div_pow]
  omega

theorem nextInstruction_eq (code : Code) (pc : Nat) (thumb : Bool) :
    nextInstruction code pc thumb = pc + instructionLength code pc thumb := by
  cases thumb with
  | false => simp [nextInstruction, instructionLength]
  | true =>
    have wide := wide_iff (Words.load16 code pc)
    simp only [nextInstruction, instructionLength, BitVec.ofNat_eq_ofNat, if_true, true_and, wide]
    by_cases narrow : Words.load16 code pc < 0xE800#16
    · rw [if_neg (not_not_intro narrow), if_pos narrow]
    · rw [if_pos narrow, if_neg narrow]

def patchedBytes (code : Code) (pc : Nat) (thumb : Bool) : List Nat :=
  let next := nextInstruction code pc thumb
  footprint next 4 ++ footprint next (width thumb) ++ footprint (Bkpt.save code next).Address 4

theorem patchedBytes_iff (code : Code) (pc : Nat) (thumb : Bool) (a : Nat) :
    a ∈ patchedBytes code pc thumb ↔ a ∈ footprint (nextInstruction code pc thumb) 4 := by
  simp only [patchedBytes, Bkpt.save, List.mem_append]
  constructor
  · rintro ((read | stored) | restored)
    · exact read
    · obtain ⟨i, bound, rfl⟩ := mem_footprint.mp stored
      have narrow := width_le thumb
      exact mem_footprint.mpr ⟨i, by omega, rfl⟩
    · exact restored
  · exact fun member => Or.inr member

def opened (page pc : Nat) : Nat → Bool := makeWritable page pc fun _ => false

theorem opened_iff (page pc a : Nat) :
    opened page pc a = true ↔ pc - pc % page ≤ a ∧ a < pc - pc % page + page := by
  simp [opened, makeWritable]

/-- Exactly the instructions whose next four bytes lie in their own page are patched inside it. -/
theorem patching_covered_iff (page pc : Nat) (thumb : Bool) (code : Code) :
    (∀ a ∈ patchedBytes code pc thumb, opened page pc a = true) ↔
      pc % page + instructionLength code pc thumb + 4 ≤ page := by
  have inside : pc % page ≤ pc := Nat.mod_le pc page
  simp only [patchedBytes_iff, opened_iff, nextInstruction_eq]
  constructor
  · intro covered
    have last := (covered (pc + instructionLength code pc thumb + 3)
      (mem_footprint.mpr ⟨3, by omega, rfl⟩)).2
    omega
  · intro room a member
    obtain ⟨i, bound, rfl⟩ := mem_footprint.mp member
    omega

theorem patching_leaves_page :
    (∃ k, 4096 = 2 ^ k) ∧ 8 ≤ 4096 ∧
      (0x8ffc % 4 = 0 ∧ ∃ a ∈ patchedBytes Machine.blank 0x8ffc false, opened 4096 0x8ffc a = false) ∧
      (0x8ffe % 2 = 0 ∧ ∃ a ∈ patchedBytes Machine.blank 0x8ffe true, opened 4096 0x8ffe a = false) ∧
      (0x8ffc % 2 = 0 ∧ ∃ a ∈ patchedBytes (fun _ => 0xff) 0x8ffc true, opened 4096 0x8ffc a = false) :=
  ⟨⟨12, by decide⟩, by decide, ⟨by decide, 0x9000, by decide, by decide⟩,
    ⟨by decide, 0x9000, by decide, by decide⟩, by decide, 0x9000, by decide, by decide⟩

theorem storable_iff (writable : Nat → Bool) (a width : Nat) :
    storable writable a width = true ↔ ∀ b ∈ footprint a width, writable b = true := by
  simp only [storable, List.all_eq_true, List.mem_range, mem_footprint]
  constructor
  · rintro all b ⟨i, bound, rfl⟩
    exact all i bound
  · exact fun all i bound => all _ ⟨i, bound, rfl⟩

namespace Machine

theorem uninstall_survives_iff {s : Machine} {t : ThreadId} (page : Nat) (active : (s.threads t).Active)
    (address : (s.threads t).breakPoint.payload.Address ≠ 0) :
    (s.step page (.uninstallBreakPoint t)).isSome = true ↔
      storable s.writable (s.threads t).breakPoint.payload.Address 4 = true := by
  have found : (s.threads t).breakPoint.active = true := active
  simp only [step, found, if_true, BreakPointData.unset, address, false_or]
  split
  · simp [*]
  · simp [*]

theorem install_eq (page pc : Nat) (thumb : Bool) (code : Code) (t : ThreadId) (ioSpace : IoSpacePtr)
    (controller : Option ControllerPtr) (offset : Nat) {s : Machine}
    (taken : (start code fun _ => false).step page
      (.installBreakPoint t pc thumb ioSpace controller offset) = some s) :
    s.writable = opened page pc ∧ (s.threads t).Active ∧
      (s.threads t).breakPoint.payload.Address = nextInstruction code pc thumb := by
  obtain ⟨patched, -, rfl⟩ := Option.map_eq_some_iff.mp taken
  simp [Thread.Active, BreakPointData.set, Bkpt.save, start, opened]

theorem install_survives (page pc : Nat) (thumb : Bool) (code : Code) (t : ThreadId) (ioSpace : IoSpacePtr)
    (controller : Option ControllerPtr) (offset : Nat)
    (writable : storable (opened page pc) (nextInstruction code pc thumb) (width thumb) = true) :
    ∃ s, (start code fun _ => false).step page
      (.installBreakPoint t pc thumb ioSpace controller offset) = some s := by
  refine Option.isSome_iff_exists.mp ?_
  simp only [step, Option.isSome_map]
  cases thumb with
  | true =>
    have two : storable (opened page pc) (nextInstruction code pc true) 2 = true := writable
    simp only [opened] at two
    simp [plant, start, two]
  | false =>
    have four : storable (opened page pc) (nextInstruction code pc false) 4 = true := writable
    simp only [opened] at four
    simp [plant, start, four]

/-- Installing a breakpoint and removing it survives exactly where the patching is covered: elsewhere a
    store inside one of the two handlers kills the process. -/
theorem patching_survives_iff (page pc : Nat) (thumb : Bool) (code : Code) (t : ThreadId)
    (ioSpace : IoSpacePtr) (controller : Option ControllerPtr) (offset : Nat) :
    (Transition.run (step page) (start code fun _ => false)
      [.installBreakPoint t pc thumb ioSpace controller offset, .uninstallBreakPoint t]).isSome = true ↔
      ∀ a ∈ patchedBytes code pc thumb, opened page pc a = true := by
  have next := nextInstruction_pos code pc thumb
  simp only [patchedBytes_iff, ← storable_iff (opened page pc)]
  rw [Transition.run_cons]
  cases taken : (start code fun _ => false).step page
      (.installBreakPoint t pc thumb ioSpace controller offset) with
  | none =>
    simp only [Option.bind_none, Option.isSome_none, Bool.false_eq_true, false_iff]
    intro covered
    have narrow : storable (opened page pc) (nextInstruction code pc thumb) (width thumb) = true := by
      refine (storable_iff _ _ _).mpr fun b member => ?_
      obtain ⟨i, bound, rfl⟩ := mem_footprint.mp member
      have small := width_le thumb
      exact (storable_iff _ _ _).mp covered _ (mem_footprint.mpr ⟨i, by omega, rfl⟩)
    obtain ⟨s, survived⟩ := install_survives page pc thumb code t ioSpace controller offset narrow
    rw [taken] at survived
    cases survived
  | some s =>
    obtain ⟨writable, active, address⟩ := install_eq page pc thumb code t ioSpace controller offset taken
    rw [Option.bind_some, Transition.run_single, uninstall_survives_iff page active (address ▸ next), writable,
      address]

end Machine

end ExMM.Arm
