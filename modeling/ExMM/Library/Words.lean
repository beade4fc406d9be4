import ExMM.Library.Bytes

namespace Words

def byte {w : Nat} (value : BitVec w) (i : Nat) : BitVec 8 := value.extractLsb' (8 * i) 8

def bytes (value : BitVec 32) : List (BitVec 8) := (List.range 4).map (byte value)

def load16 (memory : Nat → BitVec 8) (a : Nat) : BitVec 16 := memory (a + 1) ++ memory a

def load32 (memory : Nat → BitVec 8) (a : Nat) : BitVec 32 :=
  memory (a + 3) ++ memory (a + 2) ++ memory (a + 1) ++ memory a

def store {w : Nat} (memory : Nat → BitVec 8) (a : Nat) (value : BitVec w) : Nat → BitVec 8 :=
  Bytes.write memory a (w / 8) (byte value)

theorem byte_load32 (memory : Nat → BitVec 8) (a i : Nat) (bound : i < 4) :
    byte (load32 memory a) i = memory (a + i) := by
  unfold byte load32
  have cases : i = 0 ∨ i = 1 ∨ i = 2 ∨ i = 3 := by omega
  rcases cases with rfl | rfl | rfl | rfl
  · rw [BitVec.extractLsb'_append_eq_right]
    rfl
  · rw [BitVec.extractLsb'_append_eq_of_le (by omega), BitVec.extractLsb'_append_eq_right]
  · rw [BitVec.extractLsb'_append_eq_of_le (by omega), BitVec.extractLsb'_append_eq_of_le (by omega),
      BitVec.extractLsb'_append_eq_right]
  · rw [BitVec.extractLsb'_append_eq_of_le (by omega), BitVec.extractLsb'_append_eq_of_le (by omega),
      BitVec.extractLsb'_append_eq_left]

theorem load32_congr {left right : Nat → BitVec 8} {a : Nat}
    (same : ∀ i < 4, left (a + i) = right (a + i)) : load32 left a = load32 right a := by
  have first := same 0 (by omega)
  rw [Nat.add_zero] at first
  simp only [load32, first, same 1 (by omega), same 2 (by omega), same 3 (by omega)]

theorem append_bytes32 (value : BitVec 32) : value.extractLsb' 24 8 ++ value.extractLsb' 16 8 ++
    value.extractLsb' 8 8 ++ value.extractLsb' 0 8 = value := by
  rw [BitVec.extractLsb'_append_extractLsb'_eq_extractLsb' (by omega),
    BitVec.extractLsb'_append_extractLsb'_eq_extractLsb' (by omega),
    BitVec.extractLsb'_append_extractLsb'_eq_extractLsb' (by omega), BitVec.extractLsb'_eq_self]

theorem append_bytes16 (value : BitVec 16) : value.extractLsb' 8 8 ++ value.extractLsb' 0 8 = value := by
  rw [BitVec.extractLsb'_append_extractLsb'_eq_extractLsb' (by omega), BitVec.extractLsb'_eq_self]

theorem load32_of_bytes {memory : Nat → BitVec 8} {a : Nat} {value : BitVec 32}
    (bytes : ∀ i < 4, memory (a + i) = byte value i) : load32 memory a = value := by
  have first := bytes 0 (by omega)
  rw [Nat.add_zero] at first
  simp only [load32, first, bytes 1 (by omega), bytes 2 (by omega), bytes 3 (by omega), byte]
  exact append_bytes32 value

theorem load16_of_bytes {memory : Nat → BitVec 8} {a : Nat} {value : BitVec 16}
    (bytes : ∀ i < 2, memory (a + i) = byte value i) : load16 memory a = value := by
  have first := bytes 0 (by omega)
  rw [Nat.add_zero] at first
  simp only [load16, first, bytes 1 (by omega), byte]
  exact append_bytes16 value

theorem store_inside {w : Nat} (memory : Nat → BitVec 8) (a i : Nat) (value : BitVec w) (bound : i < w / 8) :
    store memory a value (a + i) = byte value i := by
  rw [store, Bytes.write_inside _ _ _ _ _ ⟨by omega, by omega⟩, Nat.add_sub_cancel_left]

theorem store_outside {w : Nat} (memory : Nat → BitVec 8) (a b : Nat) (value : BitVec w)
    (outside : ∀ i < w / 8, b ≠ a + i) : store memory a value b = memory b := by
  rw [store, Bytes.write_outside]
  rintro ⟨low, high⟩
  exact outside (b - a) (by omega) (by omega)

theorem load32_store (memory : Nat → BitVec 8) (a : Nat) (value : BitVec 32) :
    load32 (store memory a value) a = value :=
  load32_of_bytes fun i bound => store_inside memory a i value bound

theorem load32_store_apart (memory : Nat → BitVec 8) {a b : Nat} (value : BitVec 32) (apart : a + 4 ≤ b ∨ b + 4 ≤ a) :
    load32 (store memory a value) b = load32 memory b :=
  load32_congr fun i bound => store_outside memory a (b + i) value fun k small => by omega

section

variable {Register : Type} {offset : Register → Nat}

def bank (offset : Register → Nat) (memory : Nat → BitVec 8) (register : Register) : BitVec 32 :=
  load32 memory (offset register)

def Apart (offset : Register → Nat) : Prop :=
  ∀ first second, first ≠ second → offset first + 4 ≤ offset second ∨ offset second + 4 ≤ offset first

theorem bank_zero (offset : Register → Nat) : bank offset (fun _ => 0#8) = fun _ => 0#32 :=
  funext fun _ => (by decide : (0#8 ++ 0#8 ++ 0#8 ++ 0#8 : BitVec 32) = 0#32)

theorem bank_store [DecidableEq Register] (apart : Apart offset) (memory : Nat → BitVec 8) (register : Register)
    (value : BitVec 32) :
    bank offset (store memory (offset register) value) = Function.update (bank offset memory) register value := by
  funext other
  by_cases mine : other = register
  · subst mine
    rw [Function.update_self]
    exact load32_store memory _ value
  · rw [Function.update_of_ne mine]
    exact load32_store_apart memory value (apart register other (Ne.symm mine))

end

theorem read_load32 (memory : Nat → BitVec 8) (a : Nat) : Bytes.read memory a 4 = bytes (load32 memory a) :=
  List.map_congr_left fun i member => (byte_load32 memory a i (List.mem_range.mp member)).symm

theorem toNat_ofInt {value : Int} (positive : 0 ≤ value) (small : value < 0x100000000) :
    ((BitVec.ofInt 32 value).toNat : Int) = value := by
  rw [BitVec.toNat_ofInt, Int.toNat_of_nonneg (Int.emod_nonneg _ (by decide)), Int.emod_eq_of_lt positive (by omega)]

theorem and_bit_ne_zero (value : BitVec 32) {j : Nat} (bound : j < 32) :
    value &&& 1#32 <<< j ≠ 0 ↔ value.getLsbD j = true := by
  rw [← BitVec.twoPow_eq, BitVec.and_twoPow]
  cases set : value.getLsbD j with
  | false => simp
  | true =>
    have nonzero : BitVec.twoPow 32 j ≠ 0#32 := fun zero => by
      have bit := congrArg (fun word => word.getLsbD j) zero
      simp [bound] at bit
    simpa using nonzero

theorem getLsbD_clear (value : BitVec 32) (j k : Nat) :
    (value &&& ~~~(1#32 <<< j)).getLsbD k = (value.getLsbD k && !decide (k = j)) := by
  rw [← BitVec.twoPow_eq, BitVec.getLsbD_and, BitVec.getLsbD_not, BitVec.getLsbD_twoPow]
  by_cases inside : k < 32
  · by_cases same : j = k
    · subst same
      simp [inside]
    · simp [inside, same, Ne.symm same]
  · rw [BitVec.getLsbD_of_ge value k (by omega)]
    rfl

theorem getLsbD_set (value : BitVec 32) {j : Nat} (bound : j < 32) (k : Nat) :
    (value ||| 1#32 <<< j).getLsbD k = (value.getLsbD k || decide (k = j)) := by
  rw [← BitVec.twoPow_eq, BitVec.getLsbD_or, BitVec.getLsbD_twoPow]
  simp [bound, eq_comm]

end Words
