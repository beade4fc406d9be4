import Mathlib.Data.List.Basic

namespace Bytes

variable {Cell : Type}

def read (memory : Nat → Cell) (address width : Nat) : List Cell :=
  (List.range width).map fun i => memory (address + i)

def write (memory : Nat → Cell) (address width : Nat) (value : Nat → Cell) : Nat → Cell :=
  fun a => if address ≤ a ∧ a < address + width then value (a - address) else memory a

theorem write_inside (memory : Nat → Cell) (address width : Nat) (value : Nat → Cell) (a : Nat)
    (inside : address ≤ a ∧ a < address + width) :
    write memory address width value a = value (a - address) := if_pos inside

theorem write_outside (memory : Nat → Cell) (address width : Nat) (value : Nat → Cell) (a : Nat)
    (outside : ¬ (address ≤ a ∧ a < address + width)) :
    write memory address width value a = memory a := if_neg outside

theorem write_self (memory : Nat → Cell) (address width : Nat) (value : Nat → Cell)
    (same : ∀ i < width, value i = memory (address + i)) : write memory address width value = memory := by
  funext a
  by_cases inside : address ≤ a ∧ a < address + width
  · rw [write_inside memory address width value a inside, same (a - address) (by omega)]
    congr 1
    omega
  · exact write_outside memory address width value a inside

end Bytes
