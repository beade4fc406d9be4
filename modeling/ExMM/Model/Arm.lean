import Mathlib.Logic.Function.Basic
import ExMM.Library.Run
import ExMM.Library.Words
import ExMM.Model.BreakPoint

namespace ExMM.Arm

abbrev Code := Nat → BitVec 8

structure Bkpt where
  Address : Nat
  Opcode : BitVec 32
  deriving DecidableEq, Repr

namespace Bkpt

def empty : Bkpt := { Address := 0, Opcode := 0 }

def save (code : Code) (addr : Nat) : Bkpt := { Address := addr, Opcode := Words.load32 code addr }

def restore (data : Bkpt) (code : Code) : Bkpt × Code :=
  if data.Address ≠ 0 then (empty, Words.store code data.Address data.Opcode) else (data, code)

end Bkpt

structure Thread where
  breakPoint : BreakPointData Bkpt
  thumb : Bool
  deriving DecidableEq, Repr

structure Machine where
  code : Code
  writable : Nat → Bool
  threads : ThreadId → Thread

def bkptArm : BitVec 32 := 0xE1200070
def bkptThumb : BitVec 16 := 0xBE00

def nextInstruction (code : Code) (addr : Nat) (thumb : Bool) : Nat :=
  if thumb then
    let current := Words.load16 code addr &&& 0xF800
    if current = 0xE800 ∨ current = 0xF000 ∨ current = 0xF800 then addr + 4 else addr + 2
  else addr + 4

def makeWritable (page addr : Nat) (writable : Nat → Bool) : Nat → Bool :=
  fun a => writable a || decide (addr - addr % page ≤ a ∧ a < addr - addr % page + page)

/-- A store inside a handler to a page that is not writable kills the process. -/
def storable (writable : Nat → Bool) (a width : Nat) : Bool :=
  (List.range width).all fun i => writable (a + i)

inductive Call
  | installBreakPoint (t : ThreadId) (pc : Nat) (thumb : Bool) (ioSpace : IoSpacePtr)
      (controller : Option ControllerPtr) (offset : Nat)
  | uninstallBreakPoint (t : ThreadId)
  deriving DecidableEq, Repr

namespace Machine

def plant (s : Machine) (thumb : Bool) (next : Nat) : Option Code :=
  if thumb then
    if storable s.writable next 2 then some (Words.store s.code next bkptThumb) else none
  else if storable s.writable next 4 then some (Words.store s.code next bkptArm) else none

/-- `UninstallBreakPoint` is called only when `GetBreakPoint` has found an active record. -/
def step (page : Nat) (s : Machine) : Call → Option Machine
  | .installBreakPoint t pc thumb ioSpace controller offset =>
    let opened := { s with writable := makeWritable page pc s.writable }
    let next := nextInstruction s.code pc thumb
    let data := (s.threads t).breakPoint.set ioSpace controller offset
    (opened.plant thumb next).map fun code =>
      { opened with
        code
        threads := Function.update s.threads t
          { breakPoint := { data with payload := Bkpt.save s.code next }, thumb } }
  | .uninstallBreakPoint t =>
    let thread := s.threads t
    if thread.breakPoint.active then
      let data := thread.breakPoint.unset
      if data.payload.Address = 0 ∨ storable s.writable data.payload.Address 4 then
        let (payload, code) := data.payload.restore s.code
        some { s with
          code
          threads := Function.update s.threads t { thread with breakPoint := { data with payload } } }
      else none
    else none

def start (code : Code) (writable : Nat → Bool) : Machine :=
  { code, writable, threads := fun _ => { breakPoint := .fresh .empty, thumb := false } }

end Machine

end ExMM.Arm
