import Std.Data.TreeMap.Lemmas
import ExMM.Model.Platform

namespace ExMM

structure IoSpace where
  hookTypes : HookTypes
  size : Nat
  publicArea : Nat
  privateArea : Nat
  deriving DecidableEq, Repr

def IoSpace.Contains (space : IoSpace) (a : Nat) : Prop :=
  space.publicArea ≤ a ∧ a < space.publicArea + space.size

instance (space : IoSpace) (a : Nat) : Decidable (space.Contains a) :=
  inferInstanceAs (Decidable (_ ∧ _))

/-- Pointers are 64 bits wide; `first + Size()` wraps around. -/
def addressSpace : Nat := 0x10000000000000000

structure Found where
  controller : ControllerPtr
  ioSpace : IoSpacePtr
  offset : Nat
  deriving DecidableEq, Repr

/-- `ioMap`, keyed and walked by the address of the controller, and the heap of live `IoSpace`
    objects its values point into. -/
structure Registry where
  initialized : Bool
  ioMap : Std.TreeMap ControllerPtr IoSpacePtr
  ioSpaces : Std.TreeMap IoSpacePtr IoSpace

def Registry.empty : Registry := { initialized := false, ioMap := ∅, ioSpaces := ∅ }

def Registry.initPlatform (registry : Registry) : Registry :=
  if registry.initialized then registry else { registry with initialized := true }

structure Allocation where
  ioSpace : IoSpacePtr
  publicArea : Nat
  privateArea : Nat
  deriving DecidableEq, Repr

/-- `std::map::insert` keeps an entry that is already there. -/
def Registry.add (registry : Registry) (controller : ControllerPtr) (size : Nat) (hookTypes : HookTypes)
    (allocation : Allocation) : Registry × IoSpacePtr :=
  let registry := registry.initPlatform
  let space : IoSpace :=
    { hookTypes, size, publicArea := allocation.publicArea, privateArea := allocation.privateArea }
  ({ registry with
      ioMap := registry.ioMap.insertIfNew controller allocation.ioSpace
      ioSpaces := registry.ioSpaces.insert allocation.ioSpace space },
    allocation.ioSpace)

def Registry.remove (registry : Registry) (controller : ControllerPtr) : Registry :=
  match registry.ioMap[controller]? with
  | some ioSpace =>
    { registry with
      ioMap := registry.ioMap.erase controller
      ioSpaces := registry.ioSpaces.erase ioSpace }
  | none => registry

/-- The loop of `FindController`. The outer `none` is the dereference of a deleted `IoSpace`; the
    inner one is the result false with null pointers. -/
def scan (ioSpaces : Std.TreeMap IoSpacePtr IoSpace) (rawData : Nat) :
    List (ControllerPtr × IoSpacePtr) → Option (Option Found)
  | [] => some none
  | (controller, ioSpace) :: rest => do
    let space ← ioSpaces[ioSpace]?
    let first := space.publicArea
    let last := (first + space.size) % addressSpace
    if rawData ≥ first ∧ rawData < last then
      some (some { controller, ioSpace, offset := rawData - first })
    else
      scan ioSpaces rawData rest

def Registry.findController (registry : Registry) (rawData : Nat) : Option (Option Found) :=
  scan registry.ioSpaces rawData registry.ioMap.toList

/-- The kernel's side: the live public mapping an address lies in. -/
def Registry.mapping (registry : Registry) (a : Nat) : Option IoSpacePtr :=
  (registry.ioSpaces.toList.find? fun entry => entry.2.Contains a).map Prod.fst

def Registry.owner (registry : Registry) (a : Nat) : Option Found := do
  let ioSpace ← registry.mapping a
  let space ← registry.ioSpaces[ioSpace]?
  let entry ← registry.ioMap.toList.find? fun entry => entry.2 == ioSpace
  some { controller := entry.1, ioSpace, offset := a - space.publicArea }

inductive Lifetime
  | construct (controller : ControllerPtr) (size : Nat) (hookTypes : HookTypes) (allocation : Allocation)
  | destroy (controller : ControllerPtr)
  deriving DecidableEq, Repr

def Registry.apply (registry : Registry) : Lifetime → Registry
  | .construct controller size hookTypes allocation => (registry.add controller size hookTypes allocation).1
  | .destroy controller => registry.remove controller

def Registry.after (events : List Lifetime) : Registry := events.foldl Registry.apply Registry.empty

end ExMM
