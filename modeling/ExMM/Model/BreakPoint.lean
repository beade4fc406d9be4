import ExMM.Model.Platform

namespace ExMM

/-- The thread-local record of breakpoint.hpp; null pointers are `none`. -/
structure BreakPointData (Payload : Type) where
  ioSpace : Option IoSpacePtr
  controller : Option ControllerPtr
  offset : Nat
  active : Bool
  payload : Payload
  deriving DecidableEq, Repr

namespace BreakPointData

variable {Payload : Type}

def fresh (payload : Payload) : BreakPointData Payload :=
  { ioSpace := none, controller := none, offset := 0, active := false, payload }

def setIoSpace (data : BreakPointData Payload) (ioSpace : IoSpacePtr) : BreakPointData Payload :=
  { data with ioSpace := some ioSpace, controller := none, offset := 0, active := true }

def set (data : BreakPointData Payload) (ioSpace : IoSpacePtr) (controller : Option ControllerPtr)
    (offset : Nat) : BreakPointData Payload :=
  { data with ioSpace := some ioSpace, controller, offset, active := true }

def unset (data : BreakPointData Payload) : BreakPointData Payload :=
  { data with ioSpace := none, controller := none, offset := 0, active := false }

@[simp] theorem unset_set (data : BreakPointData Payload) (ioSpace : IoSpacePtr)
    (controller : Option ControllerPtr) (offset : Nat) :
    (data.set ioSpace controller offset).unset = data.unset := rfl

@[simp] theorem unset_fresh (payload : Payload) : (fresh payload).unset = fresh payload := rfl

end BreakPointData

end ExMM
