import ExMM.Library.Words
import ExMM.Model.Driver
import ExMM.Model.SwitchField

namespace ExMM

variable {Object : Type}

def ArrayField.words (start count : Nat) (bounded : start + 4 * count ≤ maxObject) : ArrayField where
  start := start
  size := 4
  count := count
  positive := Nat.succ_pos 3
  bounded := bounded

abbrev Callback (Object : Type) := Nat → Nat → (Nat → Byte) × Object → (Nat → Byte) × Object

/-- The selectors that go into structures have callbacks that only go on with the nested chain. -/
def Invocation.perform (hooked : (Nat → Byte) × Object) : Invocation (Callback Object) → (Nat → Byte) × Object
  | .case callback address => callback 0 address hooked
  | .caseArray _ callback index address => callback index address hooked
  | .insideArray _ _ _ _ _ => hooked
  | .else' callback offset => callback 0 offset hooked

def Chain.hook (chain : Chain (Callback Object)) (file : Nat → Byte) (offset : Nat) (object : Object) :
    (Nat → Byte) × Object :=
  (chain.invocations 0 offset).foldl Invocation.perform (file, object)

def Invocation.map {Name Body : Type} (body : Name → Body) : Invocation Name → Invocation Body
  | .case callback address => .case (body callback) address
  | .caseArray field callback index address => .caseArray field (body callback) index address
  | .insideArray field callback index registers offset => .insideArray field (body callback) index registers offset
  | .else' callback offset => .else' (body callback) offset

def Chain.hookOf {Name : Type} (chain : Chain Name) (body : Name → Callback Object) (file : Nat → Byte)
    (offset : Nat) (object : Object) : (Nat → Byte) × Object :=
  (chain.invocations 0 offset).foldl (fun hooked call => (call.map body).perform hooked) (file, object)

end ExMM
