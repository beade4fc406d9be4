import ExMM.Model.FieldHelper

namespace ExMM

structure ArrayField where
  start : Nat
  size : Nat
  count : Nat
  positive : 0 < size
  bounded : start + size * count ≤ maxObject

structure StructField where
  start : Nat
  size : Nat
  positive : 0 < size
  bounded : start + size ≤ maxObject

def StructField.array (field : StructField) : ArrayField where
  start := field.start
  size := field.size
  count := 1
  positive := field.positive
  bounded := by simpa using field.bounded

/-- A chain of selector calls on one helper, in order. Members may overlap, and nested chains may depend on
    the index. `Else` returns nothing, but the helper can be used again in a later statement. -/
inductive Chain (Callback : Type)
  | done
  | case (field : Nat) (callback : Callback) (rest : Chain Callback)
  | caseArray (field : ArrayField) (callback : Callback) (rest : Chain Callback)
  | insideArray (field : ArrayField) (callback : Callback) (nested : Nat → Chain Callback)
      (rest : Chain Callback)
  | else' (callback : Callback) (rest : Chain Callback)

inductive Invocation (Callback : Type)
  | case (callback : Callback) (address : Nat)
  | caseArray (field : ArrayField) (callback : Callback) (index address : Nat)
  | insideArray (field : ArrayField) (callback : Callback) (index registers offset : Nat)
  | else' (callback : Callback) (offset : Nat)

namespace Chain

variable {Callback : Type}

def call : Chain Callback → FieldHelper → FieldHelper × List (Invocation Callback)
  | .done, helper => (helper, [])
  | .case field callback rest, helper =>
    let selected := helper.case' field fun address => [Invocation.case callback address]
    let chained := rest.call selected.1
    (chained.1, selected.2 ++ chained.2)
  | .caseArray field callback rest, helper =>
    let selected := helper.caseArray field.start field.size field.count fun index address =>
      [Invocation.caseArray field callback index address]
    let chained := rest.call selected.1
    (chained.1, selected.2 ++ chained.2)
  | .insideArray field callback nested rest, helper =>
    let selected := helper.insideArray field.start field.size field.count fun index next =>
      Invocation.insideArray field callback index next.registers next.offset :: ((nested index).call next).2
    let chained := rest.call selected.1
    (chained.1, selected.2 ++ chained.2)
  | .else' callback rest, helper =>
    let calls := helper.else' fun offset => [Invocation.else' callback offset]
    let chained := rest.call helper
    (chained.1, calls ++ chained.2)

def invocations (chain : Chain Callback) (data offset : Nat) : List (Invocation Callback) :=
  (chain.call (switchField data offset)).2

end Chain

end ExMM
