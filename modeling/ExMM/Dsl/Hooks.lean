import ExMM.Dsl.Chains
import ExMM.Model.Hooks

namespace ExMM

variable {Object Name : Type}

/-- A hook does what the entries stand for that its offset meets, in order. -/
theorem Chain.hook_fires {chain : Chain (Callback Object)} {offset : Nat} {calls : List (Invocation (Callback Object))}
    (fires : Chain.Fires 0 offset [] chain calls) (file : Nat → Byte) (object : Object) :
    chain.hook file offset object = calls.foldl Invocation.perform (file, object) := by
  have called : Chain.Fires 0 offset [] chain (chain.invocations 0 offset) :=
    chain.call_fires (Chain.Tracks.fresh 0 offset)
  rw [Chain.hook, called.unique fires]

def Invocation.callback : Invocation Name → Name
  | .case callback _ => callback
  | .caseArray _ callback _ _ => callback
  | .insideArray _ callback _ _ _ => callback
  | .else' callback _ => callback

def Chain.All (holds : Name → Prop) : Chain Name → Prop
  | .done => True
  | .case _ callback rest => holds callback ∧ rest.All holds
  | .caseArray _ callback rest => holds callback ∧ rest.All holds
  | .insideArray _ callback nested rest => holds callback ∧ (∀ index, (nested index).All holds) ∧ rest.All holds
  | .else' callback rest => holds callback ∧ rest.All holds

theorem Chain.Fires.all {holds : Name → Prop} {base offset : Nat} {earlier : List Entry} {chain : Chain Name}
    {calls : List (Invocation Name)} (fires : Chain.Fires base offset earlier chain calls) (all : chain.All holds) :
    ∀ call ∈ calls, holds call.callback := by
  induction fires with
  | done => intro call member; cases member
  | case contains later ih => exact List.forall_mem_cons.mpr ⟨all.1, ih all.2⟩
  | caseMissed missed later ih => exact ih all.2
  | caseArray index bound contains later ih => exact List.forall_mem_cons.mpr ⟨all.1, ih all.2⟩
  | caseArrayMissed missed later ih => exact ih all.2
  | insideArray index remainder bound within contains deeper later ihDeeper ih =>
    refine List.forall_mem_cons.mpr ⟨all.1, ?_⟩
    intro call member
    rcases List.mem_append.mp member with inside | after
    · exact ihDeeper (all.2.1 index) call inside
    · exact ih all.2.2 call after
  | insideArrayMissed missed later ih => exact ih all.2.2
  | else' unmatched later ih => exact List.forall_mem_cons.mpr ⟨all.1, ih all.2⟩
  | elseMissed matched later ih => exact ih all.2

def Callback.Keeps (related : Object → Object → Prop) (callback : Callback Object) : Prop :=
  ∀ index address hooked, related hooked.2 (callback index address hooked).2

theorem Invocation.perform_keeps {related : Object → Object → Prop} (refl : ∀ object, related object object)
    (trans : ∀ {first second third}, related first second → related second third → related first third)
    (body : Name → Callback Object) {calls : List (Invocation Name)}
    (kept : ∀ call ∈ calls, Callback.Keeps related (body call.callback)) (hooked : (Nat → Byte) × Object) :
    related hooked.2 (calls.foldl (fun hooked call => (call.map body).perform hooked) hooked).2 := by
  induction calls generalizing hooked with
  | nil => exact refl hooked.2
  | cons call rest ih =>
    have later := ih (fun other member => kept other (List.mem_cons_of_mem _ member)) ((call.map body).perform hooked)
    refine trans ?_ later
    cases call with
    | insideArray field callback index registers offset => exact refl hooked.2
    | _ => exact kept _ List.mem_cons_self _ _ hooked

end ExMM
