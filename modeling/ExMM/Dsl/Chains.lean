import ExMM.Dsl.Dispatch
import ExMM.Model.SwitchField

namespace ExMM

inductive Entry
  | case (field : Nat)
  | caseArray (field : ArrayField)
  | insideArray (field : ArrayField)

def Entry.Contains (offset : Nat) : Entry → Prop
  | .case field => offset = field
  | .caseArray field => ∃ i < field.count, offset = field.start + i * field.size
  | .insideArray field => field.start ≤ offset ∧ offset < field.start + field.count * field.size

namespace Chain

variable {Callback : Type}

/-- The calls a chain stands for at one level, where `base` is the address of the structure and `earlier`
    are the entries of that level already passed. -/
inductive Fires : Nat → Nat → List Entry → Chain Callback → List (Invocation Callback) → Prop
  | done (base offset : Nat) (earlier : List Entry) : Fires base offset earlier .done []
  | case {base offset earlier field callback rest calls} (contains : (Entry.case field).Contains offset)
      (later : Fires base offset (earlier ++ [.case field]) rest calls) :
      Fires base offset earlier (.case field callback rest) (.case callback (base + offset) :: calls)
  | caseMissed {base offset earlier field callback rest calls}
      (missed : ¬ (Entry.case field).Contains offset)
      (later : Fires base offset (earlier ++ [.case field]) rest calls) :
      Fires base offset earlier (.case field callback rest) calls
  | caseArray {base offset earlier field callback rest calls} (index : Nat) (bound : index < field.count)
      (contains : offset = field.start + index * field.size)
      (later : Fires base offset (earlier ++ [.caseArray field]) rest calls) :
      Fires base offset earlier (.caseArray field callback rest)
        (.caseArray field callback index (base + offset) :: calls)
  | caseArrayMissed {base offset earlier field callback rest calls}
      (missed : ¬ (Entry.caseArray field).Contains offset)
      (later : Fires base offset (earlier ++ [.caseArray field]) rest calls) :
      Fires base offset earlier (.caseArray field callback rest) calls
  | insideArray {base offset earlier field callback nested rest inner calls} (index remainder : Nat)
      (bound : index < field.count) (within : remainder < field.size)
      (contains : offset = field.start + index * field.size + remainder)
      (deeper : Fires (base + field.start + index * field.size) remainder [] (nested index) inner)
      (later : Fires base offset (earlier ++ [.insideArray field]) rest calls) :
      Fires base offset earlier (.insideArray field callback nested rest)
        (.insideArray field callback index (base + field.start + index * field.size) remainder ::
          inner ++ calls)
  | insideArrayMissed {base offset earlier field callback nested rest calls}
      (missed : ¬ (Entry.insideArray field).Contains offset)
      (later : Fires base offset (earlier ++ [.insideArray field]) rest calls) :
      Fires base offset earlier (.insideArray field callback nested rest) calls
  | else' {base offset earlier callback rest calls} (unmatched : ∀ entry ∈ earlier, ¬ entry.Contains offset)
      (later : Fires base offset earlier rest calls) :
      Fires base offset earlier (.else' callback rest) (.else' callback offset :: calls)
  | elseMissed {base offset earlier callback rest calls} (matched : ∃ entry ∈ earlier, entry.Contains offset)
      (later : Fires base offset earlier rest calls) :
      Fires base offset earlier (.else' callback rest) calls

end Chain

def Invocation.Reaches {Callback : Type} (address : Nat) : Invocation Callback → Prop
  | .case _ reference => reference = address
  | .caseArray field _ index reference => index < field.count ∧ reference = address
  | .insideArray field _ index registers offset =>
    index < field.count ∧ offset < field.size ∧ registers + offset = address
  | .else' _ _ => True

section

variable {field : ArrayField} {offset index remainder : Nat}

theorem ArrayField.ending (field : ArrayField) :
    (field.start + field.size * field.count) % addressSpace = field.start + field.count * field.size := by
  rw [Members.no_wrap (Nat.le_trans field.bounded (Nat.le_add_left _ _)), Nat.mul_comm]

theorem sameField_iff {start : Nat} : sameField offset start = true ↔ (Entry.case start).Contains offset := by
  simp only [sameField, beq_iff_eq, Entry.Contains]
  exact eq_comm

theorem sameFieldArray_some :
    sameFieldArray offset field.start field.size field.count = some index ↔
      index < field.count ∧ offset = field.start + index * field.size := by
  constructor
  · intro found
    simp only [sameFieldArray, field.ending] at found
    split at found
    · rename_i within
      split at found
      · rename_i divides
        cases found
        have whole := Nat.div_add_mod (offset - field.start) field.size
        rw [divides, Nat.add_zero, Nat.mul_comm] at whole
        refine ⟨?_, by omega⟩
        rw [Nat.div_lt_iff_lt_mul field.positive]
        omega
      · cases found
    · cases found
  · rintro ⟨bound, rfl⟩
    exact Members.sameFieldArray_leaf field.positive bound field.bounded

theorem sameFieldArray_none :
    sameFieldArray offset field.start field.size field.count = none ↔
      ¬ (Entry.caseArray field).Contains offset := by
  rw [Option.eq_none_iff_forall_ne_some]
  simp only [ne_eq, sameFieldArray_some, Entry.Contains, not_exists]

theorem insideFieldArray_some :
    insideFieldArray offset field.start field.size field.count = some (index, remainder) ↔
      index < field.count ∧ remainder < field.size ∧
        offset = field.start + index * field.size + remainder := by
  constructor
  · intro found
    simp only [insideFieldArray, field.ending] at found
    split at found
    · cases found
      have whole := Nat.div_add_mod (offset - field.start) field.size
      rw [Nat.mul_comm] at whole
      refine ⟨?_, Nat.mod_lt _ field.positive, by omega⟩
      rw [Nat.div_lt_iff_lt_mul field.positive]
      omega
    · cases found
  · rintro ⟨bound, within, rfl⟩
    exact Members.insideFieldArray_leaf within bound field.bounded

theorem insideFieldArray_none :
    insideFieldArray offset field.start field.size field.count = none ↔
      ¬ (Entry.insideArray field).Contains offset := by
  simp only [insideFieldArray, field.ending, Entry.Contains, ge_iff_le]
  split
  · rename_i within
    simp [within]
  · rename_i outside
    simp [outside]

theorem insideArray_contains (bound : index < field.count) (within : remainder < field.size)
    (contains : offset = field.start + index * field.size + remainder) :
    (Entry.insideArray field).Contains offset := by
  have inside := Members.element_le bound within
  rw [Nat.mul_comm field.size] at inside
  exact ⟨by omega, by omega⟩

end

namespace Chain

variable {Callback : Type}

/-- The flag of a helper says whether an earlier entry of its level has matched. -/
def Tracks (helper : FieldHelper) (earlier : List Entry) : Prop :=
  helper.somethingMatched = true ↔ ∃ entry ∈ earlier, entry.Contains helper.offset

theorem Tracks.fresh (registers offset : Nat) :
    Tracks { registers, offset, somethingMatched := false } [] := by
  simp [Tracks]

theorem Tracks.hit {helper : FieldHelper} {earlier : List Entry} {entry : Entry}
    (contains : entry.Contains helper.offset) :
    Tracks { helper with somethingMatched := true } (earlier ++ [entry]) := by
  simp only [Tracks, true_iff]
  exact ⟨entry, by simp, contains⟩

theorem Tracks.missed {helper : FieldHelper} {earlier : List Entry} {entry : Entry}
    (tracks : Tracks helper earlier) (missed : ¬ entry.Contains helper.offset) :
    Tracks helper (earlier ++ [entry]) := by
  unfold Tracks at tracks ⊢
  rw [tracks]
  constructor
  · rintro ⟨other, member, contains⟩
    exact ⟨other, List.mem_append_left _ member, contains⟩
  · rintro ⟨other, member, contains⟩
    rcases List.mem_append.mp member with before | last
    · exact ⟨other, before, contains⟩
    · rw [List.mem_singleton.mp last] at contains
      exact absurd contains missed

theorem call_fires (chain : Chain Callback) {helper : FieldHelper} {earlier : List Entry}
    (tracks : Tracks helper earlier) :
    Fires helper.registers helper.offset earlier chain (chain.call helper).2 := by
  induction chain generalizing helper earlier with
  | done => exact .done _ _ _
  | case field callback rest ih =>
    simp only [call, FieldHelper.case']
    by_cases same : sameField helper.offset field = true
    · have contains := sameField_iff.mp same
      have address : helper.registers + field = helper.registers + helper.offset :=
        congrArg (helper.registers + ·) contains.symm
      rw [if_pos same, address]
      exact .case contains (ih (.hit contains))
    · have missed := fun contains => same (sameField_iff.mpr contains)
      rw [if_neg same]
      exact .caseMissed missed (ih (tracks.missed missed))
  | caseArray field callback rest ih =>
    simp only [call, FieldHelper.caseArray]
    cases found : sameFieldArray helper.offset field.start field.size field.count with
    | none =>
      have missed := sameFieldArray_none.mp found
      exact .caseArrayMissed missed (ih (tracks.missed missed))
    | some index =>
      obtain ⟨bound, contains⟩ := sameFieldArray_some.mp found
      have address : helper.registers + field.start + index * field.size =
          helper.registers + helper.offset := by omega
      simp only [address]
      have matched : (Entry.caseArray field).Contains helper.offset := ⟨index, bound, contains⟩
      exact .caseArray index bound contains (ih (.hit matched))
  | insideArray field callback nested rest ihNested ih =>
    simp only [call, FieldHelper.insideArray]
    cases found : insideFieldArray helper.offset field.start field.size field.count with
    | none =>
      have missed := insideFieldArray_none.mp found
      exact .insideArrayMissed missed (ih (tracks.missed missed))
    | some both =>
      obtain ⟨index, remainder⟩ := both
      obtain ⟨bound, within, contains⟩ := insideFieldArray_some.mp found
      have matched := insideArray_contains bound within contains
      exact .insideArray index remainder bound within contains (ihNested index (.fresh _ _)) (ih (.hit matched))
  | else' callback rest ih =>
    simp only [call, FieldHelper.else']
    by_cases matched : helper.somethingMatched = true
    · rw [if_pos matched]
      exact .elseMissed (tracks.mp matched) (ih tracks)
    · rw [if_neg matched]
      refine .else' (fun entry member contains => matched (tracks.mpr ⟨entry, member, contains⟩)) (ih tracks)

theorem Fires.unique {base offset : Nat} {earlier : List Entry} {chain : Chain Callback}
    {calls other : List (Invocation Callback)} (first : Fires base offset earlier chain calls)
    (second : Fires base offset earlier chain other) : calls = other := by
  induction first generalizing other with
  | done => cases second; rfl
  | case contains later ih =>
    cases second with
    | case _ later' => rw [ih later']
    | caseMissed missed later' => exact absurd contains missed
  | caseMissed missed later ih =>
    cases second with
    | case contains later' => exact absurd contains missed
    | caseMissed _ later' => exact ih later'
  | caseArray index bound contains later ih =>
    cases second with
    | caseArray index' bound' contains' later' =>
      have found := sameFieldArray_some.mpr ⟨bound, contains⟩
      rw [sameFieldArray_some.mpr ⟨bound', contains'⟩] at found
      cases found
      rw [ih later']
    | caseArrayMissed missed later' => exact absurd ⟨index, bound, contains⟩ missed
  | caseArrayMissed missed later ih =>
    cases second with
    | caseArray index bound contains later' => exact absurd ⟨index, bound, contains⟩ missed
    | caseArrayMissed _ later' => exact ih later'
  | insideArray index remainder bound within contains deeper later ihDeeper ih =>
    cases second with
    | insideArray index' remainder' bound' within' contains' deeper' later' =>
      have found := insideFieldArray_some.mpr ⟨bound, within, contains⟩
      rw [insideFieldArray_some.mpr ⟨bound', within', contains'⟩] at found
      cases found
      rw [ihDeeper deeper', ih later']
    | insideArrayMissed missed later' =>
      exact absurd (insideArray_contains bound within contains) missed
  | insideArrayMissed missed later ih =>
    cases second with
    | insideArray index remainder bound within contains deeper later' =>
      exact absurd (insideArray_contains bound within contains) missed
    | insideArrayMissed _ later' => exact ih later'
  | else' unmatched later ih =>
    cases second with
    | else' _ later' => rw [ih later']
    | elseMissed matched later' =>
      obtain ⟨entry, member, contains⟩ := matched
      exact absurd contains (unmatched entry member)
  | elseMissed matched later ih =>
    cases second with
    | else' unmatched later' =>
      obtain ⟨entry, member, contains⟩ := matched
      exact absurd contains (unmatched entry member)
    | elseMissed _ later' => exact ih later'

theorem Fires.reaches {base offset : Nat} {earlier : List Entry} {chain : Chain Callback}
    {calls : List (Invocation Callback)} (fires : Fires base offset earlier chain calls) :
    ∀ call ∈ calls, call.Reaches (base + offset) := by
  induction fires with
  | done => intro call member; cases member
  | case contains later ih => exact List.forall_mem_cons.mpr ⟨rfl, ih⟩
  | caseMissed missed later ih => exact ih
  | caseArray index bound contains later ih => exact List.forall_mem_cons.mpr ⟨⟨bound, rfl⟩, ih⟩
  | caseArrayMissed missed later ih => exact ih
  | insideArray index remainder bound within contains deeper later ihDeeper ih =>
    rename_i base offset earlier field callback nested rest inner calls
    have address : base + field.start + index * field.size + remainder = base + offset := by omega
    rw [address] at ihDeeper
    refine List.forall_mem_cons.mpr ⟨⟨bound, within, address⟩, ?_⟩
    intro call member
    rcases List.mem_append.mp member with inside | after
    · exact ihDeeper call inside
    · exact ih call after
  | insideArrayMissed missed later ih => exact ih
  | else' unmatched later ih => exact List.forall_mem_cons.mpr ⟨trivial, ih⟩
  | elseMissed matched later ih => exact ih

end Chain

/-- A chain calls exactly what its entries stand for, in order, and every reference and every nested
    helper leads to the accessed byte. -/
theorem chain_calls_matching {Callback : Type} (chain : Chain Callback) (data offset : Nat) :
    (∀ calls, Chain.Fires data offset [] chain calls ↔ calls = chain.invocations data offset) ∧
      ∀ call ∈ chain.invocations data offset, call.Reaches (data + offset) := by
  have fires : Chain.Fires data offset [] chain (chain.invocations data offset) :=
    chain.call_fires (Chain.Tracks.fresh data offset)
  refine ⟨fun calls => ⟨fun other => other.unique fires, fun same => same ▸ fires⟩, fires.reaches⟩

namespace Controller102

inductive Callback
  | controlWord
  | statusWord
  | currentTimeHi
  | currentTimeLo
  | notUsed
  | timers
  | triggerTimeHi
  | triggerTimeLo
  | notObserved
  deriving DecidableEq, Repr

def notUsed : ArrayField := ⟨20, 4, 3, by decide, by decide⟩
def timers : ArrayField := ⟨32, 8, 8, by decide, by decide⟩

def hookRead : Chain Callback :=
  .case 0 .controlWord (.case 4 .statusWord (.case 12 .currentTimeHi (.case 16 .currentTimeLo
    (.caseArray notUsed .notUsed (.else' .notObserved .done)))))

def hookWrite : Chain Callback :=
  .case 0 .controlWord (.case 4 .statusWord (.insideArray timers .timers
    (fun _ => .case 0 .triggerTimeHi (.case 4 .triggerTimeLo .done)) (.else' .notObserved .done)))

example : hookWrite.invocations 0x1000 52 =
    [.insideArray timers .timers 2 0x1030 4, .case .triggerTimeLo 0x1034] := rfl

example : hookRead.invocations 0x1000 52 = [.else' .notObserved 52] := rfl

end Controller102

def InsideAgrees (field : StructField) (data offset : Nat) : Prop :=
  let contained := field.start ≤ offset ∧ offset < field.start + field.size
  let nested : FieldHelper :=
    { registers := data + field.start, offset := offset - field.start, somethingMatched := false }
  let expected : FieldHelper × List FieldHelper :=
    ({ switchField data offset with somethingMatched := decide contained },
      if contained then [nested] else [])
  (switchField data offset).inside field.start field.size (fun next => [next]) = expected ∧
    (switchField data offset).insideArray field.array.start field.array.size field.array.count
      (fun _ next => [next]) = expected

theorem insideArray_single (field : StructField) (data offset : Nat) :
    (switchField data offset).insideArray field.array.start field.array.size field.array.count
      (fun _ next => [next]) =
    ({ switchField data offset with
        somethingMatched := decide (field.start ≤ offset ∧ offset < field.start + field.size) },
      if field.start ≤ offset ∧ offset < field.start + field.size then
        [{ registers := data + field.start, offset := offset - field.start, somethingMatched := false }]
      else []) := by
  by_cases contained : field.start ≤ offset ∧ offset < field.start + field.size
  · have found : insideFieldArray offset field.array.start field.array.size field.array.count =
        some (0, offset - field.start) :=
      insideFieldArray_some.mpr ⟨Nat.one_pos, (by omega : offset - field.start < field.size),
        (by omega : offset = field.start + 0 * field.size + (offset - field.start))⟩
    simp only [FieldHelper.insideArray, switchField, found, contained, and_self, if_true, decide_true,
      Nat.zero_mul, Nat.add_zero]
    rfl
  · have missed : insideFieldArray offset field.array.start field.array.size field.array.count = none := by
      refine insideFieldArray_none.mpr fun within => contained ?_
      obtain ⟨low, high⟩ := within
      simp only [StructField.array, Nat.one_mul] at low high
      exact ⟨low, high⟩
    simp only [FieldHelper.insideArray, switchField, missed, if_neg contained, decide_eq_false contained]

theorem insideField_some (field : StructField) (offset nested : Nat) :
    insideField offset field.start field.size = some nested ↔
      offset ≤ field.start ∧ field.start < offset + field.size ∧ nested = field.start - offset := by
  have bounded := field.bounded
  unfold insideField
  by_cases low : offset ≤ field.start
  · rw [Members.no_wrap (by omega)]
    simp only [ge_iff_le, low, true_and]
    split
    · rename_i high
      simp [high, eq_comm]
    · rename_i high
      simp [high]
  · simp [low]

/-- `InsideField` compares the wrong way round: it is right at the first byte, and where both ways fail. -/
theorem inside_agrees_iff (field : StructField) (data offset : Nat) :
    InsideAgrees field data offset ↔
      offset = field.start ∨ offset + field.size ≤ field.start ∨ field.start + field.size ≤ offset := by
  have positive := field.positive
  simp only [InsideAgrees, insideArray_single, and_true]
  cases found : insideField offset field.start field.size with
  | none =>
    have outside : ¬ (offset ≤ field.start ∧ field.start < offset + field.size) := by
      rintro ⟨low, high⟩
      rw [(insideField_some field offset _).mpr ⟨low, high, rfl⟩] at found
      cases found
    simp only [FieldHelper.inside, switchField, found]
    by_cases contained : field.start ≤ offset ∧ offset < field.start + field.size
    · simp only [contained, and_self, decide_true, if_true, Prod.mk.injEq, FieldHelper.mk.injEq,
        Bool.false_eq_true, and_false, false_and, false_iff]
      omega
    · simp only [if_neg contained, decide_eq_false contained, true_iff]
      omega
  | some nested =>
    obtain ⟨low, high, rfl⟩ := (insideField_some field offset nested).mp found
    simp only [FieldHelper.inside, switchField, found]
    by_cases first : offset = field.start
    · subst first
      simp [positive]
    · have outside : ¬ (field.start ≤ offset ∧ offset < field.start + field.size) := by omega
      simp only [if_neg outside, Prod.mk.injEq, reduceCtorEq, and_false, false_iff]
      omega

/-- At the second register of a structure of two `Inside` is silent, and in front of one it answers. -/
theorem inside_disagrees :
    ¬ InsideAgrees ⟨0, 8, by decide, by decide⟩ 0x1000 4 ∧
      ¬ InsideAgrees ⟨4, 8, by decide, by decide⟩ 0x1000 0 := by
  unfold InsideAgrees
  decide

end ExMM
