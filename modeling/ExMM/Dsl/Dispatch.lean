import Mathlib.Logic.Basic
import ExMM.Dsl.Selectors

namespace ExMM

namespace Members

/-- `offset` is relative to the structure. At every level of the path a nested structure is entered at
    its first byte, and no structure begins behind the offset by less than its own size. -/
def Reached : Members → Path → Nat → Prop
  | _, [], _ => True
  | members, ⟨member, _⟩ :: rest, offset =>
    (∀ position start size inner, members.get? position = some (start, .struct size inner) →
      ¬ (offset < start ∧ start < offset + size)) ∧
    match members.get? member with
    | some (start, .struct _ inner) => offset = start ∧ inner.Reached rest 0
    | some (start, .structArray size _ inner) => inner.Reached rest ((offset - start) % size)
    | _ => True

theorem WellFormed.get {members : Members} {size member start : Nat} {field : Field}
    (formed : members.WellFormed size) (got : members.get? member = some (start, field)) :
    field.WellFormed ∧ start + field.size ≤ size := by
  match members, member with
  | .nil, _ => cases got
  | .cons _ _ _, 0 =>
    cases got
    exact ⟨formed.1, formed.2.1⟩
  | .cons _ _ rest, member + 1 => exact WellFormed.get formed.2.2.2 got

theorem Apart.get {members : Members} {first last member start : Nat} {field : Field}
    (apart : members.Apart first last) (got : members.get? member = some (start, field)) :
    start + field.size ≤ first ∨ last ≤ start := by
  match members, member with
  | .nil, _ => cases got
  | .cons _ _ _, 0 =>
    cases got
    exact apart.1
  | .cons _ _ rest, member + 1 => exact Apart.get apart.2 got

theorem WellFormed.disjoint {members : Members} {size left right leftStart rightStart : Nat}
    {leftField rightField : Field} (formed : members.WellFormed size)
    (gotL : members.get? left = some (leftStart, leftField))
    (gotR : members.get? right = some (rightStart, rightField)) (different : left ≠ right) :
    leftStart + leftField.size ≤ rightStart ∨ rightStart + rightField.size ≤ leftStart := by
  match members, left, right with
  | .nil, _, _ => cases gotL
  | .cons _ _ _, 0, 0 => exact absurd rfl different
  | .cons _ _ rest, 0, right + 1 =>
    cases gotL
    exact (Apart.get formed.2.2.1 gotR).symm
  | .cons _ _ rest, left + 1, 0 =>
    cases gotR
    exact Apart.get formed.2.2.1 gotL
  | .cons _ _ rest, left + 1, right + 1 =>
    exact WellFormed.disjoint formed.2.2.2 gotL gotR (by omega)

theorem chain_silent {members : Members} {helper : FieldHelper}
    (quiet : ∀ member start field, members.get? member = some (start, field) →
      field.hits start helper.offset = false) (path : Path) (first : Nat) :
    members.hits helper.offset = false ∧ (members.chain path first helper).2 = [] := by
  match members with
  | .nil => exact ⟨rfl, rfl⟩
  | .cons start field rest =>
    have skipped := quiet 0 start field rfl
    have later := chain_silent
      (fun member start field here => quiet (member + 1) start field here) path (first + 1)
    rw [chain_cons, Field.select_quiet skipped, hits, skipped, later.1, later.2]
    exact ⟨rfl, rfl⟩

theorem chain_quiet {members : Members} {member start : Nat} {field : Field} {helper : FieldHelper}
    (got : members.get? member = some (start, field))
    (quiet : ∀ other otherStart otherField, other ≠ member →
      members.get? other = some (otherStart, otherField) → otherField.hits otherStart helper.offset = false)
    (path : Path) (first : Nat) :
    (members.chain path first helper).2 = (field.select path (first + member) start helper).2 ∧
      members.hits helper.offset = field.hits start helper.offset := by
  match members, member with
  | .nil, _ => cases got
  | .cons _ _ rest, 0 =>
    cases got
    have none := chain_silent
      (fun position start field here => quiet (position + 1) start field (by omega) here) path (first + 1)
    rw [chain_cons, none.2, List.append_nil, hits, none.1, Bool.or_false]
    exact ⟨rfl, rfl⟩
  | .cons otherStart other rest, member + 1 =>
    have skipped := quiet 0 otherStart other (by omega) rfl
    have further : rest.get? member = some (start, field) := got
    have later := chain_quiet further (fun position start field different here =>
      quiet (position + 1) start field (by omega) here) path (first + 1)
    rw [chain_cons, Field.select_quiet skipped, List.nil_append, hits, skipped, Bool.false_or, later.1, later.2]
    exact ⟨by rw [Nat.add_right_comm, Nat.add_assoc], rfl⟩

theorem chain_loud {members : Members} {member start : Nat} {field : Field} {helper : FieldHelper}
    (got : members.get? member = some (start, field)) (hit : field.hits start helper.offset = true)
    (path : Path) (first : Nat) :
    ∃ fired ∈ (members.chain path first helper).2, fired.Under path (first + member) := by
  match members, member with
  | .nil, _ => cases got
  | .cons _ _ rest, 0 =>
    cases got
    obtain ⟨fired, called⟩ := List.exists_mem_of_ne_nil _ (field.select_fires path first start helper hit)
    rw [chain_cons]
    exact ⟨fired, List.mem_append_left _ called, field.select_under path first start helper fired called⟩
  | .cons _ _ rest, member + 1 =>
    have further : rest.get? member = some (start, field) := got
    obtain ⟨fired, called, under⟩ := chain_loud further hit path (first + 1)
    rw [chain_cons]
    exact ⟨fired, List.mem_append_right _ called, by rwa [Nat.add_right_comm] at under⟩

theorem offsetOf_cases {members : Members} {member : Nat} {index : Option Nat} {rest : Path} {offset : Nat}
    (leaf : members.offsetOf (⟨member, index⟩ :: rest) = some offset) :
    (∃ start size, members.get? member = some (start, .scalar size) ∧ index = none ∧ rest = [] ∧
      offset = start) ∨
    (∃ start size inner nested, members.get? member = some (start, .struct size inner) ∧ index = none ∧
      inner.offsetOf rest = some nested ∧ offset = start + nested) ∨
    (∃ start size count i, members.get? member = some (start, .scalarArray size count) ∧ index = some i ∧
      rest = [] ∧ i < count ∧ offset = start + i * size) ∨
    (∃ start size count inner i nested, members.get? member = some (start, .structArray size count inner) ∧
      index = some i ∧ i < count ∧ inner.offsetOf rest = some nested ∧
      offset = start + i * size + nested) := by
  unfold offsetOf at leaf
  split at leaf
  · rename_i start size got
    split at leaf
    · exact Or.inl ⟨start, size, got, rfl, by assumption, (Option.some.inj leaf).symm⟩
    · cases leaf
  · rename_i start size inner got
    obtain ⟨nested, inside, rfl⟩ := Option.map_eq_some_iff.mp leaf
    exact Or.inr (Or.inl ⟨start, size, inner, nested, got, rfl, inside, rfl⟩)
  · rename_i start size count i got
    split at leaf
    · rename_i both
      exact Or.inr (Or.inr (Or.inl ⟨start, size, count, i, got, rfl, both.1, both.2, (Option.some.inj leaf).symm⟩))
    · cases leaf
  · rename_i start size count inner i got
    split at leaf
    · obtain ⟨nested, inside, rfl⟩ := Option.map_eq_some_iff.mp leaf
      exact Or.inr (Or.inr (Or.inr ⟨start, size, count, inner, i, nested, got, rfl, by assumption, inside, rfl⟩))
    · cases leaf
  · cases leaf

theorem element_le {i count size nested : Nat} (bound : i < count) (inside : nested < size) :
    i * size + nested < size * count := by
  have whole : (i + 1) * size ≤ count * size := Nat.mul_le_mul_right size bound
  rw [Nat.add_mul, Nat.one_mul] at whole
  rw [Nat.mul_comm size count]
  omega

theorem offsetOf_lt {members : Members} {size : Nat} {path : Path} {offset : Nat}
    (formed : members.WellFormed size) (leaf : members.offsetOf path = some offset) : offset < size := by
  induction path generalizing members size offset with
  | nil => simp [offsetOf] at leaf
  | cons selector rest ih =>
    obtain ⟨member, index⟩ := selector
    rcases offsetOf_cases leaf with ⟨start, width, got, -, -, rfl⟩ | ⟨start, width, inner, nested, got, -, inside, rfl⟩ |
      ⟨start, width, count, i, got, -, -, bound, rfl⟩ | ⟨start, width, count, inner, i, nested, got, -, bound, inside, rfl⟩
    · obtain ⟨positive, fits⟩ := formed.get got
      simp only [Field.WellFormed, Field.size] at positive fits
      omega
    · obtain ⟨⟨positive, formed'⟩, fits⟩ := formed.get got
      have small := ih formed' inside
      simp only [Field.size] at fits
      omega
    · obtain ⟨positive, fits⟩ := formed.get got
      have small := element_le bound positive
      simp only [Field.size] at fits
      omega
    · obtain ⟨⟨positive, formed'⟩, fits⟩ := formed.get got
      have small := element_le bound (ih formed' inside)
      simp only [Field.size] at fits
      omega

theorem no_wrap {sum : Nat} (small : sum ≤ maxObject + maxObject) : sum % addressSpace = sum := by
  refine Nat.mod_eq_of_lt (Nat.lt_of_le_of_lt small ?_)
  decide

theorem hits_elsewhere {members : Members} {size member other start otherStart offset : Nat}
    {field otherField : Field} (formed : members.WellFormed size) (bounded : size ≤ maxObject)
    (got : members.get? member = some (start, field)) (low : start ≤ offset)
    (high : offset < start + field.size) (different : other ≠ member)
    (gotOther : members.get? other = some (otherStart, otherField))
    (hit : otherField.hits otherStart offset = true) :
    ∃ width inner, otherField = .struct width inner ∧ offset < otherStart ∧ otherStart < offset + width := by
  have apart := formed.disjoint got gotOther different.symm
  obtain ⟨formedOther, fits⟩ := formed.get gotOther
  have fitsOwn := (formed.get got).2
  cases otherField with
  | scalar width =>
    simp only [Field.hits, sameField, beq_iff_eq, Field.WellFormed, Field.size] at *
    omega
  | struct width inner =>
    simp only [Field.hits, insideField, Field.WellFormed, Field.size] at *
    rw [no_wrap (by omega)] at hit
    split at hit
    · exact ⟨width, inner, rfl, by omega, by omega⟩
    · cases hit
  | scalarArray width count =>
    simp only [Field.hits, sameFieldArray, Field.WellFormed, Field.size] at *
    rw [no_wrap (by omega)] at hit
    split at hit
    · omega
    · cases hit
  | structArray width count inner =>
    simp only [Field.hits, insideFieldArray, Field.WellFormed, Field.size] at *
    rw [no_wrap (by omega)] at hit
    split at hit
    · omega
    · cases hit

theorem under_unique {path : Path} {left right : Nat} {fired : Fired} (hl : fired.Under path left)
    (hr : fired.Under path right) : left = right := by
  obtain ⟨i, rest, hl⟩ := hl
  obtain ⟨j, other, hr⟩ := hr
  have same := List.append_cancel_left (hl.symm.trans hr)
  simp only [List.cons.injEq, Selector.mk.injEq] at same
  exact same.1.1

theorem switch_level {members : Members} {size member start : Nat} {field : Field} {helper : FieldHelper}
    (formed : members.WellFormed size) (bounded : size ≤ maxObject)
    (got : members.get? member = some (start, field)) (low : start ≤ helper.offset)
    (high : helper.offset < start + field.size) (fresh : helper.somethingMatched = false) (path : Path)
    {call : Fired} (under : call.Under path member) :
    members.switch path helper = [call] ↔
      (∀ position otherStart width inner, members.get? position = some (otherStart, .struct width inner) →
        ¬ (helper.offset < otherStart ∧ otherStart < helper.offset + width)) ∧
      (field.select path member start helper).2 ++
        (if field.hits start helper.offset then [] else [.otherwise path helper.offset]) = [call] := by
  rw [switch_eq members path helper fresh]
  by_cases quiet : ∀ other otherStart otherField, other ≠ member →
      members.get? other = some (otherStart, otherField) → otherField.hits otherStart helper.offset = false
  · obtain ⟨calls, hit⟩ := chain_quiet got quiet path 0
    rw [calls, hit, Nat.zero_add]
    refine ⟨fun single => ⟨?_, single⟩, fun both => both.2⟩
    rintro position otherStart width inner here ⟨behind, near⟩
    by_cases mine : position = member
    · subst mine
      rw [got] at here
      cases here
      omega
    · have silent := quiet position otherStart _ mine here
      have fits := (formed.get here).2
      have fitsOwn := (formed.get got).2
      simp only [Field.hits, insideField, Field.size] at silent fits
      rw [no_wrap (by omega), if_pos ⟨by omega, near⟩] at silent
      cases silent
  · simp only [not_forall] at quiet
    obtain ⟨other, otherStart, otherField, different, gotOther, loud⟩ := quiet
    have hit : otherField.hits otherStart helper.offset = true := by simpa using loud
    obtain ⟨fired, called, elsewhere⟩ := chain_loud gotOther hit path 0
    obtain ⟨width, inner, rfl, behind, near⟩ :=
      hits_elsewhere formed bounded got low high different gotOther hit
    constructor
    · intro single
      have listed : fired ∈ [call] := single ▸ List.mem_append_left _ called
      rw [List.mem_singleton.mp listed, Nat.zero_add] at elsewhere
      exact absurd (under_unique elsewhere under) different
    · rintro ⟨none, -⟩
      exact absurd ⟨behind, near⟩ (none other otherStart width inner gotOther)

theorem answer_alone {field : Field} {start offset : Nat} {path : Path} {calls : List Fired}
    (hit : field.hits start offset = true) :
    calls ++ (if field.hits start offset then [] else [.otherwise path offset]) = calls := by
  rw [if_pos hit, List.append_nil]

theorem sameFieldArray_leaf {start size count i : Nat} (positive : 0 < size) (bound : i < count)
    (small : start + size * count ≤ maxObject) :
    sameFieldArray (start + i * size) start size count = some i := by
  have inside := element_le bound positive
  simp only [sameFieldArray]
  rw [no_wrap (by omega), if_pos ⟨by omega, by omega⟩, Nat.add_sub_cancel_left, Nat.mul_mod_left,
    if_pos rfl, Nat.mul_div_cancel i positive]

theorem insideFieldArray_leaf {start size count i nested : Nat} (within : nested < size) (bound : i < count)
    (small : start + size * count ≤ maxObject) :
    insideFieldArray (start + i * size + nested) start size count = some (i, nested) := by
  have inside := element_le bound within
  have distance : start + i * size + nested - start = nested + size * i := by
    rw [Nat.mul_comm size i]
    omega
  simp only [insideFieldArray]
  rw [no_wrap (by omega), if_pos ⟨by omega, by omega⟩, distance, Nat.add_mul_mod_self_left,
    Nat.mod_eq_of_lt within, Nat.add_mul_div_left _ _ (by omega), Nat.div_eq_of_lt within, Nat.zero_add]

theorem switch_iff_reached {members : Members} {size : Nat} (formed : members.WellFormed size)
    (bounded : size ≤ maxObject) {leafPath : Path} {offset : Nat}
    (leaf : members.offsetOf leafPath = some offset) (path : Path) (registers : Nat) :
    members.switch path { registers, offset, somethingMatched := false } =
        [.leaf (path ++ leafPath) (registers + offset)] ↔ members.Reached leafPath offset := by
  induction leafPath generalizing members size offset path registers with
  | nil => simp [offsetOf] at leaf
  | cons selector rest ih =>
    obtain ⟨member, index⟩ := selector
    have under : (Fired.leaf (path ++ ⟨member, index⟩ :: rest) (registers + offset)).Under path member :=
      ⟨index, rest, rfl⟩
    rcases offsetOf_cases leaf with ⟨start, width, got, rfl, rfl, rfl⟩ |
      ⟨start, width, inner, nested, got, rfl, inside, rfl⟩ |
      ⟨start, width, count, i, got, rfl, rfl, bound, rfl⟩ |
      ⟨start, width, count, inner, i, nested, got, rfl, bound, inside, rfl⟩
    · obtain ⟨positive, -⟩ := formed.get got
      have hit : (Field.scalar width).hits offset offset = true := by simp [Field.hits, sameField]
      have some_bytes : 0 < width := positive
      rw [switch_level formed bounded got (Nat.le_refl _) (by simpa [Field.size] using some_bytes) rfl path under,
        answer_alone hit]
      simp only [Reached, got, Field.select, FieldHelper.case', sameField, beq_self_eq_true, if_true]
    · obtain ⟨⟨positive, formed'⟩, fits⟩ := formed.get got
      have within := offsetOf_lt formed' inside
      simp only [Field.size] at fits
      rw [switch_level formed bounded got (by simp) (by simpa [Field.size] using within) rfl path under]
      simp only [Reached, got]
      refine and_congr_right fun _ => ?_
      by_cases first : nested = 0
      · subst first
        have entered : insideField (start + 0) start width = some 0 := by
          simp only [insideField, Nat.add_zero]
          rw [no_wrap (by omega), if_pos ⟨Nat.le_refl _, by omega⟩, Nat.sub_self]
        have hit : (Field.struct width inner).hits start (start + 0) = true := by
          simp only [Field.hits, entered, Option.isSome_some]
        rw [answer_alone hit]
        have deeper := ih formed' (by omega) inside (path ++ [⟨member, none⟩]) (registers + start)
        rw [List.append_assoc, List.singleton_append, Nat.add_zero] at deeper
        rw [Field.select_struct entered]
        simp only [Nat.add_zero, true_and]
        exact deeper
      · -- the comparison in `InsideField` is the wrong way round: only the first byte passes it
        have missed : insideField (start + nested) start width = none := by
          simp only [insideField]
          rw [if_neg (by omega)]
        have silent : (Field.struct width inner).hits start (start + nested) = false := by
          simp only [Field.hits, missed, Option.isSome_none]
        rw [Field.select_quiet silent]
        simp [silent, first]
    · obtain ⟨positive, fits⟩ := formed.get got
      simp only [Field.size, Field.WellFormed] at fits positive
      have small := element_le bound positive
      have answer := sameFieldArray_leaf positive bound (by omega : start + width * count ≤ maxObject)
      have hit : (Field.scalarArray width count).hits start (start + i * width) = true := by
        simp only [Field.hits, answer, Option.isSome_some]
      rw [switch_level formed bounded got (by simp) (by simp only [Field.size]; omega) rfl path under,
        answer_alone hit]
      simp only [Reached, got, Field.select, FieldHelper.caseArray, answer, Nat.add_assoc]
    · obtain ⟨⟨positive, formed'⟩, fits⟩ := formed.get got
      simp only [Field.size] at fits
      have within := offsetOf_lt formed' inside
      have small := element_le bound within
      have answer := insideFieldArray_leaf within bound (by omega : start + width * count ≤ maxObject)
      have hit : (Field.structArray width count inner).hits start (start + i * width + nested) = true := by
        simp only [Field.hits, answer, Option.isSome_some]
      have relative : (start + i * width + nested - start) % width = nested := by
        rw [Nat.add_assoc, Nat.add_sub_cancel_left, Nat.add_comm, Nat.add_mul_mod_self_right,
          Nat.mod_eq_of_lt within]
      have room : width ≤ size := by
        have one : width * 1 ≤ width * count := Nat.mul_le_mul_left width (by omega)
        omega
      have deeper := ih formed' (by omega) inside (path ++ [⟨member, some i⟩]) (registers + start + i * width)
      rw [switch_level formed bounded got (by simp only; omega) (by simp only [Field.size]; omega) rfl path under,
        answer_alone hit]
      have address : registers + start + i * width + nested = registers + (start + i * width + nested) := by omega
      rw [List.append_assoc, List.singleton_append, address] at deeper
      rw [Field.select_structArray answer, deeper]
      simp only [Reached, got, relative]

end Members

/-- When a chain over a whole layout makes the one call its leaf is registered for. -/
theorem dispatch_iff_reached (layout : Members) (size : Nat) (formed : layout.WellFormed size)
    (bounded : size ≤ maxObject) (leafPath : Path) (offset : Nat)
    (leaf : layout.offsetOf leafPath = some offset) (data : Nat) :
    layout.switch [] (switchField data offset) = [.leaf leafPath (data + offset)] ↔
      layout.Reached leafPath offset := by
  have any_path := Members.switch_iff_reached formed bounded leaf [] data
  rw [List.nil_append] at any_path
  exact any_path

def records : Members :=
  .cons 0 (.scalar 4) (.cons 8 (.structArray 8 4 (.cons 0 (.scalar 4) (.cons 4 (.scalar 4) .nil))) .nil)

theorem records_dispatch : records.switch [] (switchField 0x1000 28) =
    [.leaf [⟨1, some 2⟩, ⟨1, none⟩] 0x101c] := by
  have formed : records.WellFormed 40 := by
    simp [records, Members.WellFormed, Members.Apart, Field.WellFormed, Field.size]
  refine (dispatch_iff_reached records 40 formed (by decide) [⟨1, some 2⟩, ⟨1, none⟩] 28 (by decide) 0x1000).mpr ?_
  have flat : ∀ (members : Members) position, members = records ∨
      members = .cons 0 (.scalar 4) (.cons 4 (.scalar 4) .nil) →
      ∀ start size inner, members.get? position ≠ some (start, .struct size inner) := by
    rintro members position (rfl | rfl) start size inner
    · match position with
      | 0 => simp [records, Members.get?]
      | 1 => simp [records, Members.get?]
      | position + 2 => simp [records, Members.get?]
    · match position with
      | 0 => simp [Members.get?]
      | 1 => simp [Members.get?]
      | position + 2 => simp [Members.get?]
  refine ⟨fun position start size inner here => absurd here (flat _ position (Or.inl rfl) start size inner), ?_⟩
  exact ⟨fun position start size inner here => absurd here (flat _ position (Or.inr rfl) start size inner),
    trivial⟩

def nested : Members := .cons 0 (.struct 8 (.cons 0 (.scalar 4) (.cons 4 (.scalar 4) .nil))) .nil

def nestedBehind : Members :=
  .cons 0 (.scalar 4) (.cons 4 (.struct 8 (.cons 0 (.scalar 4) (.cons 4 (.scalar 4) .nil))) .nil)

/-- The second register of the one is never found; the scalar of the other also calls the callback of a
    register it has nothing to do with. -/
theorem nested_misses :
    (nested.WellFormed 8 ∧ nested.offsetOf [⟨0, none⟩, ⟨1, none⟩] = some 4 ∧
      nested.switch [] (switchField 0x1000 4) = [.otherwise [] 4]) ∧
    (nestedBehind.WellFormed 12 ∧ nestedBehind.offsetOf [⟨0, none⟩] = some 0 ∧
      nestedBehind.switch [] (switchField 0x1000 0) =
        [.leaf [⟨0, none⟩] 0x1000, .leaf [⟨1, none⟩, ⟨1, none⟩] 0x1008]) := by
  have formed : nested.WellFormed 8 := by
    simp [nested, Members.WellFormed, Members.Apart, Field.WellFormed, Field.size]
  have formedBehind : nestedBehind.WellFormed 12 := by
    simp [nestedBehind, Members.WellFormed, Members.Apart, Field.WellFormed, Field.size]
  exact ⟨⟨formed, by decide, by decide⟩, formedBehind, by decide, by decide⟩

end ExMM
