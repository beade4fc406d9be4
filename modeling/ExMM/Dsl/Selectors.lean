import ExMM.Model.FieldHelper

namespace ExMM

def Fired.path : Fired → Path
  | .leaf path _ => path
  | .otherwise path _ => path

def Fired.Under (path : Path) (member : Nat) (fired : Fired) : Prop :=
  ∃ index rest, fired.path = path ++ ⟨member, index⟩ :: rest

def Field.hits (start offset : Nat) : Field → Bool
  | .scalar _ => sameField offset start
  | .struct size _ => (insideField offset start size).isSome
  | .scalarArray size count => (sameFieldArray offset start size count).isSome
  | .structArray size count _ => (insideFieldArray offset start size count).isSome

def Members.hits (offset : Nat) : Members → Bool
  | .nil => false
  | .cons start field rest => field.hits start offset || rest.hits offset

theorem Field.select_fst (field : Field) (path : Path) (member start : Nat) (helper : FieldHelper) :
    (field.select path member start helper).1 =
      { helper with somethingMatched := helper.somethingMatched || field.hits start helper.offset } := by
  cases field with
  | scalar size =>
    simp only [select, hits, FieldHelper.case']
    cases sameField helper.offset start <;> simp
  | struct size members =>
    simp only [select, hits, FieldHelper.inside]
    cases insideField helper.offset start size <;> simp
  | scalarArray size count =>
    simp only [select, hits, FieldHelper.caseArray]
    cases sameFieldArray helper.offset start size count <;> simp
  | structArray size count members =>
    simp only [select, hits, FieldHelper.insideArray]
    cases insideFieldArray helper.offset start size count <;> simp

theorem Field.select_snd (field : Field) (path : Path) (member start : Nat) (helper : FieldHelper)
    (matched : Bool) :
    (field.select path member start { helper with somethingMatched := matched }).2 =
      (field.select path member start helper).2 := by
  cases field with
  | scalar size =>
    simp only [select, FieldHelper.case']
    split <;> rfl
  | struct size members =>
    simp only [select, FieldHelper.inside]
    cases insideField helper.offset start size <;> rfl
  | scalarArray size count =>
    simp only [select, FieldHelper.caseArray]
    cases sameFieldArray helper.offset start size count <;> rfl
  | structArray size count members =>
    simp only [select, FieldHelper.insideArray]
    cases insideFieldArray helper.offset start size count <;> rfl

theorem Members.chain_fst (members : Members) (path : Path) (member : Nat) (helper : FieldHelper) :
    (members.chain path member helper).1 =
      { helper with somethingMatched := helper.somethingMatched || members.hits helper.offset } := by
  match members with
  | .nil => simp [chain, hits]
  | .cons start field rest =>
    simp only [chain, rest.chain_fst, Field.select_fst, hits, Bool.or_assoc]

theorem Members.chain_snd (members : Members) (path : Path) (member : Nat) (helper : FieldHelper)
    (matched : Bool) :
    (members.chain path member { helper with somethingMatched := matched }).2 =
      (members.chain path member helper).2 := by
  match members with
  | .nil => rfl
  | .cons start field rest =>
    simp only [chain, Field.select_fst, Field.select_snd, rest.chain_snd]

theorem Members.chain_cons (start : Nat) (field : Field) (rest : Members) (path : Path) (member : Nat)
    (helper : FieldHelper) :
    ((Members.cons start field rest).chain path member helper).2 =
      (field.select path member start helper).2 ++ (rest.chain path (member + 1) helper).2 := by
  simp only [chain, Field.select_fst, rest.chain_snd]

theorem Members.switch_eq (members : Members) (path : Path) (helper : FieldHelper)
    (fresh : helper.somethingMatched = false) :
    members.switch path helper = (members.chain path 0 helper).2 ++
      if members.hits helper.offset then [] else [.otherwise path helper.offset] := by
  simp only [switch, chain_fst, FieldHelper.else', fresh, Bool.false_or]

theorem Field.select_struct {helper : FieldHelper} {start size nested : Nat}
    (inside : insideField helper.offset start size = some nested) (members : Members) (path : Path)
    (member : Nat) :
    ((Field.struct size members).select path member start helper).2 =
      members.switch (path ++ [⟨member, none⟩])
        { registers := helper.registers + start, offset := nested, somethingMatched := false } := by
  simp only [select, FieldHelper.inside, inside, Members.switch]

theorem Field.select_structArray {helper : FieldHelper} {start size count index nested : Nat}
    (inside : insideFieldArray helper.offset start size count = some (index, nested)) (members : Members)
    (path : Path) (member : Nat) :
    ((Field.structArray size count members).select path member start helper).2 =
      members.switch (path ++ [⟨member, some index⟩])
        { registers := helper.registers + start + index * size, offset := nested, somethingMatched := false } := by
  simp only [select, FieldHelper.insideArray, inside, Members.switch]

theorem Field.select_quiet {field : Field} {start : Nat} {helper : FieldHelper}
    (quiet : field.hits start helper.offset = false) (path : Path) (member : Nat) :
    (field.select path member start helper).2 = [] := by
  cases field with
  | scalar size =>
    simp only [hits] at quiet
    simp [select, FieldHelper.case', quiet]
  | struct size members =>
    simp only [hits, Option.isSome_eq_false_iff, Option.isNone_iff_eq_none] at quiet
    simp [select, FieldHelper.inside, quiet]
  | scalarArray size count =>
    simp only [hits, Option.isSome_eq_false_iff, Option.isNone_iff_eq_none] at quiet
    simp [select, FieldHelper.caseArray, quiet]
  | structArray size count members =>
    simp only [hits, Option.isSome_eq_false_iff, Option.isNone_iff_eq_none] at quiet
    simp [select, FieldHelper.insideArray, quiet]

theorem Members.switch_fires {members : Members} {path : Path} {helper : FieldHelper}
    (fresh : helper.somethingMatched = false)
    (fires : members.hits helper.offset = true → (members.chain path 0 helper).2 ≠ []) :
    members.switch path helper ≠ [] := by
  rw [switch_eq members path helper fresh]
  by_cases hit : members.hits helper.offset = true
  · intro none
    exact fires hit (List.append_eq_nil_iff.mp none).1
  · simp [hit]

mutual

theorem Field.select_fires (field : Field) (path : Path) (member start : Nat) (helper : FieldHelper)
    (hit : field.hits start helper.offset = true) : (field.select path member start helper).2 ≠ [] := by
  match field with
  | .scalar size =>
    simp only [Field.hits] at hit
    simp [Field.select, FieldHelper.case', hit]
  | .struct size members =>
    simp only [Field.hits] at hit
    obtain ⟨nested, inside⟩ := Option.isSome_iff_exists.mp hit
    rw [Field.select_struct inside]
    exact Members.switch_fires rfl fun hit => members.chain_fires _ 0 _ hit
  | .scalarArray size count =>
    simp only [Field.hits] at hit
    obtain ⟨index, inside⟩ := Option.isSome_iff_exists.mp hit
    simp [Field.select, FieldHelper.caseArray, inside]
  | .structArray size count members =>
    simp only [Field.hits] at hit
    obtain ⟨⟨index, nested⟩, inside⟩ := Option.isSome_iff_exists.mp hit
    rw [Field.select_structArray inside]
    exact Members.switch_fires rfl fun hit => members.chain_fires _ 0 _ hit

theorem Members.chain_fires (members : Members) (path : Path) (member : Nat) (helper : FieldHelper)
    (hit : members.hits helper.offset = true) : (members.chain path member helper).2 ≠ [] := by
  match members with
  | .nil => simp [Members.hits] at hit
  | .cons start field rest =>
    rw [Members.chain_cons]
    simp only [Members.hits, Bool.or_eq_true] at hit
    intro none
    obtain ⟨first, second⟩ := List.append_eq_nil_iff.mp none
    rcases hit with own | later
    · exact field.select_fires path member start helper own first
    · exact rest.chain_fires path (member + 1) helper later second

end

theorem Fired.Under.nested {path : Path} {selector : Selector} {member : Nat} {fired : Fired}
    (under : fired.Under (path ++ [selector]) member) : fired.Under path selector.member := by
  obtain ⟨index, rest, same⟩ := under
  exact ⟨selector.index, ⟨member, index⟩ :: rest, by simp [same]⟩

theorem Members.switch_under {members : Members} {path : Path} (selector : Selector) {helper : FieldHelper}
    (fresh : helper.somethingMatched = false)
    (under : ∀ fired ∈ (members.chain (path ++ [selector]) 0 helper).2,
      ∃ member, fired.Under (path ++ [selector]) member) :
    ∀ fired ∈ members.switch (path ++ [selector]) helper, fired.Under path selector.member := by
  intro fired called
  rw [switch_eq _ _ _ fresh] at called
  rcases List.mem_append.mp called with inner | other
  · obtain ⟨member, nested⟩ := under fired inner
    exact nested.nested
  · split at other
    · cases other
    · rw [List.mem_singleton.mp other]
      exact ⟨selector.index, [], rfl⟩

mutual

theorem Field.select_under (field : Field) (path : Path) (member start : Nat) (helper : FieldHelper) :
    ∀ fired ∈ (field.select path member start helper).2, fired.Under path member := by
  by_cases hit : field.hits start helper.offset = true
  case neg =>
    rw [Field.select_quiet (by simpa using hit)]
    intro fired called
    cases called
  match field with
  | .scalar size =>
    simp only [Field.hits] at hit
    simp only [Field.select, FieldHelper.case', hit, if_true, List.mem_singleton]
    rintro fired rfl
    exact ⟨none, [], rfl⟩
  | .struct size members =>
    simp only [Field.hits] at hit
    obtain ⟨nested, inside⟩ := Option.isSome_iff_exists.mp hit
    rw [Field.select_struct inside]
    refine Members.switch_under ⟨member, none⟩ rfl fun fired called => ?_
    obtain ⟨position, -, under⟩ := members.chain_under _ 0 _ fired called
    exact ⟨position, under⟩
  | .scalarArray size count =>
    simp only [Field.hits] at hit
    obtain ⟨index, inside⟩ := Option.isSome_iff_exists.mp hit
    simp only [Field.select, FieldHelper.caseArray, inside, List.mem_singleton]
    rintro fired rfl
    exact ⟨some index, [], rfl⟩
  | .structArray size count members =>
    simp only [Field.hits] at hit
    obtain ⟨⟨index, nested⟩, inside⟩ := Option.isSome_iff_exists.mp hit
    rw [Field.select_structArray inside]
    refine Members.switch_under ⟨member, some index⟩ rfl fun fired called => ?_
    obtain ⟨position, -, under⟩ := members.chain_under _ 0 _ fired called
    exact ⟨position, under⟩

theorem Members.chain_under (members : Members) (path : Path) (member : Nat) (helper : FieldHelper) :
    ∀ fired ∈ (members.chain path member helper).2, ∃ position, member ≤ position ∧ fired.Under path position := by
  match members with
  | .nil =>
    intro fired called
    cases called
  | .cons start field rest =>
    rw [Members.chain_cons]
    intro fired called
    rcases List.mem_append.mp called with own | later
    · exact ⟨member, Nat.le_refl _, field.select_under path member start helper fired own⟩
    · obtain ⟨position, after, under⟩ := rest.chain_under path (member + 1) helper fired later
      exact ⟨position, by omega, under⟩

end

end ExMM
