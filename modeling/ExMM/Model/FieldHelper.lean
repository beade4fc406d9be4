import ExMM.Model.Registry

namespace ExMM

/-- The selector object of a register structure. Offsets are `size_t`, so sums wrap around. -/
structure FieldHelper where
  registers : Nat
  offset : Nat
  somethingMatched : Bool
  deriving DecidableEq, Repr

def sameField (offset field : Nat) : Bool := field == offset

def insideField (offset field size : Nat) : Option Nat :=
  if field ≥ offset ∧ field < (offset + size) % addressSpace then some (field - offset) else none

def sameFieldArray (offset field size count : Nat) : Option Nat :=
  let ending := (field + size * count) % addressSpace
  if offset ≥ field ∧ offset < ending then
    let diff := offset - field
    if diff % size = 0 then some (diff / size) else none
  else none

def insideFieldArray (offset field size count : Nat) : Option (Nat × Nat) :=
  let ending := (field + size * count) % addressSpace
  if offset ≥ field ∧ offset < ending then
    let diff := offset - field
    some (diff / size, diff % size)
  else none

namespace FieldHelper

variable {Call : Type}

/-- Each selector yields the helper it returns and the calls its callback makes. A field is given by its
    offset in the structure, where the source takes a pointer to member. -/
def case' (helper : FieldHelper) (field : Nat) (callback : Nat → List Call) : FieldHelper × List Call :=
  if sameField helper.offset field then
    ({ helper with somethingMatched := true }, callback (helper.registers + field))
  else (helper, [])

def inside (helper : FieldHelper) (field size : Nat) (callback : FieldHelper → List Call) :
    FieldHelper × List Call :=
  match insideField helper.offset field size with
  | some nestedOffset =>
    ({ helper with somethingMatched := true },
      callback { registers := helper.registers + field, offset := nestedOffset, somethingMatched := false })
  | none => (helper, [])

def caseArray (helper : FieldHelper) (field size count : Nat) (callback : Nat → Nat → List Call) :
    FieldHelper × List Call :=
  match sameFieldArray helper.offset field size count with
  | some index =>
    ({ helper with somethingMatched := true }, callback index (helper.registers + field + index * size))
  | none => (helper, [])

def insideArray (helper : FieldHelper) (field size count : Nat)
    (callback : Nat → FieldHelper → List Call) : FieldHelper × List Call :=
  match insideFieldArray helper.offset field size count with
  | some (index, nestedOffset) =>
    ({ helper with somethingMatched := true },
      callback index
        { registers := helper.registers + field + index * size
          offset := nestedOffset
          somethingMatched := false })
  | none => (helper, [])

def else' (helper : FieldHelper) (callback : Nat → List Call) : List Call :=
  if helper.somethingMatched then [] else callback helper.offset

end FieldHelper

def switchField (data offset : Nat) : FieldHelper :=
  { registers := data, offset, somethingMatched := false }

/-! Register layouts, and the chain that names every member of one. -/

mutual

inductive Field
  | scalar (size : Nat)
  | struct (size : Nat) (members : Members)
  | scalarArray (size count : Nat)
  | structArray (size count : Nat) (members : Members)

inductive Members
  | nil
  | cons (start : Nat) (field : Field) (rest : Members)

end

def Field.size : Field → Nat
  | .scalar size => size
  | .struct size _ => size
  | .scalarArray size count => size * count
  | .structArray size count _ => size * count

structure Selector where
  member : Nat
  index : Option Nat
  deriving DecidableEq, Repr

abbrev Path := List Selector

inductive Fired
  | leaf (path : Path) (address : Nat)
  | otherwise (path : Path) (offset : Nat)
  deriving DecidableEq, Repr

mutual

def Field.select (field : Field) (path : Path) (member start : Nat) (helper : FieldHelper) :
    FieldHelper × List Fired :=
  match field with
  | .scalar _ => helper.case' start fun address => [.leaf (path ++ [⟨member, none⟩]) address]
  | .struct size members => helper.inside start size fun nested =>
      let chained := members.chain (path ++ [⟨member, none⟩]) 0 nested
      chained.2 ++ chained.1.else' fun offset => [.otherwise (path ++ [⟨member, none⟩]) offset]
  | .scalarArray size count => helper.caseArray start size count fun index address =>
      [.leaf (path ++ [⟨member, some index⟩]) address]
  | .structArray size count members => helper.insideArray start size count fun index nested =>
      let chained := members.chain (path ++ [⟨member, some index⟩]) 0 nested
      chained.2 ++ chained.1.else' fun offset => [.otherwise (path ++ [⟨member, some index⟩]) offset]

def Members.chain (members : Members) (path : Path) (member : Nat) (helper : FieldHelper) :
    FieldHelper × List Fired :=
  match members with
  | .nil => (helper, [])
  | .cons start field rest =>
    let selected := field.select path member start helper
    let chained := rest.chain path (member + 1) selected.1
    (chained.1, selected.2 ++ chained.2)

end

def Members.switch (members : Members) (path : Path) (helper : FieldHelper) : List Fired :=
  let chained := members.chain path 0 helper
  chained.2 ++ chained.1.else' fun offset => [.otherwise path offset]

def Members.get? : Members → Nat → Option (Nat × Field)
  | .nil, _ => none
  | .cons start field _, 0 => some (start, field)
  | .cons _ _ rest, member + 1 => rest.get? member

def Members.offsetOf : Members → Path → Option Nat
  | _, [] => none
  | members, ⟨member, index⟩ :: rest =>
    match members.get? member, index with
    | some (start, .scalar _), none => if rest = [] then some start else none
    | some (start, .struct _ inner), none => (inner.offsetOf rest).map fun offset => start + offset
    | some (start, .scalarArray size count), some index =>
      if rest = [] ∧ index < count then some (start + index * size) else none
    | some (start, .structArray size count inner), some index =>
      if index < count then (inner.offsetOf rest).map fun offset => start + index * size + offset else none
    | _, _ => none

mutual

/-- Sizes as the compiler lays objects out: none is empty, members lie in their structure and are
    disjoint. -/
def Field.WellFormed : Field → Prop
  | .scalar size => 0 < size
  | .struct size members => 0 < size ∧ members.WellFormed size
  | .scalarArray size _ => 0 < size
  | .structArray size _ members => 0 < size ∧ members.WellFormed size

def Members.WellFormed : Members → Nat → Prop
  | .nil, _ => True
  | .cons start field rest, size =>
    field.WellFormed ∧ start + field.size ≤ size ∧ rest.Apart start (start + field.size) ∧ rest.WellFormed size

def Members.Apart : Members → Nat → Nat → Prop
  | .nil, _, _ => True
  | .cons start field rest, first, last =>
    (start + field.size ≤ first ∨ last ≤ start) ∧ rest.Apart first last

end

def maxObject : Nat := 0x7fffffffffffffff

end ExMM
