import ExMM.Library.Search
import ExMM.Model.Registry

namespace ExMM

/-- What every reachable registry satisfies when the kernel keeps its promises: the entries own the
    live objects one to one, and the public areas are disjoint and end before the address space does. -/
structure Registry.WellFormed (registry : Registry) : Prop where
  live : ∀ {controller : ControllerPtr} {ioSpace : IoSpacePtr}, registry.ioMap[controller]? = some ioSpace →
    ∃ space, registry.ioSpaces[ioSpace]? = some space
  owned : ∀ {ioSpace : IoSpacePtr} {space : IoSpace}, registry.ioSpaces[ioSpace]? = some space →
    ∃ controller : ControllerPtr, registry.ioMap[controller]? = some ioSpace
  distinct : ∀ {left right : ControllerPtr} {ioSpace : IoSpacePtr}, registry.ioMap[left]? = some ioSpace →
    registry.ioMap[right]? = some ioSpace → left = right
  bounded : ∀ {ioSpace : IoSpacePtr} {space : IoSpace}, registry.ioSpaces[ioSpace]? = some space →
    space.publicArea + space.size < addressSpace
  disjoint : ∀ {left right : IoSpacePtr} {leftSpace rightSpace : IoSpace} {a : Nat},
    registry.ioSpaces[left]? = some leftSpace → registry.ioSpaces[right]? = some rightSpace →
      leftSpace.Contains a → rightSpace.Contains a → left = right

def Registry.Resolves (registry : Registry) (a : Nat) (found : Found) : Prop :=
  registry.ioMap[found.controller]? = some found.ioSpace ∧
    ∃ space, registry.ioSpaces[found.ioSpace]? = some space ∧ space.Contains a ∧
      found.offset = a - space.publicArea

def entryContains (ioSpaces : Std.TreeMap IoSpacePtr IoSpace) (a : Nat)
    (entry : ControllerPtr × IoSpacePtr) : Bool :=
  match ioSpaces[entry.2]? with
  | some space => space.Contains a
  | none => false

theorem entryContains_iff (ioSpaces : Std.TreeMap IoSpacePtr IoSpace) (a : Nat)
    (entry : ControllerPtr × IoSpacePtr) :
    entryContains ioSpaces a entry = true ↔
      ∃ space, ioSpaces[entry.2]? = some space ∧ space.Contains a := by
  unfold entryContains
  cases found : ioSpaces[entry.2]? with
  | none => simp
  | some space => simp

def entryFound (ioSpaces : Std.TreeMap IoSpacePtr IoSpace) (a : Nat)
    (entry : ControllerPtr × IoSpacePtr) : Found :=
  { controller := entry.1
    ioSpace := entry.2
    offset := a - ((ioSpaces[entry.2]?.map IoSpace.publicArea).getD 0) }

theorem scan_eq_find (ioSpaces : Std.TreeMap IoSpacePtr IoSpace) (a : Nat)
    (entries : List (ControllerPtr × IoSpacePtr))
    (live : ∀ entry ∈ entries, ∃ space, ioSpaces[entry.2]? = some space ∧
      space.publicArea + space.size < addressSpace) :
    scan ioSpaces a entries =
      some ((entries.find? (entryContains ioSpaces a)).map (entryFound ioSpaces a)) := by
  induction entries with
  | nil => rfl
  | cons entry rest ih =>
    obtain ⟨controller, ioSpace⟩ := entry
    obtain ⟨space, present, bound⟩ := live (controller, ioSpace) (by simp)
    have tail := ih fun entry member => live entry (List.mem_cons_of_mem _ member)
    dsimp only at present
    simp only [scan, present, Option.bind_eq_bind, Option.bind_some, Nat.mod_eq_of_lt bound,
      List.find?_cons, entryContains, IoSpace.Contains, ge_iff_le]
    by_cases inside : space.publicArea ≤ a ∧ a < space.publicArea + space.size
    · simp [inside, entryFound, present]
    · simpa [inside] using tail

namespace Registry

variable {registry : Registry}

theorem WellFormed.entries_live (registered : registry.WellFormed) {order : List (ControllerPtr × IoSpacePtr)}
    (perm : order.Perm registry.ioMap.toList) :
    ∀ entry ∈ order, ∃ space, registry.ioSpaces[entry.2]? = some space ∧
      space.publicArea + space.size < addressSpace := by
  intro entry member
  have present := Std.TreeMap.mem_toList_iff_getElem?_eq_some.mp (perm.mem_iff.mp member)
  obtain ⟨space, live⟩ := registered.live present
  exact ⟨space, live, registered.bounded live⟩

theorem WellFormed.unambiguous (registered : registry.WellFormed) (a : Nat) :
    Search.Unambiguous (entryContains registry.ioSpaces a) registry.ioMap.toList := by
  rintro ⟨left, leftSpace⟩ hl ⟨right, rightSpace⟩ hr leftHolds rightHolds
  obtain ⟨s, presentS, insideS⟩ := (entryContains_iff ..).mp leftHolds
  obtain ⟨t, presentT, insideT⟩ := (entryContains_iff ..).mp rightHolds
  have same : leftSpace = rightSpace := registered.disjoint presentS presentT insideS insideT
  subst same
  have keys := registered.distinct (Std.TreeMap.mem_toList_iff_getElem?_eq_some.mp hl)
    (Std.TreeMap.mem_toList_iff_getElem?_eq_some.mp hr)
  rw [keys]

theorem WellFormed.findController_eq (registered : registry.WellFormed) (a : Nat) :
    registry.findController a = some ((registry.ioMap.toList.find?
      (entryContains registry.ioSpaces a)).map (entryFound registry.ioSpaces a)) :=
  scan_eq_find _ _ _ (registered.entries_live (List.Perm.refl _))

/-- `FindController` never touches a deleted object and returns true exactly for the owner. -/
theorem WellFormed.findController_some (registered : registry.WellFormed) (a : Nat) (found : Found) :
    registry.findController a = some (some found) ↔ registry.Resolves a found := by
  rw [registered.findController_eq, Option.some.injEq, Option.map_eq_some_iff]
  simp only [Search.find_unambiguous (registered.unambiguous a), entryContains_iff]
  constructor
  · rintro ⟨⟨controller, ioSpace⟩, ⟨member, space, present, inside⟩, rfl⟩
    have entry := Std.TreeMap.mem_toList_iff_getElem?_eq_some.mp member
    exact ⟨entry, space, present, inside, by simp [entryFound, present]⟩
  · rintro ⟨entry, space, present, inside, offset⟩
    refine ⟨(found.controller, found.ioSpace),
      ⟨Std.TreeMap.mem_toList_iff_getElem?_eq_some.mpr entry, space, present, inside⟩, ?_⟩
    simp [entryFound, present, ← offset]

end Registry

end ExMM
