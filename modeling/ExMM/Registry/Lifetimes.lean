import ExMM.Registry.Resolution

namespace ExMM

structure LiveController where
  controller : ControllerPtr
  ioSpace : IoSpacePtr
  space : IoSpace
  deriving DecidableEq, Repr

namespace LiveController

def apply (live : List LiveController) : Lifetime → List LiveController
  | .construct controller size hookTypes allocation =>
    { controller
      ioSpace := allocation.ioSpace
      space :=
        { hookTypes, size, publicArea := allocation.publicArea, privateArea := allocation.privateArea } } ::
      live
  | .destroy controller => live.filter fun entry => entry.controller ≠ controller

def after (events : List Lifetime) : List LiveController := events.foldl apply []

def Separate (left right : LiveController) : Prop :=
  left.controller ≠ right.controller ∧ left.ioSpace ≠ right.ioSpace ∧
    (left.space.publicArea + left.space.size ≤ right.space.publicArea ∨
      right.space.publicArea + right.space.size ≤ left.space.publicArea)

instance (left right : LiveController) : Decidable (Separate left right) :=
  inferInstanceAs (Decidable (_ ∧ _ ∧ (_ ∨ _)))

/-- What heap, kernel and C++ promise of a construction: the object and the `IoSpace` are new, the
    mapping is disjoint from the live ones and does not wrap. Anything dead may be reused. -/
def Permits (live : List LiveController) : Lifetime → Prop
  | .construct controller size hookTypes allocation =>
    allocation.publicArea + size < addressSpace ∧ ∀ other ∈ live,
      Separate
        { controller
          ioSpace := allocation.ioSpace
          space :=
            { hookTypes, size, publicArea := allocation.publicArea, privateArea := allocation.privateArea } }
        other
  | .destroy _ => True

instance (live : List LiveController) (event : Lifetime) : Decidable (Permits live event) := by
  cases event <;> unfold Permits <;> infer_instance

def Promised : List LiveController → List Lifetime → Prop
  | _, [] => True
  | live, event :: rest => Permits live event ∧ Promised (apply live event) rest

instance decidablePromised : (live : List LiveController) → (events : List Lifetime) →
    Decidable (Promised live events)
  | _, [] => isTrue trivial
  | live, event :: rest =>
    have := decidablePromised (apply live event) rest
    inferInstanceAs (Decidable (_ ∧ _))

structure WellFormed (live : List LiveController) : Prop where
  separate : ∀ left ∈ live, ∀ right ∈ live, left = right ∨ Separate left right
  bounded : ∀ entry ∈ live, entry.space.publicArea + entry.space.size < addressSpace

theorem Separate.symm {left right : LiveController} (separate : Separate left right) :
    Separate right left :=
  ⟨separate.1.symm, separate.2.1.symm, separate.2.2.symm⟩

theorem WellFormed.apply {live : List LiveController} (formed : WellFormed live) (event : Lifetime)
    (permits : Permits live event) : WellFormed (apply live event) := by
  cases event with
  | construct controller size hookTypes allocation =>
    obtain ⟨bound, new⟩ := permits
    constructor
    · intro left hl right hr
      rcases List.mem_cons.mp hl with rfl | hl <;> rcases List.mem_cons.mp hr with rfl | hr
      · exact Or.inl rfl
      · exact Or.inr (new right hr)
      · exact Or.inr (new left hl).symm
      · exact formed.separate left hl right hr
    · intro entry member
      rcases List.mem_cons.mp member with rfl | member
      · exact bound
      · exact formed.bounded entry member
  | destroy controller =>
    exact ⟨fun left hl right hr => formed.separate left (List.mem_filter.mp hl).1 right
        (List.mem_filter.mp hr).1,
      fun entry member => formed.bounded entry (List.mem_filter.mp member).1⟩

end LiveController

open LiveController

structure Registry.Represents (registry : Registry) (live : List LiveController) : Prop where
  entries : ∀ (controller : ControllerPtr) (ioSpace : IoSpacePtr),
    registry.ioMap[controller]? = some ioSpace ↔ ∃ space, { controller, ioSpace, space } ∈ live
  objects : ∀ (ioSpace : IoSpacePtr) (space : IoSpace),
    registry.ioSpaces[ioSpace]? = some space ↔ ∃ controller, { controller, ioSpace, space } ∈ live

namespace Registry

theorem represents_empty : Registry.empty.Represents [] := by
  constructor <;> intro _ _ <;> simp [Registry.empty]

@[simp] theorem initPlatform_ioMap (registry : Registry) : registry.initPlatform.ioMap = registry.ioMap := by
  unfold initPlatform
  split <;> rfl

@[simp] theorem initPlatform_ioSpaces (registry : Registry) :
    registry.initPlatform.ioSpaces = registry.ioSpaces := by
  unfold initPlatform
  split <;> rfl

theorem Represents.construct {registry : Registry} {live : List LiveController}
    (represents : registry.Represents live) (controller : ControllerPtr) (size : Nat)
    (hookTypes : HookTypes) (allocation : Allocation)
    (permits : Permits live (.construct controller size hookTypes allocation)) :
    (registry.apply (.construct controller size hookTypes allocation)).Represents
      (LiveController.apply live (.construct controller size hookTypes allocation)) := by
  obtain ⟨-, new⟩ := permits
  have fresh : controller ∉ registry.ioMap := by
    intro member
    obtain ⟨ioSpace, present⟩ := Option.isSome_iff_exists.mp
      (Std.TreeMap.isSome_getElem?_iff_mem.mpr member)
    obtain ⟨space, member⟩ := (represents.entries _ _).mp present
    exact (new _ member).1 rfl
  constructor
  · intro c p
    simp only [apply, add, initPlatform_ioMap, Std.TreeMap.getElem?_insertIfNew, fresh,
      not_false_eq_true, and_true, Std.compare_eq_iff_eq, LiveController.apply, List.mem_cons,
      LiveController.mk.injEq]
    by_cases same : controller = c
    · subst same
      simp only [if_true, Option.some.injEq, true_and]
      constructor
      · rintro rfl
        exact ⟨_, Or.inl ⟨rfl, rfl⟩⟩
      · rintro ⟨space, ⟨rfl, -⟩ | member⟩
        · rfl
        · exact absurd rfl (new _ member).1
    · have other : c ≠ controller := fun h => same h.symm
      simp [same, other, represents.entries]
  · intro p sp
    simp only [apply, add, initPlatform_ioSpaces, Std.TreeMap.getElem?_insert, Std.compare_eq_iff_eq,
      LiveController.apply, List.mem_cons, LiveController.mk.injEq]
    by_cases same : allocation.ioSpace = p
    · subst same
      simp only [if_true, Option.some.injEq, true_and]
      constructor
      · rintro rfl
        exact ⟨_, Or.inl ⟨rfl, rfl⟩⟩
      · rintro ⟨c, ⟨-, rfl⟩ | member⟩
        · rfl
        · exact absurd rfl (new _ member).2.1
    · have other : p ≠ allocation.ioSpace := fun h => same h.symm
      simp [same, other, represents.objects]

theorem Represents.destroy {registry : Registry} {live : List LiveController}
    (represents : registry.Represents live) (formed : LiveController.WellFormed live)
    (controller : ControllerPtr) :
    (registry.apply (.destroy controller)).Represents (LiveController.apply live (.destroy controller)) := by
  simp only [apply, remove, LiveController.apply]
  cases found : registry.ioMap[controller]? with
  | none =>
    have absent : ∀ entry ∈ live, entry.controller ≠ controller := by
      rintro entry member rfl
      have present := (represents.entries _ _).mpr ⟨entry.space, member⟩
      rw [found] at present
      cases present
    have same : (live.filter fun entry => entry.controller ≠ controller) = live :=
      List.filter_eq_self.mpr fun entry member => by simpa using absent entry member
    rw [same]
    exact represents
  | some ioSpace =>
    obtain ⟨space, owner⟩ := (represents.entries _ _).mp found
    constructor
    · intro c p
      simp only [Std.TreeMap.getElem?_erase, Std.compare_eq_iff_eq, List.mem_filter, decide_eq_true_eq]
      by_cases same : controller = c
      · simp [same]
      · have other : c ≠ controller := fun h => same h.symm
        simp [same, other, represents.entries]
    · intro p sp
      simp only [Std.TreeMap.getElem?_erase, Std.compare_eq_iff_eq, List.mem_filter, decide_eq_true_eq]
      by_cases same : ioSpace = p
      · subst same
        simp only [if_true, reduceCtorEq, false_iff, not_exists, not_and]
        intro c member
        rcases formed.separate _ owner _ member with equal | separate
        · cases equal; simp
        · exact absurd rfl separate.2.1
      · simp only [if_neg same, represents.objects]
        constructor
        · rintro ⟨c, member⟩
          refine ⟨c, member, ?_⟩
          rintro rfl
          rcases formed.separate _ owner _ member with equal | separate
          · cases equal; exact same rfl
          · exact separate.1 rfl
        · rintro ⟨c, member, -⟩
          exact ⟨c, member⟩

theorem represents_fold (events : List Lifetime) {registry : Registry} {live : List LiveController}
    (represents : registry.Represents live) (formed : LiveController.WellFormed live)
    (promised : Promised live events) :
    (events.foldl apply registry).Represents (events.foldl LiveController.apply live) ∧
      LiveController.WellFormed (events.foldl LiveController.apply live) := by
  induction events generalizing registry live with
  | nil => exact ⟨represents, formed⟩
  | cons event rest ih =>
    obtain ⟨permits, later⟩ := promised
    have next : (registry.apply event).Represents (LiveController.apply live event) := by
      cases event with
      | construct controller size hookTypes allocation =>
        exact represents.construct controller size hookTypes allocation permits
      | destroy controller => exact represents.destroy formed controller
    exact ih next (formed.apply event permits) later

theorem represents_after (events : List Lifetime) (promised : Promised [] events) :
    (Registry.after events).Represents (LiveController.after events) ∧
      LiveController.WellFormed (LiveController.after events) :=
  represents_fold events represents_empty ⟨by simp, by simp⟩ promised

theorem Represents.wellFormed {registry : Registry} {live : List LiveController}
    (represents : registry.Represents live) (formed : LiveController.WellFormed live) :
    registry.WellFormed where
  live := by
    intro controller ioSpace present
    obtain ⟨space, member⟩ := (represents.entries _ _).mp present
    exact ⟨space, (represents.objects _ _).mpr ⟨controller, member⟩⟩
  owned := by
    intro ioSpace space present
    obtain ⟨controller, member⟩ := (represents.objects _ _).mp present
    exact ⟨controller, (represents.entries _ _).mpr ⟨space, member⟩⟩
  distinct := by
    intro left right ioSpace hl hr
    obtain ⟨_, memberL⟩ := (represents.entries _ _).mp hl
    obtain ⟨_, memberR⟩ := (represents.entries _ _).mp hr
    rcases formed.separate _ memberL _ memberR with equal | separate
    · exact congrArg LiveController.controller equal
    · exact absurd rfl separate.2.1
  bounded := by
    intro ioSpace space present
    obtain ⟨_, member⟩ := (represents.objects _ _).mp present
    exact formed.bounded _ member
  disjoint := by
    intro left right leftSpace rightSpace a hl hr insideL insideR
    obtain ⟨_, memberL⟩ := (represents.objects _ _).mp hl
    obtain ⟨_, memberR⟩ := (represents.objects _ _).mp hr
    rcases formed.separate _ memberL _ memberR with equal | separate
    · exact congrArg LiveController.ioSpace equal
    · obtain ⟨lowL, highL⟩ := insideL
      obtain ⟨lowR, highR⟩ := insideR
      have apart := separate.2.2
      dsimp only at apart
      omega

theorem Represents.of_live {registry : Registry} {live : List LiveController}
    (represents : registry.Represents live) (formed : LiveController.WellFormed live)
    {property : LiveController → Prop} (holds : ∀ entry ∈ live, property entry)
    {controller : ControllerPtr} {ioSpace : IoSpacePtr} {space : IoSpace}
    (entry : registry.ioMap[controller]? = some ioSpace)
    (present : registry.ioSpaces[ioSpace]? = some space) : property { controller, ioSpace, space } := by
  obtain ⟨other, memberE⟩ := (represents.entries _ _).mp entry
  obtain ⟨owner, memberO⟩ := (represents.objects _ _).mp present
  rcases formed.separate _ memberE _ memberO with equal | separate
  · cases equal
    exact holds _ memberE
  · exact absurd rfl separate.2.1

end Registry

end ExMM
