import Mathlib.Data.Finset.SDiff
import Mathlib.Tactic.ByContra
import ExMM.Model.Resources
import ExMM.Registry.Lifetimes

namespace ExMM

variable {Object Answers : Type}

/-- What the fields of an object name, when the calls of an `Initialize` all succeed, and which answers
    the kernel can give: descriptors, names and areas that are not in use. -/
structure Ownership (allocator : Allocator Object Answers) where
  owned : Object → Finset Resource
  succeed : Answers → Bool
  Fresh : Answers → Finset Resource → Prop
  no_object : ∀ object ioSpace, .object ioSpace ∉ owned object
  succeeded : ∀ (size : Nat) (hookTypes : HookTypes) {answers live}, Fresh answers live → succeed answers = true →
    let result := allocator.initializeObject (allocator.create size hookTypes) answers live
    result.exception = none ∧ result.live = live ∪ owned result.object ∧
      ∀ r ∈ owned result.object, r ∉ live
  failed : ∀ (size : Nat) (hookTypes : HookTypes) {answers live}, Fresh answers live → succeed answers = false →
    let result := allocator.initializeObject (allocator.create size hookTypes) answers live
    (∃ text, result.exception = some text) ∧ live ⊆ result.live
  destroyed : ∀ object live, allocator.destroy object live = live \ owned object

namespace Holdings

variable {allocator : Allocator Object Answers}

def owned (ownership : Ownership allocator) (s : Holdings Object) (ioSpace : IoSpacePtr) : Finset Resource :=
  (s.objects ioSpace).elim ∅ fun object => insert (.object ioSpace) (ownership.owned object)

structure Accounted (ownership : Ownership allocator) (s : Holdings Object) : Prop where
  live : ∀ r, r ∈ s.live ↔ ∃ (controller : ControllerPtr) (ioSpace : IoSpacePtr),
    s.registry.ioMap[controller]? = some ioSpace ∧ r ∈ s.owned ownership ioSpace
  disjoint : ∀ {left right : ControllerPtr} {leftSpace rightSpace : IoSpacePtr} {r : Resource},
    s.registry.ioMap[left]? = some leftSpace → s.registry.ioMap[right]? = some rightSpace →
      r ∈ s.owned ownership leftSpace → r ∈ s.owned ownership rightSpace → left = right

/-- What heap, kernel and C++ promise of a construction: everything it is given is new. -/
def Permits (ownership : Ownership allocator) (s : Holdings Object) : Allocating Answers → Prop
  | .construct controller _ _ ioSpace answers =>
    controller ∉ s.registry.ioMap ∧ .object ioSpace ∉ s.live ∧
      ownership.Fresh answers (insert (.object ioSpace) s.live)
  | .destroy _ => True

def Promised (ownership : Ownership allocator) : Holdings Object → List (Allocating Answers) → Prop
  | _, [] => True
  | s, event :: rest => s.Permits ownership event ∧ Promised ownership (s.apply allocator event) rest

structure Sound (ownership : Ownership allocator) (s : Holdings Object) : Prop where
  objects : ∀ {controller : ControllerPtr} {ioSpace : IoSpacePtr},
    s.registry.ioMap[controller]? = some ioSpace → ∃ object, s.objects ioSpace = some object
  live : ∀ {controller : ControllerPtr} {ioSpace : IoSpacePtr},
    s.registry.ioMap[controller]? = some ioSpace → s.owned ownership ioSpace ⊆ s.live
  disjoint : ∀ {left right : ControllerPtr} {leftSpace rightSpace : IoSpacePtr} {r : Resource},
    s.registry.ioMap[left]? = some leftSpace → s.registry.ioMap[right]? = some rightSpace →
      r ∈ s.owned ownership leftSpace → r ∈ s.owned ownership rightSpace → left = right

variable {ownership : Ownership allocator} {s : Holdings Object}

theorem owned_some {ioSpace : IoSpacePtr} {object : Object} (present : s.objects ioSpace = some object) :
    s.owned ownership ioSpace = insert (.object ioSpace) (ownership.owned object) := by
  simp [owned, present]

theorem Sound.object_owned (sound : s.Sound ownership) {controller : ControllerPtr} {ioSpace : IoSpacePtr}
    (entry : s.registry.ioMap[controller]? = some ioSpace) : .object ioSpace ∈ s.owned ownership ioSpace := by
  obtain ⟨object, present⟩ := sound.objects entry
  rw [owned_some present]
  exact Finset.mem_insert_self _ _

theorem Sound.object_live (sound : s.Sound ownership) {controller : ControllerPtr} {ioSpace : IoSpacePtr}
    (entry : s.registry.ioMap[controller]? = some ioSpace) : .object ioSpace ∈ s.live :=
  sound.live entry (sound.object_owned entry)

theorem Sound.start : Sound ownership (Holdings.start : Holdings Object) := by
  constructor
  · intro controller ioSpace entry
    simp [Holdings.start, Registry.empty] at entry
  · intro controller ioSpace entry
    simp [Holdings.start, Registry.empty] at entry
  · intro left right leftSpace rightSpace r entry
    simp [Holdings.start, Registry.empty] at entry

theorem Sound.grow {s' : Holdings Object} (sound : s.Sound ownership)
    (ioMap : s'.registry.ioMap = s.registry.ioMap) (more : s.live ⊆ s'.live)
    (objects : ∀ {controller : ControllerPtr} {ioSpace : IoSpacePtr},
      s.registry.ioMap[controller]? = some ioSpace → s'.objects ioSpace = s.objects ioSpace) :
    s'.Sound ownership := by
  have owned : ∀ {controller : ControllerPtr} {ioSpace : IoSpacePtr},
      s.registry.ioMap[controller]? = some ioSpace → s'.owned ownership ioSpace = s.owned ownership ioSpace := by
    intro controller ioSpace entry
    simp only [Holdings.owned, objects entry]
  constructor
  · intro controller ioSpace entry
    rw [ioMap] at entry
    rw [objects entry]
    exact sound.objects entry
  · intro controller ioSpace entry
    rw [ioMap] at entry
    rw [owned entry]
    exact (sound.live entry).trans more
  · intro left right leftSpace rightSpace r hl hr memberL memberR
    rw [ioMap] at hl hr
    rw [owned hl] at memberL
    rw [owned hr] at memberR
    exact sound.disjoint hl hr memberL memberR

structure Gains (ownership : Ownership allocator) (s s' : Holdings Object) (controller : ControllerPtr)
    (ioSpace : IoSpacePtr) : Prop where
  entry : s'.registry.ioMap[controller]? = some ioSpace
  entries : ∀ other ≠ controller, s'.registry.ioMap[other]? = s.registry.ioMap[other]?
  absent : s.registry.ioMap[controller]? = none
  object : ∃ object, s'.objects ioSpace = some object
  objects : ∀ other ≠ ioSpace, s'.objects other = s.objects other
  live : s'.live = s.live ∪ s'.owned ownership ioSpace
  new : ∀ r ∈ s'.owned ownership ioSpace, r ∉ s.live

structure Loses (ownership : Ownership allocator) (s s' : Holdings Object) (controller : ControllerPtr)
    (ioSpace : IoSpacePtr) : Prop where
  entry : s.registry.ioMap[controller]? = some ioSpace
  absent : s'.registry.ioMap[controller]? = none
  entries : ∀ other ≠ controller, s'.registry.ioMap[other]? = s.registry.ioMap[other]?
  objects : ∀ other ≠ ioSpace, s'.objects other = s.objects other
  live : s'.live = s.live \ s.owned ownership ioSpace

section

variable {s' : Holdings Object} {controller : ControllerPtr} {ioSpace : IoSpacePtr}

theorem owned_kept (objects : s'.objects ioSpace = s.objects ioSpace) :
    s'.owned ownership ioSpace = s.owned ownership ioSpace := by
  simp only [owned, objects]

theorem Gains.registered (gains : Gains ownership s s' controller ioSpace) (sound : s.Sound ownership)
    {other : ControllerPtr} {space : IoSpacePtr} (entry : s.registry.ioMap[other]? = some space) :
    other ≠ controller ∧ space ≠ ioSpace := by
  constructor
  · rintro rfl
    rw [gains.absent] at entry
    cases entry
  · rintro rfl
    obtain ⟨object, present⟩ := gains.object
    refine gains.new (.object space) ?_ (sound.live entry (sound.object_owned entry))
    rw [owned_some present]
    exact Finset.mem_insert_self _ _

theorem Gains.entry_cases (gains : Gains ownership s s' controller ioSpace) (sound : s.Sound ownership)
    {other : ControllerPtr} {space : IoSpacePtr} (entry : s'.registry.ioMap[other]? = some space) :
    (other = controller ∧ space = ioSpace) ∨ (s.registry.ioMap[other]? = some space ∧
      s'.objects space = s.objects space ∧ s'.owned ownership space = s.owned ownership space) := by
  by_cases mine : other = controller
  · subst mine
    rw [gains.entry] at entry
    cases entry
    exact Or.inl ⟨rfl, rfl⟩
  · rw [gains.entries other mine] at entry
    have kept := gains.objects space (gains.registered sound entry).2
    exact Or.inr ⟨entry, kept, owned_kept kept⟩

theorem Gains.sound (gains : Gains ownership s s' controller ioSpace) (sound : s.Sound ownership) :
    s'.Sound ownership := by
  constructor
  · intro other space entry
    rcases gains.entry_cases sound entry with ⟨rfl, rfl⟩ | ⟨before, kept, -⟩
    · exact gains.object
    · rw [kept]
      exact sound.objects before
  · intro other space entry
    rw [gains.live]
    rcases gains.entry_cases sound entry with ⟨rfl, rfl⟩ | ⟨before, -, owned⟩
    · exact Finset.subset_union_right
    · rw [owned]
      exact (sound.live before).trans Finset.subset_union_left
  · intro left right leftSpace rightSpace r hl hr memberL memberR
    rcases gains.entry_cases sound hl with ⟨rfl, rfl⟩ | ⟨beforeL, -, ownedL⟩
    · rcases gains.entry_cases sound hr with ⟨rfl, rfl⟩ | ⟨beforeR, -, ownedR⟩
      · rfl
      · rw [ownedR] at memberR
        exact absurd (sound.live beforeR memberR) (gains.new r memberL)
    · rw [ownedL] at memberL
      rcases gains.entry_cases sound hr with ⟨rfl, rfl⟩ | ⟨beforeR, -, ownedR⟩
      · exact absurd (sound.live beforeL memberL) (gains.new r memberR)
      · rw [ownedR] at memberR
        exact sound.disjoint beforeL beforeR memberL memberR

theorem Gains.accounted (gains : Gains ownership s s' controller ioSpace) (sound : s.Sound ownership)
    (accounted : s.Accounted ownership) : s'.Accounted ownership where
  live := by
    intro r
    rw [gains.live, Finset.mem_union, accounted.live]
    constructor
    · rintro (⟨other, space, entry, member⟩ | member)
      · obtain ⟨different, elsewhere⟩ := gains.registered sound entry
        refine ⟨other, space, (gains.entries other different).trans entry, ?_⟩
        rwa [owned_kept (gains.objects space elsewhere)]
      · exact ⟨controller, ioSpace, gains.entry, member⟩
    · rintro ⟨other, space, entry, member⟩
      rcases gains.entry_cases sound entry with ⟨rfl, rfl⟩ | ⟨before, -, owned⟩
      · exact Or.inr member
      · rw [owned] at member
        exact Or.inl ⟨other, space, before, member⟩
  disjoint := (gains.sound sound).disjoint

theorem Loses.entry_before (loses : Loses ownership s s' controller ioSpace) (sound : s.Sound ownership)
    {other : ControllerPtr} {space : IoSpacePtr} (entry : s'.registry.ioMap[other]? = some space) :
    other ≠ controller ∧ s.registry.ioMap[other]? = some space ∧ s'.objects space = s.objects space ∧
      s'.owned ownership space = s.owned ownership space := by
  have different : other ≠ controller := by
    rintro rfl
    rw [loses.absent] at entry
    cases entry
  rw [loses.entries other different] at entry
  have elsewhere : space ≠ ioSpace := by
    rintro rfl
    exact different (sound.disjoint entry loses.entry (sound.object_owned entry) (sound.object_owned entry))
  have kept := loses.objects space elsewhere
  exact ⟨different, entry, kept, owned_kept kept⟩

theorem Loses.sound (loses : Loses ownership s s' controller ioSpace) (sound : s.Sound ownership) :
    s'.Sound ownership := by
  constructor
  · intro other space entry
    obtain ⟨-, before, kept, -⟩ := loses.entry_before sound entry
    rw [kept]
    exact sound.objects before
  · intro other space entry r member
    obtain ⟨different, before, -, owned⟩ := loses.entry_before sound entry
    rw [owned] at member
    rw [loses.live, Finset.mem_sdiff]
    exact ⟨sound.live before member,
      fun mine => different (sound.disjoint before loses.entry member mine)⟩
  · intro left right leftSpace rightSpace r hl hr memberL memberR
    obtain ⟨-, beforeL, -, ownedL⟩ := loses.entry_before sound hl
    obtain ⟨-, beforeR, -, ownedR⟩ := loses.entry_before sound hr
    rw [ownedL] at memberL
    rw [ownedR] at memberR
    exact sound.disjoint beforeL beforeR memberL memberR

theorem Loses.accounted (loses : Loses ownership s s' controller ioSpace) (sound : s.Sound ownership)
    (accounted : s.Accounted ownership) : s'.Accounted ownership where
  live := by
    intro r
    rw [loses.live, Finset.mem_sdiff, accounted.live]
    constructor
    · rintro ⟨⟨other, space, entry, member⟩, spared⟩
      have different : other ≠ controller := by
        rintro rfl
        rw [loses.entry] at entry
        cases entry
        exact spared member
      have after := (loses.entries other different).trans entry
      obtain ⟨-, -, -, owned⟩ := loses.entry_before sound after
      exact ⟨other, space, after, owned ▸ member⟩
    · rintro ⟨other, space, entry, member⟩
      obtain ⟨different, before, -, owned⟩ := loses.entry_before sound entry
      rw [owned] at member
      exact ⟨⟨other, space, before, member⟩,
        fun mine => different (sound.disjoint before loses.entry member mine)⟩
  disjoint := (loses.sound sound).disjoint

end

theorem construct_succeeded {controller : ControllerPtr} {size : Nat} {hookTypes : HookTypes}
    {ioSpace : IoSpacePtr} {answers : Answers}
    (permits : s.Permits ownership (.construct controller size hookTypes ioSpace answers))
    (succeeds : ownership.succeed answers = true) :
    let result := s.construct allocator controller size hookTypes ioSpace answers
    result.2 = none ∧ Gains ownership s result.1 controller ioSpace := by
  obtain ⟨absent, new, fresh⟩ := permits
  obtain ⟨thrown, live, unused⟩ := ownership.succeeded size hookTypes fresh succeeds
  simp only [construct, thrown, true_and]
  refine ⟨?_, ?_, ?_, ⟨_, Function.update_self ..⟩, ?_, ?_, ?_⟩
  · simp only [Registry.add, Registry.initPlatform_ioMap, Std.TreeMap.getElem?_insertIfNew,
      Std.compare_self, absent, not_false_eq_true, and_self, if_true]
  · intro other different
    have apart : ¬ (compare controller other = .eq ∧ controller ∉ s.registry.ioMap) := by
      rintro ⟨same, -⟩
      exact different (Std.compare_eq_iff_eq.mp same).symm
    simp only [Registry.add, Registry.initPlatform_ioMap, Std.TreeMap.getElem?_insertIfNew, if_neg apart]
  · exact Std.TreeMap.getElem?_eq_none absent
  · intro other different
    exact Function.update_of_ne different _ _
  · rw [owned_some (Function.update_self ..), live]
    ext r
    simp only [Finset.mem_union, Finset.mem_insert]
    tauto
  · intro r member
    rw [owned_some (Function.update_self ..)] at member
    rcases Finset.mem_insert.mp member with rfl | inside
    · exact new
    · exact fun before => unused r inside (Finset.mem_insert_of_mem before)

theorem construct_failed (sound : s.Sound ownership) {controller : ControllerPtr} {size : Nat}
    {hookTypes : HookTypes} {ioSpace : IoSpacePtr} {answers : Answers}
    (permits : s.Permits ownership (.construct controller size hookTypes ioSpace answers))
    (fails : ownership.succeed answers = false) :
    let result := s.construct allocator controller size hookTypes ioSpace answers
    result.1.Sound ownership ∧ ¬ result.1.Accounted ownership := by
  obtain ⟨-, new, fresh⟩ := permits
  obtain ⟨⟨text, thrown⟩, more⟩ := ownership.failed size hookTypes fresh fails
  have spared : ∀ {other : ControllerPtr} {space : IoSpacePtr}, s.registry.ioMap[other]? = some space →
      space ≠ ioSpace := by
    rintro other space entry rfl
    exact new (sound.object_live entry)
  simp only [construct, thrown]
  constructor
  · refine sound.grow (Registry.initPlatform_ioMap _) ((Finset.subset_insert _ _).trans more) ?_
    intro other space entry
    exact Function.update_of_ne (spared entry) _ _
  · -- the object has been created, and no entry of the map leads to it
    intro accounted
    obtain ⟨other, space, entry, member⟩ := (accounted.live (.object ioSpace)).mp
      (more (Finset.mem_insert_self _ _))
    rw [Registry.initPlatform_ioMap] at entry
    have elsewhere := spared entry
    obtain ⟨object, present⟩ := sound.objects entry
    rw [owned_some ((Function.update_of_ne elsewhere _ _).trans present)] at member
    rcases Finset.mem_insert.mp member with same | inside
    · cases same
      exact elsewhere rfl
    · exact ownership.no_object _ _ inside

theorem remove_cases (sound : s.Sound ownership) (controller : ControllerPtr) :
    s.remove allocator controller = s ∨
      ∃ ioSpace, Loses ownership s (s.remove allocator controller) controller ioSpace := by
  unfold remove
  cases entry : s.registry.ioMap[controller]? with
  | none => exact Or.inl rfl
  | some ioSpace =>
    right
    obtain ⟨object, present⟩ := sound.objects entry
    refine ⟨ioSpace, entry, ?_, ?_, ?_, ?_⟩
    · simp [Registry.remove, entry]
    · intro other different
      have apart : compare controller other ≠ .eq :=
        fun same => different (Std.compare_eq_iff_eq.mp same).symm
      simp [Registry.remove, entry, Std.TreeMap.getElem?_erase, apart]
    · intro other different
      exact Function.update_of_ne different _ _
    · simp only [present, Option.elim_some, ownership.destroyed, owned_some present]
      ext r
      simp only [Finset.mem_erase, Finset.mem_sdiff, Finset.mem_insert]
      tauto

theorem Sound.apply (sound : s.Sound ownership) {event : Allocating Answers}
    (permits : s.Permits ownership event) : (s.apply allocator event).Sound ownership := by
  cases event with
  | construct controller size hookTypes ioSpace answers =>
    cases outcome : ownership.succeed answers with
    | true => exact (construct_succeeded permits outcome).2.sound sound
    | false => exact (construct_failed sound permits outcome).1
  | destroy controller =>
    rcases remove_cases sound controller with same | ⟨ioSpace, loses⟩
    · rw [Holdings.apply, same]
      exact sound
    · exact loses.sound sound

def Succeeds (ownership : Ownership allocator) : Allocating Answers → Prop
  | .construct _ _ _ _ answers => ownership.succeed answers = true
  | .destroy _ => True

/-- What a step must leave: the accounts balanced, after an exception everything as before, and nothing
    once no controller is left. -/
structure StepAccounted (ownership : Ownership allocator) (s : Holdings Object)
    (event : Allocating Answers) : Prop where
  accounted : (s.apply allocator event).Accounted ownership
  thrown : s.throws allocator event = true →
    (s.apply allocator event).registry.ioMap = s.registry.ioMap ∧ (s.apply allocator event).live = s.live
  emptied : (∀ controller : ControllerPtr, (s.apply allocator event).registry.ioMap[controller]? = none) →
    (s.apply allocator event).live = ∅

theorem Accounted.empty (accounted : s.Accounted ownership)
    (none : ∀ controller : ControllerPtr, s.registry.ioMap[controller]? = none) : s.live = ∅ := by
  refine Finset.eq_empty_of_forall_notMem fun r member => ?_
  obtain ⟨controller, ioSpace, entry, -⟩ := (accounted.live r).mp member
  rw [none controller] at entry
  cases entry

theorem Accounted.step (accounted : s.Accounted ownership) (sound : s.Sound ownership)
    {event : Allocating Answers} (permits : s.Permits ownership event)
    (succeeds : Succeeds ownership event) : StepAccounted ownership s event := by
  have next : (s.apply allocator event).Accounted ownership ∧ s.throws allocator event = false := by
    cases event with
    | construct controller size hookTypes ioSpace answers =>
      obtain ⟨thrown, gains⟩ := construct_succeeded permits succeeds
      exact ⟨gains.accounted sound accounted, by simp only [throws, thrown, Option.isSome_none]⟩
    | destroy controller =>
      refine ⟨?_, rfl⟩
      rcases remove_cases sound controller with same | ⟨ioSpace, loses⟩
      · rw [Holdings.apply, same]
        exact accounted
      · exact loses.accounted sound accounted
  refine ⟨next.1, fun thrown => ?_, next.1.empty⟩
  rw [next.2] at thrown
  cases thrown

def AccountedThroughout (ownership : Ownership allocator) : Holdings Object → List (Allocating Answers) → Prop
  | _, [] => True
  | s, event :: rest => StepAccounted ownership s event ∧
      AccountedThroughout ownership (s.apply allocator event) rest

theorem accountedThroughout_iff (sound : s.Sound ownership) (accounted : s.Accounted ownership)
    {events : List (Allocating Answers)} (promised : Promised ownership s events) :
    AccountedThroughout ownership s events ↔ ∀ event ∈ events, Succeeds ownership event := by
  induction events generalizing s with
  | nil => simp [AccountedThroughout]
  | cons event rest ih =>
    obtain ⟨permits, later⟩ := promised
    rw [List.forall_mem_cons, AccountedThroughout]
    constructor
    · rintro ⟨here, further⟩
      refine ⟨?_, (ih (sound.apply permits) here.accounted later).mp further⟩
      cases event with
      | construct controller size hookTypes ioSpace answers =>
        by_contra fails
        exact (construct_failed sound permits (Bool.not_eq_true _ ▸ fails)).2 here.accounted
      | destroy controller => trivial
    · rintro ⟨succeeds, rest_succeed⟩
      have here := accounted.step sound permits succeeds
      exact ⟨here, (ih (sound.apply permits) here.accounted later).mpr rest_succeed⟩

theorem Accounted.start : Accounted ownership (Holdings.start : Holdings Object) where
  live := by
    intro r
    simp [Holdings.start, Registry.empty]
  disjoint := Sound.start.disjoint

end Holdings

end ExMM
