import ExMM.Resources.Ownership

namespace ExMM

theorem mem_held {resource : Nat → Resource} {value : Option Nat} {r : Resource} :
    r ∈ held resource value ↔ ∃ v, value = some v ∧ resource v = r := by
  simp [held]

@[simp] theorem held_some (resource : Nat → Resource) (value : Nat) :
    held resource (some value) = {resource value} := rfl

namespace Posix

def Object.owned (object : Object) : Finset Resource :=
  held .area object.publicArea ∪ held .area object.privateArea ∪ held .file object.file

def Answers.succeed (answers : Answers) : Bool :=
  answers.mkstemp.isSome && answers.ftruncate && answers.mmapPrivate.isSome && answers.mmapPublic.isSome

def Answers.resources (answers : Answers) : List Resource :=
  (answers.mkstemp.toList.flatMap fun pair => [.file pair.1, .name pair.2]) ++
    answers.mmapPrivate.toList.map .area ++ answers.mmapPublic.toList.map .area

theorem Object.destroy_eq (object : Object) (live : Finset Resource) :
    object.destroy live = live \ object.owned := by
  ext r
  simp only [destroy, owned, Finset.mem_sdiff, Finset.mem_union]
  tauto

theorem Object.no_object (object : Object) (ioSpace : IoSpacePtr) : .object ioSpace ∉ object.owned := by
  simp [owned, mem_held]

theorem Object.succeeded (size : Nat) (hookTypes : HookTypes) {answers : Answers} {live : Finset Resource}
    (fresh : ∀ r ∈ answers.resources, r ∉ live) (succeeds : answers.succeed = true) :
    let result := (create size hookTypes).initializeObject answers live
    result.exception = none ∧ result.live = live ∪ result.object.owned ∧
      ∀ r ∈ result.object.owned, r ∉ live := by
  obtain ⟨mkstemp, ftruncate, mmapPrivate, mmapPublic, text⟩ := answers
  simp only [Answers.succeed, Bool.and_eq_true, Option.isSome_iff_exists] at succeeds
  obtain ⟨⟨⟨⟨⟨file, buffer⟩, rfl⟩, rfl⟩, privateArea, rfl⟩, publicArea, rfl⟩ := succeeds
  have unnamed : Resource.name buffer ∉ live := fresh _ (by simp [Answers.resources])
  have completed : (create size hookTypes).initializeObject
      ⟨some (file, buffer), true, some privateArea, some publicArea, text⟩ live =
      { object := ⟨hookTypes, size, some file, some privateArea, some publicArea, publicFlags hookTypes⟩
        live := (live ∪ {.file file, .name buffer}).erase (.name buffer) ∪ {.area privateArea} ∪
          {.area publicArea}
        exception := none } := rfl
  rw [completed]
  refine ⟨rfl, ?_, ?_⟩
  · ext r
    simp only [owned, held_some, Finset.mem_union, Finset.mem_erase, Finset.mem_insert, Finset.mem_singleton]
    constructor
    · tauto
    · rintro (member | (rfl | rfl) | rfl)
      · exact Or.inl (Or.inl ⟨fun same => unnamed (same ▸ member), Or.inl member⟩)
      · exact Or.inr rfl
      · exact Or.inl (Or.inr rfl)
      · exact Or.inl (Or.inl ⟨by simp, Or.inr (Or.inl rfl)⟩)
  · intro r member
    simp only [owned, held_some, Finset.mem_union, Finset.mem_singleton] at member
    refine fresh r ?_
    simp only [Answers.resources, Option.toList_some, List.flatMap_cons, List.flatMap_nil, List.append_nil,
      List.map_cons, List.map_nil, List.mem_append, List.mem_cons, List.not_mem_nil, or_false]
    tauto

theorem Object.failed (size : Nat) (hookTypes : HookTypes) {answers : Answers} {live : Finset Resource}
    (fresh : ∀ r ∈ answers.resources, r ∉ live) (fails : answers.succeed = false) :
    let result := (create size hookTypes).initializeObject answers live
    (∃ text, result.exception = some text) ∧ live ⊆ result.live := by
  obtain ⟨mkstemp, ftruncate, mmapPrivate, mmapPublic, text⟩ := answers
  cases mkstemp with
  | none => exact ⟨⟨_, rfl⟩, Finset.Subset.refl _⟩
  | some pair =>
    obtain ⟨file, buffer⟩ := pair
    have unnamed : Resource.name buffer ∉ live := fresh _ (by simp [Answers.resources])
    have unlinked : live ⊆ (live ∪ {.file file, .name buffer}).erase (.name buffer) := by
      intro r member
      exact Finset.mem_erase.mpr ⟨fun same => unnamed (same ▸ member), Finset.mem_union_left _ member⟩
    cases ftruncate with
    | false => exact ⟨⟨_, rfl⟩, Finset.subset_union_left⟩
    | true =>
      cases mmapPrivate with
      | none => exact ⟨⟨_, rfl⟩, unlinked⟩
      | some privateArea =>
        cases mmapPublic with
        | none => exact ⟨⟨_, rfl⟩, unlinked.trans Finset.subset_union_left⟩
        | some publicArea => cases fails

def ownership : Ownership allocator where
  owned := Object.owned
  succeed := Answers.succeed
  Fresh := fun answers live => ∀ r ∈ answers.resources, r ∉ live
  no_object := Object.no_object
  succeeded := Object.succeeded
  failed := Object.failed
  destroyed := Object.destroy_eq

end Posix

namespace Windows

def Object.owned (object : Object) : Finset Resource :=
  held .area object.publicArea ∪ held .area object.privateArea ∪ held .file object.hMapping.value

def Answers.succeed (answers : Answers) : Bool :=
  answers.createFileMapping.isSome && answers.mapPublic.isSome && answers.mapPrivate.isSome &&
    answers.virtualProtect

def Answers.resources (answers : Answers) : List Resource :=
  answers.createFileMapping.toList.map .file ++ answers.mapPublic.toList.map .area ++
    answers.mapPrivate.toList.map .area

theorem Object.destroy_eq (object : Object) (live : Finset Resource) :
    object.destroy live = live \ object.owned := by
  ext r
  simp only [destroy, owned, Finset.mem_sdiff, Finset.mem_union]
  tauto

theorem Object.no_object (object : Object) (ioSpace : IoSpacePtr) : .object ioSpace ∉ object.owned := by
  simp [owned, mem_held]

theorem Object.succeeded (size : Nat) (hookTypes : HookTypes) {answers : Answers} {live : Finset Resource}
    (fresh : ∀ r ∈ answers.resources, r ∉ live) (succeeds : answers.succeed = true) :
    let result := (create size hookTypes).initializeObject answers live
    result.exception = none ∧ result.live = live ∪ result.object.owned ∧
      ∀ r ∈ result.object.owned, r ∉ live := by
  obtain ⟨mapping, mapPublic, mapPrivate, virtualProtect⟩ := answers
  simp only [Answers.succeed, Bool.and_eq_true, Option.isSome_iff_exists] at succeeds
  obtain ⟨⟨⟨⟨handle, rfl⟩, publicArea, rfl⟩, privateArea, rfl⟩, rfl⟩ := succeeds
  have completed : (create size hookTypes).initializeObject
      ⟨some handle, some publicArea, some privateArea, true⟩ live =
      { object := ⟨size, hookTypes, .valid handle, some publicArea, some privateArea, none⟩
        live := live ∪ {.file handle} ∪ {.area publicArea} ∪ {.area privateArea}
        exception := none } := rfl
  rw [completed]
  refine ⟨rfl, ?_, ?_⟩
  · ext r
    simp only [owned, held_some, Handle.value, Finset.mem_union, Finset.mem_singleton]
    tauto
  · intro r member
    simp only [owned, held_some, Handle.value, Finset.mem_union, Finset.mem_singleton] at member
    refine fresh r ?_
    simp only [Answers.resources, Option.toList_some, List.map_cons, List.map_nil, List.mem_append,
      List.mem_cons, List.not_mem_nil, or_false]
    tauto

theorem Object.failed (size : Nat) (hookTypes : HookTypes) {answers : Answers} {live : Finset Resource}
    (fails : answers.succeed = false) :
    let result := (create size hookTypes).initializeObject answers live
    (∃ text, result.exception = some text) ∧ live ⊆ result.live := by
  obtain ⟨mapping, mapPublic, mapPrivate, virtualProtect⟩ := answers
  have one : ∀ mapped : Finset Resource, live ⊆ live ∪ mapped := fun _ => Finset.subset_union_left
  have three : ∀ mapped views more : Finset Resource, live ⊆ live ∪ mapped ∪ views ∪ more :=
    fun _ _ _ => ((one _).trans Finset.subset_union_left).trans Finset.subset_union_left
  cases mapping with
  | none => exact ⟨⟨_, rfl⟩, three _ _ _⟩
  | some handle =>
    cases mapPublic with
    | none => exact ⟨⟨_, rfl⟩, three _ _ _⟩
    | some publicArea =>
      cases mapPrivate with
      | none => exact ⟨⟨_, rfl⟩, three _ _ _⟩
      | some privateArea =>
        cases virtualProtect with
        | false => exact ⟨⟨_, rfl⟩, three _ _ _⟩
        | true => cases fails

def ownership : Ownership allocator where
  owned := Object.owned
  succeed := Answers.succeed
  Fresh := fun answers live => ∀ r ∈ answers.resources, r ∉ live
  no_object := Object.no_object
  succeeded := Object.succeeded
  failed := fun size hookTypes _ _ _ => Object.failed size hookTypes
  destroyed := Object.destroy_eq

end Windows

open Holdings

/-- The accounts stay in order through a history exactly if no call of the operating system fails in it:
    an `IoSpace` whose `Initialize` throws is never deleted. -/
theorem resources_accounted_iff (posix : List (Allocating Posix.Answers))
    (windows : List (Allocating Windows.Answers))
    (posixPromised : Promised Posix.ownership Holdings.start posix)
    (windowsPromised : Promised Windows.ownership Holdings.start windows) :
    (AccountedThroughout Posix.ownership Holdings.start posix ↔
      ∀ event ∈ posix, Succeeds Posix.ownership event) ∧
    (AccountedThroughout Windows.ownership Holdings.start windows ↔
      ∀ event ∈ windows, Succeeds Windows.ownership event) :=
  ⟨accountedThroughout_iff Sound.start Accounted.start posixPromised,
    accountedThroughout_iff Sound.start Accounted.start windowsPromised⟩

instance (answers : Posix.Answers) (live : Finset Resource) : Decidable (Posix.ownership.Fresh answers live) :=
  inferInstanceAs (Decidable (∀ r ∈ answers.resources, r ∉ live))

instance (answers : Windows.Answers) (live : Finset Resource) :
    Decidable (Windows.ownership.Fresh answers live) :=
  inferInstanceAs (Decidable (∀ r ∈ answers.resources, r ∉ live))

def posixReuse : List (Allocating Posix.Answers) :=
  [.construct 8 64 .readWrite 100 ⟨some (3, 0), true, some 0x50000, some 0x10000, ""⟩,
    .construct 4 64 .write 200 ⟨some (4, 1), true, some 0x60000, some 0x11000, ""⟩, .destroy 8,
    .construct 16 64 .none 100 ⟨some (3, 0), true, some 0x50000, some 0x10000, ""⟩]

def windowsReuse : List (Allocating Windows.Answers) :=
  [.construct 8 64 .readWrite 100 ⟨some 3, some 0x10000, some 0x50000, true⟩, .destroy 8,
    .construct 16 64 .none 100 ⟨some 3, some 0x10000, some 0x50000, true⟩]

theorem reuse_accounted : AccountedThroughout Posix.ownership Holdings.start posixReuse ∧
    AccountedThroughout Windows.ownership Holdings.start windowsReuse := by
  have posix : Promised Posix.ownership Holdings.start posixReuse :=
    ⟨⟨by decide, by decide, by decide⟩, ⟨by decide, by decide, by decide⟩, trivial,
      ⟨by decide, by decide, by decide⟩, trivial⟩
  have windows : Promised Windows.ownership Holdings.start windowsReuse :=
    ⟨⟨by decide, by decide, by decide⟩, trivial, ⟨by decide, by decide, by decide⟩, trivial⟩
  have accounted := resources_accounted_iff posixReuse windowsReuse posix windows
  refine ⟨accounted.1.mpr ?_, accounted.2.mpr ?_⟩
  · simp [posixReuse, Succeeds, Posix.ownership, Posix.Answers.succeed]
  · simp [windowsReuse, Succeeds, Windows.ownership, Windows.Answers.succeed]

def posixFailure : List (Allocating Posix.Answers) :=
  [.construct 8 64 .readWrite 100 ⟨some (3, 0), false, some 0x50000, some 0x10000, "No space left on device"⟩]

def windowsFailure : List (Allocating Windows.Answers) :=
  [.construct 8 64 .readWrite 100 ⟨some 3, some 0x10000, none, true⟩]

theorem failures_leak :
    (Promised Posix.ownership Holdings.start posixFailure ∧
      (Holdings.after Posix.allocator posixFailure).registry.ioMap.toList = [] ∧
      (Holdings.after Posix.allocator posixFailure).live = {.object 100, .file 3, .name 0} ∧
      ¬ AccountedThroughout Posix.ownership Holdings.start posixFailure) ∧
    (Promised Windows.ownership Holdings.start windowsFailure ∧
      (Holdings.after Windows.allocator windowsFailure).registry.ioMap.toList = [] ∧
      (Holdings.after Windows.allocator windowsFailure).live = {.object 100, .file 3, .area 0x10000} ∧
      ¬ AccountedThroughout Windows.ownership Holdings.start windowsFailure) := by
  have posix : Promised Posix.ownership Holdings.start posixFailure :=
    ⟨⟨by decide, by decide, by decide⟩, trivial⟩
  have windows : Promised Windows.ownership Holdings.start windowsFailure :=
    ⟨⟨by decide, by decide, by decide⟩, trivial⟩
  refine ⟨⟨posix, by decide, by decide, fun accounted => ?_⟩,
    windows, by decide, by decide, fun accounted => ?_⟩
  · have succeeds := (accountedThroughout_iff Sound.start Accounted.start posix).mp accounted _
      (List.mem_singleton_self _)
    cases succeeds
  · have succeeds := (accountedThroughout_iff Sound.start Accounted.start windows).mp accounted _
      (List.mem_singleton_self _)
    cases succeeds

end ExMM
