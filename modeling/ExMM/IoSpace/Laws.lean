import ExMM.Model.Platform

namespace ExMM

/-- What the handlers rely on: `closed` is the state between accesses, `opened` the one after an
    `Unprotect` from there, and `sound` covers every state any order of calls leads to. -/
structure Platform.Law {Area : Type} (platform : Platform Area) where
  sound : HookTypes → Area → Prop
  closed : HookTypes → Area → Prop
  opened : HookTypes → Area → Prop
  sound_of_closed : ∀ {hookTypes area}, closed hookTypes area → sound hookTypes area
  sound_of_opened : ∀ {hookTypes area}, opened hookTypes area → sound hookTypes area
  closed_initial : ∀ hookTypes, closed hookTypes (platform.initializeArea hookTypes)
  protection_closed : ∀ {hookTypes area}, closed hookTypes area →
    platform.protection area = initialProtection hookTypes
  protection_opened : ∀ {hookTypes area}, opened hookTypes area → platform.protection area = .readWrite
  protection_sound : ∀ {hookTypes area}, sound hookTypes area →
    platform.protection area = initialProtection hookTypes ∨ platform.protection area = .readWrite
  unprotect_closed : ∀ {hookTypes area}, closed hookTypes area →
    ∃ next, platform.unprotect area = some next ∧ opened hookTypes next
  unprotect_sound : ∀ {hookTypes area next}, sound hookTypes area → platform.unprotect area = some next →
    sound hookTypes next
  restore_opened : ∀ {hookTypes area}, opened hookTypes area →
    ∃ next, platform.restoreProtection area = some next ∧ closed hookTypes next
  restore_sound : ∀ {hookTypes area next}, sound hookTypes area →
    platform.restoreProtection area = some next → sound hookTypes next

def Posix.law : Posix.platform.Law where
  sound := fun hookTypes space => space.oldProtection = initialProtection hookTypes ∧
    (space.protection = initialProtection hookTypes ∨ space.protection = .readWrite)
  closed := fun hookTypes space => space.oldProtection = initialProtection hookTypes ∧
    space.protection = initialProtection hookTypes
  opened := fun hookTypes space => space.oldProtection = initialProtection hookTypes ∧
    space.protection = .readWrite
  sound_of_closed := fun ⟨old, now⟩ => ⟨old, Or.inl now⟩
  sound_of_opened := fun ⟨old, now⟩ => ⟨old, Or.inr now⟩
  closed_initial := fun hookTypes => ⟨Posix.publicFlags_eq hookTypes, Posix.publicFlags_eq hookTypes⟩
  protection_closed := fun ⟨_, now⟩ => now
  protection_opened := fun ⟨_, now⟩ => now
  protection_sound := fun ⟨_, now⟩ => now
  unprotect_closed := fun ⟨old, _⟩ => ⟨_, rfl, old, rfl⟩
  unprotect_sound := by
    rintro hookTypes space next ⟨old, _⟩ changed
    cases changed
    exact ⟨old, Or.inr rfl⟩
  restore_opened := fun ⟨old, _⟩ => ⟨_, rfl, old, old⟩
  restore_sound := by
    rintro hookTypes space next ⟨old, _⟩ changed
    cases changed
    exact ⟨old, Or.inl old⟩

def Windows.law : Windows.platform.Law where
  sound := fun hookTypes space =>
    (space.protection = initialProtection hookTypes ∨ space.protection = .readWrite) ∧
      ∀ old, space.oldProtection = some old → old = initialProtection hookTypes ∨ old = .readWrite
  closed := fun hookTypes space => space.protection = initialProtection hookTypes ∧
    ∀ old, space.oldProtection = some old → old = initialProtection hookTypes
  opened := fun hookTypes space => space.protection = .readWrite ∧
    space.oldProtection = some (initialProtection hookTypes)
  sound_of_closed := fun ⟨now, old⟩ => ⟨Or.inl now, fun p saved => Or.inl (old p saved)⟩
  sound_of_opened := fun ⟨now, old⟩ => ⟨Or.inr now, fun p saved => Or.inl (by
    rw [old, Option.some.injEq] at saved
    exact saved.symm)⟩
  closed_initial := fun hookTypes => ⟨Windows.newProtection_eq hookTypes, fun _ saved => by cases saved⟩
  protection_closed := fun ⟨now, _⟩ => now
  protection_opened := fun ⟨now, _⟩ => now
  protection_sound := fun ⟨now, _⟩ => now
  unprotect_closed := fun ⟨now, _⟩ => ⟨_, rfl, rfl, congrArg some now⟩
  unprotect_sound := by
    rintro hookTypes space next ⟨now, _⟩ changed
    cases changed
    refine ⟨Or.inr rfl, fun old saved => ?_⟩
    cases saved
    exact now
  restore_opened := by
    rintro hookTypes space ⟨_, old⟩
    refine ⟨{ space with protection := initialProtection hookTypes }, ?_, rfl, fun p saved => ?_⟩
    · simp [Windows.platform, Windows.IoSpace.restoreProtection, Windows.virtualProtect, old]
    · rw [old, Option.some.injEq] at saved
      exact saved.symm
  restore_sound := by
    rintro hookTypes space next ⟨_, old⟩ changed
    obtain ⟨saved, present, rfl⟩ := Option.map_eq_some_iff.mp changed
    exact ⟨old saved present, old⟩

end ExMM
