import ExMM.Machine.DeviceModel

namespace ExMM

def roundUp (page size : Nat) : Nat := (size + page - 1) / page * page

theorem le_roundUp {page : Nat} (positive : 0 < page) (size : Nat) : size ≤ roundUp page size := by
  have whole := Nat.div_add_mod (size + page - 1) page
  have rest := Nat.mod_lt (size + page - 1) positive
  rw [Nat.mul_comm] at whole
  unfold roundUp
  omega

theorem roundUp_eq_iff {page : Nat} (positive : 0 < page) (size : Nat) :
    roundUp page size = size ↔ page ∣ size := by
  constructor
  · intro same
    exact ⟨_, (same.symm.trans (Nat.mul_comm _ _))⟩
  · rintro ⟨count, rfl⟩
    have quotient : (page * count + page - 1) / page = count := by
      rw [Nat.add_sub_assoc positive, Nat.mul_add_div positive, Nat.div_eq_of_lt (by omega), Nat.add_zero]
    rw [roundUp, quotient, Nat.mul_comm]

def IoSpace.Spans (space : IoSpace) (page a : Nat) : Prop :=
  space.publicArea ≤ a ∧ a < space.publicArea + roundUp page space.size

instance (space : IoSpace) (page a : Nat) : Decidable (space.Spans page a) :=
  inferInstanceAs (Decidable (_ ∧ _))

def HookTypes.hooked (hookTypes : HookTypes) : Bool := hookTypes.and .read || hookTypes.and .write

theorem HookTypes.hooked_of_denied {hookTypes : HookTypes} {kind : AccessKind}
    (denied : (Posix.publicFlags hookTypes).allows kind = false) : hookTypes.hooked = true := by
  cases hookTypes with
  | none => cases denied
  | read => rfl
  | write => rfl
  | readWrite => rfl

theorem HookTypes.store_denied {hookTypes : HookTypes} (hooked : hookTypes.hooked = true) :
    (Posix.publicFlags hookTypes).allows .store = false := by
  cases hookTypes with
  | none => cases hooked
  | read => rfl
  | write => rfl
  | readWrite => rfl

namespace Registry

structure Paged (page : Nat) (registry : Registry) : Prop where
  positive : 0 < page
  registered : registry.WellFormed
  apart : ∀ {left right : IoSpacePtr} {leftSpace rightSpace : IoSpace} {a : Nat},
    registry.ioSpaces[left]? = some leftSpace → registry.ioSpaces[right]? = some rightSpace →
      leftSpace.Spans page a → rightSpace.Spans page a → left = right

def Faults (page : Nat) (registry : Registry) (kind : AccessKind) (a : Nat) : Prop :=
  ∃ (ioSpace : IoSpacePtr) (space : IoSpace), registry.ioSpaces[ioSpace]? = some space ∧
    space.Spans page a ∧ (Posix.publicFlags space.hookTypes).allows kind = false

def Manages (registry : Registry) (a : Nat) : Prop :=
  ∃ found space, registry.findController a = some (some found) ∧
    registry.ioSpaces[found.ioSpace]? = some space ∧ space.hookTypes.hooked = true

def EveryFaultManaged (page : Nat) (registry : Registry) : Prop :=
  (∀ a, (∃ kind, registry.Faults page kind a) ↔ registry.Manages a) ∧
    ∀ kind a, registry.Faults page kind a → registry.findController a ≠ some none

variable {page : Nat} {registry : Registry}

theorem Paged.spans_of_contains (paged : registry.Paged page) {space : IoSpace} {a : Nat}
    (inside : space.Contains a) : space.Spans page a := by
  have longer := le_roundUp paged.positive space.size
  obtain ⟨low, high⟩ := inside
  exact ⟨low, by omega⟩

theorem Paged.contains_of_spans (paged : registry.Paged page) {space : IoSpace} {a : Nat}
    (whole : page ∣ space.size) (spans : space.Spans page a) : space.Contains a := by
  obtain ⟨low, high⟩ := spans
  rw [(roundUp_eq_iff paged.positive _).mpr whole] at high
  exact ⟨low, high⟩

theorem Paged.manages_iff (paged : registry.Paged page) (a : Nat) :
    registry.Manages a ↔ ∃ (ioSpace : IoSpacePtr) (space : IoSpace),
      registry.ioSpaces[ioSpace]? = some space ∧ space.Contains a ∧ space.hookTypes.hooked = true := by
  constructor
  · rintro ⟨found, space, result, present, hooked⟩
    obtain ⟨-, owner, present', inside, -⟩ := (paged.registered.findController_some a found).mp result
    rw [present] at present'
    cases present'
    exact ⟨_, space, present, inside, hooked⟩
  · rintro ⟨ioSpace, space, present, inside, hooked⟩
    obtain ⟨controller, entry⟩ := paged.registered.owned present
    exact ⟨⟨controller, ioSpace, a - space.publicArea⟩, space,
      (paged.registered.findController_some a _).mpr ⟨entry, space, present, inside, rfl⟩, present, hooked⟩

theorem Paged.mapping_iff (paged : registry.Paged page)
    (whole : ∀ (ioSpace : IoSpacePtr) (space : IoSpace), registry.ioSpaces[ioSpace]? = some space →
      page ∣ space.size) (a : Nat) (ioSpace : IoSpacePtr) :
    registry.mapping a = some ioSpace ↔
      ∃ space, registry.ioSpaces[ioSpace]? = some space ∧ space.Spans page a := by
  rw [paged.registered.mapping_some]
  constructor
  · rintro ⟨space, present, inside⟩
    exact ⟨space, present, paged.spans_of_contains inside⟩
  · rintro ⟨space, present, spans⟩
    exact ⟨space, present, paged.contains_of_spans (whole _ _ present) spans⟩

end Registry

/-- Every fault is managed exactly if the hooked areas end with a page: behind the last register
    of any other one, the rest of its page faults and belongs to nobody. -/
theorem faults_managed_iff (page : Nat) (registry : Registry) (paged : registry.Paged page) :
    registry.EveryFaultManaged page ↔
      ∀ (ioSpace : IoSpacePtr) (space : IoSpace), registry.ioSpaces[ioSpace]? = some space →
        space.hookTypes.hooked = true → page ∣ space.size := by
  constructor
  · rintro ⟨same, -⟩ ioSpace space present hooked
    rw [← roundUp_eq_iff paged.positive]
    by_contra longer
    have behind : space.size < roundUp page space.size :=
      Nat.lt_of_le_of_ne (le_roundUp paged.positive _) (Ne.symm longer)
    have spans : space.Spans page (space.publicArea + space.size) := ⟨by omega, by omega⟩
    have managed := (same _).mp ⟨.store, ioSpace, space, present, spans, HookTypes.store_denied hooked⟩
    obtain ⟨owner, ownerSpace, live, inside, -⟩ := (paged.manages_iff _).mp managed
    have one : ioSpace = owner := paged.apart present live spans (paged.spans_of_contains inside)
    subst one
    rw [present] at live
    cases live
    exact absurd inside.2 (by omega)
  · intro whole
    have same : ∀ a, (∃ kind, registry.Faults page kind a) ↔ registry.Manages a := by
      intro a
      rw [paged.manages_iff]
      constructor
      · rintro ⟨kind, ioSpace, space, present, spans, denied⟩
        have hooked := HookTypes.hooked_of_denied denied
        exact ⟨ioSpace, space, present, paged.contains_of_spans (whole _ _ present hooked) spans, hooked⟩
      · rintro ⟨ioSpace, space, present, inside, hooked⟩
        exact ⟨.store, ioSpace, space, present, paged.spans_of_contains inside,
          HookTypes.store_denied hooked⟩
    refine ⟨same, fun kind a fault unmanaged => ?_⟩
    obtain ⟨found, space, managed, -⟩ := (same a).mp ⟨kind, fault⟩
    rw [unmanaged] at managed
    cases managed

theorem Registry.paged_after {page : Nat} (positive : 0 < page) (events : List Lifetime)
    (promised : LiveController.Promised [] events)
    (apart : ∀ left ∈ LiveController.after events, ∀ right ∈ LiveController.after events,
      left.ioSpace = right.ioSpace ∨
        left.space.publicArea + roundUp page left.space.size ≤ right.space.publicArea ∨
        right.space.publicArea + roundUp page right.space.size ≤ left.space.publicArea) :
    (Registry.after events).Paged page := by
  obtain ⟨represents, formed⟩ := Registry.represents_after events promised
  refine ⟨positive, represents.wellFormed formed, ?_⟩
  intro left right leftSpace rightSpace a presentL presentR spansL spansR
  obtain ⟨leftOwner, memberL⟩ := (represents.objects _ _).mp presentL
  obtain ⟨rightOwner, memberR⟩ := (represents.objects _ _).mp presentR
  obtain ⟨lowL, highL⟩ := spansL
  obtain ⟨lowR, highR⟩ := spansR
  rcases apart _ memberL _ memberR with same | before | behind
  · exact same
  · dsimp only at before
    omega
  · dsimp only at behind
    omega

def wholePages : List Lifetime :=
  [.construct 8 4096 .readWrite ⟨100, 0x10000, 0x50000⟩, .construct 4 8192 .write ⟨200, 0x11000, 0x60000⟩,
    .construct 16 100 .none ⟨300, 0x13000, 0x70000⟩]

theorem wholePages_managed : (Registry.after wholePages).EveryFaultManaged 4096 := by
  have promised : LiveController.Promised [] wholePages := by decide
  have paged := Registry.paged_after (by decide : 0 < 4096) wholePages promised (by decide)
  refine (faults_managed_iff 4096 _ paged).mpr ?_
  intro ioSpace space present hooked
  obtain ⟨represents, formed⟩ := Registry.represents_after wholePages promised
  obtain ⟨controller, member⟩ := (represents.objects _ _).mp present
  have whole : ∀ entry ∈ LiveController.after wholePages, entry.space.hookTypes.hooked = true →
      4096 ∣ entry.space.size := by decide
  exact whole _ member hooked

/-- A register file of 64 bytes: the rest of its page faults, and the handler finds no controller. -/
theorem partial_page_unmanaged :
    (Registry.after solo).Paged 4096 ∧ ¬ (Registry.after solo).EveryFaultManaged 4096 ∧
      (Registry.after solo).Faults 4096 .load 0x10040 ∧
      (Registry.after solo).findController 0x10040 = some none := by
  have fault : (Registry.after solo).Faults 4096 .load 0x10040 :=
    ⟨100, ⟨.readWrite, 64, 0x10000, 0x50000⟩, by decide, by decide, by decide⟩
  have absent : (Registry.after solo).findController 0x10040 = some none := by decide
  exact ⟨Registry.paged_after (by decide) solo solo_promised (by decide),
    fun managed => managed.2 .load 0x10040 fault absent, fault, absent⟩

end ExMM
