import Mathlib.Data.List.Chain
import ExMM.Library.Run
import ExMM.Model.Platform

namespace ExMM

def Platform.after {Area : Type} (platform : Platform Area) (hookTypes : HookTypes)
    (calls : List ProtectionCall) : Option Area :=
  Transition.run platform.call (platform.initializeArea hookTypes) calls

theorem Platform.after_concat {Area : Type} (platform : Platform Area) (hookTypes : HookTypes)
    (calls : List ProtectionCall) (call : ProtectionCall) :
    platform.after hookTypes (calls ++ [call]) =
      (platform.after hookTypes calls).bind fun area => platform.call area call := by
  simp only [after, Transition.run_append, Transition.run_single]

/-- One or more `Unprotect`, one `RestoreProtection`, and so on; the sequence may stop anywhere. -/
structure HandlerCalls (calls : List ProtectionCall) : Prop where
  first : calls.head? ≠ some .restoreProtection
  restored : calls.IsChain fun first second => first = .restoreProtection → second = .unprotect

def callsOf (t : ThreadId) (calls : List (ThreadId × ProtectionCall)) : List ProtectionCall :=
  (calls.filter fun entry => entry.1 = t).map Prod.snd

def Interleaved (calls : List (ThreadId × ProtectionCall)) : Prop := ∀ t, HandlerCalls (callsOf t calls)

/-- No `Unprotect` comes right after another one: every access is over before the next one faults. -/
def Exclusive (calls : List ProtectionCall) : Prop :=
  calls.IsChain fun first second => first = .unprotect → second = .restoreProtection

instance (calls : List ProtectionCall) : Decidable (HandlerCalls calls) :=
  decidable_of_iff (_ ∧ _) ⟨fun h => ⟨h.1, h.2⟩, fun h => ⟨h.first, h.restored⟩⟩

instance (calls : List ProtectionCall) : Decidable (Exclusive calls) :=
  inferInstanceAs (Decidable (calls.IsChain _))

theorem Interleaved.first {calls : List (ThreadId × ProtectionCall)} (interleaved : Interleaved calls) :
    (calls.map Prod.snd).head? ≠ some .restoreProtection := by
  cases calls with
  | nil => simp
  | cons entry rest =>
    obtain ⟨t, call⟩ := entry
    have own := (interleaved t).first
    simpa [callsOf] using own

theorem exclusive_concat (calls : List ProtectionCall) (call : ProtectionCall) :
    Exclusive (calls ++ [call]) ↔
      Exclusive calls ∧ (calls.getLast? = some .unprotect → call = .restoreProtection) := by
  simp only [Exclusive, List.isChain_append, List.isChain_singleton, List.head?_cons, true_and]
  constructor
  · rintro ⟨before, joint⟩
    exact ⟨before, fun last => joint _ last call rfl rfl⟩
  · rintro ⟨before, joint⟩
    refine ⟨before, ?_⟩
    rintro last member _ ⟨⟩ rfl
    exact joint member

namespace Posix

/-- `RestoreProtection` puts back what `Initialize` chose, whatever happened in between. -/
theorem after_eq (hookTypes : HookTypes) (calls : List ProtectionCall) :
    platform.after hookTypes calls = some
      { protection := if calls.getLast? = some .unprotect then .readWrite else initialProtection hookTypes
        oldProtection := initialProtection hookTypes } := by
  induction calls using List.reverseRecOn with
  | nil =>
    rw [← publicFlags_eq]
    rfl
  | append_singleton calls call ih =>
    rw [Platform.after_concat, ih, Option.bind_some]
    cases call with
    | unprotect => simp [Platform.call, platform, IoSpace.unprotect]
    | restoreProtection => simp [Platform.call, platform, IoSpace.restoreProtection]

end Posix

namespace Windows

/-- `RestoreProtection` puts back what the last `Unprotect` found, which is read-write for good once two
    of them have met. -/
theorem after_eq (hookTypes : HookTypes) (calls : List ProtectionCall)
    (first : calls.head? ≠ some .restoreProtection) :
    platform.after hookTypes calls = some
      { protection :=
          if calls.getLast? = some .unprotect ∨ ¬ Exclusive calls then .readWrite
          else initialProtection hookTypes
        oldProtection :=
          if calls = [] then none
          else some (if Exclusive calls then initialProtection hookTypes else .readWrite) } := by
  induction calls using List.reverseRecOn with
  | nil =>
    rw [← newProtection_eq]
    simp [Platform.after, platform, IoSpace.initializeArea, virtualProtect, Exclusive]
  | append_singleton calls call ih =>
    by_cases start : calls = []
    · subst start
      cases call with
      | unprotect =>
        rw [← newProtection_eq]
        simp [Platform.after, Transition.run_single, Platform.call, platform, IoSpace.unprotect,
          IoSpace.initializeArea, virtualProtect, Exclusive]
      | restoreProtection => simp at first
    · have earlier : calls.head? ≠ some .restoreProtection := by
        rwa [List.head?_append_of_ne_nil _ start] at first
      rw [Platform.after_concat, ih earlier, Option.bind_some]
      cases call with
      | unprotect =>
        by_cases last : calls.getLast? = some .unprotect
        · simp [Platform.call, platform, IoSpace.unprotect, virtualProtect, exclusive_concat, last]
        · simp [Platform.call, platform, IoSpace.unprotect, virtualProtect, exclusive_concat, last]
      | restoreProtection =>
        simp [Platform.call, platform, IoSpace.restoreProtection, virtualProtect, exclusive_concat, start]

end Windows

theorem initialProtection_readWrite (hookTypes : HookTypes) :
    initialProtection hookTypes = .readWrite ↔ hookTypes = .none := by
  cases hookTypes <;> decide

theorem platforms_agree (hookTypes : HookTypes) (calls : List (ThreadId × ProtectionCall))
    (interleaved : Interleaved calls) :
    ∃ windows posix, Windows.platform.after hookTypes (calls.map Prod.snd) = some windows ∧
      Posix.platform.after hookTypes (calls.map Prod.snd) = some posix ∧
      (windows.protection = posix.protection ↔
        hookTypes = .none ∨ Exclusive (calls.map Prod.snd) ∨
          (calls.map Prod.snd).getLast? = some .unprotect) := by
  refine ⟨_, _, Windows.after_eq hookTypes _ interleaved.first, Posix.after_eq hookTypes _, ?_⟩
  rw [← initialProtection_readWrite]
  by_cases last : (calls.map Prod.snd).getLast? = some .unprotect
  · simp only [last, true_or, if_true, or_true]
  · by_cases exclusive : Exclusive (calls.map Prod.snd)
    · simp only [last, exclusive, not_true, or_self, if_false, true_or, or_true]
    · simp only [last, exclusive, not_false_iff, or_true, if_true, if_false, or_false]
      exact eq_comm

/-- Two threads fault on the area before the first of them has restored it. -/
def overlapping : List (ThreadId × ProtectionCall) :=
  [(0, .unprotect), (1, .unprotect), (0, .restoreProtection), (1, .restoreProtection)]

theorem interleaved_overlapping : Interleaved overlapping
  | 0 => by decide
  | 1 => by decide
  | t + 2 => by
    have none : callsOf (t + 2) overlapping = [] := by simp [callsOf, overlapping]
    rw [none]
    decide

/-- Every `Unprotect` has been matched, but on Windows the area of a hooked device stays open. -/
theorem overlapping_diverges : Interleaved overlapping ∧
    Windows.platform.after .readWrite (overlapping.map Prod.snd) =
      some { protection := .readWrite, oldProtection := some .readWrite } ∧
    Posix.platform.after .readWrite (overlapping.map Prod.snd) =
      some { protection := .noAccess, oldProtection := .noAccess } :=
  ⟨interleaved_overlapping, rfl, rfl⟩

theorem overlapping_not_exclusive : ∃ windows posix,
    Windows.platform.after .readWrite (overlapping.map Prod.snd) = some windows ∧
      Posix.platform.after .readWrite (overlapping.map Prod.snd) = some posix ∧
      (windows.protection = posix.protection ↔
        HookTypes.readWrite = .none ∨ Exclusive (overlapping.map Prod.snd) ∨
          (overlapping.map Prod.snd).getLast? = some .unprotect) :=
  platforms_agree .readWrite overlapping interleaved_overlapping

end ExMM
