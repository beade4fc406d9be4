import Mathlib.Data.List.Perm.Basic

namespace Search

variable {Entry : Type}

def Unambiguous (test : Entry → Bool) (entries : List Entry) : Prop :=
  ∀ x ∈ entries, ∀ y ∈ entries, test x = true → test y = true → x = y

theorem find_unambiguous {test : Entry → Bool} {entries : List Entry}
    (unique : Unambiguous test entries) (x : Entry) :
    entries.find? test = some x ↔ x ∈ entries ∧ test x = true := by
  constructor
  · intro found
    exact ⟨List.mem_of_find?_eq_some found, List.find?_some found⟩
  · rintro ⟨member, passes⟩
    cases found : entries.find? test with
    | none => exact absurd passes (List.find?_eq_none.mp found x member)
    | some y =>
      have same : y = x := unique y (List.mem_of_find?_eq_some found) x member
        (List.find?_some found) passes
      rw [same]

theorem Unambiguous.perm {test : Entry → Bool} {first second : List Entry}
    (unique : Unambiguous test first) (perm : second.Perm first) : Unambiguous test second :=
  fun x hx y hy => unique x (perm.mem_iff.mp hx) y (perm.mem_iff.mp hy)

end Search
