import Mathlib.Data.List.Basic

namespace Log

variable {Event : Type}

def Unmatched (log : List Event) (opening closing : Event) : Prop :=
  ∃ before after, log = before ++ opening :: after ∧ closing ∉ after

theorem not_unmatched_nil (opening closing : Event) : ¬ Unmatched [] opening closing := by
  rintro ⟨before, after, split, -⟩
  simp at split

theorem unmatched_concat (log : List Event) (event opening closing : Event) :
    Unmatched (log ++ [event]) opening closing ↔
      event = opening ∨ (Unmatched log opening closing ∧ event ≠ closing) := by
  constructor
  · rintro ⟨before, after, split, absent⟩
    rcases List.eq_nil_or_concat after with rfl | ⟨rest, last, rfl⟩
    · have ends := List.append_inj_right' split rfl
      exact Or.inl (List.singleton_inj.mp ends)
    · rw [List.concat_eq_append] at split absent
      rw [← List.cons_append, ← List.append_assoc] at split
      have front := List.append_inj_left' split rfl
      have ends := List.singleton_inj.mp (List.append_inj_right' split rfl)
      have unseen : closing ∉ rest := fun member => absent (List.mem_append_left _ member)
      have other : event ≠ closing := by
        intro same
        exact absent (List.mem_append_right rest (by simp [← ends, same]))
      exact Or.inr ⟨⟨before, rest, front, unseen⟩, other⟩
  · rintro (rfl | ⟨⟨before, after, rfl, absent⟩, other⟩)
    · exact ⟨log, [], rfl, List.not_mem_nil⟩
    · refine ⟨before, after ++ [event], by simp, ?_⟩
      simp [absent, Ne.symm other]

/-- Every event of the log stands in the given relation to the log before it. -/
def Each (relation : List Event → Event → Prop) (log : List Event) : Prop :=
  ∀ before event after, log = before ++ event :: after → relation before event

section

variable {relation : List Event → Event → Prop}

theorem each_nil : Each relation [] := by
  intro before event after split
  simp at split

theorem Each.earlier {log events : List Event} (each : Each relation (log ++ events)) : Each relation log := by
  intro before event after split
  refine each before event (after ++ events) ?_
  rw [split, List.append_assoc, List.cons_append]

theorem Each.of_mem {log : List Event} {event : Event} (each : Each relation log) (member : event ∈ log) :
    ∃ before after, log = before ++ event :: after ∧ relation before event := by
  obtain ⟨before, after, split⟩ := List.append_of_mem member
  exact ⟨before, after, split, each before event after split⟩

theorem each_append {log events : List Event} (earlier : Each relation log)
    (later : Each (fun past => relation (log ++ past)) events) : Each relation (log ++ events) := by
  intro before event after split
  rcases List.append_eq_append_iff.mp split with ⟨past, rfl, rest⟩ | ⟨others, front, rest⟩
  · exact later past event after rest
  · cases others with
    | nil =>
      have inside : relation (log ++ []) event := later [] event after rest.symm
      rwa [front, List.append_nil, List.append_nil] at inside
    | cons first others =>
      cases rest
      exact earlier before event others front

theorem each_singleton {event : Event} (related : relation [] event) : Each relation [event] := by
  intro before other after split
  cases before with
  | nil =>
    cases split
    exact related
  | cons first rest => simp at split

end

section

variable {Value : Type} {pick : Event → Option Value}

def last (pick : Event → Option Value) (log : List Event) : Option Value := log.reverse.findSome? pick

theorem last_append (log events : List Event) :
    last pick (log ++ events) = (last pick events).or (last pick log) := by
  simp only [last, List.reverse_append, List.findSome?_append]

theorem last_silent {log events : List Event} (silent : ∀ event ∈ events, pick event = none) :
    last pick (log ++ events) = last pick log := by
  have nothing : last pick events = none :=
    List.findSome?_eq_none_iff.mpr fun event member => silent event (List.mem_reverse.mp member)
  rw [last_append, nothing, Option.none_or]

theorem last_mem {log : List Event} {value : Value} (latest : last pick log = some value) :
    ∃ event ∈ log, pick event = some value := by
  obtain ⟨event, member, picked⟩ := List.exists_of_findSome?_eq_some latest
  exact ⟨event, List.mem_reverse.mp member, picked⟩

theorem last_renewed {before after : List Event} {event : Event} {value other : Value}
    (picked : pick event = some other) (different : other ≠ value)
    (latest : last pick (before ++ event :: after) = some value) : ∃ later ∈ after, pick later = some value := by
  rw [List.append_cons, last_append] at latest
  cases renewed : last pick after with
  | none =>
    rw [renewed, Option.none_or, last_append] at latest
    simp only [last, List.reverse_singleton, List.findSome?_singleton, picked, Option.some_or,
      Option.some.injEq] at latest
    exact absurd latest different
  | some newest =>
    rw [renewed, Option.some_or] at latest
    cases latest
    exact last_mem renewed

end

end Log
