import Mathlib.Data.List.ReduceOption
import ExMM.Library.Run

namespace Transition

variable {Concrete Abstract Action Step Label : Type}

def stuttering (step : Abstract → Step → Option Abstract) (r : Abstract) : Option Step → Option Abstract
  | some answer => step r answer
  | none => some r

theorem run_stuttering (step : Abstract → Step → Option Abstract) (r : Abstract) (answers : List (Option Step)) :
    run (stuttering step) r answers = run step r answers.reduceOption := by
  induction answers generalizing r with
  | nil => rfl
  | cons answer rest ih =>
    cases answer with
    | none => exact ih r
    | some answer =>
      rw [List.reduceOption_cons_of_some, run_cons, run_cons, stuttering]
      cases step r answer with
      | none => rfl
      | some next => exact ih next

theorem flatMap_reduceOption (label : Step → List Label) (answers : List (Option Step)) :
    answers.reduceOption.flatMap label = answers.flatMap fun answer => answer.elim [] label := by
  induction answers with
  | nil => rfl
  | cons answer rest ih =>
    cases answer with
    | none => exact ih
    | some answer => rw [List.reduceOption_cons_of_some, List.flatMap_cons, List.flatMap_cons, ih, Option.elim_some]

/-- Two runs side by side: every action is answered by at most one step, before and after which the states are
    related, and `answered` says which steps may answer it. -/
inductive Lockstep (concrete : Concrete → Action → Option Concrete) (abstract : Abstract → Step → Option Abstract)
    (related : Concrete → Abstract → Prop) (answered : Concrete → Abstract → Action → Option Step → Prop) :
    Concrete → Abstract → List Action → List (Option Step) → Prop
  | nil {s : Concrete} {r : Abstract} (here : related s r) : Lockstep concrete abstract related answered s r [] []
  | cons {s s' : Concrete} {r r' : Abstract} {action : Action} {answer : Option Step} {actions : List Action}
      {answers : List (Option Step)} (here : related s r) (answers_action : answered s r action answer)
      (taken : concrete s action = some s') (moved : stuttering abstract r answer = some r')
      (later : Lockstep concrete abstract related answered s' r' actions answers) :
      Lockstep concrete abstract related answered s r (action :: actions) (answer :: answers)

section

variable {concrete : Concrete → Action → Option Concrete} {abstract : Abstract → Step → Option Abstract}
  {related : Concrete → Abstract → Prop} {answered : Concrete → Abstract → Action → Option Step → Prop}
  {s s' : Concrete} {r : Abstract} {actions : List Action} {answers : List (Option Step)}

/-- Forward simulation. -/
theorem lockstep_of_run {guard : Concrete → Action → Prop}
    (answer : ∀ s r action s', related s r → guard s action → concrete s action = some s' →
      ∃ step r', stuttering abstract r step = some r' ∧ related s' r' ∧ answered s r action step)
    (start : related s r) (meets : Meets concrete guard s actions) (ran : run concrete s actions = some s') :
    ∃ answers, Lockstep concrete abstract related answered s r actions answers := by
  induction actions generalizing s r with
  | nil => exact ⟨[], .nil start⟩
  | cons action rest ih =>
    obtain ⟨here, later⟩ := meets
    rw [run_cons] at ran
    obtain ⟨next, taken, ran⟩ := Option.bind_eq_some_iff.mp ran
    obtain ⟨step, r', moved, after, answers_action⟩ := answer s r action next start here taken
    obtain ⟨answers, lockstep⟩ := ih after (later next taken) ran
    exact ⟨step :: answers, .cons start answers_action taken moved lockstep⟩

namespace Lockstep

theorem imp {related' : Concrete → Abstract → Prop} {answered' : Concrete → Abstract → Action → Option Step → Prop}
    (lockstep : Lockstep concrete abstract related answered s r actions answers)
    (state : ∀ s r, related s r → related' s r)
    (step : ∀ s r action answer r', related s r → stuttering abstract r answer = some r' → answered s r action answer →
      answered' s r action answer) : Lockstep concrete abstract related' answered' s r actions answers := by
  induction lockstep with
  | nil here => exact .nil (state _ _ here)
  | cons here answers_action taken moved _ ih =>
    exact .cons (state _ _ here) (step _ _ _ _ _ here moved answers_action) taken moved ih

theorem length_eq (lockstep : Lockstep concrete abstract related answered s r actions answers) :
    answers.length = actions.length := by
  induction lockstep with
  | nil here => rfl
  | cons _ _ _ _ _ ih => rw [List.length_cons, List.length_cons, ih]

theorem take (lockstep : Lockstep concrete abstract related answered s r actions answers) (n : Nat) :
    Lockstep concrete abstract related answered s r (actions.take n) (answers.take n) := by
  induction lockstep generalizing n with
  | nil here =>
    rw [List.take_nil, List.take_nil]
    exact .nil here
  | cons here answers_action taken moved _ ih =>
    cases n with
    | zero => exact .nil here
    | succ n => exact .cons here answers_action taken moved (ih n)

theorem ran (lockstep : Lockstep concrete abstract related answered s r actions answers) :
    ∃ m q, run concrete s actions = some m ∧ run (stuttering abstract) r answers = some q ∧ related m q := by
  induction lockstep with
  | nil here => exact ⟨_, _, rfl, rfl, here⟩
  | cons _ _ taken moved _ ih =>
    obtain ⟨m, q, first, second, here⟩ := ih
    exact ⟨m, q, by rw [run_cons, taken, Option.bind_some, first],
      by rw [run_cons, moved, Option.bind_some, second], here⟩

theorem answered_at (lockstep : Lockstep concrete abstract related answered s r actions answers) {n : Nat}
    {answer : Option Step} (answer_eq : answers[n]? = some answer) :
    ∃ m q action, run concrete s (actions.take n) = some m ∧ run (stuttering abstract) r (answers.take n) = some q ∧
      actions[n]? = some action ∧ related m q ∧ answered m q action answer := by
  induction lockstep generalizing n with
  | nil here => cases answer_eq
  | cons here answers_action taken moved _ ih =>
    cases n with
    | zero =>
      cases answer_eq
      exact ⟨_, _, _, rfl, rfl, rfl, here, answers_action⟩
    | succ n =>
      obtain ⟨m, q, action, first, second, present, there, later⟩ := ih answer_eq
      exact ⟨m, q, action, by rw [List.take_succ_cons, run_cons, taken, Option.bind_some, first],
        by rw [List.take_succ_cons, run_cons, moved, Option.bind_some, second], present, there, later⟩

theorem labels (lockstep : Lockstep concrete abstract related answered s r actions answers)
    {label : Action → List Label} {abstractLabel : Step → List Label}
    (same : ∀ s r action answer, answered s r action answer → answer.elim [] abstractLabel = label action) :
    (answers.flatMap fun answer => answer.elim [] abstractLabel) = actions.flatMap label := by
  induction lockstep with
  | nil here => rfl
  | cons _ answers_action _ _ _ ih => rw [List.flatMap_cons, List.flatMap_cons, same _ _ _ _ answers_action, ih]

theorem trans {Further : Type} {further : Further → Step → Option Further} {follows : Abstract → Further → Prop}
    (follow : ∀ r f step r', follows r f → abstract r step = some r' → ∃ f', further f step = some f' ∧ follows r' f')
    (lockstep : Lockstep concrete abstract related answered s r actions answers) {f : Further} (start : follows r f) :
    Lockstep concrete further (fun s f => ∃ r, related s r ∧ follows r f)
      (fun s f action answer => ∃ r, follows r f ∧ answered s r action answer) s f actions answers := by
  induction lockstep generalizing f with
  | nil here => exact .nil ⟨_, here, start⟩
  | @cons s s' r r' action answer actions answers here answers_action taken moved _ ih =>
    have both : ∃ f', stuttering further f answer = some f' ∧ follows r' f' := by
      cases answer with
      | none =>
        cases moved
        exact ⟨f, rfl, start⟩
      | some step => exact follow r f step r' start moved
    obtain ⟨f', after, next⟩ := both
    exact .cons ⟨r, here, start⟩ ⟨r, start, answers_action⟩ taken after (ih next)

end Lockstep

end

end Transition
