import Mathlib.Data.Fin.Basic
import Mathlib.Data.Set.Basic
import Mathlib.Logic.Function.Basic

namespace Locks

variable {Thread Lock : Type} [DecidableEq Thread] [DecidableEq Lock]

abbrev Table (Thread Lock : Type) := Lock → Option (Thread × Nat)

/-- `none` while it blocks. Only a recursive lock can be taken again by its owner. -/
def acquire (recursive : Lock → Bool) (table : Table Thread Lock) (t : Thread) (l : Lock) :
    Option (Table Thread Lock) :=
  match table l with
  | none => some (Function.update table l (some (t, 1)))
  | some (owner, depth) =>
    if owner = t ∧ recursive l = true then some (Function.update table l (some (t, depth + 1))) else none

def release (table : Table Thread Lock) (t : Thread) (l : Lock) : Option (Table Thread Lock) :=
  match table l with
  | none => none
  | some (owner, depth) =>
    if owner = t then
      some (Function.update table l (if depth ≤ 1 then none else some (t, depth - 1)))
    else none

def depth (table : Table Thread Lock) (t : Thread) (l : Lock) : Nat :=
  match table l with
  | none => 0
  | some (owner, depth) => if owner = t then depth else 0

/-- The table holds exactly the locks that the threads know they have. -/
structure Accounts (table : Table Thread Lock) (held : Thread → List Lock) : Prop where
  depth : ∀ t l, depth table t l = (held t).count l
  positive : ∀ {t l n}, table l = some (t, n) → 0 < n

section

variable {recursive : Lock → Bool} {table table' : Table Thread Lock} {held : Thread → List Lock}
  {t : Thread} {l : Lock}

theorem Accounts.owner (accounts : Accounts table held) (member : l ∈ held t) :
    ∃ n, table l = some (t, n) := by
  have counted := accounts.depth t l
  have positive := List.count_pos_iff.mpr member
  rw [← counted, Locks.depth] at positive
  split at positive
  · omega
  · next owner n present =>
    split at positive
    · next same => exact ⟨n, same ▸ present⟩
    · omega

theorem Accounts.member (accounts : Accounts table held) {n : Nat} (present : table l = some (t, n)) :
    l ∈ held t := by
  have counted := accounts.depth t l
  have positive := accounts.positive present
  simp only [Locks.depth, present, if_true] at counted
  apply List.count_pos_iff.mp
  omega

theorem Accounts.unique (accounts : Accounts table held) {u : Thread} (here : l ∈ held t) (there : l ∈ held u) :
    t = u := by
  obtain ⟨n, mine⟩ := accounts.owner here
  obtain ⟨m, yours⟩ := accounts.owner there
  rw [mine] at yours
  exact congrArg Prod.fst (Option.some.inj yours)

theorem depth_update_other {k : Lock} (entry : Option (Thread × Nat)) (other : k ≠ l) :
    depth (Function.update table l entry) t k = depth table t k := by
  simp only [depth, Function.update_of_ne other]

theorem Accounts.acquire (accounts : Accounts table held) (taken : acquire recursive table t l = some table') :
    Accounts table' (Function.update held t (l :: held t)) := by
  have entry : ∃ n, table' = Function.update table l (some (t, n + 1)) ∧ Locks.depth table t l = n ∧
      ∀ u, u ≠ t → Locks.depth table u l = 0 := by
    simp only [Locks.acquire] at taken
    split at taken
    · next free =>
      cases taken
      exact ⟨0, rfl, by simp only [Locks.depth, free], fun u _ => by simp only [Locks.depth, free]⟩
    · next owner n present =>
      split at taken
      · next again =>
        cases taken
        obtain ⟨rfl, -⟩ := again
        refine ⟨n, rfl, by simp only [Locks.depth, present, if_true], fun u other => ?_⟩
        simp only [Locks.depth, present, if_neg (Ne.symm other)]
      · cases taken
  obtain ⟨n, rfl, before, others⟩ := entry
  constructor
  · intro u k
    by_cases mine : k = l
    · subst mine
      by_cases same : u = t
      · subst same
        have counted := accounts.depth u k
        simp only [Locks.depth, Function.update_self, if_true, List.count_cons_self]
        omega
      · rw [Function.update_of_ne same, ← accounts.depth u k, others u same]
        simp only [Locks.depth, Function.update_self, if_neg (Ne.symm same)]
    · rw [depth_update_other _ mine, accounts.depth u k]
      by_cases same : u = t
      · subst same
        rw [Function.update_self, List.count_cons_of_ne (Ne.symm mine)]
      · rw [Function.update_of_ne same]
  · intro u k m present
    by_cases mine : k = l
    · subst mine
      rw [Function.update_self] at present
      cases present
      omega
    · rw [Function.update_of_ne mine] at present
      exact accounts.positive present

theorem Accounts.release (accounts : Accounts table held) {rest : List Lock} (top : held t = l :: rest) :
    ∃ table', release table t l = some table' ∧ Accounts table' (Function.update held t rest) := by
  obtain ⟨n, present⟩ := accounts.owner (top ▸ List.mem_cons_self : l ∈ held t)
  have counted := accounts.depth t l
  rw [top, List.count_cons_self] at counted
  simp only [Locks.depth, present, if_true] at counted
  have released : Locks.release table t l =
      some (Function.update table l (if n ≤ 1 then none else some (t, n - 1))) := by
    simp only [Locks.release, present, if_true]
  refine ⟨_, released, ?_⟩
  constructor
  · intro u k
    by_cases mine : k = l
    · subst mine
      by_cases same : u = t
      · subst same
        rw [Function.update_self]
        by_cases last : n ≤ 1
        · simp only [Locks.depth, Function.update_self, if_pos last]
          omega
        · simp only [Locks.depth, Function.update_self, if_neg last, if_true]
          omega
      · have before := accounts.depth u k
        simp only [Locks.depth, present, if_neg (Ne.symm same)] at before
        rw [Function.update_of_ne same, ← before]
        by_cases last : n ≤ 1
        · simp only [Locks.depth, Function.update_self, if_pos last]
        · simp only [Locks.depth, Function.update_self, if_neg last, if_neg (Ne.symm same)]
    · rw [depth_update_other _ mine, accounts.depth u k]
      by_cases same : u = t
      · subst same
        rw [Function.update_self, top, List.count_cons_of_ne (Ne.symm mine)]
      · rw [Function.update_of_ne same]
  · intro u k m present'
    by_cases mine : k = l
    · subst mine
      rw [Function.update_self] at present'
      split at present'
      · cases present'
      · cases present'
        omega
    · rw [Function.update_of_ne mine] at present'
      exact accounts.positive present'

end

structure Waits (recursive : Lock → Bool) (table : Table Thread Lock) (requests : Thread → Option Lock)
    (t : Thread) (l : Lock) (owner : Thread) : Prop where
  requests : requests t = some l
  held : ∃ n, table l = some (owner, n)
  blocked : acquire recursive table t l = none

/-- Whoever asks for a lock holds recursive ones at most. -/
def Disciplined (recursive : Lock → Bool) (held : Thread → List Lock) (requests : Thread → Option Lock) : Prop :=
  ∀ t l, requests t = some l → ∀ k ∈ held t, recursive k = true

structure Cycle (recursive : Lock → Bool) (table : Table Thread Lock) (requests : Thread → Option Lock)
    (n : Nat) (threads : Fin (n + 1) → Thread) (locks : Fin (n + 1) → Lock) : Prop where
  waits : ∀ i, Waits recursive table requests (threads i) (locks i) (threads (i + 1))

def Deadlocked (recursive : Lock → Bool) (table : Table Thread Lock) (requests : Thread → Option Lock)
    (threads : Set Thread) : Prop :=
  threads.Nonempty ∧ ∀ t ∈ threads, ∃ l, ∃ u ∈ threads, Waits recursive table requests t l u

section

variable {recursive : Lock → Bool} {table : Table Thread Lock} {held : Thread → List Lock}
  {requests : Thread → Option Lock} {t u v : Thread} {l k : Lock}

theorem Waits.other_owner (waits : Waits recursive table requests t l u) (again : recursive l = true) : u ≠ t := by
  rintro rfl
  obtain ⟨n, present⟩ := waits.held
  have blocked := waits.blocked
  simp [acquire, present, again] at blocked

theorem Waits.successive (accounts : Accounts table held) (disciplined : Disciplined recursive held requests)
    (first : Waits recursive table requests t l u) (second : Waits recursive table requests u k v) :
    recursive l = true ∧ (recursive k = true → l ≠ k) := by
  obtain ⟨n, present⟩ := first.held
  have again := disciplined u k second.requests l (accounts.member present)
  refine ⟨again, fun further => ?_⟩
  rintro rfl
  obtain ⟨m, present'⟩ := second.held
  rw [present] at present'
  have same : u = v := congrArg Prod.fst (Option.some.inj present')
  exact second.other_owner further same.symm

theorem Cycle.locks (accounts : Accounts table held) (disciplined : Disciplined recursive held requests)
    {n : Nat} {threads : Fin (n + 1) → Thread} {locks : Fin (n + 1) → Lock}
    (cycle : Cycle recursive table requests n threads locks) (i : Fin (n + 1)) :
    recursive (locks i) = true ∧ locks i ≠ locks (i + 1) := by
  have here := (cycle.waits i).successive accounts disciplined (cycle.waits (i + 1))
  have next := (cycle.waits (i + 1)).successive accounts disciplined (cycle.waits (i + 1 + 1))
  exact ⟨here.1, here.2 next.1⟩

theorem Deadlocked.locks (accounts : Accounts table held) (disciplined : Disciplined recursive held requests)
    {threads : Set Thread} (deadlocked : Deadlocked recursive table requests threads) :
    ∃ t u l k, requests t = some l ∧ requests u = some k ∧ recursive l = true ∧ recursive k = true ∧ l ≠ k := by
  obtain ⟨⟨t, inside⟩, waiting⟩ := deadlocked
  obtain ⟨l, u, insideU, first⟩ := waiting t inside
  obtain ⟨k, v, insideV, second⟩ := waiting u insideU
  obtain ⟨j, w, -, third⟩ := waiting v insideV
  obtain ⟨again, different⟩ := first.successive accounts disciplined second
  obtain ⟨further, -⟩ := second.successive accounts disciplined third
  exact ⟨t, u, l, k, first.requests, second.requests, again, further, different further⟩

end

end Locks
