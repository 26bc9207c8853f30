import Mathlib.Data.List.Count
import Mathlib.Data.List.Perm.Basic

/-!
Contract: a load, which one request opens and the requests for its items complete.

Owns the balance of a load over the list of pending requests, in any order: while the
opening request is pending nothing is shown and nothing is awaited; from then on what is
shown and what is awaited are together what is expected. Owns one rule for each thing that
an answer can do to it, and that a load with nothing left to do shows what is expected.

Does not own what a request is, nor which load it belongs to.
-/

set_option autoImplicit false

namespace Familog.Async.Load

variable {Task Item : Type*}

/-- The request neither opens the load nor awaits an item for it. -/
def Idle (opens : Task → Bool) (awaits : Task → Option Item) (task : Task) : Prop :=
  opens task = false ∧ awaits task = none

/-- The load is open with nothing to show for it, or the shown and the awaited items are
together the expected ones. -/
def Balance (opens : Task → Bool) (awaits : Task → Option Item) (shown expected : List Item)
    (tasks : List Task) : Prop :=
  (tasks.countP opens = 1 ∧ tasks.filterMap awaits = [] ∧ shown = []) ∨
    (tasks.countP opens = 0 ∧ (shown ++ tasks.filterMap awaits).Perm expected)

variable {opens : Task → Bool} {awaits : Task → Option Item} {shown expected : List Item}
  {tasks others new : List Task} {task : Task} {item : Item}

theorem countP_of_idle (idle : ∀ other ∈ tasks, Idle opens awaits other) :
    tasks.countP opens = 0 := by
  rw [List.countP_eq_zero]
  intro other member
  simp [(idle other member).1]

theorem filterMap_of_idle (idle : ∀ other ∈ tasks, Idle opens awaits other) :
    tasks.filterMap awaits = [] := by
  rw [List.filterMap_eq_nil_iff]
  exact fun other member => (idle other member).2

/-- A request that opens the load awaits nothing yet, and nothing else is pending for it. -/
theorem balance_opened (idle : ∀ other ∈ tasks, Idle opens awaits other)
    (opensNew : opens task = true) (notAwaited : awaits task = none) :
    Balance opens awaits [] expected (tasks ++ [task]) := by
  refine Or.inl ⟨?_, ?_, rfl⟩
  · rw [List.countP_append, countP_of_idle idle, List.countP_singleton, if_pos opensNew]
  · rw [List.filterMap_append, filterMap_of_idle idle, List.nil_append,
      List.filterMap_cons_none notAwaited, List.filterMap_nil]

namespace Balance

/-- With nothing left to do, the load shows what is expected. -/
theorem shown_perm (balance : Balance opens awaits shown expected tasks)
    (idle : ∀ other ∈ tasks, Idle opens awaits other) : shown.Perm expected := by
  rcases balance with ⟨opened, _⟩ | ⟨_, shows⟩
  · rw [countP_of_idle idle] at opened
    omega
  · rwa [filterMap_of_idle idle, List.append_nil] at shows

/-- The order of the pending requests does not matter. -/
theorem of_perm (balance : Balance opens awaits shown expected tasks)
    (perm : tasks.Perm others) : Balance opens awaits shown expected others := by
  have count := perm.countP_eq opens
  have awaited := perm.filterMap awaits
  rcases balance with ⟨opened, nothing, empty⟩ | ⟨closed, shows⟩
  · rw [nothing] at awaited
    exact Or.inl ⟨count ▸ opened, awaited.nil_eq.symm, empty⟩
  · exact Or.inr ⟨count ▸ closed, (awaited.symm.append_left _).trans shows⟩

/-- Idle requests come and go without a trace. -/
theorem of_idle (balance : Balance opens awaits shown expected (task :: tasks))
    (idle : Idle opens awaits task) (idleNew : ∀ other ∈ new, Idle opens awaits other) :
    Balance opens awaits shown expected (tasks ++ new) := by
  rw [Balance, List.countP_append, countP_of_idle idleNew, List.filterMap_append,
    filterMap_of_idle idleNew, List.append_nil, Nat.add_zero]
  rwa [Balance, List.countP_cons_of_neg (by simp [idle.1]),
    List.filterMap_cons_none idle.2] at balance

/-- While the opening request is pending, nothing else is, and nothing is shown. -/
theorem opened (balance : Balance opens awaits shown expected (task :: tasks))
    (opening : opens task = true) :
    tasks.countP opens = 0 ∧ tasks.filterMap awaits = [] ∧ shown = [] := by
  have count : (task :: tasks).countP opens = tasks.countP opens + 1 :=
    List.countP_cons_of_pos opening
  rcases balance with ⟨one, nothing, empty⟩ | ⟨none, _⟩
  · refine ⟨by omega, ?_, empty⟩
    rw [List.filterMap_cons] at nothing
    split at nothing
    · exact nothing
    · simp at nothing
  · omega

/-- The opening request is answered, and another one goes on with it. -/
theorem reopened {again : Task} (balance : Balance opens awaits shown expected (task :: tasks))
    (opening : opens task = true) (goesOn : opens again = true) (notAwaited : awaits again = none) :
    Balance opens awaits shown expected (tasks ++ [again]) := by
  obtain ⟨closed, nothing, empty⟩ := balance.opened opening
  refine Or.inl ⟨?_, ?_, empty⟩
  · rw [List.countP_append, closed, List.countP_singleton, if_pos goesOn]
  · rw [List.filterMap_append, nothing, List.nil_append, List.filterMap_cons_none notAwaited,
      List.filterMap_nil]

/-- The opening request is answered, and the new requests await what is expected now. -/
theorem loaded {listed : List Item}
    (balance : Balance opens awaits shown expected (task :: tasks)) (opening : opens task = true)
    (closes : new.countP opens = 0) (awaited : (new.filterMap awaits).Perm listed) :
    Balance opens awaits shown listed (tasks ++ new) := by
  obtain ⟨closed, nothing, empty⟩ := balance.opened opening
  refine Or.inr ⟨?_, ?_⟩
  · rw [List.countP_append, closed, closes]
  · rwa [List.filterMap_append, nothing, empty]

/-- An awaited item is delivered and shown. -/
theorem delivered (balance : Balance opens awaits shown expected (task :: tasks))
    (awaited : awaits task = some item) (idleNew : ∀ other ∈ new, Idle opens awaits other) :
    Balance opens awaits (shown ++ [item]) expected (tasks ++ new) := by
  rw [Balance, List.filterMap_cons_some awaited] at balance
  rcases balance with ⟨_, nothing, _⟩ | ⟨none, shows⟩
  · simp at nothing
  · refine Or.inr ⟨?_, ?_⟩
    · rw [List.countP_append, countP_of_idle idleNew, Nat.add_zero]
      exact Nat.le_zero.mp (none ▸ List.Sublist.countP_le (List.sublist_cons_self task tasks))
    · rwa [List.filterMap_append, filterMap_of_idle idleNew, List.append_nil, List.append_assoc]

end Balance

end Familog.Async.Load
