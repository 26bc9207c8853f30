import Mathlib.Data.List.Nodup

/-!
Contract: the callbacks a program is waiting for.

Owns the pool of requests that have been issued and not answered: tickets are
drawn in order, a ticket is never drawn twice, and `remove` takes exactly one
request out. `Pool.tasks` is the view every invariant is stated on; it forgets
the tickets.

Does not own what a request means or when it is answered.
-/

set_option autoImplicit false

namespace Familog.Async

variable {Task : Type*}

/-- Requests waiting for an answer, each under its own ticket. -/
structure Pool (Task : Type*) where
  entries : List (ℕ × Task)
  issued : ℕ
  below : ∀ entry ∈ entries, entry.1 < issued
  distinct : (entries.map Prod.fst).Nodup

namespace Pool

/-- Nothing has been asked yet. -/
def empty : Pool Task where
  entries := []
  issued := 0
  below := by simp
  distinct := by simp

/-- Ask once more, under the next ticket. -/
def issue (pool : Pool Task) (task : Task) : Pool Task where
  entries := pool.entries ++ [(pool.issued, task)]
  issued := pool.issued + 1
  below := by
    intro entry member
    rcases List.mem_append.mp member with old | new
    · exact Nat.lt_succ_of_lt (pool.below entry old)
    · simp only [List.mem_singleton] at new
      simp [new]
  distinct := by
    rw [List.map_append, List.nodup_append]
    refine ⟨pool.distinct, by simp, ?_⟩
    intro ticket old other new equal
    obtain ⟨entry, member, rfl⟩ := List.mem_map.mp old
    have : other = pool.issued := by simpa using new
    exact absurd (pool.below entry member) (by omega)

/-- Ask for everything in the list, in order. -/
def issueAll (pool : Pool Task) (tasks : List Task) : Pool Task :=
  tasks.foldl issue pool

/-- The request that waits under a ticket. -/
def find? (pool : Pool Task) (ticket : ℕ) : Option Task :=
  (pool.entries.find? fun entry => entry.1 == ticket).map Prod.snd

/-- The pool once the request under the ticket has been answered. -/
def remove (pool : Pool Task) (ticket : ℕ) : Pool Task where
  entries := pool.entries.filter fun entry => entry.1 != ticket
  issued := pool.issued
  below := fun entry member => pool.below entry (List.mem_filter.mp member).1
  distinct := (List.filter_sublist.map _).nodup pool.distinct

/-- What is waiting, in the order it was asked. -/
def tasks (pool : Pool Task) : List Task := pool.entries.map Prod.snd

@[simp] theorem tasks_empty : (empty : Pool Task).tasks = [] := rfl

@[simp] theorem tasks_issue (pool : Pool Task) (task : Task) :
    (pool.issue task).tasks = pool.tasks ++ [task] := by
  simp [tasks, issue]

@[simp] theorem tasks_issueAll (pool : Pool Task) (new : List Task) :
    (pool.issueAll new).tasks = pool.tasks ++ new := by
  induction new generalizing pool with
  | nil => simp [issueAll]
  | cons task rest ih =>
      have step : pool.issueAll (task :: rest) = (pool.issue task).issueAll rest := rfl
      rw [step, ih, tasks_issue, List.append_assoc, List.singleton_append]

theorem find?_eq_some {pool : Pool Task} {ticket : ℕ} {task : Task}
    (found : pool.find? ticket = some task) : (ticket, task) ∈ pool.entries := by
  obtain ⟨entry, at_ticket, rfl⟩ := Option.map_eq_some_iff.mp found
  have same : entry.1 = ticket := by simpa using List.find?_some at_ticket
  have member := List.mem_of_find?_eq_some at_ticket
  rwa [← same]

private theorem filter_ticket_perm {ticket : ℕ} {task : Task} :
    ∀ {entries : List (ℕ × Task)}, (entries.map Prod.fst).Nodup → (ticket, task) ∈ entries →
      entries.Perm ((ticket, task) :: entries.filter fun entry => entry.1 != ticket)
  | [], _, member => by simp at member
  | head :: rest, distinct, member => by
      rw [List.map_cons, List.nodup_cons] at distinct
      rcases List.mem_cons.mp member with here | later
      · subst here
        have others : ∀ entry ∈ rest, (entry.1 != ticket) = true := by
          intro entry inRest
          rw [bne_iff_ne]
          rintro rfl
          exact distinct.1 (List.mem_map.mpr ⟨entry, inRest, rfl⟩)
        rw [List.filter_cons_of_neg (by simp), List.filter_eq_self.mpr others]
      · have kept : (head.1 != ticket) = true := by
          rw [bne_iff_ne]
          rintro rfl
          exact distinct.1 (List.mem_map.mpr ⟨_, later, rfl⟩)
        rw [List.filter_cons, if_pos kept]
        exact ((filter_ticket_perm distinct.2 later).cons head).trans (List.Perm.swap _ _ _)

/-- Answering takes the answered request out and nothing else. -/
theorem tasks_perm_of_find? {pool : Pool Task} {ticket : ℕ} {task : Task}
    (found : pool.find? ticket = some task) :
    pool.tasks.Perm (task :: (pool.remove ticket).tasks) :=
  (filter_ticket_perm pool.distinct (find?_eq_some found)).map Prod.snd

theorem mem_tasks_of_find? {pool : Pool Task} {ticket : ℕ} {task : Task}
    (found : pool.find? ticket = some task) : task ∈ pool.tasks :=
  List.mem_map.mpr ⟨_, find?_eq_some found, rfl⟩

/-- What is waiting waits under a ticket. -/
theorem exists_find?_of_mem {pool : Pool Task} {task : Task} (member : task ∈ pool.tasks) :
    ∃ ticket, pool.find? ticket = some task := by
  obtain ⟨⟨ticket, _⟩, inPool, rfl⟩ := List.mem_map.mp member
  obtain ⟨entry, found⟩ := Option.isSome_iff_exists.mp
    (List.find?_isSome.mpr ⟨_, inPool, (beq_self_eq_true ticket : (ticket == ticket) = true)⟩ :
      (pool.entries.find? fun entry => entry.1 == ticket).isSome)
  have sameTicket : entry.1 = ticket := by simpa using List.find?_some found
  have same := List.inj_on_of_nodup_map pool.distinct (List.mem_of_find?_eq_some found) inPool
    sameTicket
  exact ⟨ticket, by rw [find?, found, same]; rfl⟩

/-- The only request that waits is the one that is answered, and then nothing waits. -/
theorem only_of_find? {pool : Pool Task} {ticket : ℕ} {task other : Task}
    (only : pool.tasks = [other]) (found : pool.find? ticket = some task) :
    task = other ∧ (pool.remove ticket).tasks = [] := by
  have perm := tasks_perm_of_find? found
  rw [only] at perm
  obtain ⟨same, rest⟩ := List.cons.inj (List.singleton_perm.mp perm)
  exact ⟨same.symm, rest.symm⟩

theorem mem_tasks_of_mem_remove {pool : Pool Task} {ticket : ℕ} {task : Task}
    (member : task ∈ (pool.remove ticket).tasks) : task ∈ pool.tasks := by
  obtain ⟨entry, inFilter, rfl⟩ := List.mem_map.mp member
  exact List.mem_map_of_mem (List.mem_filter.mp inFilter).1

/-! ## Which request waits under which ticket -/

@[simp] theorem issued_issueAll (pool : Pool Task) (new : List Task) :
    (pool.issueAll new).issued = pool.issued + new.length := by
  induction new generalizing pool with
  | nil => rfl
  | cons task rest ih =>
      have step : (pool.issueAll (task :: rest)).issued = (pool.issue task).issued + rest.length :=
        ih (pool.issue task)
      rw [step, List.length_cons]
      show pool.issued + 1 + rest.length = _
      omega

@[simp] theorem issued_remove (pool : Pool Task) (ticket : ℕ) :
    (pool.remove ticket).issued = pool.issued :=
  rfl

/-- A new request waits under the next ticket, and moves no other. -/
theorem find?_issue (pool : Pool Task) (task : Task) (ticket : ℕ) :
    (pool.issue task).find? ticket =
      if ticket = pool.issued then some task else pool.find? ticket := by
  have unused : pool.entries.find? (fun entry => entry.1 == pool.issued) = none := by
    rw [List.find?_eq_none]
    intro entry member
    have := pool.below entry member
    simp only [beq_iff_eq]
    omega
  split_ifs with here
  · subst here
    simp [find?, issue, List.find?_append, unused]
  · have other : (pool.issued == ticket) = false := by
      simpa using fun same => here same.symm
    simp [find?, issue, List.find?_append, other]

theorem find?_issueAll_of_lt (pool : Pool Task) (new : List Task) {ticket : ℕ}
    (old : ticket < pool.issued) : (pool.issueAll new).find? ticket = pool.find? ticket := by
  induction new generalizing pool with
  | nil => rfl
  | cons task rest ih =>
      have step : (pool.issueAll (task :: rest)).find? ticket = (pool.issue task).find? ticket :=
        ih (pool.issue task) (Nat.lt_succ_of_lt old)
      rw [step, find?_issue, if_neg (by omega)]

/-- The requests of one callback wait under consecutive tickets. -/
theorem find?_issueAll_add (pool : Pool Task) (new : List Task) (index : ℕ) :
    (pool.issueAll new).find? (pool.issued + index) = new[index]? := by
  induction new generalizing pool index with
  | nil =>
      have unused : pool.find? (pool.issued + index) = none := by
        rw [find?, Option.map_eq_none_iff, List.find?_eq_none]
        intro entry member
        have := pool.below entry member
        simp only [beq_iff_eq]
        omega
      exact unused
  | cons task rest ih =>
      cases index with
      | zero =>
          have step : (pool.issueAll (task :: rest)).find? pool.issued =
              (pool.issue task).find? pool.issued :=
            find?_issueAll_of_lt (pool.issue task) rest (Nat.lt_succ_self _)
          rw [Nat.add_zero, step, find?_issue, if_pos rfl]
          rfl
      | succ index =>
          have step := ih (pool.issue task) index
          have ticket : (pool.issue task).issued + index = pool.issued + (index + 1) := by
            show pool.issued + 1 + index = _
            omega
          rw [ticket] at step
          exact step

theorem find?_remove_of_ne (pool : Pool Task) {ticket other : ℕ} (different : other ≠ ticket) :
    (pool.remove ticket).find? other = pool.find? other := by
  have kept : ∀ entry : ℕ × Task,
      decide ((entry.1 != ticket) = true ∧ (entry.1 == other) = true) = (entry.1 == other) := by
    intro entry
    by_cases here : entry.1 = other
    · simp [here, different]
    · simp [here]
  simp only [find?, remove, List.find?_filter, kept]

end Pool

end Familog.Async
