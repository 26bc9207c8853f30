import Familog.Async.Program

/-!
Contract: programs that run side by side over one state.

Owns the two ways to put programs together: `within` lets a program run on a part of
a larger state, `beside` lets two programs share one state, with the events and the
requests of both. A run of the composed program is any interleaving of the two.

Owns the guarantee a program gives to the others, an invariant of the state together
with a property of the requests, and the rules that carry it through both ways: what
each program guarantees alone, they guarantee together.

Does not own assertions that tie a request to the state; those are outlines.
-/

set_option autoImplicit false

namespace Familog.Async

variable {State Rest Event Other Task Foreign Answer : Type*}

namespace Program

/-- The program on the first part of a larger state; the rest is left alone. -/
def within (Rest : Type*) (program : Program State Event Task Answer) :
    Program (State × Rest) Event Task Answer where
  handle state event :=
    (program.handle state.1 event).map fun result => ((result.1, state.2), result.2)
  resume state task answer :=
    (program.resume state.1 task answer).map fun result => ((result.1, state.2), result.2)

/-- Two programs that share one state. -/
def beside (left : Program State Event Task Answer) (right : Program State Other Foreign Answer) :
    Program State (Event ⊕ Other) (Task ⊕ Foreign) Answer where
  handle state
    | .inl event => (left.handle state event).map fun result => (result.1, result.2.map .inl)
    | .inr event => (right.handle state event).map fun result => (result.1, result.2.map .inr)
  resume state
    | .inl task, answer =>
        (left.resume state task answer).map fun result => (result.1, result.2.map .inl)
    | .inr task, answer =>
        (right.resume state task answer).map fun result => (result.1, result.2.map .inr)

/-- What a callback of a program on a part has done. -/
theorem handle_within {program : Program State Event Task Answer} {state state' : State × Rest}
    {event : Event} {new : List Task}
    (handled : (program.within Rest).handle state event = some (state', new)) :
    program.handle state.1 event = some (state'.1, new) ∧ state'.2 = state.2 := by
  obtain ⟨result, acted, left⟩ := Option.map_eq_some_iff.mp handled
  obtain ⟨rfl, rfl⟩ := Prod.mk.inj left
  exact ⟨acted, rfl⟩

theorem resume_within {program : Program State Event Task Answer} {state state' : State × Rest}
    {task : Task} {answer : Answer} {new : List Task}
    (resumed : (program.within Rest).resume state task answer = some (state', new)) :
    program.resume state.1 task answer = some (state'.1, new) ∧ state'.2 = state.2 := by
  obtain ⟨result, acted, left⟩ := Option.map_eq_some_iff.mp resumed
  obtain ⟨rfl, rfl⟩ := Prod.mk.inj left
  exact ⟨acted, rfl⟩

section Beside

variable {left : Program State Event Task Answer} {right : Program State Other Foreign Answer}
  {state state' : State} {answer : Answer} {new : List (Task ⊕ Foreign)}

/-- An event of two programs is handled by the one it belongs to. -/
theorem handle_beside {event : Event ⊕ Other}
    (handled : (left.beside right).handle state event = some (state', new)) :
    (∃ own tasks, event = .inl own ∧ left.handle state own = some (state', tasks) ∧
        new = tasks.map .inl) ∨
      ∃ own tasks, event = .inr own ∧ right.handle state own = some (state', tasks) ∧
        new = tasks.map .inr := by
  cases event with
  | inl own =>
      obtain ⟨result, acted, same⟩ := Option.map_eq_some_iff.mp handled
      obtain ⟨rfl, rfl⟩ := Prod.mk.inj same
      exact Or.inl ⟨own, result.2, rfl, acted, rfl⟩
  | inr own =>
      obtain ⟨result, acted, same⟩ := Option.map_eq_some_iff.mp handled
      obtain ⟨rfl, rfl⟩ := Prod.mk.inj same
      exact Or.inr ⟨own, result.2, rfl, acted, rfl⟩

/-- A request of two programs is resumed by the one it belongs to. -/
theorem resume_beside {task : Task ⊕ Foreign}
    (resumed : (left.beside right).resume state task answer = some (state', new)) :
    (∃ own tasks, task = .inl own ∧ left.resume state own answer = some (state', tasks) ∧
        new = tasks.map .inl) ∨
      ∃ own tasks, task = .inr own ∧ right.resume state own answer = some (state', tasks) ∧
        new = tasks.map .inr := by
  cases task with
  | inl own =>
      obtain ⟨result, acted, same⟩ := Option.map_eq_some_iff.mp resumed
      obtain ⟨rfl, rfl⟩ := Prod.mk.inj same
      exact Or.inl ⟨own, result.2, rfl, acted, rfl⟩
  | inr own =>
      obtain ⟨result, acted, same⟩ := Option.map_eq_some_iff.mp resumed
      obtain ⟨rfl, rfl⟩ := Prod.mk.inj same
      exact Or.inr ⟨own, result.2, rfl, acted, rfl⟩

end Beside

end Program

/-! ## Guarantees -/

/-- Every callback keeps the invariant and issues only requests with the property, as
long as the requests it is called for have it. -/
structure Guarantees (program : Program State Event Task Answer) (inv : State → Prop)
    (need : Task → Prop) : Prop where
  handled : ∀ {state state' : State} {event : Event} {new : List Task}, inv state →
    program.handle state event = some (state', new) → inv state' ∧ ∀ task ∈ new, need task
  resumed : ∀ {state state' : State} {task : Task} {answer : Answer} {new : List Task},
    inv state → need task → program.resume state task answer = some (state', new) →
    inv state' ∧ ∀ other ∈ new, need other

namespace Guarantees

variable {inv : State → Prop} {need : Task → Prop} {needed : Foreign → Prop}

/-- The guarantee as an outline: its assertions do not look at the state. -/
def outline {program : Program State Event Task Answer} (guarantees : Guarantees program inv need) :
    Outline program fun _ _ => True where
  inv := inv
  need _ := need
  apart _ _ := True
  symmetric _ := trivial
  handled holds _ handled :=
    have after := guarantees.handled holds handled
    .of_free (fun _ _ => trivial) after.1 after.2 fun _ waiting => waiting.2
  resumed holds needs _ _ resumed :=
    have after := guarantees.resumed holds needs resumed
    .of_free (fun _ _ => trivial) after.1 after.2 fun _ waiting => waiting.1

/-- What is guaranteed holds after every run. -/
theorem run {program : Program State Event Task Answer} (guarantees : Guarantees program inv need)
    {state : State} (holds : inv state) {labels : List (Label Event Answer)}
    {last : Config State Task} (ran : program.run (Program.start state) labels = some last) :
    inv last.state ∧ ∀ task ∈ last.pool.tasks, need task := by
  have atEnd := guarantees.outline.run (guarantees.outline.start holds) Program.obeys_true ran
  exact ⟨atEnd.inv, atEnd.need⟩

/-- A program that gives two guarantees gives both. -/
theorem and {program : Program State Event Task Answer} {kept : State → Prop}
    {promised : Task → Prop} (first : Guarantees program inv need)
    (second : Guarantees program kept promised) :
    Guarantees program (fun state => inv state ∧ kept state)
      fun task => need task ∧ promised task where
  handled holds handled :=
    have left := first.handled holds.1 handled
    have right := second.handled holds.2 handled
    ⟨⟨left.1, right.1⟩, fun task issued => ⟨left.2 task issued, right.2 task issued⟩⟩
  resumed holds needs resumed :=
    have left := first.resumed holds.1 needs.1 resumed
    have right := second.resumed holds.2 needs.2 resumed
    ⟨⟨left.1, right.1⟩, fun task issued => ⟨left.2 task issued, right.2 task issued⟩⟩

/-- A guarantee about the part is one about the whole. -/
theorem within {program : Program State Event Task Answer}
    (guarantees : Guarantees program inv need) :
    Guarantees (program.within Rest) (fun state => inv state.1) need where
  handled holds handled := guarantees.handled holds (Program.handle_within handled).1
  resumed holds needs resumed := guarantees.resumed holds needs (Program.resume_within resumed).1

/-- Two programs that guarantee the same invariant guarantee it together. -/
theorem beside {left : Program State Event Task Answer} {right : Program State Other Foreign Answer}
    (first : Guarantees left inv need) (second : Guarantees right inv needed) :
    Guarantees (left.beside right) inv (Sum.elim need needed) where
  handled holds handled := by
    rcases Program.handle_beside handled with
      ⟨own, tasks, rfl, acted, rfl⟩ | ⟨own, tasks, rfl, acted, rfl⟩
    · have after := first.handled holds acted
      exact ⟨after.1, List.forall_mem_map.mpr after.2⟩
    · have after := second.handled holds acted
      exact ⟨after.1, List.forall_mem_map.mpr after.2⟩
  resumed holds needs resumed := by
    rcases Program.resume_beside resumed with
      ⟨own, tasks, rfl, acted, rfl⟩ | ⟨own, tasks, rfl, acted, rfl⟩
    · have after := first.resumed holds needs acted
      exact ⟨after.1, List.forall_mem_map.mpr after.2⟩
    · have after := second.resumed holds needs acted
      exact ⟨after.1, List.forall_mem_map.mpr after.2⟩

end Guarantees

end Familog.Async
