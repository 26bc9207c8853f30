import Familog.Async.Parallel

/-!
Contract: rely and guarantee of programs that share a state.

Owns `Relies`: what a program keeps of the state, what each of its pending requests
relies on, and how its callbacks move the state. A move does not disturb the pending
requests of the program itself. Owns the rules by which such a program runs on a part of a
larger state, takes its answers from a larger kind, keeps what its moves keep, and runs
beside another such program: each has to bear the moves of the other.

Does not own assertions about several pending requests; those are outlines.
-/

set_option autoImplicit false

namespace Familog.Async

variable {State Rest Event Other Task Foreign Answer Reply : Type*}

/-! ## Answers of a larger kind -/

/-- The program where the answers to others arrive, too. Those it cannot read are not
answers to it. -/
def Program.answering (view : Reply → Option Answer) (program : Program State Event Task Answer) :
    Program State Event Task Reply where
  handle := program.handle
  resume state task reply := (view reply).bind (program.resume state task)

/-! ## Rely and guarantee -/

/-- Where the condition on events and answers is met, every callback keeps the invariant,
issues requests that have what they rely on, and makes one of the moves. No move takes away
what a pending request relies on. -/
structure Relies (program : Program State Event Task Answer) (atEvent : State → Event → Prop)
    (atAnswer : State → Task → Answer → Prop) (inv : State → Prop) (need : State → Task → Prop)
    (moves : State → State → Prop) : Prop where
  handled : ∀ {state next : State} {event : Event} {new : List Task}, inv state →
    atEvent state event → program.handle state event = some (next, new) →
    inv next ∧ (∀ task ∈ new, need next task) ∧ moves state next
  resumed : ∀ {state next : State} {task : Task} {answer : Answer} {new : List Task}, inv state →
    need state task → atAnswer state task answer →
    program.resume state task answer = some (next, new) →
    inv next ∧ (∀ other ∈ new, need next other) ∧ moves state next
  stable : ∀ {state next : State} {task : Task}, moves state next → need state task →
    need next task

/-- A condition on the answers, and one on the events that looks at nothing but the event. -/
theorem Program.obeys_of_answers {program : Program State Event Task Answer}
    {allowed : Event → Prop} {atAnswer : State → Task → Answer → Prop} :
    ∀ {labels : List (Label Event Answer)} {config : Config State Task},
      (∀ event, .event event ∈ labels → allowed event) →
      program.Obeys (onState (fun _ _ => True) atAnswer) config labels →
      program.Obeys (onState (fun _ => allowed) atAnswer) config labels
  | [], _, _, _ => trivial
  | label :: rest, _, all, obeys => by
      refine ⟨?_, fun next taken => obeys_of_answers (fun event later =>
        all event (List.mem_cons_of_mem _ later)) (obeys.2 next taken)⟩
      cases label with
      | event event => exact all event List.mem_cons_self
      | answer ticket answer => exact obeys.1

/-- A condition that looks at events only, and at nothing but the event. -/
theorem Program.obeys_of_events {program : Program State Event Task Answer}
    {allowed : Event → Prop} {labels : List (Label Event Answer)} {config : Config State Task}
    (all : ∀ event, .event event ∈ labels → allowed event) :
    program.Obeys (onState (fun _ => allowed) fun _ _ _ => True) config labels := by
  refine obeys_of_answers all (obeys_of_invariant (fun _ => True) ?_ (fun _ _ _ => trivial)
    trivial obeys_true)
  rintro config (event | ⟨ticket, answer⟩) _ _ <;> simp [onState]

/-- A condition on the parts of two programs, as one on the whole. -/
instance decidableElim {Left Right Value : Type*} (left : Left → Value → Prop)
    (right : Right → Value → Prop) [∀ part value, Decidable (left part value)]
    [∀ part value, Decidable (right part value)] (part : Left ⊕ Right) (value : Value) :
    Decidable (Sum.elim left right part value) :=
  match part with
  | .inl part => inferInstanceAs (Decidable (left part value))
  | .inr part => inferInstanceAs (Decidable (right part value))

instance decidablePredElim {Left Right : Type*} (left : Left → Prop) (right : Right → Prop)
    [DecidablePred left] [DecidablePred right] (part : Left ⊕ Right) :
    Decidable (Sum.elim left right part) :=
  match part with
  | .inl part => inferInstanceAs (Decidable (left part))
  | .inr part => inferInstanceAs (Decidable (right part))

namespace Relies

variable {program : Program State Event Task Answer} {atEvent : State → Event → Prop}
  {atAnswer : State → Task → Answer → Prop} {inv kept : State → Prop} {need : State → Task → Prop}
  {moves : State → State → Prop}

/-- Requests of such a program may always be pending together. -/
def outline (relies : Relies program atEvent atAnswer inv need moves) :
    Outline program (onState atEvent atAnswer) where
  inv := inv
  need := need
  apart _ _ := True
  symmetric _ := trivial
  handled holds allowed handled :=
    have after := relies.handled holds allowed handled
    .of_free (fun _ _ => trivial) after.1 after.2.1 fun _ waiting =>
      relies.stable after.2.2 waiting.2
  resumed holds needs allowed found resumed :=
    have after := relies.resumed holds needs (allowed _ found) resumed
    .of_free (fun _ _ => trivial) after.1 after.2.1 fun _ waiting =>
      relies.stable after.2.2 waiting.1

/-- After a run every pending request has what it relies on. -/
theorem run (relies : Relies program atEvent atAnswer inv need moves) {state : State}
    (holds : inv state) {labels : List (Label Event Answer)} {last : Config State Task}
    (obeys : program.Obeys (onState atEvent atAnswer) (Program.start state) labels)
    (ran : program.run (Program.start state) labels = some last) :
    inv last.state ∧ ∀ task ∈ last.pool.tasks, need last.state task := by
  have atEnd := relies.outline.run (relies.outline.start holds) obeys ran
  exact ⟨atEnd.inv, atEnd.need⟩

/-- Every step of such a run is one of the moves. -/
theorem moved (relies : Relies program atEvent atAnswer inv need moves)
    {config next : Config State Task} {label : Label Event Answer}
    (holds : relies.outline.Holds config) (allowed : onState atEvent atAnswer config label)
    (taken : program.step config label = some next) : moves config.state next.state := by
  rcases Program.step_cases taken with
    ⟨event, new, rfl, handled, _⟩ | ⟨ticket, answer, task, new, rfl, found, resumed, _⟩
  · exact (relies.handled holds.inv allowed handled).2.2
  · have needs := holds.need task (Pool.mem_tasks_of_find? found)
    exact (relies.resumed holds.inv needs (allowed task found) resumed).2.2

/-- A stronger condition does, too. -/
theorem assuming (relies : Relies program atEvent atAnswer inv need moves)
    {atEvent' : State → Event → Prop} {atAnswer' : State → Task → Answer → Prop}
    (events : ∀ {state event}, atEvent' state event → atEvent state event)
    (answers : ∀ {state task answer}, atAnswer' state task answer → atAnswer state task answer) :
    Relies program atEvent' atAnswer' inv need moves where
  handled holds allowed := relies.handled holds (events allowed)
  resumed holds needs allowed := relies.resumed holds needs (answers allowed)
  stable := relies.stable

/-- More moves can be allowed for, as long as the requests bear them. -/
theorem moving (relies : Relies program atEvent atAnswer inv need moves)
    {moves' : State → State → Prop} (more : ∀ {state next}, moves state next → moves' state next)
    (stable : ∀ {state next task}, moves' state next → need state task → need next task) :
    Relies program atEvent atAnswer inv need moves' where
  handled holds allowed handled :=
    have after := relies.handled holds allowed handled
    ⟨after.1, after.2.1, more after.2.2⟩
  resumed holds needs allowed resumed :=
    have after := relies.resumed holds needs allowed resumed
    ⟨after.1, after.2.1, more after.2.2⟩
  stable := stable

/-- What the moves keep is kept. -/
theorem frame (relies : Relies program atEvent atAnswer inv need moves)
    (keeps : ∀ {state next}, inv state → kept state → moves state next → kept next) :
    Relies program atEvent atAnswer (fun state => inv state ∧ kept state) need moves where
  handled holds allowed handled :=
    have after := relies.handled holds.1 allowed handled
    ⟨⟨after.1, keeps holds.1 holds.2 after.2.2⟩, after.2⟩
  resumed holds needs allowed resumed :=
    have after := relies.resumed holds.1 needs allowed resumed
    ⟨⟨after.1, keeps holds.1 holds.2 after.2.2⟩, after.2⟩
  stable := relies.stable

/-- What a program guarantees besides can be relied on as well. -/
theorem guaranteeing {promised : Task → Prop}
    (relies : Relies program atEvent atAnswer inv need moves)
    (guarantees : Guarantees program kept promised) :
    Relies program atEvent atAnswer (fun state => inv state ∧ kept state)
      (fun state task => need state task ∧ promised task) moves where
  handled holds allowed handled :=
    have after := relies.handled holds.1 allowed handled
    have also := guarantees.handled holds.2 handled
    ⟨⟨after.1, also.1⟩, fun task issued => ⟨after.2.1 task issued, also.2 task issued⟩, after.2.2⟩
  resumed holds needs allowed resumed :=
    have after := relies.resumed holds.1 needs.1 allowed resumed
    have also := guarantees.resumed holds.2 needs.2 resumed
    ⟨⟨after.1, also.1⟩, fun task issued => ⟨after.2.1 task issued, also.2 task issued⟩, after.2.2⟩
  stable moved needs := ⟨relies.stable moved needs.1, needs.2⟩

/-- A program that is relied on in two ways can be relied on in both; where both invariants
hold, one condition may stand for the two. -/
theorem both {atOther asked : State → Event → Prop}
    {atReply answered : State → Task → Answer → Prop} {needed : State → Task → Prop}
    {shifts : State → State → Prop} (first : Relies program atEvent atAnswer inv need moves)
    (second : Relies program atOther atReply kept needed shifts)
    (events : ∀ {state event}, inv state → kept state → asked state event →
      atEvent state event ∧ atOther state event)
    (answers : ∀ {state task answer}, answered state task answer →
      atAnswer state task answer ∧ atReply state task answer) :
    Relies program asked answered (fun state => inv state ∧ kept state)
      (fun state task => need state task ∧ needed state task)
      (fun state next => moves state next ∧ shifts state next) where
  handled holds allowed handled :=
    have met := events holds.1 holds.2 allowed
    have left := first.handled holds.1 met.1 handled
    have right := second.handled holds.2 met.2 handled
    ⟨⟨left.1, right.1⟩, fun task issued => ⟨left.2.1 task issued, right.2.1 task issued⟩,
      left.2.2, right.2.2⟩
  resumed holds needs allowed resumed :=
    have met := answers allowed
    have left := first.resumed holds.1 needs.1 met.1 resumed
    have right := second.resumed holds.2 needs.2 met.2 resumed
    ⟨⟨left.1, right.1⟩, fun task issued => ⟨left.2.1 task issued, right.2.1 task issued⟩,
      left.2.2, right.2.2⟩
  stable moved needs := ⟨first.stable moved.1 needs.1, second.stable moved.2 needs.2⟩

/-- On a part of a larger state, the rest is left alone. -/
theorem within (relies : Relies program atEvent atAnswer inv need moves) :
    Relies (program.within Rest) (fun state => atEvent state.1) (fun state => atAnswer state.1)
      (fun state => inv state.1) (fun state => need state.1)
      (fun state next => moves state.1 next.1 ∧ next.2 = state.2) where
  handled holds allowed handled := by
    obtain ⟨acted, same⟩ := Program.handle_within handled
    obtain ⟨kept, fresh, moved⟩ := relies.handled holds allowed acted
    exact ⟨kept, fresh, moved, same⟩
  resumed holds needs allowed resumed := by
    obtain ⟨acted, same⟩ := Program.resume_within resumed
    obtain ⟨kept, fresh, moved⟩ := relies.resumed holds needs allowed acted
    exact ⟨kept, fresh, moved, same⟩
  stable moved := relies.stable moved.1

/-- Only the answers it can read matter. -/
theorem answering (relies : Relies program atEvent atAnswer inv need moves)
    (view : Reply → Option Answer) :
    Relies (program.answering view) atEvent
      (fun state task reply => ∀ answer ∈ view reply, atAnswer state task answer) inv need
      moves where
  handled := relies.handled
  resumed holds needs allowed resumed := by
    obtain ⟨answer, read, acted⟩ := Option.bind_eq_some_iff.mp resumed
    exact relies.resumed holds needs (allowed answer read) acted
  stable := relies.stable

section Beside

variable {right : Program State Other Foreign Answer} {atOther : State → Other → Prop}
  {atReply : State → Foreign → Answer → Prop} {needed : State → Foreign → Prop}
  {shifts : State → State → Prop}

/-- Two programs that keep the same invariant and bear the moves of each other. -/
theorem beside (first : Relies program atEvent atAnswer inv need moves)
    (second : Relies right atOther atReply inv needed shifts)
    (bears : ∀ {state next task}, shifts state next → need state task → need next task)
    (borne : ∀ {state next task}, moves state next → needed state task → needed next task) :
    Relies (program.beside right) (fun state => Sum.elim (atEvent state) (atOther state))
      (fun state => Sum.elim (atAnswer state) (atReply state)) inv
      (fun state => Sum.elim (need state) (needed state))
      (fun state next => moves state next ∨ shifts state next) where
  handled holds allowed handled := by
    rcases Program.handle_beside handled with
      ⟨own, tasks, rfl, acted, rfl⟩ | ⟨own, tasks, rfl, acted, rfl⟩
    · obtain ⟨kept, fresh, moved⟩ := first.handled holds allowed acted
      exact ⟨kept, List.forall_mem_map.mpr fresh, Or.inl moved⟩
    · obtain ⟨kept, fresh, moved⟩ := second.handled holds allowed acted
      exact ⟨kept, List.forall_mem_map.mpr fresh, Or.inr moved⟩
  resumed holds needs allowed resumed := by
    rcases Program.resume_beside resumed with
      ⟨own, tasks, rfl, acted, rfl⟩ | ⟨own, tasks, rfl, acted, rfl⟩
    · obtain ⟨kept, fresh, moved⟩ := first.resumed holds needs allowed acted
      exact ⟨kept, List.forall_mem_map.mpr fresh, Or.inl moved⟩
    · obtain ⟨kept, fresh, moved⟩ := second.resumed holds needs allowed acted
      exact ⟨kept, List.forall_mem_map.mpr fresh, Or.inr moved⟩
  stable := by
    rintro state next (task | task) (moved | shifted) needs
    · exact first.stable moved needs
    · exact bears shifted needs
    · exact borne moved needs
    · exact second.stable shifted needs

end Beside

end Relies

end Familog.Async
