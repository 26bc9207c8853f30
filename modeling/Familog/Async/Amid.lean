import Familog.Async.Program

/-!
Contract: a program amid the callbacks of another one that it does not notice.

Owns the program that runs with another one over the same state, where the requests of
the other are part of the state, so that its own requests wait under the tickets they
have when it runs alone. Owns what it means that the other is not noticed: steps of the
other keep the states alike, and own steps from alike states lead to alike states. Owns
the theorem that a run then is one of the program alone, with the steps of the other taken
out, that ends in an alike state.

Does not own what alike states have in common.
-/

set_option autoImplicit false

namespace Familog.Async

variable {State Event Other Task Foreign Answer : Type*}

/-! ## Alike pools -/

/-- Related requests wait under the same tickets. -/
structure Pool.Alike (likeTask : Task → Task → Prop) (left right : Pool Task) : Prop where
  issued : right.issued = left.issued
  entries : List.Forall₂ (fun entry other => other.1 = entry.1 ∧ likeTask entry.2 other.2)
    left.entries right.entries

namespace Pool.Alike

variable {likeTask : Task → Task → Prop} {left right : Pool Task} {ticket : ℕ}

theorem refl {pool : Pool Task} (reflexive : ∀ task ∈ pool.tasks, likeTask task task) :
    Pool.Alike likeTask pool pool :=
  ⟨rfl, List.forall₂_same.mpr fun _ member => ⟨rfl, reflexive _ (List.mem_map_of_mem member)⟩⟩

/-- What waits under a ticket on one side waits there on the other. -/
theorem find? (alike : Pool.Alike likeTask left right) {task : Task}
    (found : left.find? ticket = some task) :
    ∃ other, right.find? ticket = some other ∧ likeTask task other := by
  obtain ⟨_, entries⟩ := alike
  unfold Pool.find? at found ⊢
  generalize left.entries = waiting at entries found
  generalize right.entries = others at entries
  induction entries with
  | nil => simp at found
  | @cons entry other rest more here _ inductionHypothesis =>
      obtain ⟨sameTicket, like⟩ := here
      rw [List.find?_cons] at found ⊢
      rw [sameTicket]
      cases hit : entry.1 == ticket with
      | true =>
          rw [hit] at found
          obtain rfl := Option.some.inj found
          exact ⟨other.2, rfl, like⟩
      | false =>
          rw [hit] at found
          exact inductionHypothesis found

theorem remove (alike : Pool.Alike likeTask left right) :
    Pool.Alike likeTask (left.remove ticket) (right.remove ticket) := by
  refine ⟨alike.issued, ?_⟩
  have entries := alike.entries
  show List.Forall₂ _ (left.entries.filter _) (right.entries.filter _)
  generalize left.entries = waiting at entries
  generalize right.entries = others at entries
  induction entries with
  | nil => exact List.Forall₂.nil
  | @cons entry other rest more here _ inductionHypothesis =>
      rw [List.filter_cons, List.filter_cons, here.1]
      split_ifs
      · exact List.Forall₂.cons here inductionHypothesis
      · exact inductionHypothesis

theorem issue (alike : Pool.Alike likeTask left right) {task other : Task}
    (like : likeTask task other) :
    Pool.Alike likeTask (left.issue task) (right.issue other) where
  issued := congrArg (· + 1) alike.issued
  entries := List.rel_append alike.entries
    (List.Forall₂.cons ⟨alike.issued, like⟩ List.Forall₂.nil)

theorem issueAll {new others : List Task} (likeNew : List.Forall₂ likeTask new others) :
    ∀ {left right : Pool Task}, Pool.Alike likeTask left right →
      Pool.Alike likeTask (left.issueAll new) (right.issueAll others) := by
  induction likeNew with
  | nil => exact fun alike => alike
  | cons here _ inductionHypothesis => exact fun alike => inductionHypothesis (alike.issue here)

end Pool.Alike

/-! ## Two programs over one state -/

namespace Program

/-- The left program, with the right one among its events. -/
def amid (left : Program State Event Task Answer) (right : Program State Other Foreign Answer) :
    Program (State × Pool Foreign) (Event ⊕ Label Other Answer) Task Answer where
  handle state
    | .inl event =>
        (left.handle state.1 event).map fun result => ((result.1, state.2), result.2)
    | .inr label =>
        (right.step ⟨state.1, state.2⟩ label).map fun next => ((next.state, next.pool), [])
  resume state task answer :=
    (left.resume state.1 task answer).map fun result => ((result.1, state.2), result.2)

end Program

/-- The step of the left program, if it is one. -/
def Label.own? : Label (Event ⊕ Label Other Answer) Answer → Option (Label Event Answer)
  | .event (.inl own) => some (.event own)
  | .event (.inr _) => none
  | .answer ticket result => some (.answer ticket result)

/-- What a step is: one of the left program, over its own requests, or one of the right. -/
theorem Program.amid_step_cases {left : Program State Event Task Answer}
    {right : Program State Other Foreign Answer}
    {config next : Config (State × Pool Foreign) Task}
    {label : Label (Event ⊕ Label Other Answer) Answer}
    (taken : (left.amid right).step config label = some next) :
    (∃ own after, label.own? = some own ∧
        (∀ event, own = .event event → label = .event (.inl event)) ∧
        left.step ⟨config.state.1, config.pool⟩ own = some after ∧
        next = ⟨(after.state, config.state.2), after.pool⟩) ∨
      ∃ foreign after, label = .event (.inr foreign) ∧
        right.step ⟨config.state.1, config.state.2⟩ foreign = some after ∧
        next = ⟨(after.state, after.pool), config.pool⟩ := by
  cases label with
  | event event =>
      cases event with
      | inl own =>
          obtain ⟨⟨state, new⟩, handled, rfl⟩ := Option.map_eq_some_iff.mp taken
          obtain ⟨⟨reached, issued⟩, acted, same⟩ := Option.map_eq_some_iff.mp handled
          obtain ⟨rfl, rfl⟩ := Prod.mk.inj same
          refine Or.inl ⟨.event own, ⟨reached, config.pool.issueAll issued⟩, rfl, ?_, ?_, rfl⟩
          · rintro event same
            cases same
            rfl
          · simp [Program.step, acted]
      | inr foreign =>
          obtain ⟨⟨state, new⟩, handled, rfl⟩ := Option.map_eq_some_iff.mp taken
          obtain ⟨reached, acted, same⟩ := Option.map_eq_some_iff.mp handled
          obtain ⟨rfl, rfl⟩ := Prod.mk.inj same
          exact Or.inr ⟨foreign, reached, rfl, acted, rfl⟩
  | answer ticket answer =>
      obtain ⟨task, found, rest⟩ := Option.bind_eq_some_iff.mp taken
      obtain ⟨⟨state, new⟩, resumed, rfl⟩ := Option.map_eq_some_iff.mp rest
      obtain ⟨⟨reached, issued⟩, acted, same⟩ := Option.map_eq_some_iff.mp resumed
      obtain ⟨rfl, rfl⟩ := Prod.mk.inj same
      refine Or.inl ⟨.answer ticket answer, ⟨reached, (config.pool.remove ticket).issueAll issued⟩,
        rfl, ?_, ?_, rfl⟩
      · rintro event same
        cases same
      · simp [Program.step, found, acted]

/-- The left program does not notice the right one: own steps from alike states do alike
things, and the steps of the right program keep every state alike to what it was. -/
structure Unnoticed (left : Program State Event Task Answer)
    (right : Program State Other Foreign Answer) (like : State → State → Prop)
    (likeTask : Task → Task → Prop) (allowed : Event → Prop) (need : Foreign → Prop) :
    Prop where
  handled : ∀ {state other next : State} {event : Event} {new : List Task},
    like state other → allowed event → left.handle state event = some (next, new) →
    ∃ next' new', left.handle other event = some (next', new') ∧ like next next' ∧
      List.Forall₂ likeTask new new'
  resumed : ∀ {state other next : State} {task task' : Task} {answer : Answer}
      {new : List Task},
    like state other → likeTask task task' → left.resume state task answer = some (next, new) →
    ∃ next' new', left.resume other task' answer = some (next', new') ∧ like next next' ∧
      List.Forall₂ likeTask new new'
  foreignHandled : ∀ {state other next : State} {event : Other} {new : List Foreign},
    like state other → right.handle state event = some (next, new) →
    like next other ∧ ∀ task ∈ new, need task
  foreignResumed : ∀ {state other next : State} {task : Foreign} {answer : Answer}
      {new : List Foreign},
    like state other → need task → right.resume state task answer = some (next, new) →
    like next other ∧ ∀ task ∈ new, need task

namespace Unnoticed

variable {left : Program State Event Task Answer} {right : Program State Other Foreign Answer}
  {like : State → State → Prop} {likeTask : Task → Task → Prop} {allowed : Event → Prop}
  {need : Foreign → Prop}

/-- The run amid the right program and the run alone have come to alike points. -/
structure Beside (like : State → State → Prop) (likeTask : Task → Task → Prop)
    (need : Foreign → Prop) (config : Config (State × Pool Foreign) Task)
    (alone : Config State Task) : Prop where
  state : like config.state.1 alone.state
  pool : Pool.Alike likeTask config.pool alone.pool
  needs : ∀ task ∈ config.state.2.tasks, need task

/-- A step of the right program. -/
theorem foreign_step (unnoticed : Unnoticed left right like likeTask allowed need)
    {state other : State} {pool : Pool Foreign} {label : Label Other Answer}
    {next : Config State Foreign} (alike : like state other)
    (needs : ∀ task ∈ pool.tasks, need task)
    (taken : right.step ⟨state, pool⟩ label = some next) :
    like next.state other ∧ ∀ task ∈ next.pool.tasks, need task := by
  rcases Program.step_cases taken with
    ⟨event, new, rfl, handled, tasks⟩ | ⟨ticket, answer, task, new, rfl, found, resumed, tasks⟩
  · obtain ⟨after, fresh⟩ := unnoticed.foreignHandled alike handled
    rw [tasks]
    exact ⟨after, List.forall_mem_append.mpr ⟨needs, fresh⟩⟩
  · obtain ⟨after, fresh⟩ := unnoticed.foreignResumed alike
      (needs task (Pool.mem_tasks_of_find? found)) resumed
    rw [tasks]
    exact ⟨after, List.forall_mem_append.mpr
      ⟨fun kept member => needs kept (Pool.mem_tasks_of_mem_remove member), fresh⟩⟩

/-- A step of the left program, from alike points. -/
theorem own_step (unnoticed : Unnoticed left right like likeTask allowed need)
    {config after alone : Config State Task} {label : Label Event Answer}
    (alike : like config.state alone.state)
    (pools : Pool.Alike likeTask config.pool alone.pool)
    (allows : ∀ event, label = .event event → allowed event)
    (taken : left.step config label = some after) :
    ∃ lone, left.step alone label = some lone ∧ like after.state lone.state ∧
      Pool.Alike likeTask after.pool lone.pool := by
  cases label with
  | event event =>
      obtain ⟨⟨state, new⟩, handled, rfl⟩ := Option.map_eq_some_iff.mp taken
      obtain ⟨state', new', handledAlone, likeNext, likeNew⟩ :=
        unnoticed.handled alike (allows event rfl) handled
      exact ⟨_, Option.map_eq_some_iff.mpr ⟨_, handledAlone, rfl⟩, likeNext,
        Pool.Alike.issueAll likeNew pools⟩
  | answer ticket answer =>
      obtain ⟨task, found, rest⟩ := Option.bind_eq_some_iff.mp taken
      obtain ⟨⟨state, new⟩, resumed, rfl⟩ := Option.map_eq_some_iff.mp rest
      obtain ⟨task', foundAlone, likeHere⟩ := pools.find? found
      obtain ⟨state', new', resumedAlone, likeNext, likeNew⟩ :=
        unnoticed.resumed alike likeHere resumed
      exact ⟨_, Option.bind_eq_some_iff.mpr ⟨task', foundAlone,
        Option.map_eq_some_iff.mpr ⟨_, resumedAlone, rfl⟩⟩, likeNext,
        Pool.Alike.issueAll likeNew pools.remove⟩

/-- Every step amid the right program is one alone, or none. -/
theorem step (unnoticed : Unnoticed left right like likeTask allowed need)
    {config next : Config (State × Pool Foreign) Task} {alone : Config State Task}
    {label : Label (Event ⊕ Label Other Answer) Answer}
    (beside : Beside like likeTask need config alone)
    (allows : ∀ event, label = .event (.inl event) → allowed event)
    (taken : (left.amid right).step config label = some next) :
    ∃ after, left.run alone label.own?.toList = some after ∧
      Beside like likeTask need next after := by
  rcases Program.amid_step_cases taken with
    ⟨own, after, isOwn, isEvent, stepped, rfl⟩ | ⟨foreign, after, rfl, stepped, rfl⟩
  · obtain ⟨lone, steppedAlone, likeNext, likePool⟩ := unnoticed.own_step beside.state beside.pool
      (fun event same => allows event (isEvent event same)) stepped
    rw [isOwn]
    exact ⟨lone, Program.run_cons.mpr ⟨lone, steppedAlone, rfl⟩, likeNext, likePool, beside.needs⟩
  · obtain ⟨likeNext, needs⟩ := unnoticed.foreign_step beside.state beside.needs stepped
    exact ⟨alone, rfl, likeNext, beside.pool, needs⟩

/-- A run amid the right program is a run alone once the other steps are taken out, and
both end alike. -/
theorem run (unnoticed : Unnoticed left right like likeTask allowed need) :
    ∀ {labels : List (Label (Event ⊕ Label Other Answer) Answer)}
      {config last : Config (State × Pool Foreign) Task} {alone : Config State Task},
      Beside like likeTask need config alone →
      (∀ event, .event (.inl event) ∈ labels → allowed event) →
      (left.amid right).run config labels = some last →
      ∃ lone, left.run alone (labels.filterMap Label.own?) = some lone ∧
        Beside like likeTask need last lone
  | [], _, _, alone, beside, _, ran => by
      obtain rfl := Option.some.inj ran
      exact ⟨alone, rfl, beside⟩
  | label :: rest, _, _, alone, beside, allows, ran => by
      obtain ⟨next, taken, ranRest⟩ := Program.run_cons.mp ran
      obtain ⟨after, ranFirst, besideNext⟩ := unnoticed.step beside
        (fun event same => allows event (same ▸ List.mem_cons_self)) taken
      obtain ⟨lone, ranAlone, besideLast⟩ := unnoticed.run besideNext
        (fun event member => allows event (List.mem_cons_of_mem _ member)) ranRest
      refine ⟨lone, ?_, besideLast⟩
      cases own : label.own? with
      | none =>
          rw [own] at ranFirst
          obtain rfl := Option.some.inj ranFirst
          rwa [List.filterMap_cons_none own]
      | some first =>
          rw [own] at ranFirst
          obtain ⟨middle, takenFirst, done⟩ := Program.run_cons.mp ranFirst
          obtain rfl := Option.some.inj done
          rw [List.filterMap_cons_some own]
          exact Program.run_cons.mpr ⟨_, takenFirst, ranAlone⟩

end Unnoticed

end Familog.Async
