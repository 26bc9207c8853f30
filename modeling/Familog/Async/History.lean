import Familog.Async.Program

/-!
Contract: what has been observed in a run.

Owns the history of a run: what each of its steps lets be observed, in order; the
invariant rule for a property that ties the configuration to the history so far; the rule
for assertions about the state and the pending requests that do so; the step with which
something has come to hold; the latest item of a history that something is about; and, for a
history of answers, all requests so far.

Does not own what is observed. The program does not know of its history: it is computed
from the run afterwards.
-/

set_option autoImplicit false

namespace Familog.Async

variable {State Event Task Answer Item : Type*}

/-- What a run lets be observed, the oldest first. -/
def Program.history (program : Program State Event Task Answer)
    (observe : Config State Task → Label Event Answer → List Item) :
    Config State Task → List (Label Event Answer) → List Item
  | _, [] => []
  | config, label :: rest =>
      observe config label ++
        match program.step config label with
        | none => []
        | some next => history program observe next rest

/-- A property of the history and the configuration that every allowed step carries on
holds at the end of every run whose steps are all allowed. -/
theorem Program.run_history {program : Program State Event Task Answer}
    {observe : Config State Task → Label Event Answer → List Item}
    {condition : Config State Task → Label Event Answer → Prop}
    (inv : List Item → Config State Task → Prop)
    (preserved : ∀ {past config label next}, inv past config → condition config label →
      program.step config label = some next → inv (past ++ observe config label) next) :
    ∀ {labels : List (Label Event Answer)} {past : List Item} {config last : Config State Task},
      inv past config → program.Obeys condition config labels →
      program.run config labels = some last →
      inv (past ++ program.history observe config labels) last
  | [], past, _, _, holds, _, ran => by
      obtain rfl := Option.some.inj ran
      rwa [history, List.append_nil]
  | label :: rest, past, config, last, holds, obeys, ran => by
      obtain ⟨next, taken, ranRest⟩ := run_cons.mp ran
      have onward := run_history inv preserved (preserved holds obeys.1 taken)
        (obeys.2 next taken) ranRest
      rw [history, taken, ← List.append_assoc]
      exact onward

/-! ## Assertions about the history -/

/-- What the answer to a pending request lets be observed; an event lets nothing be. -/
def onAnswer (observe : State → Task → Answer → List Item) :
    Config State Task → Label Event Answer → List Item
  | _, .event _ => []
  | config, .answer ticket answer =>
      match config.pool.find? ticket with
      | none => []
      | some task => observe config.state task answer

/-- An invariant that ties the state to what has been observed, and what each pending
request relies on of it. What has been observed stays so. -/
structure Records (program : Program State Event Task Answer)
    (observe : State → Task → Answer → List Item)
    (condition : Config State Task → Label Event Answer → Prop)
    (inv : List Item → State → Prop) (need : List Item → Task → Prop) : Prop where
  handled : ∀ {past : List Item} {config : Config State Task} {event : Event} {state : State}
      {new : List Task}, inv past config.state → condition config (.event event) →
    program.handle config.state event = some (state, new) →
    inv past state ∧ ∀ task ∈ new, need past task
  resumed : ∀ {past : List Item} {config : Config State Task} {ticket : ℕ} {answer : Answer}
      {task : Task} {state : State} {new : List Task}, inv past config.state → need past task →
    condition config (.answer ticket answer) → config.pool.find? ticket = some task →
    program.resume config.state task answer = some (state, new) →
    inv (past ++ observe config.state task answer) state ∧
      ∀ other ∈ new, need (past ++ observe config.state task answer) other
  lasting : ∀ {past : List Item} {task : Task} (later : List Item), need past task →
    need (past ++ later) task

/-- After a run whose steps are all allowed, both hold of its history. -/
theorem Records.run {program : Program State Event Task Answer}
    {observe : State → Task → Answer → List Item}
    {condition : Config State Task → Label Event Answer → Prop}
    {inv : List Item → State → Prop} {need : List Item → Task → Prop}
    (records : Records program observe condition inv need) {state : State} (holds : inv [] state)
    {labels : List (Label Event Answer)} {last : Config State Task}
    (obeys : program.Obeys condition (Program.start state) labels)
    (ran : program.run (Program.start state) labels = some last) :
    inv (program.history (onAnswer observe) (Program.start state) labels) last.state ∧
      ∀ task ∈ last.pool.tasks,
        need (program.history (onAnswer observe) (Program.start state) labels) task := by
  refine Program.run_history (fun past config =>
    inv past config.state ∧ ∀ task ∈ config.pool.tasks, need past task) ?_
    ⟨holds, by simp [Program.start]⟩ obeys ran
  rintro past config label next ⟨kept, needs⟩ allowed taken
  rcases Program.step_cases taken with
    ⟨event, new, rfl, handled, tasks⟩ | ⟨ticket, answer, task, new, rfl, found, resumed, tasks⟩
  · obtain ⟨after, fresh⟩ := records.handled kept allowed handled
    rw [onAnswer, List.append_nil, tasks]
    exact ⟨after, List.forall_mem_append.mpr ⟨needs, fresh⟩⟩
  · obtain ⟨after, fresh⟩ := records.resumed kept (needs task (Pool.mem_tasks_of_find? found))
      allowed found resumed
    simp only [onAnswer, found, tasks]
    exact ⟨after, List.forall_mem_append.mpr ⟨fun other waiting => records.lasting _
      (needs other (Pool.mem_tasks_of_mem_remove waiting)), fresh⟩⟩

/-! ## Where something comes from -/

/-- The run takes a step with the label from the configuration. -/
def Program.Passes (program : Program State Event Task Answer) (start : Config State Task)
    (labels : List (Label Event Answer)) (config : Config State Task)
    (label : Label Event Answer) : Prop :=
  ∃ before after, labels = before ++ label :: after ∧ program.run start before = some config

/-- What holds at the end of a run and did not hold at its start has come to hold with one of
its steps. -/
theorem Program.passes_origin {program : Program State Event Task Answer}
    {fact : Config State Task → Prop} {origin : Config State Task → Label Event Answer → Prop}
    (begins : ∀ {config label next}, program.step config label = some next → fact next →
      fact config ∨ origin config label) :
    ∀ {labels : List (Label Event Answer)} {start last : Config State Task}, ¬ fact start →
      program.run start labels = some last → fact last →
      ∃ config label, program.Passes start labels config label ∧ origin config label
  | [], _, _, absent, ran, holds => by
      obtain rfl := Option.some.inj ran
      exact absurd holds absent
  | label :: rest, start, last, absent, ran, holds => by
      obtain ⟨next, taken, ranRest⟩ := run_cons.mp ran
      by_cases here : fact next
      · exact ⟨start, label, ⟨[], rest, rfl, rfl⟩, (begins taken here).resolve_left absent⟩
      · obtain ⟨config, other, ⟨before, after, rfl, reached⟩, isOrigin⟩ :=
          passes_origin begins here ranRest holds
        exact ⟨config, other, ⟨label :: before, after, rfl, run_cons.mpr ⟨next, taken, reached⟩⟩,
          isOrigin⟩

/-- A run passes every step that it takes. -/
theorem Program.obeys_passes {program : Program State Event Task Answer}
    {condition : Config State Task → Label Event Answer → Prop} :
    ∀ {labels : List (Label Event Answer)} {start : Config State Task},
      (∀ {config label}, program.Passes start labels config label → condition config label) →
      program.Obeys condition start labels
  | [], _, _ => trivial
  | label :: rest, start, met => by
      refine ⟨met ⟨[], rest, rfl, rfl⟩, fun next taken => obeys_passes fun {config other} => ?_⟩
      rintro ⟨before, after, rfl, reached⟩
      exact met ⟨label :: before, after, rfl, run_cons.mpr ⟨next, taken, reached⟩⟩

theorem Program.Passes.mem {program : Program State Event Task Answer}
    {start config : Config State Task} {labels : List (Label Event Answer)}
    {label : Label Event Answer} (passes : program.Passes start labels config label) :
    label ∈ labels := by
  obtain ⟨before, after, rfl, _⟩ := passes
  simp

/-- What every step keeps and holds at some point of a run holds at its end. -/
theorem Program.Passes.kept {program : Program State Event Task Answer}
    (fact : Config State Task → Prop)
    (keeps : ∀ {config label next}, program.step config label = some next → fact config →
      fact next) :
    ∀ {labels : List (Label Event Answer)} {start config last : Config State Task}
      {label : Label Event Answer}, program.Passes start labels config label →
      program.run start labels = some last → fact config → fact last := by
  rintro labels start config last label ⟨before, after, rfl, reached⟩ ran holds
  induction before generalizing start with
  | nil =>
      obtain rfl := Option.some.inj reached
      exact run_invariant fact (fun held _ taken => keeps taken held) holds obeys_true ran
  | cons first rest inductionHypothesis =>
      obtain ⟨next, taken, ranRest⟩ := run_cons.mp ran
      obtain ⟨other, taken', reachedRest⟩ := run_cons.mp reached
      obtain rfl := Option.some.inj (taken.symm.trans taken')
      exact inductionHypothesis reachedRest ranRest

/-! ## The latest item -/

/-- The item is the last of the history that it is about this. -/
def Latest (about : Item → Prop) (past : List Item) (item : Item) : Prop :=
  ∃ before after, past = before ++ item :: after ∧ about item ∧ ∀ other ∈ after, ¬ about other

namespace Latest

variable {about : Item → Prop} {past : List Item} {item other : Item}

/-- What has just been observed is the latest. -/
theorem observed (here : about item) : Latest about (past ++ [item]) item :=
  ⟨past, [], rfl, here, by simp⟩

/-- It stays the latest while something else is observed. -/
theorem append (latest : Latest about past item) (elsewhere : ¬ about other) :
    Latest about (past ++ [other]) item := by
  obtain ⟨before, after, rfl, here, since⟩ := latest
  refine ⟨before, after ++ [other], by simp, here, ?_⟩
  exact List.forall_mem_append.mpr ⟨since, List.forall_mem_singleton.mpr elsewhere⟩

/-- There is one latest. -/
theorem unique (first : Latest about past item) (second : Latest about past other) :
    item = other := by
  obtain ⟨before, after, rfl, here, since⟩ := first
  obtain ⟨otherBefore, otherAfter, split, otherHere, otherSince⟩ := second
  rcases List.append_eq_append_iff.mp split with ⟨between, -, tail⟩ | ⟨between, -, tail⟩
  · cases between with
    | nil => exact (List.cons.inj tail).1
    | cons _ later =>
        have inAfter : other ∈ after := (List.cons.inj tail).2 ▸ by simp
        exact absurd otherHere (since other inAfter)
  · cases between with
    | nil => exact (List.cons.inj tail).1.symm
    | cons _ later =>
        have inAfter : item ∈ otherAfter := (List.cons.inj tail).2 ▸ by simp
        exact absurd here (otherSince item inAfter)

end Latest

/-! ## Requests and their answers -/

/-- All requests so far: those that wait, and those that have been answered. -/
def asked (pool : Pool Task) (past : List (Task × Answer)) : List Task :=
  pool.tasks ++ past.map Prod.fst

/-- An answer moves its request to the history, and its callback adds its own. -/
theorem asked_answered {pool next : Pool Task} {past : List (Task × Answer)} {ticket : ℕ}
    {task : Task} {new : List Task} (answer : Answer) (found : pool.find? ticket = some task)
    (tasks : next.tasks = (pool.remove ticket).tasks ++ new) :
    (asked next (past ++ [(task, answer)])).Perm (asked pool past ++ new) := by
  have perm := Pool.tasks_perm_of_find? found
  calc asked next (past ++ [(task, answer)])
      = ((pool.remove ticket).tasks ++ new ++ past.map Prod.fst) ++ [task] := by
        simp [asked, tasks]
    List.Perm _ (task :: ((pool.remove ticket).tasks ++ new ++ past.map Prod.fst)) :=
        List.perm_append_singleton _ _
    List.Perm _ (task :: (pool.remove ticket).tasks ++ (past.map Prod.fst ++ new)) := by
        rw [List.append_assoc]
        exact (List.perm_append_comm.append_left _).cons task
    List.Perm _ (asked pool past ++ new) := by
        rw [asked, List.append_assoc]
        exact perm.symm.append_right _

end Familog.Async
