import Familog.Async.Pool

/-!
Contract: programs that run as callbacks on one queue.

Owns the transition system of such a program: an outside event runs a handler,
an answer resumes the request that waits under its ticket, and either may issue
new requests. Runs are lists of labels, so every interleaving of events and
answers is one list.

Owns the two rules every safety proof goes through: `run_invariant` for a
property of the whole configuration, and `Outline.run` for a property of the
state together with one assertion for each pending request.

Does not own any particular program, answer or schedule.
-/

set_option autoImplicit false

namespace Familog.Async

variable {State Event Task Answer : Type*}

/-- A program: what an outside event does, and what a pending request does when
its answer arrives. Both return the new state and the requests issued on the
way; `none` means that the event or the answer cannot happen there. -/
structure Program (State Event Task Answer : Type*) where
  handle : State → Event → Option (State × List Task)
  resume : State → Task → Answer → Option (State × List Task)

/-- A program at a point between two callbacks. -/
structure Config (State Task : Type*) where
  state : State
  pool : Pool Task

/-- One step of the outside world. -/
inductive Label (Event Answer : Type*) where
  | event (event : Event)
  | answer (ticket : ℕ) (answer : Answer)

/-- The label answers a pending request. -/
def Label.IsAnswer : Label Event Answer → Prop
  | .event _ => False
  | .answer _ _ => True

namespace Program

variable (program : Program State Event Task Answer)

/-- The state with nothing pending. -/
def start (state : State) : Config State Task := ⟨state, Pool.empty⟩

/-- One callback runs to its end. -/
def step (config : Config State Task) : Label Event Answer → Option (Config State Task)
  | .event event =>
      (program.handle config.state event).map fun result =>
        ⟨result.1, config.pool.issueAll result.2⟩
  | .answer ticket answer =>
      (config.pool.find? ticket).bind fun task =>
        (program.resume config.state task answer).map fun result =>
          ⟨result.1, (config.pool.remove ticket).issueAll result.2⟩

/-- A run: the labels happen one after the other. -/
def run : Config State Task → List (Label Event Answer) → Option (Config State Task)
  | config, [] => some config
  | config, label :: rest => (program.step config label).bind fun next => run next rest

/-- Every step of the run that is taken meets the condition. -/
def Obeys (condition : Config State Task → Label Event Answer → Prop) :
    Config State Task → List (Label Event Answer) → Prop
  | _, [] => True
  | config, label :: rest =>
      condition config label ∧
        ∀ next, program.step config label = some next → Obeys condition next rest

/-- Every configuration of the run has the property. -/
def Always (property : Config State Task → Prop) :
    Config State Task → List (Label Event Answer) → Prop
  | config, [] => property config
  | config, label :: rest =>
      property config ∧ ∀ next, program.step config label = some next → Always property next rest

variable {program}

theorem run_cons {config last : Config State Task} {label : Label Event Answer}
    {rest : List (Label Event Answer)} :
    program.run config (label :: rest) = some last ↔
      ∃ next, program.step config label = some next ∧ program.run next rest = some last := by
  simp [run, Option.bind_eq_some_iff]

/-- What a step can be: a handler that ran, or a pending request that was
answered and left the pool. -/
theorem step_cases {config next : Config State Task} {label : Label Event Answer}
    (taken : program.step config label = some next) :
    (∃ event new, label = .event event ∧
        program.handle config.state event = some (next.state, new) ∧
        next.pool.tasks = config.pool.tasks ++ new) ∨
      ∃ ticket answer task new, label = .answer ticket answer ∧
        config.pool.find? ticket = some task ∧
        program.resume config.state task answer = some (next.state, new) ∧
        next.pool.tasks = (config.pool.remove ticket).tasks ++ new := by
  cases label with
  | event event =>
      obtain ⟨⟨state, new⟩, handled, rfl⟩ := Option.map_eq_some_iff.mp taken
      exact Or.inl ⟨event, new, rfl, handled, by simp⟩
  | answer ticket answer =>
      obtain ⟨task, found, rest⟩ := Option.bind_eq_some_iff.mp taken
      obtain ⟨⟨state, new⟩, resumed, rfl⟩ := Option.map_eq_some_iff.mp rest
      exact Or.inr ⟨ticket, answer, task, new, rfl, found, resumed, by simp⟩

/-- A property that every allowed step preserves holds after every run whose
steps are all allowed. -/
theorem run_invariant (inv : Config State Task → Prop)
    {condition : Config State Task → Label Event Answer → Prop}
    (preserved : ∀ {config label next}, inv config → condition config label →
      program.step config label = some next → inv next) :
    ∀ {labels : List (Label Event Answer)} {config last : Config State Task},
      inv config → program.Obeys condition config labels →
      program.run config labels = some last → inv last
  | [], _, _, holds, _, ran => by
      obtain rfl := Option.some.inj ran
      exact holds
  | _ :: _, _, _, holds, obeys, ran => by
      obtain ⟨next, taken, rest⟩ := run_cons.mp ran
      exact run_invariant inv preserved (preserved holds obeys.1 taken) (obeys.2 next taken) rest

/-- What follows from a preserved property holds all along such a run. -/
theorem always_of_invariant (inv : Config State Task → Prop)
    {condition : Config State Task → Label Event Answer → Prop}
    {property : Config State Task → Prop} (implies : ∀ {config}, inv config → property config)
    (preserved : ∀ {config label next}, inv config → condition config label →
      program.step config label = some next → inv next) :
    ∀ {labels : List (Label Event Answer)} {config : Config State Task},
      inv config → program.Obeys condition config labels → program.Always property config labels
  | [], _, holds, _ => implies holds
  | _ :: _, _, holds, obeys =>
      ⟨implies holds, fun next taken => always_of_invariant inv implies preserved
        (preserved holds obeys.1 taken) (obeys.2 next taken)⟩

/-- What a preserved property makes of a condition is obeyed by the runs that obey it. -/
theorem obeys_of_invariant (inv : Config State Task → Prop)
    {condition implied : Config State Task → Label Event Answer → Prop}
    (implies : ∀ {config label}, inv config → condition config label → implied config label)
    (preserved : ∀ {config label next}, inv config → condition config label →
      program.step config label = some next → inv next) :
    ∀ {labels : List (Label Event Answer)} {config : Config State Task},
      inv config → program.Obeys condition config labels → program.Obeys implied config labels
  | [], _, _, _ => trivial
  | _ :: _, _, holds, obeys =>
      ⟨implies holds obeys.1, fun next taken => obeys_of_invariant inv implies preserved
        (preserved holds obeys.1 taken) (obeys.2 next taken)⟩

theorem always_start {property : Config State Task → Prop} {config : Config State Task}
    {labels : List (Label Event Answer)} (always : program.Always property config labels) :
    property config := by
  cases labels with
  | nil => exact always
  | cons label rest => exact always.1

theorem always_last {property : Config State Task → Prop} :
    ∀ {labels : List (Label Event Answer)} {config last : Config State Task},
      program.Always property config labels → program.run config labels = some last →
      property last
  | [], _, _, always, ran => Option.some.inj ran ▸ always
  | _ :: _, _, _, always, ran => by
      obtain ⟨next, taken, rest⟩ := run_cons.mp ran
      exact always_last (always.2 next taken) rest

/-- Where every step that is taken keeps a property, exactly if it meets a condition,
the property holds all along a run exactly if every step meets the condition. -/
theorem always_iff_obeys {property : Config State Task → Prop}
    {allowed condition : Config State Task → Label Event Answer → Prop}
    (exact : ∀ {config label next}, property config → allowed config label →
      program.step config label = some next → (property next ↔ condition config label)) :
    ∀ {labels : List (Label Event Answer)} {config last : Config State Task},
      property config → program.Obeys allowed config labels →
      program.run config labels = some last →
      (program.Always property config labels ↔ program.Obeys condition config labels)
  | [], _, _, holds, _, _ => iff_of_true holds trivial
  | label :: rest, config, last, holds, obeys, ran => by
      obtain ⟨next, taken, ranRest⟩ := run_cons.mp ran
      have here := exact holds obeys.1 taken
      constructor
      · intro always
        have first : property next := always_start (always.2 next taken)
        refine ⟨here.mp first, fun other reached => ?_⟩
        obtain rfl : next = other := Option.some.inj (taken.symm.trans reached)
        exact (always_iff_obeys exact first (obeys.2 next taken) ranRest).mp
          (always.2 next taken)
      · intro met
        refine ⟨holds, fun other reached => ?_⟩
        obtain rfl : next = other := Option.some.inj (taken.symm.trans reached)
        exact (always_iff_obeys exact (here.mpr met.1) (obeys.2 next taken) ranRest).mpr
          (met.2 next taken)

/-- The same from a start that may not have the property, exactly if `starts` holds. -/
theorem always_iff_start_obeys {property : Config State Task → Prop}
    {allowed condition : Config State Task → Label Event Answer → Prop} {starts : Prop}
    {config last : Config State Task} {labels : List (Label Event Answer)}
    (start : property config ↔ starts)
    (exact : ∀ {config label next}, property config → allowed config label →
      program.step config label = some next → (property next ↔ condition config label))
    (obeys : program.Obeys allowed config labels)
    (ran : program.run config labels = some last) :
    program.Always property config labels ↔ starts ∧ program.Obeys condition config labels := by
  constructor
  · intro always
    have holds : property config := always_start always
    exact ⟨start.mp holds, (always_iff_obeys exact holds obeys ran).mp always⟩
  · rintro ⟨holds, met⟩
    exact (always_iff_obeys exact (start.mpr holds) obeys ran).mpr met

/-- A run goes on for as long as a property holds that makes the next step possible
and is kept by it. -/
theorem exists_run_of_progress (inv : Config State Task → Prop)
    (progress : ∀ config label, inv config →
      ∃ next, program.step config label = some next ∧ inv next) :
    ∀ (labels : List (Label Event Answer)) (config : Config State Task), inv config →
      ∃ last, program.run config labels = some last ∧ inv last
  | [], config, holds => ⟨config, rfl, holds⟩
  | label :: rest, config, holds => by
      obtain ⟨next, taken, kept⟩ := progress config label holds
      obtain ⟨last, ran, atEnd⟩ := exists_run_of_progress inv progress rest next kept
      exact ⟨last, run_cons.mpr ⟨next, taken, ran⟩, atEnd⟩

/-- Whether a run of fixed labels obeys a decidable condition can be computed. -/
instance decidableObeys (condition : Config State Task → Label Event Answer → Prop)
    [∀ config label, Decidable (condition config label)] :
    ∀ (config : Config State Task) (labels : List (Label Event Answer)),
      Decidable (program.Obeys condition config labels)
  | _, [] => isTrue trivial
  | config, label :: rest =>
      match taken : program.step config label with
      | none => decidable_of_iff (condition config label)
          ⟨fun met => ⟨met, by simp [taken]⟩, And.left⟩
      | some next =>
          have := decidableObeys condition next rest
          decidable_of_iff (condition config label ∧ program.Obeys condition next rest)
            ⟨fun both => ⟨both.1, fun other reached => by
                obtain rfl : next = other := Option.some.inj (taken.symm.trans reached)
                exact both.2⟩,
              fun obeys => ⟨obeys.1, obeys.2 next taken⟩⟩

/-- A run that ends as computed. -/
theorem exists_run {config : Config State Task} {labels : List (Label Event Answer)}
    {goal : Config State Task → Prop} [DecidablePred goal]
    (computed : ((program.run config labels).any fun last => decide (goal last)) = true) :
    ∃ last, program.run config labels = some last ∧ goal last := by
  simpa [Option.any_eq_true] using computed

/-- With nothing pending there is nothing to answer. -/
theorem run_idle {labels : List (Label Event Answer)} {config last : Config State Task}
    (idle : config.pool.tasks = []) (answers : ∀ label ∈ labels, label.IsAnswer)
    (ran : program.run config labels = some last) : last = config := by
  cases labels with
  | nil => exact (Option.some.inj ran).symm
  | cons label rest =>
      obtain ⟨next, taken, _⟩ := run_cons.mp ran
      rcases step_cases taken with
        ⟨event, new, rfl, _⟩ | ⟨ticket, answer, task, new, rfl, found, _⟩
      · exact (answers _ List.mem_cons_self).elim
      · have pending := Pool.mem_tasks_of_find? found
        simp [idle] at pending

/-- A run of labels that all meet a condition obeys it. -/
theorem obeys_of_forall_mem {condition : Label Event Answer → Prop} :
    ∀ {labels : List (Label Event Answer)} {config : Config State Task},
      (∀ label ∈ labels, condition label) → program.Obeys (fun _ => condition) config labels
  | [], _, _ => trivial
  | _ :: _, _, all => ⟨all _ List.mem_cons_self, fun _ _ =>
      obeys_of_forall_mem fun label member => all label (List.mem_cons_of_mem _ member)⟩

/-- A run that obeys two conditions obeys both at once. -/
theorem obeys_and {first second : Config State Task → Label Event Answer → Prop} :
    ∀ {labels : List (Label Event Answer)} {config : Config State Task},
      program.Obeys first config labels → program.Obeys second config labels →
      program.Obeys (fun config label => first config label ∧ second config label) config labels
  | [], _, _, _ => trivial
  | _ :: _, _, left, right => ⟨⟨left.1, right.1⟩, fun next taken =>
      obeys_and (left.2 next taken) (right.2 next taken)⟩

/-- Every run obeys the condition that allows everything. -/
theorem obeys_true {config : Config State Task} {labels : List (Label Event Answer)} :
    program.Obeys (fun _ _ => True) config labels :=
  obeys_of_forall_mem fun _ _ => trivial

end Program

/-- A condition that looks at the state, and at the request that is answered. -/
def onState (atEvent : State → Event → Prop) (atAnswer : State → Task → Answer → Prop) :
    Config State Task → Label Event Answer → Prop
  | config, .event event => atEvent config.state event
  | config, .answer ticket answer =>
      ∀ task, config.pool.find? ticket = some task → atAnswer config.state task answer

instance (atEvent : State → Event → Prop) (atAnswer : State → Task → Answer → Prop)
    [∀ state event, Decidable (atEvent state event)]
    [∀ state task answer, Decidable (atAnswer state task answer)]
    (config : Config State Task) (label : Label Event Answer) :
    Decidable (onState atEvent atAnswer config label) :=
  match label with
  | .event event => inferInstanceAs (Decidable (atEvent config.state event))
  | .answer ticket answer =>
      inferInstanceAs (Decidable (∀ task, config.pool.find? ticket = some task →
        atAnswer config.state task answer))

theorem onState_true {config : Config State Task} {label : Label Event Answer} :
    onState (fun _ _ => True) (fun _ _ _ => True) config label := by
  cases label <;> simp [onState]

/-! ## Proof outlines -/

/-- An invariant of the state, an assertion for each pending request, and a
relation between the requests that are pending at the same time. -/
structure Assertions (State Task : Type*) where
  inv : State → Prop
  need : State → Task → Prop
  apart : Task → Task → Prop
  symmetric : ∀ {left right : Task}, apart left right → apart right left

/-- What a callback establishes: the invariant, the assertions of the requests it
issues, and that it leaves the waiting requests undisturbed. -/
structure Assertions.After (assertions : Assertions State Task) (waiting : Task → Prop)
    (state : State) (new : List Task) : Prop where
  inv : assertions.inv state
  fresh : ∀ task ∈ new, assertions.need state task
  stable : ∀ task, waiting task → assertions.need state task
  distinct : new.Pairwise assertions.apart
  between : ∀ task, waiting task → ∀ other ∈ new, assertions.apart task other

/-- Where any two requests may be pending together, the invariant and the
assertions are all there is to establish. -/
theorem Assertions.After.of_free {assertions : Assertions State Task} {waiting : Task → Prop}
    {state : State} {new : List Task} (free : ∀ left right, assertions.apart left right)
    (inv : assertions.inv state) (fresh : ∀ task ∈ new, assertions.need state task)
    (stable : ∀ task, waiting task → assertions.need state task) :
    assertions.After waiting state new :=
  ⟨inv, fresh, stable, List.pairwise_of_forall fun left right => free left right,
    fun task _ other _ => free task other⟩

/-- Assertions that no callback breaks. An answered request is apart from every
request that keeps waiting. -/
structure Outline (program : Program State Event Task Answer)
    (condition : Config State Task → Label Event Answer → Prop)
    extends Assertions State Task where
  handled : ∀ {config : Config State Task} {event : Event} {state : State} {new : List Task},
    inv config.state → condition config (.event event) →
    program.handle config.state event = some (state, new) →
    toAssertions.After (fun other => other ∈ config.pool.tasks ∧ need config.state other) state new
  resumed : ∀ {config : Config State Task} {ticket : ℕ} {answer : Answer} {task : Task}
      {state : State} {new : List Task},
    inv config.state → need config.state task → condition config (.answer ticket answer) →
    config.pool.find? ticket = some task →
    program.resume config.state task answer = some (state, new) →
    toAssertions.After (fun other => need config.state other ∧ apart task other) state new

namespace Outline

variable {program : Program State Event Task Answer}
  {condition : Config State Task → Label Event Answer → Prop}

/-- The outline's assertions at one configuration. -/
structure Holds (outline : Outline program condition) (config : Config State Task) : Prop where
  inv : outline.inv config.state
  need : ∀ task ∈ config.pool.tasks, outline.need config.state task
  apart : config.pool.tasks.Pairwise outline.apart

theorem start (outline : Outline program condition) {state : State} (holds : outline.inv state) :
    outline.Holds (Program.start state) :=
  ⟨holds, by simp [Program.start], by simp [Program.start]⟩

private theorem holds_of_after {outline : Outline program condition} {waiting : Task → Prop}
    {next : Config State Task} {old new : List Task}
    (after : outline.After waiting next.state new) (waits : ∀ task ∈ old, waiting task)
    (apart : old.Pairwise outline.apart) (tasks : next.pool.tasks = old ++ new) :
    outline.Holds next := by
  refine ⟨after.inv, fun task member => ?_, ?_⟩
  · rw [tasks, List.mem_append] at member
    exact member.elim (fun kept => after.stable task (waits task kept)) (after.fresh task)
  · rw [tasks, List.pairwise_append]
    exact ⟨apart, after.distinct, fun task kept => after.between task (waits task kept)⟩

theorem step (outline : Outline program condition) {config next : Config State Task}
    {label : Label Event Answer} (holds : outline.Holds config)
    (allowed : condition config label) (taken : program.step config label = some next) :
    outline.Holds next := by
  rcases Program.step_cases taken with
    ⟨event, new, rfl, handled, tasks⟩ | ⟨ticket, answer, task, new, rfl, found, resumed, tasks⟩
  · exact holds_of_after (outline.handled holds.inv allowed handled)
      (fun other member => ⟨member, holds.need other member⟩) holds.apart tasks
  · have needed := holds.need task (Pool.mem_tasks_of_find? found)
    have perm := Pool.tasks_perm_of_find? found
    have apart : (task :: (config.pool.remove ticket).tasks).Pairwise outline.apart :=
      (perm.pairwise_iff outline.symmetric).mp holds.apart
    rw [List.pairwise_cons] at apart
    refine holds_of_after (outline.resumed holds.inv needed allowed found resumed)
      (fun other member => ⟨holds.need other ?_, apart.1 other member⟩) apart.2 tasks
    exact Pool.mem_tasks_of_mem_remove member

/-- The outline holds after every run whose steps are all allowed. -/
theorem run (outline : Outline program condition) {labels : List (Label Event Answer)}
    {config last : Config State Task} (holds : outline.Holds config)
    (obeys : program.Obeys condition config labels)
    (ran : program.run config labels = some last) : outline.Holds last :=
  Program.run_invariant outline.Holds
    (fun held allowed taken => outline.step held allowed taken) holds obeys ran

/-- What follows from the outline holds all along such a run. -/
theorem always (outline : Outline program condition) {property : Config State Task → Prop}
    (implies : ∀ {config}, outline.Holds config → property config)
    {labels : List (Label Event Answer)} {config : Config State Task}
    (holds : outline.Holds config) (obeys : program.Obeys condition config labels) :
    program.Always property config labels :=
  Program.always_of_invariant outline.Holds implies
    (fun held allowed taken => outline.step held allowed taken) holds obeys

/-- The condition of a second outline that may rely on this one. -/
def along (outline : Outline program condition) (config : Config State Task)
    (label : Label Event Answer) : Prop :=
  condition config label ∧ outline.Holds config

/-- A condition that follows from the outline wherever it holds is obeyed by the
runs that obey the outline's own condition. -/
theorem obeys (outline : Outline program condition)
    {implied : Config State Task → Label Event Answer → Prop}
    (implies : ∀ {config label}, outline.Holds config → condition config label →
      implied config label) :
    ∀ {labels : List (Label Event Answer)} {config : Config State Task},
      outline.Holds config → program.Obeys condition config labels →
      program.Obeys implied config labels :=
  Program.obeys_of_invariant outline.Holds implies
    fun held allowed taken => outline.step held allowed taken

/-- A run that obeys the outline's condition has its assertions all along. -/
theorem obeys_along (outline : Outline program condition) {config : Config State Task}
    {labels : List (Label Event Answer)} (holds : outline.Holds config)
    (obeys : program.Obeys condition config labels) :
    program.Obeys outline.along config labels :=
  outline.obeys (fun held allowed => ⟨allowed, held⟩) holds obeys

end Outline

end Familog.Async
