import Familog.Async.Copies
import Familog.Async.History

/-!
Contract: a program that hosts copies of smaller programs.

Owns what it means to host them: every step of the host is the step of one copy, over the
state of the host as it is then, or leaves all copies alone and may open new ones. Owns the
rule by which a property of single copies holds of all of them along every run of the host,
and the rule by which one copy is followed along a run, together with the moments that the
host passes through.

Does not own what the copies are told of at once, nor copies that are closed.
-/

set_option autoImplicit false

namespace Familog.Async

variable {State Event Task Answer Profile Own OwnEvent OwnTask Reply : Type*}

/-- A step of a run, and the configuration before it. -/
abbrev Moment (State Event Task Answer : Type*) := Config State Task × Label Event Answer

/-- The moments that a run passes through. -/
def Program.moments (program : Program State Event Task Answer) :
    Config State Task → List (Label Event Answer) → List (Moment State Event Task Answer) :=
  program.history fun config label => [(config, label)]

/-- A step of one copy, seen at any index. -/
theorem Copy.getElem?_act {program : Profile → Program Own OwnEvent OwnTask Reply}
    {copies after : List (Copy Profile Own OwnTask)} {index place : ℕ}
    {label : Label OwnEvent Reply} {copy : Copy Profile Own OwnTask}
    (found : copies[place]? = some copy)
    (acted : Copy.act program copies index label = some after) :
    (index ≠ place ∧ after[place]? = some copy) ∨
      index = place ∧ ∃ config, (program copy.profile).step copy.config label = some config ∧
        after[place]? = some { copy with config := config } := by
  obtain ⟨other, config, isOther, taken, rfl⟩ := act_eq_some acted
  by_cases same : index = place
  · subst same
    obtain rfl := Option.some.inj (isOther.symm.trans found)
    have inRange := (List.getElem?_eq_some_iff.mp found).1
    exact Or.inr ⟨rfl, config, taken, List.getElem?_set_self inRange⟩
  · exact Or.inl ⟨same, (List.getElem?_set_ne same).trans found⟩

/-- The host keeps the copies in its state. A label that is about one of them is a step of its
program; every other step leaves them alone, and may open new ones. -/
structure Hosts (host : Program State Event Task Answer)
    (copies : State → List (Copy Profile Own OwnTask))
    (own : State → Profile → Program Own OwnEvent OwnTask Reply)
    (own? : Label Event Answer → Option (ℕ × Label OwnEvent Reply)) (opened : Own) : Prop where
  acts : ∀ {config next : Config State Task} {label : Label Event Answer} {index : ℕ}
      {inner : Label OwnEvent Reply}, host.step config label = some next →
    own? label = some (index, inner) →
    Copy.act (own config.state) (copies config.state) index inner = some (copies next.state)
  leaves : ∀ {config next : Config State Task} {label : Label Event Answer},
    host.step config label = some next → own? label = none →
    ∃ profiles : List Profile, copies next.state =
      copies config.state ++ profiles.map fun profile => ⟨profile, Program.start opened⟩

/-- At this moment the request of one copy is answered. -/
def Answers (copies : State → List (Copy Profile Own OwnTask))
    (own? : Label Event Answer → Option (ℕ × Label OwnEvent Reply)) (index : ℕ)
    (moment : Moment State Event Task Answer) (task : OwnTask) : Prop :=
  ∃ ticket reply, own? moment.2 = some (index, .answer ticket reply) ∧
    ∃ copy ∈ (copies moment.1.state)[index]?, copy.config.pool.find? ticket = some task

/-- A condition on the steps of one copy, over the state of the host. -/
def OfCopy (copies : State → List (Copy Profile Own OwnTask))
    (own? : Label Event Answer → Option (ℕ × Label OwnEvent Reply)) (index : ℕ)
    (condition : State → Config Own OwnTask → Label OwnEvent Reply → Prop)
    (config : Config State Task) (label : Label Event Answer) : Prop :=
  ∀ step ∈ own? label, step.1 = index → ∀ copy ∈ (copies config.state)[index]?,
    condition config.state copy.config step.2

instance decidableOfCopy (copies : State → List (Copy Profile Own OwnTask))
    (own? : Label Event Answer → Option (ℕ × Label OwnEvent Reply)) (index : ℕ)
    (condition : State → Config Own OwnTask → Label OwnEvent Reply → Prop)
    [∀ state current step, Decidable (condition state current step)]
    (config : Config State Task) (label : Label Event Answer) :
    Decidable (OfCopy copies own? index condition config label) :=
  inferInstanceAs (Decidable (∀ step ∈ own? label, _ → ∀ copy ∈ (copies config.state)[index]?,
    condition config.state copy.config step.2))

namespace Hosts

variable {host : Program State Event Task Answer}
  {copies : State → List (Copy Profile Own OwnTask)}
  {own : State → Profile → Program Own OwnEvent OwnTask Reply}
  {own? : Label Event Answer → Option (ℕ × Label OwnEvent Reply)} {opened : Own}
  {config next last : Config State Task} {label : Label Event Answer}

/-- A property that new copies have, and that every step of a copy keeps, is kept by every step
of the host. -/
theorem forall_step (hosts : Hosts host copies own own? opened)
    {holds : Copy Profile Own OwnTask → Prop}
    (opens : ∀ profile, holds ⟨profile, Program.start opened⟩)
    (kept : ∀ {copy : Copy Profile Own OwnTask} {after : Config Own OwnTask}
      {inner : Label OwnEvent Reply}, holds copy →
      (own config.state copy.profile).step copy.config inner = some after →
      holds { copy with config := after })
    (all : ∀ copy ∈ copies config.state, holds copy) (taken : host.step config label = some next) :
    ∀ copy ∈ copies next.state, holds copy := by
  cases isOwn : own? label with
  | none =>
      obtain ⟨profiles, same⟩ := hosts.leaves taken isOwn
      rw [same]
      exact List.forall_mem_append.mpr
        ⟨all, List.forall_mem_map.mpr fun profile _ => opens profile⟩
  | some step => exact Copy.forall_act all (hosts.acts taken isOwn) kept

/-- It holds of all copies after every run. -/
theorem forall_run (hosts : Hosts host copies own own? opened)
    {holds : Copy Profile Own OwnTask → Prop}
    (opens : ∀ profile, holds ⟨profile, Program.start opened⟩)
    (kept : ∀ {state : State} {copy : Copy Profile Own OwnTask} {after : Config Own OwnTask}
      {inner : Label OwnEvent Reply}, holds copy →
      (own state copy.profile).step copy.config inner = some after →
      holds { copy with config := after })
    {labels : List (Label Event Answer)} (all : ∀ copy ∈ copies config.state, holds copy)
    (ran : host.run config labels = some last) : ∀ copy ∈ copies last.state, holds copy :=
  Program.run_invariant (fun config => ∀ copy ∈ copies config.state, holds copy)
    (fun held _ taken => hosts.forall_step opens kept held taken) all Program.obeys_true ran

/-- What a step of the host is to one copy: nothing, or a step of its program. -/
theorem step_at (hosts : Hosts host copies own own? opened) {index : ℕ}
    {copy : Copy Profile Own OwnTask} (found : (copies config.state)[index]? = some copy)
    (taken : host.step config label = some next) :
    (copies next.state)[index]? = some copy ∨
      ∃ inner after, own? label = some (index, inner) ∧
        (own config.state copy.profile).step copy.config inner = some after ∧
        (copies next.state)[index]? = some { copy with config := after } := by
  cases isOwn : own? label with
  | none =>
      obtain ⟨profiles, same⟩ := hosts.leaves taken isOwn
      have inRange := (List.getElem?_eq_some_iff.mp found).1
      exact Or.inl (by rw [same, List.getElem?_append_left inRange, found])
  | some step =>
      obtain ⟨other, inner⟩ := step
      rcases Copy.getElem?_act found (hosts.acts taken isOwn) with
        ⟨_, same⟩ | ⟨rfl, after, stepped, here⟩
      · exact Or.inl same
      · exact Or.inr ⟨inner, after, rfl, stepped, here⟩

/-- One copy along a run: what is kept while the host goes on without it, and carried on by
each of its own steps, holds of it in the end, together with the moments that the host has
passed through. -/
theorem follow (hosts : Hosts host copies own own? opened) {index : ℕ} {profile : Profile}
    {condition : Config State Task → Label Event Answer → Prop}
    (inv : List (Moment State Event Task Answer) → Config Own OwnTask → Prop)
    (waits : ∀ {past : List (Moment State Event Task Answer)}
      {moment : Moment State Event Task Answer} {current : Config Own OwnTask},
      inv past current → inv (past ++ [moment]) current)
    (acts : ∀ {past : List (Moment State Event Task Answer)} {config : Config State Task}
      {label : Label Event Answer} {inner : Label OwnEvent Reply}
      {current after : Config Own OwnTask},
      condition config label → own? label = some (index, inner) →
      (copies config.state)[index]? = some ⟨profile, current⟩ → inv past current →
      (own config.state profile).step current inner = some after →
      inv (past ++ [(config, label)]) after)
    {current : Config Own OwnTask} (found : (copies config.state)[index]? = some ⟨profile, current⟩)
    (starts : inv [] current) {labels : List (Label Event Answer)}
    (obeys : host.Obeys condition config labels) (ran : host.run config labels = some last) :
    ∃ after, (copies last.state)[index]? = some ⟨profile, after⟩ ∧
      inv (host.moments config labels) after := by
  refine Program.run_history (fun past config =>
    ∃ after, (copies config.state)[index]? = some ⟨profile, after⟩ ∧ inv past after) ?_
    ⟨current, found, starts⟩ obeys ran
  rintro past config label next ⟨before, here, held⟩ allowed taken
  rcases hosts.step_at here taken with same | ⟨inner, after, isOwn, stepped, there⟩
  · exact ⟨before, same, waits held⟩
  · exact ⟨after, there, acts allowed isOwn here held stepped⟩

end Hosts

end Familog.Async
