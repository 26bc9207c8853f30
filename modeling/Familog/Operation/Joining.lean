import Familog.Operation.Response

/-!
Contract: a join that has the store to itself and whose requests all succeed.

Owns its course from the tap to the end, that it comes to its end, and what it leaves
behind: either nothing was written, because no listed id equals the trimmed text or the
user document could not be read, or the user is in that family.

Does not own failures, which write nothing, nor other clients.
-/

set_option autoImplicit false

namespace Familog.Operation

open Async Firestore Swift LogInPage

/-- The step is an answer, and no error. -/
def Succeeds : Label Event Answer → Prop
  | .event _ => False
  | .answer _ answer => isFailed answer = false

instance (label : Label Event Answer) : Decidable (Succeeds label) :=
  match label with
  | .event _ => isFalse id
  | .answer _ _ => inferInstanceAs (Decidable (_ = _))

section Course

variable {setting : Setting} {store current : Store} {familyId : String} {tasks : List Task}
  {task : Task} {answer : Answer} {outcome : Outcome Task}

/-- The pending requests and the store from the listing of the families on. -/
inductive JoinCourse (setting : Setting) (store : Store) (familyId : String) :
    List Task → Store → Prop where
  | listing : JoinCourse setting store familyId [.join (.getDocuments familyId)] store
  | missing : ¬ setting.form.Contains store.familyIDs familyId →
      JoinCourse setting store familyId [] store
  | reading : setting.form.Contains store.familyIDs familyId →
      JoinCourse setting store familyId [.join (.append familyId .getDocument)] store
  | unreadable : setting.form.Contains store.familyIDs familyId →
      store.familiesOf setting.user = none → JoinCourse setting store familyId [] store
  | received {data} : setting.form.Contains store.familyIDs familyId →
      store.users.get? setting.user = some data →
      JoinCourse setting store familyId [.join (.append familyId (.received data))] store
  | writing {data families newFamilies} : setting.form.Contains store.familyIDs familyId →
      store.users.get? setting.user = some data → data.strings? "families" = some families →
      IsSetArray setting.form (families ++ [familyId]) newFamilies →
      JoinCourse setting store familyId
        [.join (.append familyId (.updateData families newFamilies))] store
  | joined {data families newFamilies} : setting.form.Contains store.familyIDs familyId →
      store.users.get? setting.user = some data → data.strings? "families" = some families →
      IsSetArray setting.form (families ++ [familyId]) newFamilies →
      JoinCourse setting store familyId []
        { store with
          users := store.users.set setting.user
            (AppendFamily.updated data familyId newFamilies) }

/-- The read-modify-write of the user document, inside the join. -/
theorem join_append_resumed {step : AppendFamily.Task}
    (responded : respond setting current (.join (.append familyId step)) answer = some outcome) :
    ∃ result, AppendFamily.resume setting.form JoinFamily.texts current setting.user familyId
        step answer = some result ∧
      outcome = (result.lift (.append familyId)).lift .join := by
  obtain ⟨lifted, joined, rfl⟩ := Option.map_eq_some_iff.mp responded
  obtain ⟨result, resumed, rfl⟩ := Option.map_eq_some_iff.mp joined
  exact ⟨result, resumed, rfl⟩

/-- An answer that is no error keeps the join on its course. -/
theorem joinCourse_respond (course : JoinCourse setting store familyId [task] current)
    (succeeds : isFailed answer = false)
    (responded : respond setting current task answer = some outcome) :
    JoinCourse setting store familyId outcome.next outcome.store := by
  cases course with
  | listing =>
      obtain ⟨result, resumed, rfl⟩ := Option.map_eq_some_iff.mp responded
      cases JoinFamily.resume_eq_some.mp resumed with
      | unread => simp [isFailed] at succeeds
      | listed inList => exact .reading inList
      | unlisted absent => exact .missing absent
  | reading listed =>
      obtain ⟨result, resumed, rfl⟩ := join_append_resumed responded
      cases AppendFamily.resume_eq_some.mp resumed with
      | unread => simp [isFailed] at succeeds
      | missing absent => exact .unreadable listed (by rw [Store.familiesOf, absent]; rfl)
      | read found => exact .received listed found
  | received listed stored =>
      obtain ⟨result, resumed, rfl⟩ := join_append_resumed responded
      cases AppendFamily.resume_eq_some.mp resumed with
      | trapped unreadable =>
          exact .unreadable listed (by rw [Store.familiesOf, stored]; exact unreadable)
      | arrayMade found array => exact .writing listed stored found array
  | writing listed stored found array =>
      obtain ⟨result, resumed, rfl⟩ := join_append_resumed responded
      cases AppendFamily.resume_eq_some.mp resumed with
      | unwritten => simp [isFailed] at succeeds
      | written there =>
          obtain rfl := Option.some.inj (stored.symm.trans there)
          exact .joined listed stored found array

/-- One request is pending at a time. -/
theorem JoinCourse.tasks_cases (course : JoinCourse setting store familyId tasks current) :
    tasks = [] ∨ ∃ task, tasks = [task] := by
  cases course with
  | missing | unreadable | joined => exact Or.inl rfl
  | listing | reading | received | writing => exact Or.inr ⟨_, rfl⟩

/-- The course through the answers of a run. -/
theorem joinCourse_step {config next : Config State Task} {label : Label Event Answer}
    (course : JoinCourse setting store familyId config.pool.tasks config.state.store)
    (succeeds : Succeeds label) (taken : (program setting).step config label = some next) :
    JoinCourse setting store familyId next.pool.tasks next.state.store := by
  rcases operation_step taken with
    ⟨_, _, _, event, rfl⟩ |
    ⟨ticket, answer, task, outcome, rfl, found, _, responded, state, pending⟩
  · exact succeeds.elim
  · rcases course.tasks_cases with idle | ⟨only, single⟩
    · have waiting := Pool.mem_tasks_of_find? found
      simp [idle] at waiting
    · obtain ⟨rfl, rest⟩ := Pool.only_of_find? single found
      rw [pending, rest, List.nil_append, state]
      exact joinCourse_respond (single ▸ course) succeeds responded

theorem joinCourse_run {config last : Config State Task} {labels : List (Label Event Answer)}
    (course : JoinCourse setting store familyId config.pool.tasks config.state.store)
    (succeed : ∀ label ∈ labels, Succeeds label)
    (ran : (program setting).run config labels = some last) :
    JoinCourse setting store familyId last.pool.tasks last.state.store :=
  Program.run_invariant
    (fun config => JoinCourse setting store familyId config.pool.tasks config.state.store)
    (fun course succeeds taken => joinCourse_step course succeeds taken) course
    (Program.obeys_of_forall_mem succeed) ran

/-- The tap sets the join on its course. Without a text it ends there, and the empty id
is never listed. -/
theorem joinCourse_begun (setting : Setting) (store : Store) (familyIdText : String) :
    JoinCourse setting store (trimmingCharacters familyIdText)
      (begun setting store (.joinTapped familyIdText)).pool.tasks store := by
  rw [begun, Pool.tasks_issueAll, Pool.tasks_empty, List.nil_append, tapped, JoinFamily.joinTapped]
  by_cases empty : trimmingCharacters familyIdText = ""
  · simp only [empty, if_true]
    exact .missing fun listed => (Store.slashFree_of_listed listed).1 rfl
  · simp only [empty, if_false]
    exact .listing

/-! ## The end of the course -/

/-- The number of answers that are left. -/
def remaining : Task → ℕ
  | .join (.getDocuments _) => 4
  | .join (.append _ .getDocument) => 3
  | .join (.append _ (.received _)) => 2
  | .join (.append _ (.updateData _ _)) => 1
  | _ => 0

/-- A callback of the join that runs through one of its branches. -/
theorem join_respond {request : JoinFamily.Task} {result : Outcome JoinFamily.Task}
    (resumed : JoinFamily.Resumed setting.form current setting.user request answer result) :
    respond setting current (.join request) answer = some (result.lift .join) := by
  simp [respond, JoinFamily.resume_eq_some.mpr resumed]

/-- The same inside the read-modify-write. -/
theorem join_append_respond {step : AppendFamily.Task} {result : Outcome AppendFamily.Task}
    (resumed : AppendFamily.Resumed setting.form JoinFamily.texts current setting.user familyId
      step answer result) :
    respond setting current (.join (.append familyId step)) answer =
      some ((result.lift (.append familyId)).lift .join) :=
  join_respond (.appended (AppendFamily.resume_eq_some.mpr resumed))

/-- A pending request can be answered without an error, and then less is left. -/
theorem joinCourse_progress (course : JoinCourse setting store familyId [task] current) :
    ∃ answer outcome, isFailed answer = false ∧
      respond setting current task answer = some outcome ∧
      ∀ other ∈ outcome.next, remaining other < remaining task := by
  cases course with
  | listing =>
      by_cases inList : setting.form.Contains store.familyIDs familyId
      · exact ⟨.succeeded, _, rfl, join_respond (.listed inList),
          by simp [Outcome.lift, Outcome.issues, remaining]⟩
      · exact ⟨.succeeded, _, rfl, join_respond (.unlisted inList),
          by simp [Outcome.lift, Outcome.ends]⟩
  | reading =>
      cases found : store.users.get? setting.user with
      | none =>
          exact ⟨.succeeded, _, rfl, join_append_respond (.missing found),
            by simp [Outcome.lift, Outcome.ends]⟩
      | some data =>
          exact ⟨.succeeded, _, rfl, join_append_respond (.read found),
            by simp [Outcome.lift, Outcome.issues, remaining]⟩
  | @received data _ _ =>
      cases found : data.strings? "families" with
      | none =>
          exact ⟨.listed [], _, rfl, join_append_respond (.trapped found),
            by simp [Outcome.lift, Outcome.ends]⟩
      | some families =>
          obtain ⟨newFamilies, array⟩ := exists_isSetArray setting.form (families ++ [familyId])
          exact ⟨.listed newFamilies, _, rfl, join_append_respond (.arrayMade found array),
            by simp [Outcome.lift, Outcome.issues, remaining]⟩
  | writing _ stored _ _ =>
      exact ⟨.succeeded, _, rfl, join_append_respond (.written stored),
        by simp [Outcome.lift, Outcome.ends]⟩

/-- From every point of the course the join can go on to its end. -/
theorem joinCourse_ends (bound : ℕ) : ∀ {config : Config State Task},
    JoinCourse setting store familyId config.pool.tasks config.state.store →
    (∀ task ∈ config.pool.tasks, remaining task < bound) →
    ∃ labels last, (∀ label ∈ labels, Succeeds label) ∧
      (program setting).run config labels = some last ∧ last.pool.tasks = [] := by
  induction bound with
  | zero =>
      intro config course below
      rcases course.tasks_cases with idle | ⟨task, single⟩
      · exact ⟨[], config, by simp, rfl, idle⟩
      · exact absurd (below task (by simp [single])) (Nat.not_lt_zero _)
  | succ bound inductionHypothesis =>
      intro config course below
      rcases course.tasks_cases with idle | ⟨task, single⟩
      · exact ⟨[], config, by simp, rfl, idle⟩
      · obtain ⟨answer, outcome, succeeds, responded, less⟩ :=
          joinCourse_progress (single ▸ course)
        obtain ⟨ticket, found⟩ := Pool.exists_find?_of_mem
          (single ▸ List.mem_singleton_self task : task ∈ config.pool.tasks)
        have taken : (program setting).step config (.answer ticket answer) = some
            ⟨⟨outcome.store, config.state.notices ++ outcome.notices,
              config.state.answered ++ [(task, answer)]⟩,
              (config.pool.remove ticket).issueAll outcome.next⟩ := by
          simp [Program.step, found, program, responded]
        have onCourse := joinCourse_step course
          (show Succeeds (.answer ticket answer) from succeeds) taken
        obtain ⟨labels, last, succeed, ran, idle⟩ := inductionHypothesis onCourse (by
          intro other member
          rw [Pool.tasks_issueAll, (Pool.only_of_find? single found).2, List.nil_append] at member
          have before := below task (by simp [single])
          have after := less other member
          omega)
        exact ⟨.answer ticket answer :: labels, last,
          List.forall_mem_cons.mpr ⟨succeeds, succeed⟩,
          Program.run_cons.mpr ⟨_, taken, ran⟩, idle⟩

end Course

end Familog.Operation
