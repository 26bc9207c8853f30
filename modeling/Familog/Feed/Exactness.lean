import Familog.Async.Load
import Familog.Feed.Controller

/-!
Contract: when the displayed rows are exactly the last query's documents.

Owns the meaning of "nothing of the last refresh is outstanding", the condition
`Clean` on the answers that arrive after a refresh, and the theorem that after
any history a refresh followed by clean answers shows, whenever it is quiet,
each document of its query once and nothing else. Owns also a run of each
controller in which a profile edit duplicates a row.

Does not own the order of the rows.
-/

set_option autoImplicit false

namespace Familog.Feed

open Async Firestore

variable {Row : Type}

namespace Task

/-- The number of the `refresh` the request goes back to. -/
def number : Task Row → Nat
  | .observeCurrentUser refresh => refresh
  | .getDocuments refresh _ => refresh
  | .userListener refresh _ _ _ => refresh

/-- The read or the query of the given refresh. -/
def opens (last : Nat) : Task Row → Bool
  | .observeCurrentUser refresh => refresh == last
  | .getDocuments refresh _ => refresh == last
  | .userListener _ _ _ _ => false

/-- The row that the first snapshot of a look-up of the given refresh will add. -/
def awaited? (last : Nat) : Task Row → Option Row
  | .userListener refresh _ row fired => if refresh = last ∧ fired = false then some row else none
  | _ => none

theorem opens_of_older {last : Nat} {task : Task Row} (older : task.number ≠ last) :
    task.opens last = false := by
  cases task with
  | userListener refresh uid row fired => rfl
  | _ => simpa [opens, number] using older

theorem awaited?_of_older {last : Nat} {task : Task Row} (older : task.number ≠ last) :
    task.awaited? last = none := by
  cases task with
  | userListener refresh uid row fired =>
      exact if_neg fun current => older current.1
  | _ => rfl

end Task

/-- No read, query or first snapshot of the last refresh is outstanding. -/
def Quiet (config : Config (State Row) (Task Row)) : Prop :=
  ∀ task ∈ config.pool.tasks,
    task.opens config.state.refreshes = false ∧ task.awaited? config.state.refreshes = none

/-- The rows of the documents the last refresh's query returned that have an
author; none if it has not been answered. -/
def expected (controller : Controller Row) (state : State Row) : List Row :=
  ((state.queried.getD []).map controller.transform).filter fun row =>
    (controller.author? row).isSome

/-- In a quiet state the displayed rows are the expected ones, each once. -/
def Exact (controller : Controller Row) (config : Config (State Row) (Task Row)) : Prop :=
  Quiet config → config.state.rows.Perm (expected controller config.state)

instance (config : Config (State Row) (Task Row)) : Decidable (Quiet config) :=
  inferInstanceAs (Decidable (∀ task ∈ _, _ ∧ _))

instance [DecidableEq Row] (controller : Controller Row)
    (config : Config (State Row) (Task Row)) : Decidable (Exact controller config) :=
  inferInstanceAs (Decidable (Quiet config → _))

/-- A listener delivers a user only as the first snapshot of a look-up of the last
refresh, every such look-up is answered with a user, and the query of the last
refresh returns only documents with an author who can be looked up. -/
def CleanAnswer (controller : Controller Row) (state : State Row) (task : Task Row)
    (answer : Answer) : Prop :=
  match task, answer with
  | .userListener refresh _ _ fired, .snapshot (some data) =>
      refresh = state.refreshes ∧ fired = false ∧ (transformUser data).isSome
  | .userListener refresh _ _ fired, _ => ¬ (refresh = state.refreshes ∧ fired = false)
  | .getDocuments refresh _, .documents documents =>
      refresh = state.refreshes → controller.Complete (documents.map controller.transform)
  | _, _ => True

instance (controller : Controller Row) (state : State Row) (task : Task Row) (answer : Answer) :
    Decidable (CleanAnswer controller state task answer) := by
  unfold CleanAnswer
  split <;> infer_instance

/-- Every answer of the run is clean. -/
def Clean (controller : Controller Row) :
    Config (State Row) (Task Row) → Label Event Answer → Prop :=
  onState (fun _ _ => True) (CleanAnswer controller)

instance (controller : Controller Row) (config : Config (State Row) (Task Row))
    (label : Label Event Answer) : Decidable (Clean controller config label) :=
  inferInstanceAs (Decidable (onState _ _ config label))

/-! ## The balance of shown and awaited rows -/

section Lists

variable (last : Nat)

/-- The reads and queries of the last refresh that are pending. -/
def openings (tasks : List (Task Row)) : Nat := tasks.countP (Task.opens last)

/-- The rows the pending look-ups of the last refresh will add. -/
def awaited (tasks : List (Task Row)) : List Row := tasks.filterMap (Task.awaited? last)

end Lists

/-- Nothing pending goes back to a refresh that has not happened; while the read
or the query of the last refresh is pending nothing is shown, and from then on
the shown and the awaited rows together are the expected ones. -/
structure Balanced (controller : Controller Row) (state : State Row) (tasks : List (Task Row)) :
    Prop where
  numbered : ∀ task ∈ tasks, task.number ≤ state.refreshes
  rows :
    (openings state.refreshes tasks = 1 ∧ awaited state.refreshes tasks = [] ∧
      state.rows = [] ∧ state.queried = none) ∨
    (openings state.refreshes tasks = 0 ∧
      (state.rows ++ awaited state.refreshes tasks).Perm (expected controller state))

section Loads

variable {controller : Controller Row} {state : State Row} {tasks others : List (Task Row)}
  {task : Task Row}

theorem Balanced.balance (balanced : Balanced controller state tasks) :
    Load.Balance (Task.opens state.refreshes) (Task.awaited? state.refreshes) state.rows
      (expected controller state) tasks :=
  balanced.rows.imp_left fun opened => ⟨opened.1, opened.2.1, opened.2.2.1⟩

/-- While the read or the query of the last refresh is pending, it is unanswered. -/
theorem Balanced.unanswered (balanced : Balanced controller state tasks) (member : task ∈ tasks)
    (opens : task.opens state.refreshes = true) : state.queried = none := by
  rcases balanced.rows with ⟨_, _, _, unanswered⟩ | ⟨closed, _⟩
  · exact unanswered
  · rw [openings, List.countP_eq_zero] at closed
    exact absurd opens (closed task member)

theorem Balanced.of_balance (numbered : ∀ task ∈ tasks, task.number ≤ state.refreshes)
    (balance : Load.Balance (Task.opens state.refreshes) (Task.awaited? state.refreshes)
      state.rows (expected controller state) tasks)
    (unanswered : ∀ task ∈ tasks, task.opens state.refreshes = true → state.queried = none) :
    Balanced controller state tasks := by
  refine ⟨numbered, ?_⟩
  rcases balance with ⟨opened, nothing, empty⟩ | closed
  · obtain ⟨task, member, opens⟩ := List.countP_pos_iff.mp (opened ▸ Nat.one_pos)
    exact Or.inl ⟨opened, nothing, empty, unanswered task member opens⟩
  · exact Or.inr closed

theorem Balanced.of_perm (perm : tasks.Perm others) (balanced : Balanced controller state tasks) :
    Balanced controller state others :=
  .of_balance (fun task member => balanced.numbered task (perm.mem_iff.mpr member))
    (balanced.balance.of_perm perm)
    fun _ member opens => balanced.unanswered (perm.mem_iff.mpr member) opens

/-- A quiet load shows what is expected. -/
theorem Balanced.exact {config : Config (State Row) (Task Row)}
    (balanced : Balanced controller config.state config.pool.tasks) : Exact controller config :=
  fun quiet => balanced.balance.shown_perm quiet

/-- The request neither opens nor awaits anything for the refresh. -/
def Idle (last : Nat) (task : Task Row) : Prop :=
  task.opens last = false ∧ task.awaited? last = none

theorem idle_of_older {last : Nat} (older : task.number ≠ last) : Idle last task :=
  ⟨Task.opens_of_older older, Task.awaited?_of_older older⟩

/-- A refresh makes everything that is pending old. -/
theorem balanced_refresh (controller : Controller Row)
    (numbered : ∀ task ∈ tasks, task.number ≤ state.refreshes) :
    Balanced controller (refresh state).1 (tasks ++ (refresh state).2) := by
  refine .of_balance ?_ (Load.balance_opened ?_ ?_ rfl) fun _ _ _ => rfl
  · intro task member
    show task.number ≤ state.refreshes + 1
    rcases List.mem_append.mp member with old | new
    · have := numbered task old
      omega
    · rw [List.mem_singleton.mp new]
      exact le_refl _
  · intro task member
    have := numbered task member
    exact idle_of_older (by show task.number ≠ state.refreshes + 1; omega)
  · exact beq_self_eq_true _

end Loads

/-! ## Every clean answer keeps the balance -/

section Answers

variable {controller : Controller Row} {state next : State Row} {task : Task Row}
  {rest new : List (Task Row)} {answer : Answer}

theorem number_of_answered (answered : Answered controller state task answer next new) :
    next.refreshes = state.refreshes ∧ ∀ other ∈ new, other.number = task.number := by
  cases answered with
  | postsLoaded queried ended =>
      refine ⟨rfl, fun other member => ?_⟩
      obtain ⟨fetch, _, rfl⟩ := List.mem_map.mp member
      rfl
  | _ => simp [Task.number, append]

theorem numbered_next (numbered : ∀ other ∈ task :: rest, other.number ≤ state.refreshes)
    (answered : Answered controller state task answer next new) :
    ∀ other ∈ rest ++ new, other.number ≤ next.refreshes := by
  obtain ⟨refreshes, same⟩ := number_of_answered answered
  intro other member
  rw [refreshes]
  rcases List.mem_append.mp member with old | fresh
  · exact numbered other (List.mem_cons_of_mem _ old)
  · rw [same other fresh]
    exact numbered task List.mem_cons_self

/-- An idle request that is replaced by idle ones changes nothing. -/
theorem Balanced.of_idle (balanced : Balanced controller state (task :: rest))
    (numbered : ∀ other ∈ rest ++ new, other.number ≤ next.refreshes)
    (refreshes : next.refreshes = state.refreshes) (rows : next.rows = state.rows)
    (queried : next.queried = state.queried) (idle : Idle state.refreshes task)
    (idleNew : ∀ other ∈ new, Idle state.refreshes other) :
    Balanced controller next (rest ++ new) := by
  refine .of_balance numbered ?_ ?_
  · rw [refreshes, rows, expected, queried]
    exact balanced.balance.of_idle idle idleNew
  · intro other member opens
    rw [refreshes] at opens
    rw [queried]
    rcases List.mem_append.mp member with old | fresh
    · exact balanced.unanswered (List.mem_cons_of_mem _ old) opens
    · simp [(idleNew other fresh).1] at opens

/-- The last refresh came to an end without an answer to its query. -/
theorem Balanced.of_unanswered (balanced : Balanced controller state (task :: rest))
    (numbered : ∀ other ∈ rest ++ [], other.number ≤ next.refreshes)
    (refreshes : next.refreshes = state.refreshes) (rows : next.rows = state.rows)
    (queried : next.queried = state.queried) (opens : task.opens state.refreshes = true) :
    Balanced controller next (rest ++ []) := by
  have unanswered : next.queried = none :=
    queried.trans (balanced.unanswered List.mem_cons_self opens)
  refine .of_balance numbered ?_ fun _ _ _ => unanswered
  rw [refreshes, rows, expected, unanswered]
  exact balanced.balance.loaded opens rfl (List.Perm.refl _)

/-- A complete query is expected with all its documents. -/
theorem expected_of_complete {documents : List Fields} (answered : state.queried = some documents)
    (complete : controller.Complete (documents.map controller.transform)) :
    expected controller state = documents.map controller.transform := by
  rw [expected, answered, Option.getD_some, List.filter_eq_self]
  intro row member
  obtain ⟨uid, author, _⟩ := complete row member
  simp [Option.mem_def.mp author]

theorem awaited_fetches (last : Nat) (fetches : List (String × Row)) :
    awaited last (fetches.map fun fetch => Task.userListener last fetch.1 fetch.2 false) =
      fetches.map Prod.snd := by
  induction fetches with
  | nil => rfl
  | cons fetch rest inductionHypothesis =>
      simp only [awaited, List.map_cons, List.filterMap_cons, Task.awaited?, and_self, if_true]
      rw [← inductionHypothesis]
      rfl

theorem not_opens_of_fetch {last refresh : Nat} {fetches : List (String × Row)}
    (member : task ∈ fetches.map fun fetch => Task.userListener refresh fetch.1 fetch.2 false) :
    task.opens last = false := by
  obtain ⟨fetch, _, rfl⟩ := List.mem_map.mp member
  rfl

/-- A clean answer at which the process traps is not a first snapshot. -/
theorem not_awaited_of_faulty (clean : CleanAnswer controller state task answer)
    (faulty : Faulty controller task answer) : task.awaited? state.refreshes = none := by
  cases task with
  | userListener refresh uid row fired =>
      cases answer with
      | snapshot data =>
          cases data with
          | none => exact faulty.elim
          | some data =>
              have decoded := clean.2.2
              rw [show transformUser data = none from faulty] at decoded
              simp at decoded
      | _ => exact faulty.elim
  | _ => rfl

/-- The look-ups of an answered query await exactly its documents. -/
theorem balanced_postsLoaded {key : String} {documents : List Fields}
    {fetches : List (String × Row)}
    (balanced : Balanced controller state (.getDocuments state.refreshes key :: rest))
    (complete : controller.Complete (documents.map controller.transform))
    (ended : controller.fetches (documents.map controller.transform) = some fetches)
    (numbered : ∀ other ∈ rest ++ fetches.map
        fun fetch => .userListener state.refreshes fetch.1 fetch.2 false,
      other.number ≤ state.refreshes) :
    Balanced controller { state with queried := some documents }
      (rest ++ fetches.map fun fetch => .userListener state.refreshes fetch.1 fetch.2 false) := by
  have opens : (Task.getDocuments state.refreshes key : Task Row).opens state.refreshes = true :=
    beq_self_eq_true _
  have rows : expected controller { state with queried := some documents } =
      documents.map controller.transform := expected_of_complete rfl complete
  refine .of_balance numbered (balanced.balance.loaded opens ?_ ?_) ?_
  · rw [List.countP_eq_zero]
    intro other member
    simp [not_opens_of_fetch member]
  · obtain ⟨all, endedAll, allRows⟩ := Controller.fetches_of_complete complete
    obtain rfl : fetches = all := Option.some.inj (ended.symm.trans endedAll)
    have awaits := awaited_fetches state.refreshes fetches
    rw [allRows] at awaits
    rw [rows]
    exact List.Perm.of_eq awaits
  · -- The query was the one request that opened the load.
    have closed := (balanced.balance.opened opens).1
    rw [List.countP_eq_zero] at closed
    intro other member opened
    rcases List.mem_append.mp member with old | fresh
    · exact absurd opened (closed other old)
    · simp [not_opens_of_fetch fresh] at opened

/-- The first snapshot of a current look-up turns an awaited row into a shown one. -/
theorem balanced_userFetched {uid : String} {row : Row} {user : User}
    (balanced : Balanced controller state
      (.userListener state.refreshes uid row false :: rest))
    (numbered : ∀ other ∈ rest ++ [.userListener state.refreshes uid row true],
      other.number ≤ state.refreshes) :
    Balanced controller (append state user row)
      (rest ++ [.userListener state.refreshes uid row true]) := by
  refine .of_balance numbered (balanced.balance.delivered ?_ ?_) ?_
  · simp [Task.awaited?]
  · intro other member
    rw [List.mem_singleton.mp member]
    exact ⟨rfl, by simp [Task.awaited?]⟩
  · intro other member opens
    rcases List.mem_append.mp member with old | fresh
    · exact balanced.unanswered (List.mem_cons_of_mem _ old) opens
    · rw [List.mem_singleton.mp fresh] at opens
      simp [Task.opens] at opens

/-- A clean answer keeps the balance of shown and awaited rows. -/
theorem balanced_of_answered (answered : Answered controller state task answer next new)
    (clean : CleanAnswer controller state task answer)
    (balanced : Balanced controller state (task :: rest)) :
    Balanced controller next (rest ++ new) := by
  have numbered := numbered_next balanced.numbered answered
  cases answered with
  | failed =>
      by_cases opens : task.opens state.refreshes = true
      · exact balanced.of_unanswered numbered rfl rfl rfl opens
      · refine balanced.of_idle numbered rfl rfl rfl ⟨by simpa using opens, ?_⟩ (by simp)
        cases task with
        | userListener refresh uid row fired => exact if_neg clean
        | _ => rfl
  | @currentUserMissing refresh =>
      by_cases current : refresh = state.refreshes
      · exact balanced.of_unanswered numbered rfl rfl rfl (by simpa [Task.opens] using current)
      · exact balanced.of_idle numbered rfl rfl rfl (idle_of_older current) (by simp)
  | trapped faulty =>
      by_cases opens : task.opens state.refreshes = true
      · exact balanced.of_unanswered numbered rfl rfl rfl opens
      · exact balanced.of_idle numbered rfl rfl rfl
          ⟨by simpa using opens, not_awaited_of_faulty clean faulty⟩ (by simp)
  | @currentUserRead refresh data key decoded =>
      by_cases current : refresh = state.refreshes
      · have opens : (Task.observeCurrentUser refresh : Task Row).opens state.refreshes = true := by
          simpa [Task.opens] using current
        have unanswered := balanced.unanswered List.mem_cons_self opens
        exact .of_balance numbered (balanced.balance.reopened opens opens rfl)
          fun _ _ _ => unanswered
      · refine balanced.of_idle numbered rfl rfl rfl (idle_of_older current) ?_
        intro other member
        rw [List.mem_singleton.mp member]
        exact idle_of_older current
  | @postsLoaded refresh key documents fetches queried ended =>
      by_cases current : refresh = state.refreshes
      · subst current
        rw [if_pos rfl]
        exact balanced_postsLoaded balanced (clean rfl) ended numbered
      · rw [if_neg current]
        refine balanced.of_idle numbered rfl rfl rfl (idle_of_older current) ?_
        intro other member
        obtain ⟨fetch, _, rfl⟩ := List.mem_map.mp member
        exact idle_of_older current
  | @userMissing refresh uid row fired =>
      have idle : ∀ again, ¬ (refresh = state.refreshes ∧ again = false) →
          Idle state.refreshes (.userListener refresh uid row again) :=
        fun again old => ⟨rfl, if_neg old⟩
      refine balanced.of_idle numbered rfl rfl rfl (idle fired clean) ?_
      intro other member
      rw [List.mem_singleton.mp member]
      exact idle true (by simp)
  | userFetched decoded =>
      obtain ⟨rfl, rfl, _⟩ := clean
      exact balanced_userFetched balanced numbered

end Answers

/-! ## Whole runs -/

/-- What is pending goes back to a refresh that has happened. -/
def Numbered (config : Config (State Row) (Task Row)) : Prop :=
  ∀ task ∈ config.pool.tasks, task.number ≤ config.state.refreshes

theorem numbered_step {controller : Controller Row} {config next : Config (State Row) (Task Row)}
    {label : Label Event Answer} (numbered : Numbered config)
    (taken : (program controller).step config label = some next) : Numbered next := by
  obtain ⟨_, state, tasks⟩ | ⟨ticket, answer, task, new, rfl, found, answered, tasks⟩ :=
    step_answered taken
  · intro other member
    rw [tasks] at member
    rw [state]
    exact (balanced_refresh controller numbered).numbered other member
  · intro other member
    rw [tasks] at member
    refine numbered_next (fun earlier waits => numbered earlier ?_) answered other member
    exact (Pool.tasks_perm_of_find? found).mem_iff.mpr waits

theorem balanced_step {controller : Controller Row} {config next : Config (State Row) (Task Row)}
    {label : Label Event Answer}
    (balanced : Balanced controller config.state config.pool.tasks)
    (clean : Clean controller config label)
    (taken : (program controller).step config label = some next) :
    Balanced controller next.state next.pool.tasks := by
  obtain ⟨_, state, tasks⟩ | ⟨ticket, answer, task, new, rfl, found, answered, tasks⟩ :=
    step_answered taken
  · rw [state, tasks]
    exact balanced_refresh controller balanced.numbered
  · rw [tasks]
    exact balanced_of_answered answered (clean task found)
      (balanced.of_perm (Pool.tasks_perm_of_find? found))

/-- After any history of refreshes, stale answers and repeated snapshots, a refresh
followed by clean answers (and further refreshes) shows in every quiet state
exactly the documents of the last query, each once. -/
theorem exact_of_clean_run {controller : Controller Row}
    (before : List (Label Event Answer)) {after : List (Label Event Answer)}
    {reached refreshed last : Config (State Row) (Task Row)}
    (history : (program controller).run (Program.start (State.empty Row)) before = some reached)
    (taken : (program controller).step reached (.event .refresh) = some refreshed)
    (clean : (program controller).Obeys (Clean controller) refreshed after)
    (ran : (program controller).run refreshed after = some last) : Exact controller last := by
  have numbered : Numbered reached := by
    refine Program.run_invariant Numbered (fun held _ taken => numbered_step held taken) ?_
      Program.obeys_true history
    intro task member
    simp [Program.start] at member
  have balanced : Balanced controller refreshed.state refreshed.pool.tasks := by
    obtain ⟨_, state, tasks⟩ | ⟨_, _, _, _, other, _⟩ := step_answered taken
    · rw [state, tasks]
      exact balanced_refresh controller numbered
    · simp at other
  have balancedLast : Balanced controller last.state last.pool.tasks :=
    Program.run_invariant (fun config => Balanced controller config.state config.pool.tasks)
      (fun held allowed taken => balanced_step held allowed taken) balanced clean ran
  exact balancedLast.exact

/-! ## A profile edit duplicates a row -/

/-- The Users document of an author who has chosen the family "abc". -/
def authorData : Fields :=
  Fields.ofList [("uid", .string "uidA"), ("dob", .string "Unknow"), ("familyId", .string "abc")]

/-- The same document after the author has changed the birthday. -/
def editedData : Fields := authorData.merge [("dob", .string "2000-01-01")]

/-- A post of the family, or a comment on the post "abc". -/
def rowData (timestamp : Int) : Fields :=
  Fields.ofList [("userId", .string "uidA"), ("uid", .string "uidA"), ("familyId", .string "abc"),
    ("postId", .string "abc"), ("timestamp", .int timestamp)]

/-- A refresh that is answered completely: the current user, one document, its
author. -/
def oneRow : List (Label Event Answer) := [
  .answer 0 (.snapshot (some authorData)), .answer 1 (.documents [rowData 1]),
  .answer 2 (.snapshot (some authorData))]

/-- Nothing is outstanding after `oneRow`, and the edit of the author's profile
fires the listener again: both controllers show the one document twice. -/
theorem profile_edit_duplicates :
    (∃ last, (program TimelineViewController).run (Program.start (State.empty Post))
        (.event .refresh :: oneRow ++ [.answer 3 (.snapshot (some editedData))]) = some last ∧
      ¬ Exact TimelineViewController last) ∧
    ∃ last, (program (CommentViewController "abc")).run (Program.start (State.empty Comment))
        (.event .refresh :: oneRow ++ [.answer 3 (.snapshot (some editedData))]) = some last ∧
      ¬ Exact (CommentViewController "abc") last :=
  ⟨Program.exists_run (by decide), Program.exists_run (by decide)⟩

/-- Without the edit the two refreshed screens are exact, and quiet. -/
theorem one_row_exact :
    (∃ last : Config (State Post) (Task Post), Quiet last ∧ last.state.rows.length = 1 ∧
      Exact TimelineViewController last) ∧
    ∃ last : Config (State Comment) (Task Comment), Quiet last ∧ last.state.rows.length = 1 ∧
      Exact (CommentViewController "abc") last := by
  constructor
  · obtain ⟨refreshed, taken, clean, last, ran, quiet, one⟩ : ∃ refreshed,
        (program TimelineViewController).step (Program.start (State.empty Post))
          (.event .refresh) = some refreshed ∧
        (program TimelineViewController).Obeys (Clean TimelineViewController) refreshed oneRow ∧
        ∃ last, (program TimelineViewController).run refreshed oneRow = some last ∧ Quiet last ∧
          last.state.rows.length = 1 :=
      ⟨_, rfl, by decide, Program.exists_run (by decide)⟩
    exact ⟨last, quiet, one, exact_of_clean_run [] rfl taken clean ran⟩
  · obtain ⟨refreshed, taken, clean, last, ran, quiet, one⟩ : ∃ refreshed,
        (program (CommentViewController "abc")).step (Program.start (State.empty Comment))
          (.event .refresh) = some refreshed ∧
        (program (CommentViewController "abc")).Obeys (Clean (CommentViewController "abc"))
          refreshed oneRow ∧
        ∃ last, (program (CommentViewController "abc")).run refreshed oneRow = some last ∧
          Quiet last ∧ last.state.rows.length = 1 :=
      ⟨_, rfl, by decide, Program.exists_run (by decide)⟩
    exact ⟨last, quiet, one, exact_of_clean_run [] rfl taken clean ran⟩

end Familog.Feed
