import Familog.Feed.Alignment
import Familog.Users.Schema

/-!
Contract: what a feed shows that is answered from a store in order.

Owns the controller whose requests are answered by what a store returns, and the theorem
that it never traps and shows nothing but genuine rows, each beside its author, as long as
the user documents have the schema, the query is one that may be asked, and everything a
query returns is genuine and has an author who can be looked up.

Does not own what is genuine, nor the store.
-/

set_option autoImplicit false

namespace Familog.Feed

open Async Firestore

variable {Row Reply : Type}

/-- The controller, where a request is answered by what is read from a store. -/
def reading (controller : Controller Row) (read : Task Row → Reply → Option Answer) :
    Program (State Row) Event (Task Row) Reply where
  handle := (program controller).handle
  resume state task reply := (read task reply).bind ((program controller).resume state task)

section Definitions

variable (controller : Controller Row) (mayAsk : String → Prop) (genuine : Row → Prop)

/-- The answer is one of a store in order. -/
def Supplies : Task Row → Answer → Prop
  | .observeCurrentUser _, .snapshot (some data) => Users.Schema data ∧
      ∀ user, transformUser data = some user → ∃ key ∈ controller.key? user, mayAsk key
  | .getDocuments _ key, .documents documents => mayAsk key → ∀ data ∈ documents,
      genuine (controller.transform data) ∧
        ∃ uid ∈ controller.author? (controller.transform data), (document? uid).isSome
  | .userListener _ uid _ _, .snapshot (some data) =>
      Users.Schema data ∧ data.string? "uid" = some uid
  | _, _ => True

/-- A pending query may be asked, and a pending look-up is one for the author of a genuine
row. -/
def Awaits : Task Row → Prop
  | .observeCurrentUser _ => True
  | .getDocuments _ key => mayAsk key
  | .userListener _ uid row _ => genuine row ∧ controller.author? row = some uid

/-- The feed is running, and shows genuine rows only, each beside its author. -/
structure Shows (config : Config (State Row) (Task Row)) : Prop where
  running : config.state.trapped = false
  aligned : Aligned controller config.state
  rows : ∀ row ∈ config.state.rows, genuine row
  users : ∀ user ∈ config.state.users, Users.Decoded user
  waiting : ∀ task ∈ config.pool.tasks, Awaits controller mayAsk genuine task

end Definitions

section Steps

variable {controller : Controller Row} {mayAsk : String → Prop} {genuine : Row → Prop}
  {state next : State Row} {task : Task Row} {answer : Answer} {new : List (Task Row)}
  {config after : Config (State Row) (Task Row)}

/-- The loop reaches its end at what a store in order returns to a query. -/
theorem complete_of_supplies {refresh : Nat} {key : String} {documents : List Fields}
    (supplies : Supplies controller mayAsk genuine (.getDocuments refresh key)
      (.documents documents)) (may : mayAsk key) :
    controller.Complete (documents.map controller.transform) :=
  List.forall_mem_map.mpr fun data member => (supplies may data member).2

/-- No answer of a store in order is faulty. -/
theorem not_faulty (supplies : Supplies controller mayAsk genuine task answer)
    (awaits : Awaits controller mayAsk genuine task) : ¬ Faulty controller task answer := by
  unfold Faulty
  split
  · next data =>
      obtain ⟨schema, keyed⟩ := supplies
      obtain ⟨user, decoded, _⟩ := schema.decoded
      obtain ⟨key, isKey, _⟩ := keyed user decoded
      rw [decoded, Option.bind_some, isKey]
      simp
  · next documents =>
      obtain ⟨fetches, ended, _⟩ :=
        Controller.fetches_of_complete (complete_of_supplies supplies awaits)
      simp [ended]
  · next data =>
      obtain ⟨user, decoded, _⟩ := supplies.1.decoded
      simp [decoded]
  · exact not_false

/-- What is issued can be awaited. -/
theorem awaits_of_answered (answered : Answered controller state task answer next new)
    (supplies : Supplies controller mayAsk genuine task answer)
    (awaits : Awaits controller mayAsk genuine task) :
    ∀ other ∈ new, Awaits controller mayAsk genuine other := by
  cases answered with
  | @currentUserRead refresh data key isKey =>
      obtain ⟨user, decoded, found⟩ := Option.bind_eq_some_iff.mp isKey
      obtain ⟨other, isOther, may⟩ := supplies.2 user decoded
      obtain rfl := Option.some.inj (found.symm.trans isOther)
      exact List.forall_mem_singleton.mpr may
  | @postsLoaded refresh key documents fetches queried ended =>
      refine List.forall_mem_map.mpr fun fetch inFetches => ?_
      obtain ⟨inRows, author⟩ := Controller.mem_of_fetches ended fetch inFetches
      obtain ⟨data, member, isRow⟩ := List.mem_map.mp inRows
      exact ⟨isRow ▸ (supplies awaits data member).1, author⟩
  | userMissing | userFetched _ => exact List.forall_mem_singleton.mpr awaits
  | _ => simp

/-- An answer of a store in order adds nothing but a genuine row. -/
theorem shown_of_answered (answered : Answered controller state task answer next new)
    (supplies : Supplies controller mayAsk genuine task answer)
    (awaits : Awaits controller mayAsk genuine task)
    (rows : ∀ row ∈ state.rows, genuine row) (users : ∀ user ∈ state.users, Users.Decoded user) :
    (∀ row ∈ next.rows, genuine row) ∧ ∀ user ∈ next.users, Users.Decoded user := by
  cases answered with
  | @userFetched refresh uid row fired data user decoded =>
      obtain ⟨other, isOther, complete⟩ := supplies.1.decoded
      obtain rfl := Option.some.inj (decoded.symm.trans isOther)
      exact ⟨List.forall_mem_append.mpr ⟨rows, List.forall_mem_singleton.mpr awaits.1⟩,
        List.forall_mem_append.mpr ⟨users, List.forall_mem_singleton.mpr complete⟩⟩
  | _ => exact ⟨rows, users⟩

theorem shows_empty : Shows controller mayAsk genuine (Program.start (State.empty Row)) where
  running := rfl
  aligned := aligned_empty controller _ rfl rfl
  rows := by simp [Program.start, State.empty]
  users := by simp [Program.start, State.empty]
  waiting := by simp [Program.start]

/-- Every step keeps what a feed shows genuine. -/
theorem Shows.step {read : Task Row → Reply → Option Answer} {label : Label Event Reply}
    (shows : Shows controller mayAsk genuine config)
    (supplies : ∀ task reply answer, read task reply = some answer →
      Supplies controller mayAsk genuine task answer)
    (taken : (reading controller read).step config label = some after) :
    Shows controller mayAsk genuine after := by
  rcases Program.step_cases taken with
    ⟨event, new, rfl, handled, tasks⟩ | ⟨ticket, reply, task, new, rfl, found, resumed, tasks⟩
  · change (program controller).handle config.state event = some (after.state, new) at handled
    obtain ⟨running, state, rfl⟩ := handle_refresh handled
    refine ⟨?_, aligned_empty controller _ ?_ ?_, ?_, ?_, ?_⟩
    · rw [state]
      exact running
    · rw [state]; rfl
    · rw [state]; rfl
    · simp [state, refresh]
    · simp [state, refresh]
    · rw [tasks]
      exact List.forall_mem_append.mpr ⟨shows.waiting, by simp [refresh, Awaits]⟩
  · obtain ⟨answer, isAnswer, acted⟩ := Option.bind_eq_some_iff.mp resumed
    obtain ⟨running, answered⟩ := answered_of_resume acted
    have supplied := supplies task reply answer isAnswer
    have awaits := shows.waiting task (Pool.mem_tasks_of_find? found)
    have carries : CarriesAuthor controller task := by
      cases task with
      | userListener refresh uid row fired => exact awaits.2
      | _ => trivial
    have kept := shown_of_answered answered supplied awaits shows.rows shows.users
    refine ⟨?_, aligned_of_answered answered shows.aligned carries ?_, kept.1, kept.2, ?_⟩
    · generalize after.state = next at answered
      cases answered with
      | trapped faulty => exact absurd faulty (not_faulty supplied awaits)
      | _ => exact running
    · rintro refresh uid row fired data rfl rfl
      exact supplied.2
    · rw [tasks]
      exact List.forall_mem_append.mpr ⟨fun other waiting =>
        shows.waiting other (Pool.mem_tasks_of_mem_remove waiting),
        awaits_of_answered answered supplied awaits⟩

end Steps

end Familog.Feed
