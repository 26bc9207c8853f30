import Familog.Async.Program
import Familog.Records

/-!
Contract: `TimelineViewController` and `CommentViewController` as programs.

The two controllers load their rows in the same way: `refresh` empties the two
arrays and reads the current user, `loadPosts` runs one ordered query, and for
each document `fetchUser` registers a snapshot listener on its author that
appends the author and the document. A listener is never removed and `refresh`
cancels nothing.

Owns that program with the differences of the two controllers as parameters: the
field and the direction of the query, where its key comes from, the decoder, and
what happens at a document without an author. An author id that is no document
path ends the process in the middle of the loop: `document(uid)` throws.

Does not own the cells, nor the writes of `sendComment`, which ends in a
`refresh`.
-/

set_option autoImplicit false

namespace Familog.Feed

open Async Firestore

/-- What `loadPosts` does at a document without an author: the guard of the
timeline returns, the `!` of the comments traps. -/
inductive AtMissingAuthor where
  | returns
  | traps
deriving DecidableEq

/-- What distinguishes the two controllers. -/
structure Controller (Row : Type) where
  field : String
  descending : Bool
  key? : User → Option String
  transform : Fields → Row
  author? : Row → Option String
  timestamp? : Row → Option Int
  atMissingAuthor : AtMissingAuthor

/-- `load` passes on `currentUser.familyId!`; `observePostsByFamily` filters by
`familyId` and orders by `timestamp`, descending. -/
def TimelineViewController : Controller Post where
  field := "familyId"
  descending := true
  key? := User.familyId
  transform := transformPostPhoto
  author? := Post.userId
  timestamp? := Post.timestamp
  atMissingAuthor := .returns

/-- `load` passes on `self.postId`; the query filters by `postId` and orders by
`timestamp`, ascending. -/
def CommentViewController (postId : String) : Controller Comment where
  field := "postId"
  descending := false
  key? := fun _ => some postId
  transform := transformComment
  author? := Comment.uid
  timestamp? := Comment.timestamp
  atMissingAuthor := .traps

/-- The two arrays, and the number of rows the table view read at its last
`reloadData`. The other fields are not stored by the source: whether the process
has trapped, whether the arrays were emptied since the last `reloadData`, the
number of calls of `refresh`, and the answer to the query of the last one. -/
structure State (Row : Type) where
  rows : List Row
  users : List User
  reloaded : Nat
  emptied : Bool
  trapped : Bool
  refreshes : Nat
  queried : Option (List Fields)

/-- Pending requests, each with the number of the `refresh` it goes back to. A
listener stays pending after it has fired. -/
inductive Task (Row : Type) where
  | observeCurrentUser (refresh : Nat)
  | getDocuments (refresh : Nat) (key : String)
  | userListener (refresh : Nat) (uid : String) (row : Row) (fired : Bool)

/-- The one event: `viewDidAppear`, the refresh control and `sendComment` all end
in it. -/
inductive Event where
  | refresh

/-- An error, the snapshot of a document, or the documents of a query. -/
inductive Answer where
  | failed
  | snapshot (data : Option Fields)
  | documents (documents : List Fields)

namespace Controller

variable {Row : Type} (controller : Controller Row)

/-- The left row may stand before the right one in the order of the query. -/
def InOrder (left right : Row) : Prop :=
  ∀ first ∈ controller.timestamp? left, ∀ second ∈ controller.timestamp? right,
    if controller.descending then second ≤ first else first ≤ second

instance (left right : Row) : Decidable (controller.InOrder left right) :=
  inferInstanceAs (Decidable (∀ first ∈ _, ∀ second ∈ _, _))

/-- The documents can be the answer to the query: they have the key in the field
and a timestamp, and stand in the order of their timestamps. -/
def Queried (key : String) (documents : List Fields) : Prop :=
  (∀ data ∈ documents, data.string? controller.field = some key ∧
    (data "timestamp").isSome) ∧
    documents.Pairwise fun left right =>
      controller.InOrder (controller.transform left) (controller.transform right)

instance (key : String) (documents : List Fields) :
    Decidable (controller.Queried key documents) :=
  inferInstanceAs (Decidable (_ ∧ _))

/-- The loop of `loadPosts`: the look-ups it starts, each of an author with the row, up to
the first row without an author; `none` where it traps there, or where `document(uid)` in
`observeUser(withId:)` throws. -/
def fetches : List Row → Option (List (String × Row))
  | [] => some []
  | row :: rest =>
      match controller.author? row with
      | none => if controller.atMissingAuthor = .traps then none else some []
      | some uid =>
          (document? uid).bind fun _ => (fetches rest).map fun later => (uid, row) :: later

/-- The loop of `loadPosts` reaches its end. -/
def Complete (rows : List Row) : Prop :=
  ∀ row ∈ rows, ∃ uid ∈ controller.author? row, (document? uid).isSome

instance (rows : List Row) : Decidable (controller.Complete rows) :=
  inferInstanceAs (Decidable (∀ row ∈ rows, ∃ uid ∈ _, _))

variable {controller}

/-- What the loop has started when it ends, by its first row. -/
theorem fetches_cons {row : Row} {rest : List Row} {fetches : List (String × Row)}
    (ended : controller.fetches (row :: rest) = some fetches) :
    (controller.author? row = none ∧ fetches = []) ∨
      ∃ uid later, controller.author? row = some uid ∧ (document? uid).isSome ∧
        controller.fetches rest = some later ∧ fetches = (uid, row) :: later := by
  unfold Controller.fetches at ended
  cases author : controller.author? row with
  | none =>
      simp only [author] at ended
      split_ifs at ended
      exact Or.inl ⟨rfl, (Option.some.inj ended).symm⟩
  | some uid =>
      simp only [author] at ended
      obtain ⟨path, named, mapped⟩ := Option.bind_eq_some_iff.mp ended
      obtain ⟨later, endedLater, rfl⟩ := Option.map_eq_some_iff.mp mapped
      exact Or.inr ⟨uid, later, rfl, by simp [named], endedLater, rfl⟩

/-- Each look-up that the loop starts is for the author of one of the rows. -/
theorem mem_of_fetches {rows : List Row} {fetches : List (String × Row)}
    (ended : controller.fetches rows = some fetches) :
    ∀ fetch ∈ fetches, fetch.2 ∈ rows ∧ controller.author? fetch.2 = some fetch.1 := by
  induction rows generalizing fetches with
  | nil =>
      obtain rfl := Option.some.inj ended
      simp
  | cons row rest inductionHypothesis =>
      rcases fetches_cons ended with ⟨_, rfl⟩ | ⟨uid, later, author, _, endedLater, rfl⟩
      · simp
      · refine List.forall_mem_cons.mpr ⟨⟨List.mem_cons_self, author⟩, fun fetch member => ?_⟩
        obtain ⟨inRest, isAuthor⟩ := inductionHypothesis endedLater fetch member
        exact ⟨List.mem_cons_of_mem _ inRest, isAuthor⟩

/-- A loop that reaches its end looks up the author of every row. -/
theorem fetches_of_complete {rows : List Row} (complete : controller.Complete rows) :
    ∃ fetches, controller.fetches rows = some fetches ∧ fetches.map Prod.snd = rows := by
  induction rows with
  | nil => exact ⟨[], rfl, rfl⟩
  | cons row rest inductionHypothesis =>
      obtain ⟨uid, author, named⟩ := complete row List.mem_cons_self
      obtain ⟨path, isPath⟩ := Option.isSome_iff_exists.mp named
      obtain ⟨later, ended, all⟩ := inductionHypothesis fun other member =>
        complete other (List.mem_cons_of_mem _ member)
      refine ⟨(uid, row) :: later, ?_, by simp [all]⟩
      simp [Controller.fetches, Option.mem_def.mp author, isPath, ended]

end Controller

/-- Before `viewDidLoad`. -/
def State.empty (Row : Type) : State Row where
  rows := []
  users := []
  reloaded := 0
  emptied := false
  trapped := false
  refreshes := 0
  queried := none

section Program

variable {Row : Type} (controller : Controller Row)

/-- `refresh`. -/
def refresh (state : State Row) : State Row × List (Task Row) :=
  ({ state with
      rows := []
      users := []
      emptied := true
      refreshes := state.refreshes + 1
      queried := none },
    [.observeCurrentUser (state.refreshes + 1)])

/-- The process ends at a failed cast or unwrap. -/
def State.trap (state : State Row) : State Row × List (Task Row) :=
  ({ state with trapped := true }, [])

/-- The callback of the query. -/
def loadPosts (state : State Row) (refresh : Nat) (documents : List Fields) :
    State Row × List (Task Row) :=
  match controller.fetches (documents.map controller.transform) with
  | none => state.trap
  | some fetches =>
      ({ state with
          queried := if refresh = state.refreshes then some documents else state.queried },
        fetches.map fun fetch => .userListener refresh fetch.1 fetch.2 false)

/-- The callback of `fetchUser` with a decoded user: append to both arrays, and
`reloadData`. -/
def append (state : State Row) (user : User) (row : Row) : State Row :=
  { state with
    rows := state.rows ++ [row]
    users := state.users ++ [user]
    reloaded := state.rows.length + 1
    emptied := false }

/-- Run the callback of one answer. -/
def resume (state : State Row) : Task Row → Answer → Option (State Row × List (Task Row))
  | .observeCurrentUser _, .failed => some (state, [])
  | .observeCurrentUser refresh, .snapshot data =>
      match data with
      | none => some (state, [])
      | some data =>
          match (transformUser data).bind controller.key? with
          | none => some state.trap
          | some key => some (state, [.getDocuments refresh key])
  | .getDocuments _ _, .failed => some (state, [])
  | .getDocuments refresh key, .documents documents =>
      if controller.Queried key documents then
        some (loadPosts controller state refresh documents)
      else none
  | .userListener _ _ _ _, .failed => some (state, [])
  | .userListener refresh uid row _, .snapshot data =>
      match data with
      | none => some (state, [.userListener refresh uid row true])
      | some data =>
          match transformUser data with
          | none => some state.trap
          | some user => some (append state user row, [.userListener refresh uid row true])
  | _, _ => none

/-- The controller as a program; after a trap nothing happens. -/
def program : Program (State Row) Event (Task Row) Answer where
  handle state _ := if state.trapped then none else some (refresh state)
  resume state task answer := if state.trapped then none else resume controller state task answer

end Program

/-! ## What an answer can do -/

section Answered

variable {Row : Type} (controller : Controller Row)

/-- The answers at which a cast or an unwrap fails, or `document` throws. -/
def Faulty : Task Row → Answer → Prop
  | .observeCurrentUser _, .snapshot (some data) =>
      (transformUser data).bind controller.key? = none
  | .getDocuments _ _, .documents documents =>
      controller.fetches (documents.map controller.transform) = none
  | .userListener _ _ _ _, .snapshot (some data) => transformUser data = none
  | _, _ => False

/-- Everything an answered request can do. -/
inductive Answered (state : State Row) :
    Task Row → Answer → State Row → List (Task Row) → Prop where
  | failed {task} : Answered state task .failed state []
  | currentUserMissing {refresh} :
      Answered state (.observeCurrentUser refresh) (.snapshot none) state []
  | trapped {task answer} : Faulty controller task answer →
      Answered state task answer { state with trapped := true } []
  | currentUserRead {refresh data key} : (transformUser data).bind controller.key? = some key →
      Answered state (.observeCurrentUser refresh) (.snapshot (some data)) state
        [.getDocuments refresh key]
  | postsLoaded {refresh key documents fetches} : controller.Queried key documents →
      controller.fetches (documents.map controller.transform) = some fetches →
      Answered state (.getDocuments refresh key) (.documents documents)
        { state with
          queried := if refresh = state.refreshes then some documents else state.queried }
        (fetches.map fun fetch => .userListener refresh fetch.1 fetch.2 false)
  | userMissing {refresh uid row fired} :
      Answered state (.userListener refresh uid row fired) (.snapshot none) state
        [.userListener refresh uid row true]
  | userFetched {refresh uid row fired data user} : transformUser data = some user →
      Answered state (.userListener refresh uid row fired) (.snapshot (some data))
        (append state user row) [.userListener refresh uid row true]

variable {controller}

theorem resume_answered {state next : State Row} {task : Task Row} {answer : Answer}
    {new : List (Task Row)} (resumed : resume controller state task answer = some (next, new)) :
    Answered controller state task answer next new := by
  cases task with
  | observeCurrentUser refresh =>
      cases answer with
      | failed =>
          obtain ⟨rfl, rfl⟩ := Prod.mk.inj (Option.some.inj resumed)
          exact .failed
      | snapshot data =>
          cases data with
          | none =>
              obtain ⟨rfl, rfl⟩ := Prod.mk.inj (Option.some.inj resumed)
              exact .currentUserMissing
          | some data =>
              simp only [resume] at resumed
              cases key : (transformUser data).bind controller.key? with
              | none =>
                  simp only [key, State.trap] at resumed
                  obtain ⟨rfl, rfl⟩ := Prod.mk.inj (Option.some.inj resumed)
                  exact .trapped key
              | some found =>
                  simp only [key] at resumed
                  obtain ⟨rfl, rfl⟩ := Prod.mk.inj (Option.some.inj resumed)
                  exact .currentUserRead key
      | documents documents => simp [resume] at resumed
  | getDocuments refresh key =>
      cases answer with
      | failed =>
          obtain ⟨rfl, rfl⟩ := Prod.mk.inj (Option.some.inj resumed)
          exact .failed
      | snapshot data => simp [resume] at resumed
      | documents documents =>
          simp only [resume, loadPosts] at resumed
          split at resumed
          · next queried =>
              cases ended : controller.fetches (documents.map controller.transform) with
              | none =>
                  simp only [ended, State.trap] at resumed
                  obtain ⟨rfl, rfl⟩ := Prod.mk.inj (Option.some.inj resumed)
                  exact .trapped ended
              | some fetches =>
                  simp only [ended] at resumed
                  obtain ⟨rfl, rfl⟩ := Prod.mk.inj (Option.some.inj resumed)
                  exact .postsLoaded queried ended
          · simp at resumed
  | userListener refresh uid row fired =>
      cases answer with
      | failed =>
          obtain ⟨rfl, rfl⟩ := Prod.mk.inj (Option.some.inj resumed)
          exact .failed
      | snapshot data =>
          cases data with
          | none =>
              obtain ⟨rfl, rfl⟩ := Prod.mk.inj (Option.some.inj resumed)
              exact .userMissing
          | some data =>
              simp only [resume] at resumed
              cases decoded : transformUser data with
              | none =>
                  simp only [decoded, State.trap] at resumed
                  obtain ⟨rfl, rfl⟩ := Prod.mk.inj (Option.some.inj resumed)
                  exact .trapped decoded
              | some user =>
                  simp only [decoded] at resumed
                  obtain ⟨rfl, rfl⟩ := Prod.mk.inj (Option.some.inj resumed)
                  exact .userFetched decoded
      | documents documents => simp [resume] at resumed

theorem handle_refresh {state next : State Row} {event : Event} {new : List (Task Row)}
    (handled : (program controller).handle state event = some (next, new)) :
    state.trapped = false ∧ next = (refresh state).1 ∧ new = (refresh state).2 := by
  simp only [program] at handled
  split_ifs at handled with trapped
  obtain ⟨rfl, rfl⟩ := Prod.ext_iff.mp (Option.some.inj handled)
  exact ⟨by simpa using trapped, rfl, rfl⟩

theorem answered_of_resume {state next : State Row} {task : Task Row} {answer : Answer}
    {new : List (Task Row)}
    (resumed : (program controller).resume state task answer = some (next, new)) :
    state.trapped = false ∧ Answered controller state task answer next new := by
  simp only [program] at resumed
  split_ifs at resumed with trapped
  exact ⟨by simpa using trapped, resume_answered resumed⟩

/-- A step of the program is a refresh or an answer. -/
theorem step_answered {config next : Config (State Row) (Task Row)}
    {label : Label Event Answer} (taken : (program controller).step config label = some next) :
    (label = .event .refresh ∧ next.state = (refresh config.state).1 ∧
        next.pool.tasks = config.pool.tasks ++ (refresh config.state).2) ∨
      ∃ ticket answer task new, label = .answer ticket answer ∧
        config.pool.find? ticket = some task ∧
        Answered controller config.state task answer next.state new ∧
        next.pool.tasks = (config.pool.remove ticket).tasks ++ new := by
  rcases Program.step_cases taken with
    ⟨event, new, rfl, handled, tasks⟩ | ⟨ticket, answer, task, new, rfl, found, resumed, tasks⟩
  · obtain ⟨_, state, rfl⟩ := handle_refresh handled
    exact Or.inl ⟨rfl, state, tasks⟩
  · obtain ⟨_, answered⟩ := answered_of_resume resumed
    exact Or.inr ⟨ticket, answer, task, new, rfl, found, answered, tasks⟩

end Answered

end Familog.Feed
