import Familog.App
import Familog.Async.Parallel
import Familog.MainPage.Comments

/-!
Contract: the app together with the comment and the detail screens.

Owns the program of these screens, for any number of sessions over the posts of the
app, and its composition with the program of the app. A session comes to know a post by
reading its document or by being given it in a timeline; from then on it can open the comments
of the post, and delete the post if it has read it as its own, also after the post has gone.

Does not own how the rows of these screens are loaded.
-/

set_option autoImplicit false

namespace Familog.App.Discussion

open Async Firestore Swift MainPage

/-- The Comment documents, the Post documents each session has read, and the comment screen
each session has open. Which posts have been deleted is not stored by the source. -/
structure Board where
  comments : Collection String
  read : List (Session × Fields)
  screens : Session → Option Comments.Screen
  deleted : List String

/-- A pending write of a comment, or a pending deletion of a post. -/
inductive Task where
  | comment (task : Comments.Task)
  | deletePost (postId : String)

inductive Event where
  | observePost (session : Session) (postId : String)
  | goToCommentVC (session : Session) (postId : String)
  | comment (session : Session) (event : Comments.Event)
  | deletePostButtonTapped (session : Session) (postId : String)

/-- The state of the app, and what the two screens work on. -/
abbrev State := AppState × Board

/-- No comment has been written and no post read. -/
def Board.empty : Board where
  comments := ∅
  read := []
  screens := fun _ => none
  deleted := []

/-- The session has read a document of the post. -/
def Board.HasRead (board : Board) (session : Session) (postId : String) : Prop :=
  ∃ entry ∈ board.read, entry.1 = session ∧ entry.2.string? "uid" = some postId

instance (board : Board) (session : Session) (postId : String) :
    Decidable (board.HasRead session postId) :=
  inferInstanceAs (Decidable (∃ entry ∈ board.read, _))

/-- The detail page or a row of a timeline has shown the post to the session. -/
def HasSeen (state : State) (session : Session) (postId : String) : Prop :=
  state.2.HasRead session postId ∨
    ∃ entry ∈ state.1.returned, entry.1 = session ∧ entry.2.string? "uid" = some postId

instance (state : State) (session : Session) (postId : String) :
    Decidable (HasSeen state session postId) :=
  inferInstanceAs (Decidable (_ ∨ ∃ entry ∈ state.1.returned, _))

section Program

variable (form : CanonicalForm)

/-- The session has read a document of the post that has its user as the author, so that
the detail screen shows the delete button. -/
def Board.HasOwn (board : Board) (session : Session) (postId : String) : Prop :=
  ∃ entry ∈ board.read, entry.1 = session ∧ entry.2.string? "uid" = some postId ∧
    ∃ userId ∈ entry.2.string? "userId", form.Same userId session.user.value

instance (board : Board) (session : Session) (postId : String) :
    Decidable (board.HasOwn form session postId) :=
  inferInstanceAs (Decidable (∃ entry ∈ board.read, _ ∧ _ ∧ ∃ userId ∈ _, _))

/-- The session shows this comment screen. -/
def Board.setScreen (board : Board) (session : Session) (screen : Comments.Screen) : Board :=
  { board with screens := Function.update board.screens session (some screen) }

/-- What holds of every open screen in its session holds after this one is shown. -/
theorem Board.screens_setScreen {holds : Session → Comments.Screen → Prop} {board : Board}
    {session : Session} {screen : Comments.Screen}
    (all : ∀ other, ∀ shown ∈ board.screens other, holds other shown)
    (here : holds session screen) :
    ∀ other, ∀ shown ∈ (board.setScreen session screen).screens other, holds other shown := by
  intro other shown isShown
  by_cases same : other = session
  · subst same
    simp only [Board.setScreen, Function.update_self] at isShown
    exact Option.some.inj isShown ▸ here
  · simp only [Board.setScreen, Function.update_of_ne same] at isShown
    exact all other shown isShown

/-- What holds of every open screen holds of the one that is shown now, if it does so here. -/
theorem Board.forall_setScreen {holds : Comments.Screen → Prop} {board : Board}
    {session : Session} {screen : Comments.Screen}
    (all : ∀ other, ∀ shown ∈ board.screens other, holds shown) (here : holds screen) :
    ∀ other, ∀ shown ∈ (board.setScreen session screen).screens other, holds shown :=
  Board.screens_setScreen all here

/-- An event of a session, which needs an account. -/
def handle (state : State) : Event → Option (State × List Task)
  | .observePost session postId =>
      if session.user ∈ state.1.accounts then
        (state.1.store.posts.get? postId).map fun data =>
          ((state.1, { state.2 with read := state.2.read ++ [(session, data)] }), [])
      else none
  | .goToCommentVC session postId =>
      if HasSeen state session postId then
        some ((state.1, state.2.setScreen session (.opened postId)), [])
      else none
  | .comment session event =>
      match state.2.screens session with
      | none => none
      | some screen =>
          (Comments.handle session.user screen event).map fun result =>
            ((state.1, state.2.setScreen session result.1), result.2.map .comment)
  | .deletePostButtonTapped session postId =>
      if state.2.HasOwn form session postId then some (state, [.deletePost postId]) else none

/-- The store without a post. -/
def AppState.erasePost (state : AppState) (postId : String) : AppState :=
  { state with store := { state.store with posts := state.store.posts.erase postId } }

/-- Run the callback of one answer. Ids that are made for a new comment are new. -/
def resume (state : State) : Task → Answer → Option (State × List Task)
  | .comment (.setData _ _), .failed => some (state, [])
  | .comment (.setData ref data), .succeeded =>
      match state.2.comments.get? ref with
      | some _ => none
      | none => some ((state.1, { state.2 with comments := state.2.comments.set ref data }), [])
  | .deletePost _, .failed => some (state, [])
  | .deletePost postId, .succeeded =>
      let deleted := if (state.1.store.posts.get? postId).isSome then
        postId :: state.2.deleted else state.2.deleted
      some ((AppState.erasePost state.1 postId, { state.2 with deleted := deleted }), [])
  | _, _ => none

/-- The comment and the detail screens. -/
def program : Program State Event Task Answer where
  handle := handle form
  resume := resume

/-- The app and these screens over one store. -/
def whole : Program State (App.Event ⊕ Event) (App.Task ⊕ Task) Answer :=
  ((App.program form).within Board).beside (program form)

end Program

/-- Before the first account. -/
def State.empty : State := (AppState.empty, Board.empty)

/-! ## What a callback can do -/

/-- Everything an event can do, with the requests it issues. -/
inductive Acted (form : CanonicalForm) (state : State) : Event → State → List Task → Prop where
  | postRead {session postId data} : state.1.store.posts.get? postId = some data →
      Acted form state (.observePost session postId)
        (state.1, { state.2 with read := state.2.read ++ [(session, data)] }) []
  | commentsOpened {session postId} : HasSeen state session postId →
      Acted form state (.goToCommentVC session postId)
        (state.1, state.2.setScreen session (.opened postId)) []
  | typed {session event screen after tasks} : state.2.screens session = some screen →
      Comments.handle session.user screen event = some (after, tasks) →
      Acted form state (.comment session event) (state.1, state.2.setScreen session after)
        (tasks.map .comment)
  | deleting {session postId} : state.2.HasOwn form session postId →
      Acted form state (.deletePostButtonTapped session postId) state [.deletePost postId]

/-- Everything an answered request can do; none issues another one. -/
inductive Answered (state : State) : Task → State → Prop where
  | failed {task} : Answered state task state
  | commented {ref data} : Answered state (.comment (.setData ref data))
      (state.1, { state.2 with comments := state.2.comments.set ref data })
  | deleted {postId} : Answered state (.deletePost postId)
      (AppState.erasePost state.1 postId,
        { state.2 with deleted := if (state.1.store.posts.get? postId).isSome then
            postId :: state.2.deleted else state.2.deleted })

section Callbacks

variable {form : CanonicalForm} {state next : State}

theorem handle_acted {event : Event} {new : List Task}
    (handled : handle form state event = some (next, new)) : Acted form state event next new := by
  cases event with
  | observePost session postId =>
      simp only [handle] at handled
      split_ifs at handled
      obtain ⟨data, found, same⟩ := Option.map_eq_some_iff.mp handled
      obtain ⟨rfl, rfl⟩ := Prod.mk.inj same
      exact .postRead found
  | goToCommentVC session postId =>
      simp only [handle] at handled
      split_ifs at handled with hasSeen
      obtain ⟨rfl, rfl⟩ := Prod.mk.inj (Option.some.inj handled)
      exact .commentsOpened hasSeen
  | comment session own =>
      simp only [handle] at handled
      split at handled
      · simp at handled
      · next screen isScreen =>
          obtain ⟨result, acted, same⟩ := Option.map_eq_some_iff.mp handled
          obtain ⟨rfl, rfl⟩ := Prod.mk.inj same
          exact .typed isScreen acted
  | deletePostButtonTapped session postId =>
      simp only [handle] at handled
      split_ifs at handled with hasOwn
      obtain ⟨rfl, rfl⟩ := Prod.mk.inj (Option.some.inj handled)
      exact .deleting hasOwn

theorem resume_answered {task : Task} {answer : Answer} {new : List Task}
    (resumed : resume state task answer = some (next, new)) :
    Answered state task next ∧ new = [] := by
  cases task with
  | comment request =>
      obtain ⟨ref, data⟩ := request
      cases answer with
      | failed =>
          obtain ⟨rfl, rfl⟩ := Prod.mk.inj (Option.some.inj resumed)
          exact ⟨.failed, rfl⟩
      | succeeded =>
          simp only [resume] at resumed
          split at resumed
          · simp at resumed
          · obtain ⟨rfl, rfl⟩ := Prod.mk.inj (Option.some.inj resumed)
            exact ⟨.commented, rfl⟩
      | _ => simp [resume] at resumed
  | deletePost postId =>
      cases answer with
      | failed =>
          obtain ⟨rfl, rfl⟩ := Prod.mk.inj (Option.some.inj resumed)
          exact ⟨.failed, rfl⟩
      | succeeded =>
          obtain ⟨rfl, rfl⟩ := Prod.mk.inj (Option.some.inj resumed)
          exact ⟨.deleted, rfl⟩
      | _ => simp [resume] at resumed

end Callbacks

/-- What an event of the app or of the screens can do. -/
theorem whole_handled {form : CanonicalForm} {state next : State} {event : App.Event ⊕ Event}
    {new : List (App.Task ⊕ Task)} (handled : (whole form).handle state event = some (next, new)) :
    (∃ own tasks, event = .inl own ∧ App.handle form state.1 own = some (next.1, tasks) ∧
        next.2 = state.2 ∧ new = tasks.map .inl) ∨
      ∃ own tasks, event = .inr own ∧ Acted form state own next tasks ∧
        new = tasks.map .inr := by
  rcases Program.handle_beside handled with
    ⟨own, tasks, rfl, acted, rfl⟩ | ⟨own, tasks, rfl, acted, rfl⟩
  · obtain ⟨app, board⟩ := Program.handle_within acted
    exact Or.inl ⟨own, tasks, rfl, app, board, rfl⟩
  · exact Or.inr ⟨own, tasks, rfl, handle_acted acted, rfl⟩

/-- What an answer to the app or to the screens can do. -/
theorem whole_resumed {form : CanonicalForm} {state next : State} {task : App.Task ⊕ Task}
    {answer : Answer} {new : List (App.Task ⊕ Task)}
    (resumed : (whole form).resume state task answer = some (next, new)) :
    (∃ own tasks, task = .inl own ∧ App.resume form state.1 own answer = some (next.1, tasks) ∧
        next.2 = state.2 ∧ new = tasks.map .inl) ∨
      ∃ own, task = .inr own ∧ Answered state own next ∧ new = [] := by
  rcases Program.resume_beside resumed with
    ⟨own, tasks, rfl, acted, rfl⟩ | ⟨own, tasks, rfl, acted, rfl⟩
  · obtain ⟨app, board⟩ := Program.resume_within acted
    exact Or.inl ⟨own, tasks, rfl, app, board, rfl⟩
  · obtain ⟨answered, rfl⟩ := resume_answered acted
    exact Or.inr ⟨own, rfl, answered, rfl⟩

/-! ## One post -/

/-- The author of the post. -/
def author : Uid := ⟨"uidAuthor", by decide, by decide⟩

/-- The author signs up, shares a post, and opens its comments. -/
def posting : List (Label (App.Event ⊕ Event) Answer) := [
  .event (.inl (.signUpTapped ⟨"A", "a@example.org", "Passw0rd", "Passw0rd"⟩)),
  .answer 0 (.created author), .answer 1 .succeeded,
  .event (.inl (.launch ⟨author, 0⟩)), .event (.inl (.shareTapped ⟨author, 0⟩ true "A vase")),
  .answer 4 .succeeded, .answer 5 .succeeded, .answer 6 .succeeded,
  .answer 7 (.classified ⟨"A vase", "url", 0, "vase", "1.00%"⟩ "post"), .answer 8 .succeeded,
  .event (.inr (.observePost ⟨author, 0⟩ "post")),
  .event (.inr (.goToCommentVC ⟨author, 0⟩ "post"))]

end Familog.App.Discussion
