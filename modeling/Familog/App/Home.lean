import Familog.App.Discussion
import Familog.App.Screens
import Familog.Async.Copies
import Familog.Async.Rely
import Familog.Feed.Genuine

/-!
Contract: the app together with the timelines, the comment screens and the detail screens.

Owns the program of any number of timelines and lists of comments that load their rows from
the store of the app, beside the screens on which comments are sent and posts deleted, and
its composition with the program of the app, the log-in and the profile editor. A read is
answered with what is stored then: the document there is, or the documents of the query, in any
order.

Does not own the cells that draw the rows.
-/

set_option autoImplicit false

namespace Familog.App.Home

open Async Firestore Swift

/-- A `TimelineViewController` of a session. -/
abbrev TimelineCopy := Copy Session (Feed.State Post) (Feed.Task Post)

/-- A `CommentViewController` of a session, on a post. -/
abbrev CommentCopy := Copy (Session × String) (Feed.State Comment) (Feed.Task Comment)

/-- The comments with the screens that work on them, the timelines, and the lists of
comments. -/
structure Board where
  discussion : Discussion.Board
  timelines : List TimelineCopy
  commentLists : List CommentCopy

/-- An error, the current document, or the ids of the documents of a query in their order. -/
inductive Reply where
  | failed
  | succeeded
  | documents (ids : List String)

/-- A timeline or a list of comments appears, or something happens to one; the comments of a row
of a timeline are opened. -/
inductive Event where
  | discussion (event : Discussion.Event)
  | goToCommentVC (session : Session) (postId : String)
  | timelineViewDidLoad (session : Session)
  | timeline (index : ℕ) (label : Label Feed.Event Reply)
  | commentsViewDidLoad (session : Session) (postId : String)
  | comments (index : ℕ) (label : Label Feed.Event Reply)

/-- The state of the app and its further screens, and what these screens work on. -/
abbrev State := Screens.State × Board

/-- Before the first account. -/
def State.empty : State := (Screens.State.empty, ⟨.empty, [], []⟩)

/-- The document of a user, by the text of its id. -/
def userNamed (store : Store) (uid : String) : Option Fields :=
  (store.users.documents.find? fun document => decide (document.1.value = uid)).map Prod.snd

/-- The ids of the documents that a query finds. -/
def found {Row : Type} (controller : Feed.Controller Row) (docs : Collection String)
    (key : String) : List String :=
  (docs.documents.filter fun document => decide
    (document.2.string? controller.field = some key ∧ (document.2 "timestamp").isSome)).map
      Prod.fst

/-- A row of a timeline of the session shows the post. -/
def Board.HasRow (board : Board) (session : Session) (postId : String) : Prop :=
  ∃ copy ∈ board.timelines, copy.profile = session ∧
    ∃ post ∈ copy.config.state.rows, post.uid = some postId

/-- A page has shown the post to the session. -/
def HasSeen (state : State) (session : Session) (postId : String) : Prop :=
  Discussion.HasSeen (state.1.1, state.2.discussion) session postId ∨
    state.2.HasRow session postId

instance decidableHasRow (board : Board) (session : Session) (postId : String) :
    Decidable (board.HasRow session postId) :=
  inferInstanceAs (Decidable (∃ copy ∈ board.timelines, _ ∧
    ∃ post ∈ copy.config.state.rows, post.uid = some postId))

instance decidableHasSeen (state : State) (session : Session) (postId : String) :
    Decidable (HasSeen state session postId) :=
  inferInstanceAs (Decidable (_ ∨ _))

/-- What the store returns to a request of a feed. -/
def read {Row : Type} (controller : Feed.Controller Row) (store : Store)
    (docs : Collection String) (session : Session) :
    Feed.Task Row → Reply → Option Feed.Answer
  | _, .failed => some .failed
  | .observeCurrentUser _, .succeeded => some (.snapshot (store.users.get? session.user))
  | .getDocuments _ key, .documents ids =>
      if ids.Perm (found controller docs key) then
        some (.documents (ids.filterMap docs.get?))
      else none
  | .userListener _ uid _ _, .succeeded => some (.snapshot (userNamed store uid))
  | _, _ => none

/-- A timeline over the posts. -/
def timeline (store : Store) (session : Session) :
    Program (Feed.State Post) Feed.Event (Feed.Task Post) Reply :=
  Feed.reading Feed.TimelineViewController
    (read Feed.TimelineViewController store store.posts session)

/-- A list of comments. -/
def commentList (store : Store) (comments : Collection String) (profile : Session × String) :
    Program (Feed.State Comment) Feed.Event (Feed.Task Comment) Reply :=
  Feed.reading (Feed.CommentViewController profile.2)
    (read (Feed.CommentViewController profile.2) store comments profile.1)

/-- What a callback of the comment and detail screens does, on the whole state. -/
def onDiscussion (state : State) (result : Option (Discussion.State × List Discussion.Task)) :
    Option (State × List Discussion.Task) :=
  result.map fun after =>
    (((after.1.1, state.1.2), { state.2 with discussion := after.1.2 }), after.2)

def handle (form : CanonicalForm) (state : State) : Event → Option (State × List Discussion.Task)
  | .discussion event =>
      onDiscussion state (Discussion.handle form (state.1.1, state.2.discussion) event)
  | .goToCommentVC session postId =>
      if state.2.HasRow session postId then
        some ((state.1, { state.2 with
          discussion := state.2.discussion.setScreen session (.opened postId) }), [])
      else none
  | .timelineViewDidLoad session =>
      if session.user ∈ state.1.1.accounts then
        some ((state.1, { state.2 with
          timelines := state.2.timelines ++ [⟨session, Program.start (.empty Post)⟩] }), [])
      else none
  | .timeline index label =>
      (Copy.act (timeline state.1.1.store) state.2.timelines index label).map fun timelines =>
        ((state.1, { state.2 with timelines := timelines }), [])
  | .commentsViewDidLoad session postId =>
      if HasSeen state session postId then
        some ((state.1, { state.2 with
          commentLists := state.2.commentLists ++
            [⟨(session, postId), Program.start (.empty Comment)⟩] }), [])
      else none
  | .comments index label =>
      (Copy.act (commentList state.1.1.store state.2.discussion.comments) state.2.commentLists
        index label).map fun commentLists =>
          ((state.1, { state.2 with commentLists := commentLists }), [])

def resume (state : State) (task : Discussion.Task) (answer : Answer) :
    Option (State × List Discussion.Task) :=
  onDiscussion state (Discussion.resume (state.1.1, state.2.discussion) task answer)

/-- The timelines, the comment screens and the detail screens. -/
def program (form : CanonicalForm) : Program State Event Discussion.Task Answer where
  handle := handle form
  resume := resume

/-- An event of these pages is one of the comment and detail screens, or leaves the app and the
comments alone. -/
theorem handle_cases {form : CanonicalForm} {state next : State} {event : Event}
    {new : List Discussion.Task} (handled : handle form state event = some (next, new)) :
    (∃ own after, event = .discussion own ∧
        Discussion.Acted form (state.1.1, state.2.discussion) own after new ∧
        next = ((after.1, state.1.2), { state.2 with discussion := after.2 })) ∨
      next.1 = state.1 ∧ next.2.discussion.comments = state.2.discussion.comments ∧ new = [] := by
  cases event with
  | discussion own =>
      obtain ⟨⟨after, tasks⟩, acted, same⟩ := Option.map_eq_some_iff.mp handled
      obtain ⟨rfl, rfl⟩ := Prod.mk.inj same
      exact Or.inl ⟨own, after, rfl, Discussion.handle_acted acted, rfl⟩
  | goToCommentVC | timelineViewDidLoad | commentsViewDidLoad =>
      simp only [handle] at handled
      split_ifs at handled
      obtain ⟨rfl, rfl⟩ := Prod.mk.inj (Option.some.inj handled)
      exact Or.inr ⟨rfl, rfl, rfl⟩
  | timeline | comments =>
      obtain ⟨copies, _, same⟩ := Option.map_eq_some_iff.mp handled
      obtain ⟨rfl, rfl⟩ := Prod.mk.inj same
      exact Or.inr ⟨rfl, rfl, rfl⟩

/-- An answer is one to the comment and detail screens. -/
theorem resume_cases {state next : State} {task : Discussion.Task} {answer : Answer}
    {new : List Discussion.Task} (resumed : resume state task answer = some (next, new)) :
    ∃ after, Discussion.Answered (state.1.1, state.2.discussion) task after ∧
      next = ((after.1, state.1.2), { state.2 with discussion := after.2 }) ∧ new = [] := by
  obtain ⟨⟨after, tasks⟩, acted, same⟩ := Option.map_eq_some_iff.mp resumed
  obtain ⟨rfl, rfl⟩ := Prod.mk.inj same
  obtain ⟨answered, rfl⟩ := Discussion.resume_answered acted
  exact ⟨after, answered, rfl, rfl⟩

/-- The app, its further screens and these over one store. -/
def whole (count : String → ℕ) (localizedDescription : String) (form : CanonicalForm) :
    Program State ((App.Event ⊕ Screens.Event) ⊕ Event)
      ((App.Task ⊕ Screens.Task) ⊕ Discussion.Task) Answer :=
  ((Screens.whole count localizedDescription form).within Board).beside (program form)

end Familog.App.Home
