import Familog.Async.Program
import Familog.Records
import Familog.Swift.Text

/-!
Contract: `DetailViewController` and its one `DetailViewCell` as a program.

`loadPost` reads the opened post once; its callback registers a listener on the
author's document that is never removed. Each snapshot sets the user and the post and
reloads the row; until the first one the row is rendered from an empty post and an
empty user. The cell shows the delete button by the user, and deletes by the post.

Owns this program over documents that change at any time.

Does not own the labels and images of the cell, nor the page that a deletion moves to.
-/

set_option autoImplicit false

namespace Familog.Detail

open Async Firestore Swift

/-- `Post()`. -/
def noPost : Post := ⟨none, none, none, none, none, none, none, none⟩

/-- `User()`. -/
def noUser : User := ⟨none, none, none, none, "Unknow", none, none, none⟩

/-- The cell as it was rendered: its post, its user, and `deleteButton.isHidden`. -/
structure Row where
  post : Post
  user : User
  isHidden : Bool

/-- `post` and `user` of the controller, and the row shown last. The documents and whether
the process has trapped are not stored by the source. -/
structure State where
  post : Post
  user : User
  row : Option Row
  posts : Collection DocumentPath
  users : Collection DocumentPath
  trapped : Bool

/-- The read of the post, the listener on its author, and the deletion. -/
inductive Task where
  | observePost (path : DocumentPath)
  | userListener (author : DocumentPath) (post : Post)
  | delete (path : DocumentPath)

/-- The table view asks for the row, the button is tapped, or a client writes or deletes
a document. -/
inductive Event where
  | cellForRowAt
  | deletePostButtonTapped
  | storePost (path : DocumentPath) (data : Option Fields)
  | storeUser (path : DocumentPath) (data : Option Fields)

/-- An error, or success: a read then delivers the document as it is now. -/
inductive Answer where
  | failed
  | succeeded

section Program

variable (form : CanonicalForm) (me : Uid)

/-- `setupUserInfo`: `user?.uid != Api.User.currentUser?.uid`. -/
def cell (post : Post) (user : User) : Row where
  post := post
  user := user
  isHidden := decide (user.uid.map form.normalize ≠ some (form.normalize me.value))

/-- The document that `deletePostButtonTapped` deletes, `none` where `uid!` fails or
`document` throws. -/
def Row.deleted? (row : Row) : Option DocumentPath := row.post.uid.bind document?

/-- A failed unwrap or cast, or an exception. -/
def State.trap (state : State) : State := { state with trapped := true }

/-- The documents of a collection after a write, or a deletion. -/
def stored (documents : Collection DocumentPath) (path : DocumentPath) :
    Option Fields → Collection DocumentPath
  | some data => documents.set path data
  | none => documents.erase path

/-- Run the handler of one event. A hidden button cannot be tapped. -/
def handle (state : State) : Event → Option (State × List Task)
  | .cellForRowAt => some ({ state with row := some (cell form me state.post state.user) }, [])
  | .deletePostButtonTapped =>
      match state.row with
      | none => none
      | some row =>
          if row.isHidden then none
          else
            match row.deleted? with
            | none => some (state.trap, [])
            | some path => some (state, [.delete path])
  | .storePost path data => some ({ state with posts := stored state.posts path data }, [])
  | .storeUser path data => some ({ state with users := stored state.users path data }, [])

/-- The callback of `observePost`; without an author nothing more happens. -/
def postRead (state : State) (data : Fields) : State × List Task :=
  let post := transformPostPhoto data
  match post.userId with
  | none => (state, [])
  | some postUid =>
      match document? postUid with
      | none => (state.trap, [])
      | some author => (state, [.userListener author post])

/-- Run the callback of one answer. -/
def resume (state : State) : Task → Answer → State × List Task
  | .observePost _, .failed => (state, [])
  | .observePost path, .succeeded =>
      match state.posts.get? path with
      | none => (state, [])
      | some data => postRead state data
  | .userListener _ _, .failed => (state, [])
  | .userListener author post, .succeeded =>
      match state.users.get? author with
      | none => (state, [.userListener author post])
      | some data =>
          match transformUser data with
          | none => (state.trap, [])
          | some user =>
              ({ state with user := user, post := post }, [.userListener author post])
  | .delete _, .failed => (state, [])
  | .delete path, .succeeded => ({ state with posts := state.posts.erase path }, [])

/-- The screen as a program; after a trap nothing happens. -/
def program : Program State Event Task Answer where
  handle state event := if state.trapped then none else handle form me state event
  resume state task answer := if state.trapped then none else some (resume state task answer)

end Program

/-- `viewDidLoad` on a post, over any documents: `loadPost` reads it. -/
def opened (path : DocumentPath) (posts users : Collection DocumentPath) : Config State Task where
  state :=
    { post := noPost
      user := noUser
      row := none
      posts := posts
      users := users
      trapped := false }
  pool := Pool.empty.issueAll [.observePost path]

/-! ## What an answer can do -/

/-- Everything an answered request can do. -/
inductive Answered (state : State) : Task → State → List Task → Prop where
  | silent {task} : Answered state task state []
  | trapped {task} : Answered state task state.trap []
  | authorFound {path data author} : state.posts.get? path = some data →
      (transformPostPhoto data).userId.bind document? = some author →
      Answered state (.observePost path) state [.userListener author (transformPostPhoto data)]
  | userMissing {author post} :
      Answered state (.userListener author post) state [.userListener author post]
  | userFetched {author post data user} : state.users.get? author = some data →
      transformUser data = some user →
      Answered state (.userListener author post) { state with user := user, post := post }
        [.userListener author post]
  | deleted {path} :
      Answered state (.delete path) { state with posts := state.posts.erase path } []

theorem resume_answered (state : State) (task : Task) (answer : Answer) :
    Answered state task (resume state task answer).1 (resume state task answer).2 := by
  cases answer with
  | failed => cases task <;> exact .silent
  | succeeded =>
      cases task with
      | observePost path =>
          simp only [resume]
          cases found : state.posts.get? path with
          | none => exact .silent
          | some data =>
              simp only [postRead]
              cases author : (transformPostPhoto data).userId with
              | none => exact .silent
              | some postUid =>
                  cases named : document? postUid with
                  | none => simpa only [named] using Answered.trapped
                  | some path' =>
                      simp only [named]
                      exact .authorFound found (by rw [author, Option.bind_some, named])
      | userListener author post =>
          simp only [resume]
          cases found : state.users.get? author with
          | none => exact .userMissing
          | some data =>
              cases decoded : transformUser data with
              | none => simpa only [decoded] using Answered.trapped
              | some user =>
                  simp only [decoded]
                  exact .userFetched found decoded
      | delete path => exact .deleted

end Familog.Detail
