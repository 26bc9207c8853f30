import Familog.App.Home
import Familog.Async.Revealing
import Familog.Feed.ProfileGrid

/-!
Contract: the app with its timelines, comments and posts, and the profiles one comes to from
them.

Owns the program of any number of profile pages that load their photos from the store of the
app, beside the programs of all other pages on which posts are seen; and the app that can be
browsed by taps only: the page of a post or of a user opens where a cell has shown the post or
the user in the same session. A cell may show its row after the row has gone.

Does not own the labels above the photos.
-/

set_option autoImplicit false

namespace Familog.App.Browsing

open Async Firestore Swift

/-- A `ProfileViewController` or an `OthersProfileViewController` of a session, for a user. -/
abbrev ProfileCopy := Copy (Session × String) ProfileGrid.State ProfileGrid.Task

/-- What a cell leads to: the pages of a post, or the profile of a user. -/
inductive Sight where
  | post (postId : String)
  | user (userId : String)
deriving DecidableEq

/-- A profile appears, or something happens to one. -/
inductive Event where
  | profileViewDidLoad (session : Session) (uid : String)
  | profile (index : ℕ) (label : Label ProfileGrid.Event Home.Reply)

/-- The state of the app and its other pages, and the profiles. -/
abbrev State := Home.State × List ProfileCopy

/-- An event of the app, of its other pages, or of the profiles. -/
abbrev WholeEvent := ((App.Event ⊕ Screens.Event) ⊕ Home.Event) ⊕ Event

/-- A pending request of the app or its other pages; those of the profiles are their own. -/
abbrev WholeTask := ((App.Task ⊕ Screens.Task) ⊕ Discussion.Task) ⊕ Empty

/-- Before the first account. -/
def State.empty : State := (Home.State.empty, [])

/-- `observePostsByUser`: the ids of the posts whose `userId` is the given text. -/
def postsByUser (store : Store) (userId : String) : List String :=
  (store.posts.documents.filter fun document => decide
    (document.2.string? "userId" = some userId)).map Prod.fst

/-- What the store returns to a request of a profile of the user. -/
def read (store : Store) (uid : String) : ProfileGrid.Task → Home.Reply → Option ProfileGrid.Answer
  | _, .failed => some .failed
  | .getDocuments, .documents ids =>
      if ids.Perm (postsByUser store uid) then some (.documents ids) else none
  | .observePost postId, .succeeded => some (.snapshot (store.posts.get? postId))
  | _, _ => none

/-- A profile over the posts. -/
def profile (store : Store) (owner : Session × String) :
    Program ProfileGrid.State ProfileGrid.Event ProfileGrid.Task Home.Reply where
  handle := ProfileGrid.program.handle
  resume state task reply :=
    (read store owner.2 task reply).bind (ProfileGrid.program.resume state task)

def handle (state : State) : Event → Option (State × List Empty)
  | .profileViewDidLoad session uid =>
      if session.user ∈ state.1.1.1.accounts then
        some ((state.1, state.2 ++ [⟨(session, uid), Program.start .empty⟩]), [])
      else none
  | .profile index label =>
      (Copy.act (profile state.1.1.1.store) state.2 index label).map fun profiles =>
        ((state.1, profiles), [])

/-- The profiles. -/
def program : Program State Event Empty Answer where
  handle := handle
  resume _ task _ := nomatch task

/-- All pages over one store. -/
def pages (count : String → ℕ) (localizedDescription : String) (form : CanonicalForm) :
    Program State WholeEvent WholeTask Answer :=
  ((Home.whole count localizedDescription form).within (List ProfileCopy)).beside program

/-! ## What is shown, and what is opened -/

/-- The posts of a timeline lead to their pages, the users beside them to their profiles. -/
def ofTimeline (copy : Home.TimelineCopy) : List (Session × Sight) :=
  (copy.config.state.rows.filterMap fun post => post.uid.map fun uid =>
      (copy.profile, .post uid)) ++
    copy.config.state.users.filterMap fun user => user.uid.map fun uid =>
      (copy.profile, .user uid)

/-- The users beside comments lead to their profiles. -/
def ofComments (copy : Home.CommentCopy) : List (Session × Sight) :=
  copy.config.state.users.filterMap fun user => user.uid.map fun uid =>
    (copy.profile.1, .user uid)

/-- The photos of a profile lead to the pages of the posts. -/
def ofProfile (copy : ProfileCopy) : List (Session × Sight) :=
  copy.config.state.posts.filterMap fun post => post.uid.map fun uid =>
    (copy.profile.1, .post uid)

/-- The detail page of a post leads to its comments and to the profile of its author. -/
def ofDetail (entry : Session × Fields) : List (Session × Sight) :=
  ((transformPostPhoto entry.2).uid.map fun uid => (entry.1, Sight.post uid)).toList ++
    ((transformPostPhoto entry.2).userId.map fun userId => (entry.1, Sight.user userId)).toList

/-- Everything that is shown. -/
def shows (state : State) : List (Session × Sight) :=
  state.1.2.timelines.flatMap ofTimeline ++ state.1.2.commentLists.flatMap ofComments ++
    state.2.flatMap ofProfile ++ state.1.2.discussion.read.flatMap ofDetail

/-- The page that the event opens. -/
def opened? : WholeEvent → Option (Session × Sight)
  | .inl (.inr (.discussion (.observePost session postId))) => some (session, .post postId)
  | .inr (.profileViewDidLoad session uid) => some (session, .user uid)
  | _ => none

/-- It is the user's own profile, or a cell has shown what it is about. -/
def opens (past : List (Session × Sight)) (event : WholeEvent) : Prop :=
  ∀ page ∈ opened? event, page.2 = .user page.1.user.value ∨ page ∈ past

instance decidableOpens (past : List (Session × Sight)) (event : WholeEvent) :
    Decidable (opens past event) :=
  inferInstanceAs (Decidable (∀ page ∈ opened? event, _ ∨ page ∈ past))

/-- The app, browsed by taps. -/
def app (count : String → ℕ) (localizedDescription : String) (form : CanonicalForm) :
    Program (State × List (Session × Sight)) WholeEvent WholeTask Answer :=
  (pages count localizedDescription form).revealing shows opens

end Familog.App.Browsing
