import Familog.Async.Program
import Familog.LogInPage.JoinFamily
import Familog.LogInPage.CreateFamily
import Familog.LogInPage.SignUp
import Familog.MainPage.SwitchFamily
import Familog.MainPage.Timeline
import Familog.MainPage.Upload

/-!
Contract: the app on any number of devices over one store.

Owns the program whose events are the taps and screen openings of every
session and whose pending requests are those of all screens.

Does not own when requests are answered: runs of the program take every order.
A session acts for an account that Auth has created, and keeps it until its
callbacks are done: there is no log-out, after which they would read another
`currentUser` or none. The tab bar may be presented to a session at any time, as
`LaunchScreenViewController` does without looking at the user document.
-/

set_option autoImplicit false

namespace Familog.App

open Async Firestore Swift LogInPage MainPage

/-- A pending request, with the session whose screen waits for it. -/
inductive Task where
  | signUp (task : SignUp.Task)
  | join (session : Session) (task : JoinFamily.Task)
  | create (session : Session) (task : CreateFamily.Task)
  | switch (session : Session) (task : SwitchFamily.Task)
  | timeline (session : Session) (task : Timeline.Task)
  | upload (session : Session) (task : Upload.Task)

/-- What a user or the system does to a screen. -/
inductive Event where
  | signUpTapped (fields : SignUp.Form)
  | joinTapped (session : Session) (familyIdText : String)
  | createTapped (session : Session) (familyNameText familyIdText : String)
  | getFamilies (session : Session)
  | famliyTapped (session : Session) (familyId : String)
  | launch (session : Session)
  | refresh (session : Session)
  | shareTapped (session : Session) (picked : Bool) (descriptionText : String)

/-- What a call of ProgressHUD comes from. -/
inductive Cause where
  | tap (event : Event)
  | callback (task : Task)

/-- The store, the accounts of Auth, the rows listed on each switch screen, and
the posts each timeline was given. -/
structure Data where
  store : Store
  accounts : List Uid
  rows : List (Session × String)
  returned : List (Session × Fields)

/-- The data, the sessions that show the tab bar, and everything shown so far. -/
structure AppState extends Data where
  tabBars : List Session
  shown : List (Cause × Notice)

/-- Before the first account. -/
def AppState.empty : AppState where
  store := Store.empty
  accounts := []
  rows := []
  returned := []
  tabBars := []
  shown := []

/-! ## Events -/

/-- The tap shows its notices and issues its requests. -/
def AppState.tapped {Request : Type} (state : AppState) (event : Event)
    (embed : Request → Task) (result : List Request × List Notice) : AppState × List Task :=
  ({ state with shown := state.shown ++ result.2.map fun notice => (.tap event, notice) },
    result.1.map embed)

/-- An event of a session, which needs an account. -/
def AppState.signedIn (state : AppState) (session : Session) (result : AppState × List Task) :
    Option (AppState × List Task) :=
  if session.user ∈ state.accounts then some result else none

def handle (form : CanonicalForm) (state : AppState) (event : Event) :
    Option (AppState × List Task) :=
  match event with
  | .signUpTapped fields =>
      some (state.tapped event .signUp (SignUp.signUpTapped form fields))
  | .joinTapped session familyIdText =>
      state.signedIn session
        (state.tapped event (.join session) (JoinFamily.joinTapped familyIdText))
  | .createTapped session familyNameText familyIdText =>
      state.signedIn session
        (state.tapped event (.create session)
          (CreateFamily.createTapped familyNameText familyIdText))
  | .getFamilies session => state.signedIn session (state, [.switch session .userListener])
  | .famliyTapped session familyId =>
      if (session, familyId) ∈ state.rows then
        state.signedIn session (state, [.switch session (.updateData familyId)])
      else none
  | .launch session =>
      state.signedIn session
        ({ state with tabBars := session :: state.tabBars },
          [.timeline session .getFamilyId, .timeline session .observeCurrentUser])
  | .refresh session => state.signedIn session (state, [.timeline session .observeCurrentUser])
  | .shareTapped session picked descriptionText =>
      if session ∈ state.tabBars then
        state.signedIn session
          (state.tapped event (.upload session) (Upload.shareTapped form picked descriptionText))
      else none

/-! ## Answers -/

/-- What a callback leaves behind: its store and notices, and its requests. -/
def AppState.after {Request : Type} (state : AppState) (task : Task) (embed : Request → Task)
    (outcome : Outcome Request) : AppState × List Task :=
  ({ state with
      store := outcome.store
      shown := state.shown ++ outcome.notices.map fun notice => (.callback task, notice) },
    outcome.next.map embed)

/-- The accounts after Auth has answered. -/
def createdAccounts (accounts : List Uid) : Answer → List Uid
  | .created uid => uid :: accounts
  | _ => accounts

/-- The sessions that show the tab bar after the guard has decided. -/
def movedTabBars (tabBars : List Session) (session : Session) :
    Option Timeline.Screen → List Session
  | some .familyPage => tabBars.filter fun other => other != session
  | _ => tabBars

def resume (form : CanonicalForm) (state : AppState) (task : Task) (answer : Answer) :
    Option (AppState × List Task) :=
  match task with
  | .signUp request =>
      (SignUp.resume state.accounts state.store request answer).map
        ({ state with accounts := createdAccounts state.accounts answer }.after task .signUp)
  | .join session request =>
      (JoinFamily.resume form state.store session.user request answer).map
        (state.after task (.join session))
  | .create session request =>
      (CreateFamily.resume form state.store session.user request answer).map
        (state.after task (.create session))
  | .switch session request =>
      (SwitchFamily.resume state.store session.user request answer).map fun listing =>
        { state with rows := state.rows ++ listing.rows.map fun row => (session, row) }.after
          task (.switch session) listing.outcome
  | .timeline session request =>
      (Timeline.resume state.store session.user request answer).map fun loading =>
        { state with
          tabBars := movedTabBars state.tabBars session loading.move
          returned := state.returned ++ loading.posts.map fun post => (session, post) }.after
          task (.timeline session) loading.outcome
  | .upload session request =>
      (Upload.resume state.store session.user request answer).map
        (state.after task (.upload session))

/-- The app. -/
def program (form : CanonicalForm) : Program AppState Event Task Answer where
  handle := handle form
  resume := resume form

end Familog.App
