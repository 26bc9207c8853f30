import Familog.App
import Familog.Async.Parallel
import Familog.LogInPage.LogIn
import Familog.MainPage.EditProfile

/-!
Contract: the app together with the log-in screen and the profile editor.

Owns the program of these two screens, for any number of sessions over the store of
the app, and its composition with the program of the app. The editor writes user
documents field by field; the log-in only reads them.

Does not own the screens a log-in moves to, nor which of the two screens has shown what.
-/

set_option autoImplicit false

namespace Familog.App.Screens

open Async Firestore Swift LogInPage MainPage

/-- A pending request of one of the two screens. -/
inductive Task where
  | save (session : Session) (task : EditProfile.Task)
  | logIn (task : LogIn.Task)

inductive Event where
  | saveBtn_TouchUpInside (session : Session) (fields : EditProfile.Form)
  | logInTapped (emailText passwordText : String)

/-- The state of the app, and what the two screens have shown. -/
abbrev State := AppState × List Notice

section Program

variable (count : String → ℕ) (localizedDescription : String)

def handle (state : State) : Event → Option (State × List Task)
  | .saveBtn_TouchUpInside session fields =>
      let issued := EditProfile.saveBtn_TouchUpInside count fields
      if session.user ∈ state.1.accounts then
        some ((state.1, state.2 ++ issued.2), issued.1.map (.save session))
      else none
  | .logInTapped emailText passwordText =>
      let issued := LogIn.logInTapped emailText passwordText
      some ((state.1, state.2 ++ issued.2), issued.1.map .logIn)

/-- What a callback leaves behind: its store and notices, and its requests. -/
def after {Request : Type} (state : State) (embed : Request → Task) (outcome : Outcome Request) :
    State × List Task :=
  (({ state.1 with store := outcome.store }, state.2 ++ outcome.notices), outcome.next.map embed)

def resume (state : State) : Task → Answer → Option (State × List Task)
  | .save session request, answer =>
      (EditProfile.resume state.1.store session.user request answer).map
        (after state (.save session))
  | .logIn request, answer =>
      (LogIn.resume localizedDescription state.1.store request answer).map fun entry =>
        after state .logIn entry.outcome

/-- The two screens. -/
def program : Program State Event Task Answer where
  handle := handle count
  resume := resume localizedDescription

/-- The app and the two screens over one store. -/
def whole (form : CanonicalForm) : Program State (App.Event ⊕ Event) (App.Task ⊕ Task) Answer :=
  ((App.program form).within (List Notice)).beside (program count localizedDescription)

end Program

/-- Before the first account. -/
def State.empty : State := (AppState.empty, [])

/-- How often a callback has ended in a failed cast or unwrap. -/
def State.traps (state : State) : ℕ :=
  (state.1.shown.map Prod.snd).count .trap + state.2.count .trap

/-! ## The user documents a callback reads -/

/-- The existing user documents that the callback of a request of the app reads. -/
def usersReadByApp (store : Store) : App.Task → List Fields
  | .join _ (.append _ (.received data)) => [data]
  | .create _ (.append _ (.received data)) => [data]
  | .switch session .userListener => (store.users.get? session.user).toList
  | .timeline session .getFamilyId => (store.users.get? session.user).toList
  | .timeline session .observeCurrentUser => (store.users.get? session.user).toList
  | .upload session .getFamilyId => (store.users.get? session.user).toList
  | _ => []

/-- The existing user documents that the callback of a request reads. -/
def usersRead (store : Store) : App.Task ⊕ Task → List Fields
  | .inl task => usersReadByApp store task
  | .inr (.logIn (.getDocuments email)) => LogIn.documentsWith store email
  | .inr _ => []

end Familog.App.Screens
