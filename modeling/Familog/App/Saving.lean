import Familog.App
import Familog.Async.Amid
import Familog.Async.History
import Familog.MainPage.EditProfile

/-!
Contract: one tap on the save button of the profile editor, amid the operations that
choose a family.

Owns the program that answers the requests of that tap over the store of the app, and the
screens of the app beside it: joining, creating and switching, by any session. They may
have requests pending when the button is tapped, and taps of theirs may follow.

Does not own what the editor shows.
-/

set_option autoImplicit false

namespace Familog.App.Saving

open Async Firestore Swift LogInPage MainPage

/-- The editor after its tap: nothing but answers can happen to it. -/
def editor (uid : Uid) : Program AppState Empty EditProfile.Task Answer where
  handle _ event := event.elim
  resume state task answer :=
    (EditProfile.resume state.store uid task answer).map fun outcome =>
      ({ state with store := outcome.store }, outcome.next)

/-- The app with the editor of one user amid its callbacks. -/
def program (form : CanonicalForm) (uid : Uid) :
    Program (AppState × Pool EditProfile.Task) (Event ⊕ Label Empty Answer) Task Answer :=
  (App.program form).amid (editor uid)

/-- Right after the tap, with whatever the app is waiting for. -/
def begun (count : String → ℕ) (fields : EditProfile.Form) (app : Config AppState Task) :
    Config (AppState × Pool EditProfile.Task) Task :=
  ⟨(app.state, Pool.empty.issueAll (EditProfile.saveBtn_TouchUpInside count fields).1), app.pool⟩

/-- The event belongs to a screen on which a family is joined, created or switched to. -/
def Chooses : Event → Prop
  | .joinTapped _ _ => True
  | .createTapped _ _ _ => True
  | .getFamilies _ => True
  | .famliyTapped _ _ => True
  | _ => False

instance : DecidablePred Chooses := fun event => by
  unfold Chooses
  split <;> infer_instance

/-- So does the request. -/
def ChoosesFor : Task → Prop
  | .join _ _ => True
  | .create _ _ => True
  | .switch _ _ => True
  | _ => False

/-- What is answered to the editor in a step, and how. -/
def answered (config : Config (AppState × Pool EditProfile.Task) Task) :
    Label (Event ⊕ Label Empty Answer) Answer → List (EditProfile.Task × Answer)
  | .event (.inr (.answer ticket answer)) =>
      (config.state.2.find? ticket).toList.map fun task => (task, answer)
  | _ => []

end Familog.App.Saving
