import Familog.Async.Program
import Familog.LogInPage.CreateFamily
import Familog.LogInPage.JoinFamily
import Familog.LogInPage.LogIn
import Familog.LogInPage.SignUp
import Familog.MainPage.EditProfile
import Familog.MainPage.Upload

/-!
Contract: one operation, from the tap to its last callback.

Owns the six operations that report on the HUD, each as a program of its own: the
tap issues the first requests, every answer runs one callback. Other clients may
replace the store between any two callbacks. The state remembers the calls of the
HUD and which requests have been answered, and how.

Owns the kinds of requests, too. Most are loud: they are pending one at a time, and
their callbacks drive the HUD. The writes without a completion handler, and the one
that only prints its error, are silent: they may be pending beside anything, and
their acknowledgement does nothing.

Does not own operations that overlap with one another.
-/

set_option autoImplicit false

namespace Familog.Operation

open Async Firestore Swift LogInPage MainPage

/-! ## Taps and callbacks -/

/-- The taps that begin an operation. -/
inductive Tap where
  | signUpTapped (fields : SignUp.Form)
  | createTapped (familyNameText familyIdText : String)
  | joinTapped (familyIdText : String)
  | saveBtn_TouchUpInside (fields : EditProfile.Form)
  | logInTapped (emailText passwordText : String)
  | shareTapped (picked : Bool) (descriptionText : String)

/-- A pending request of one of them. -/
inductive Task where
  | signUp (task : SignUp.Task)
  | create (task : CreateFamily.Task)
  | join (task : JoinFamily.Task)
  | save (task : EditProfile.Task)
  | logIn (task : LogIn.Task)
  | share (task : Upload.Task)

/-- What an operation takes from its surroundings: the Unicode tables, the text of an
error of Auth, the accounts Auth has created, and the user that is signed in. -/
structure Setting where
  form : CanonicalForm
  count : String → ℕ
  localizedDescription : String
  accounts : List Uid
  user : Uid

/-- The store, the calls of the HUD, and the answered requests. -/
structure State where
  store : Store
  notices : List Notice
  answered : List (Task × Answer)

/-- Other clients leave another store behind. -/
inductive Event where
  | otherClients (store : Store)

section Program

variable (setting : Setting)

/-- What a tap issues and shows. -/
def tapped : Tap → List Task × List Notice
  | .signUpTapped fields =>
      (SignUp.signUpTapped setting.form fields).map (List.map .signUp) id
  | .createTapped familyNameText familyIdText =>
      (CreateFamily.createTapped familyNameText familyIdText).map (List.map .create) id
  | .joinTapped familyIdText =>
      (JoinFamily.joinTapped familyIdText).map (List.map .join) id
  | .saveBtn_TouchUpInside fields =>
      (EditProfile.saveBtn_TouchUpInside setting.count fields).map (List.map .save) id
  | .logInTapped emailText passwordText =>
      (LogIn.logInTapped emailText passwordText).map (List.map .logIn) id
  | .shareTapped picked descriptionText =>
      (Upload.shareTapped setting.form picked descriptionText).map (List.map .share) id

/-- Run the callback of one answer. -/
def respond (store : Store) : Task → Answer → Option (Outcome Task)
  | .signUp task, answer => (SignUp.resume setting.accounts store task answer).map (.lift .signUp)
  | .create task, answer =>
      (CreateFamily.resume setting.form store setting.user task answer).map (.lift .create)
  | .join task, answer =>
      (JoinFamily.resume setting.form store setting.user task answer).map (.lift .join)
  | .save task, answer => (EditProfile.resume store setting.user task answer).map (.lift .save)
  | .logIn task, answer =>
      (LogIn.resume setting.localizedDescription store task answer).map fun entry =>
        entry.outcome.lift .logIn
  | .share task, answer => (Upload.resume store setting.user task answer).map (.lift .share)

/-- The operation as a program. -/
def program : Program State Event Task Answer where
  handle state
    | .otherClients store => some ({ state with store := store }, [])
  resume state task answer :=
    (respond setting state.store task answer).map fun outcome =>
      ({ store := outcome.store
         notices := state.notices ++ outcome.notices
         answered := state.answered ++ [(task, answer)] }, outcome.next)

/-- Right after the tap. -/
def begun (store : Store) (tap : Tap) : Config State Task :=
  ⟨⟨store, (tapped setting tap).2, []⟩, Pool.empty.issueAll (tapped setting tap).1⟩

end Program

/-! ## Kinds of requests and answers -/

/-- The six operations. -/
inductive Kind where
  | signUp
  | create
  | join
  | save
  | logIn
  | share
deriving DecidableEq

def Tap.kind : Tap → Kind
  | .signUpTapped _ => .signUp
  | .createTapped _ _ => .create
  | .joinTapped _ => .join
  | .saveBtn_TouchUpInside _ => .save
  | .logInTapped _ _ => .logIn
  | .shareTapped _ _ => .share

def Task.kind : Task → Kind
  | .signUp _ => .signUp
  | .create _ => .create
  | .join _ => .join
  | .save _ => .save
  | .logIn _ => .logIn
  | .share _ => .share

/-- The acknowledgement of the request does nothing: `setCurrentUser` has no completion
handler, the one of `addDocument` only prints an error. -/
def Task.isSilent : Task → Bool
  | .create (.addDocument _ _) => true
  | .save (.updateData _ _) => true
  | _ => false

/-- The request writes to the store or to the storage. -/
def Task.isWrite : Task → Bool
  | .signUp (.setData _ _) => true
  | .create (.setData _ _) => true
  | .create (.addDocument _ _) => true
  | .create (.append _ (.updateData _ _)) => true
  | .join (.append _ (.updateData _ _)) => true
  | .save (.updateData _ _) => true
  | .save .putData => true
  | .share (.putData _) => true
  | .share (.setData _ _) => true
  | _ => false

/-- The request is made before the HUD is called. -/
def Task.isUnannounced : Task → Bool
  | .share .getFamilyId => true
  | _ => false

/-- The answer is an error. -/
def isFailed : Answer → Bool
  | .failed => true
  | _ => false

/-- The answers at which the read-modify-write of the user document succeeds. -/
def appendReports : AppendFamily.Task → Answer → Bool
  | .updateData _ _, .succeeded => true
  | _, _ => false

/-- The answers at which it ends in a failed cast. -/
def appendAbandons : AppendFamily.Task → Answer → Bool
  | .received data, .listed _ => (data.strings? "families").isNone
  | _, _ => false

/-- The answers at which a callback shows success. -/
def reports : Task → Answer → Bool
  | .signUp (.setData _ _), _ => true
  | .create (.append _ task), answer => appendReports task answer
  | .join (.append _ task), answer => appendReports task answer
  | .save .downloadURL, .assigned _ => true
  | .share (.setData _ _), .succeeded => true
  | _, _ => false

/-- The answers at which an operation ends and its spinner stays. -/
def abandons : Task → Answer → Bool
  | .create (.append _ task), answer => appendAbandons task answer
  | .join (.append _ task), answer => appendAbandons task answer
  | .join (.getDocuments _), .failed => true
  | .save .putData, .failed => true
  | .save .downloadURL, .failed => true
  | .save .downloadURL, .empty => true
  | .logIn (.getDocuments _), _ => true
  | .share (.putData _), .empty => true
  | .share (.visionRequest _), .failed => true
  | _, _ => false

/-- A device on which strings are compared scalar by scalar and a scalar is a character. -/
def asciiSetting : Setting where
  form := CanonicalForm.scalars
  count := String.length
  localizedDescription := "The password is invalid."
  accounts := []
  user := ⟨"uidSelf", by decide, by decide⟩

end Familog.Operation
