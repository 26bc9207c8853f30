import Familog.App
import Familog.Async.Parallel
import Familog.LogInPage.LogIn

/-!
Contract: the app with the accounts of Auth, and the log-in screen beside it.

Owns what Auth does with an e-mail address: `createUser` succeeds only if no account has
an address that is the same to Auth, and `signIn` only for the address, in any spelling,
and the password of an account. Owns the program of the log-in, with the pages it has
presented, and its composition with the app.

Does not own the identity of addresses, which is a parameter: two addresses are the same
to Auth if it maps them to one text. An answer that Auth does not give is none.
-/

set_option autoImplicit false

namespace Familog.App.Entrance

open Async Firestore Swift LogInPage MainPage

/-- An account of Auth, with the address and the password it was created with. -/
structure Account where
  uid : Uid
  email : String
  password : String
deriving DecidableEq

/-- The app, the accounts with their addresses, and the pages presented at log-ins. -/
structure State where
  app : AppState
  registered : List Account
  presented : List Timeline.Screen

/-- The tap on the log-in button. -/
inductive Event where
  | logInTapped (emailText passwordText : String)

section Program

variable (form : CanonicalForm) (identity : String → String) (localizedDescription : String)

/-- The address is the account's, in any spelling. -/
def Account.Identified (account : Account) (email : String) : Prop :=
  identity account.email = identity email

instance (account : Account) (email : String) : Decidable (account.Identified identity email) :=
  inferInstanceAs (Decidable (_ = _))

/-- The accounts once Auth has answered a request of the app, if it can answer so. -/
def register (registered : List Account) : App.Task → Answer → Option (List Account)
  | .signUp (.createUser email password _), .created uid =>
      if ∃ account ∈ registered, account.Identified identity email then none
      else some (⟨uid, email, password⟩ :: registered)
  | _, _ => some registered

/-- Auth can answer a request of the log-in so. -/
def Authentic (registered : List Account) : LogIn.Task → Answer → Prop
  | .signIn email password, .succeeded =>
      ∃ account ∈ registered, account.Identified identity email ∧ account.password = password
  | _, _ => True

instance (registered : List Account) (task : LogIn.Task) (answer : Answer) :
    Decidable (Authentic identity registered task answer) := by
  unfold Authentic
  split <;> infer_instance

/-- The app over the accounts of Auth. -/
def app : Program State App.Event App.Task Answer where
  handle state event :=
    (App.handle form state.app event).map fun result =>
      ({ state with app := result.1 }, result.2)
  resume state task answer :=
    (register identity state.registered task answer).bind fun registered =>
      (App.resume form state.app task answer).map fun result =>
        ({ state with app := result.1, registered := registered }, result.2)

/-- The log-in screen. -/
def logIn : Program State Event LogIn.Task Answer where
  handle state
    | .logInTapped emailText passwordText =>
        some (state, (LogIn.logInTapped emailText passwordText).1)
  resume state task answer :=
    if Authentic identity state.registered task answer then
      (LogIn.resume localizedDescription state.app.store task answer).map fun entry =>
        ({ state with
            app := { state.app with store := entry.outcome.store }
            presented := state.presented ++ entry.moves }, entry.outcome.next)
    else none

/-- The app and any number of log-ins over one store. -/
def program : Program State (App.Event ⊕ Event) (App.Task ⊕ LogIn.Task) Answer :=
  (app form identity).beside (logIn identity localizedDescription)

end Program

/-- Before the first account. -/
def State.empty : State := ⟨AppState.empty, [], []⟩

/-! ## What Auth allows -/

section Registration

variable {identity : String → String} {registered after : List Account} {task : App.Task}
  {answer : Answer}

/-- The account a request of the app creates when it is answered so. -/
def created? : App.Task → Answer → Option Account
  | .signUp (.createUser email password _), .created uid => some ⟨uid, email, password⟩
  | _, _ => none

/-- Auth adds an account whose address is new to it, or none. -/
theorem register_cases (answered : register identity registered task answer = some after) :
    (created? task answer = none ∧ after = registered) ∨
      ∃ account, created? task answer = some account ∧ after = account :: registered ∧
        ∀ other ∈ registered, ¬ other.Identified identity account.email := by
  unfold register at answered
  split at answered
  · next email password firstName uid =>
      split_ifs at answered with taken
      obtain rfl := Option.some.inj answered
      refine Or.inr ⟨⟨uid, email, password⟩, rfl, rfl, fun other member same => ?_⟩
      exact taken ⟨other, member, same⟩
  · next other =>
      obtain rfl := Option.some.inj answered
      refine Or.inl ⟨?_, rfl⟩
      unfold created?
      split
      · exact absurd rfl (other _ _ _ _ rfl)
      · rfl

end Registration

end Familog.App.Entrance
