import Familog.Store

/-!
Contract: `SignUpViewController.signUpTapped`.

Owns the validation of the four fields, the creation of the account and the
write of its Users document. The success text is shown whether or not that
write succeeded, as in the source.

Does not own the log-in that follows.
-/

set_option autoImplicit false

namespace Familog.LogInPage.SignUp

open Firestore Swift

/-- The texts of the four fields. -/
structure Form where
  name : String
  email : String
  password : String
  confirmedPassword : String

/-! ## Validation -/

def isLower (scalar : Char) : Bool := 'a' ≤ scalar && scalar ≤ 'z'

def isUpper (scalar : Char) : Bool := 'A' ≤ scalar && scalar ≤ 'Z'

def isDigit (scalar : Char) : Bool := '0' ≤ scalar && scalar ≤ '9'

/-- The scalars that `.` does not match. -/
def isLineTerminator (scalar : Char) : Bool :=
  let code := scalar.toNat
  (0x0A ≤ code && code ≤ 0x0D) || code == 0x85 || code == 0x2028 || code == 0x2029

/-- The look-ahead `(?=.*[class])`. -/
def lookAhead (inClass : Char → Bool) : List Char → Bool
  | [] => false
  | scalar :: rest => inClass scalar || (!isLineTerminator scalar && lookAhead inClass rest)

/-- `isPasswordValid`: a full match of
`^(?=.*[a-z])(?=.*[0-9])(?=.*[A-Z])[A-Za-z0-9]{8,}`. -/
def isPasswordValid (password : String) : Bool :=
  let scalars := password.toList
  lookAhead isLower scalars && lookAhead isDigit scalars && lookAhead isUpper scalars &&
    scalars.all (fun scalar => isUpper scalar || isLower scalar || isDigit scalar) &&
    decide (8 ≤ scalars.length)

/-- `validateFields`. -/
def validateFields (canonical : CanonicalForm) (fields : Form) : Option String :=
  if trimmingCharacters fields.name = "" ∨ trimmingCharacters fields.email = "" ∨
      trimmingCharacters fields.password = "" ∨
      trimmingCharacters fields.confirmedPassword = "" then
    some "Please fill all the fields!"
  else
    let password := trimmingCharacters fields.password
    let confirmedPassword := trimmingCharacters fields.confirmedPassword
    if isPasswordValid password = false then
      some "Please make sure your password at least 8 characters, contains at least one upcase letter and number!"
    else if ¬ canonical.Same password confirmedPassword then
      some " Please make sure that your passwords are same!"
    else none

/-! ## The tap -/

/-- What is left to do for one tap. -/
inductive Task where
  | createUser (email password firstName : String)
  | setData (uid : Uid) (data : Fields)

def signUpTapped (canonical : CanonicalForm) (fields : Form) : List Task × List Notice :=
  match validateFields canonical fields with
  | some error => ([], [.showing "Waiting...", .showError error])
  | none =>
      ([.createUser (trimmingCharacters fields.email) (trimmingCharacters fields.password)
          (trimmingCharacters fields.name)],
        [.showing "Waiting..."])

/-- Run the callback of one step, with the accounts Auth has created so far.
Auth never issues the uid of an existing account. -/
def resume (accounts : List Uid) (store : Store) : Task → Answer → Option (Outcome Task)
  | .createUser _ _ _, .failed =>
      some (.ends store
        [.showError "Creating user fail, Please try using a different email account"])
  | .createUser email _ firstName, .created uid =>
      if uid ∈ accounts then none
      else some (.issues store [.setData uid (userData email firstName uid)])
  | .setData _ _, .failed =>
      some (.ends store [.showError "Saving user data", .showSuccess "Sign Up Successfully"])
  | .setData uid data, .succeeded =>
      some (.ends { store with users := store.users.set uid data }
        [.showSuccess "Sign Up Successfully"])
  | _, _ => none

/-! ## What a step can do -/

/-- One constructor for each branch of the callbacks. -/
inductive Resumed (accounts : List Uid) (store : Store) : Task → Answer → Outcome Task → Prop where
  | refused {email password firstName} :
      Resumed accounts store (.createUser email password firstName) .failed
        (.ends store
          [.showError "Creating user fail, Please try using a different email account"])
  | created {email password firstName uid} : uid ∉ accounts →
      Resumed accounts store (.createUser email password firstName) (.created uid)
        (.issues store [.setData uid (userData email firstName uid)])
  | unsaved {uid data} : Resumed accounts store (.setData uid data) .failed
      (.ends store [.showError "Saving user data", .showSuccess "Sign Up Successfully"])
  | saved {uid data} : Resumed accounts store (.setData uid data) .succeeded
      (.ends { store with users := store.users.set uid data }
        [.showSuccess "Sign Up Successfully"])

theorem resumed_of_resume {accounts : List Uid} {store : Store} {task : Task} {answer : Answer}
    {outcome : Outcome Task} (resumed : resume accounts store task answer = some outcome) :
    Resumed accounts store task answer outcome := by
  cases task with
  | createUser email password firstName =>
      cases answer with
      | failed =>
          obtain rfl := Option.some.inj resumed
          exact .refused
      | created uid =>
          simp only [resume] at resumed
          split_ifs at resumed with known
          obtain rfl := Option.some.inj resumed
          exact .created known
      | _ => simp [resume] at resumed
  | setData uid data =>
      cases answer with
      | failed =>
          obtain rfl := Option.some.inj resumed
          exact .unsaved
      | succeeded =>
          obtain rfl := Option.some.inj resumed
          exact .saved
      | _ => simp [resume] at resumed

end Familog.LogInPage.SignUp
