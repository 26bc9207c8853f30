import Familog.MainPage.Timeline

/-!
Contract: `LogInViewController.logInTapped`.

Owns the sign-in, the query for the user documents with the email, and the page to
which each of them leads. The spinner of the tap is taken away by no branch but
the one of a failed sign-in.

Does not own Auth: the text of its error is a parameter.
-/

set_option autoImplicit false

namespace Familog.LogInPage.LogIn

open Firestore Swift MainPage

/-- What is left to do for one tap. -/
inductive Task where
  | signIn (email password : String)
  | getDocuments (email : String)

/-- The tap, with the texts of the two fields. -/
def logInTapped (emailText passwordText : String) : List Task × List Notice :=
  ([.signIn (trimmingCharacters emailText) (trimmingCharacters passwordText)],
    [.showing "Waiting..."])

/-- What one callback leaves behind: the pages it moves to besides the outcome. -/
structure Entry where
  moves : List Timeline.Screen
  outcome : Outcome Task

/-- The user documents with the email. -/
def documentsWith (store : Store) (email : String) : List Fields :=
  (store.users.documents.map Prod.snd).filter fun data =>
    decide (data.string? "email" = some email)

/-- The loop over the documents: the pages up to the first failed cast, and whether there
was one. -/
def forEach : List Fields → List Timeline.Screen × List Notice
  | [] => ([], [])
  | data :: rest =>
      match data.string? "familyId" with
      | none => ([], [.trap])
      | some familyId =>
          let screen := if familyId = "" then Timeline.Screen.familyPage else .tabBar
          (screen :: (forEach rest).1, (forEach rest).2)

/-- Run the callback of one step. -/
def resume (localizedDescription : String) (store : Store) : Task → Answer → Option Entry
  | .signIn _ _, .failed => some ⟨[], .ends store [.showError localizedDescription]⟩
  | .signIn email _, .succeeded => some ⟨[], .issues store [.getDocuments email]⟩
  | .getDocuments _, .failed => some ⟨[], .ends store []⟩
  | .getDocuments email, .succeeded =>
      let found := forEach (documentsWith store email)
      some ⟨found.1, .ends store found.2⟩
  | _, _ => none

/-- One constructor for each branch of the callbacks. -/
inductive Resumed (localizedDescription : String) (store : Store) :
    Task → Answer → Entry → Prop where
  | refused {email password} : Resumed localizedDescription store (.signIn email password) .failed
      ⟨[], .ends store [.showError localizedDescription]⟩
  | signedIn {email password} :
      Resumed localizedDescription store (.signIn email password) .succeeded
        ⟨[], .issues store [.getDocuments email]⟩
  | unread {email} :
      Resumed localizedDescription store (.getDocuments email) .failed ⟨[], .ends store []⟩
  | found {email} : Resumed localizedDescription store (.getDocuments email) .succeeded
      ⟨(forEach (documentsWith store email)).1,
        .ends store (forEach (documentsWith store email)).2⟩

section Cases

variable {localizedDescription : String} {store : Store} {task : Task} {answer : Answer}
  {entry : Entry}

theorem resumed_of_resume (resumed : resume localizedDescription store task answer = some entry) :
    Resumed localizedDescription store task answer entry := by
  cases task with
  | signIn email password =>
      cases answer with
      | failed =>
          obtain rfl := Option.some.inj resumed
          exact .refused
      | succeeded =>
          obtain rfl := Option.some.inj resumed
          exact .signedIn
      | _ => simp [resume] at resumed
  | getDocuments email =>
      cases answer with
      | failed =>
          obtain rfl := Option.some.inj resumed
          exact .unread
      | succeeded =>
          obtain rfl := Option.some.inj resumed
          exact .found
      | _ => simp [resume] at resumed

/-- The store is left alone, and only an accepted sign-in goes on. -/
theorem resume_cases (resumed : resume localizedDescription store task answer = some entry) :
    entry.outcome.store = store ∧ (entry.outcome.next = [] ∨
      ∃ email password, task = .signIn email password ∧ answer = .succeeded ∧
        entry.outcome.next = [.getDocuments email]) := by
  cases resumed_of_resume resumed with
  | refused | unread | found => exact ⟨rfl, Or.inl rfl⟩
  | signedIn => exact ⟨rfl, Or.inr ⟨_, _, rfl, rfl, rfl⟩⟩

end Cases

/-- The loop shows nothing; at most it ends in a failed cast. -/
theorem forEach_notices (documents : List Fields) :
    ∀ notice ∈ (forEach documents).2, notice = .trap := by
  induction documents with
  | nil => simp [forEach]
  | cons data rest ih =>
      simp only [forEach]
      split
      · simp
      · exact ih

/-- Where every document has its family id as a text, no cast fails. -/
theorem forEach_of_familyIds {documents : List Fields}
    (present : ∀ data ∈ documents, (data.string? "familyId").isSome) :
    (forEach documents).2 = [] := by
  induction documents with
  | nil => rfl
  | cons data rest ih =>
      obtain ⟨familyId, found⟩ := Option.isSome_iff_exists.mp (present data List.mem_cons_self)
      simp only [forEach, found]
      exact ih fun other member => present other (List.mem_cons_of_mem _ member)

end Familog.LogInPage.LogIn
