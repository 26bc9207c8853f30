import Familog.LogInPage.AppendFamily

/-!
Contract: `JoinFamilyViewController.joinTapped`.

Owns the trimmed id, the check that a Family document of that id is listed, and
the hand-over to the read-modify-write of the user document.

Does not own the move to the timeline after a success.
-/

set_option autoImplicit false

namespace Familog.LogInPage.JoinFamily

open Firestore Swift

/-- What is left to do for one tap. -/
inductive Task where
  | getDocuments (familyId : String)
  | append (familyId : String) (task : AppendFamily.Task)

def texts : AppendFamily.Texts where
  unreadable := "Can not get familys!"
  unwritten := "Can not join this family!"
  done := "Join family successfully!"

/-- The tap, with the text of the family id field. -/
def joinTapped (familyIdText : String) : List Task × List Notice :=
  let familyId := trimmingCharacters familyIdText
  if familyId = "" then ([], [.showing "Waiting...", .showError "Please enter family!"])
  else ([.getDocuments familyId], [.showing "Waiting..."])

/-- Run the callback of one step. -/
def resume (form : CanonicalForm) (store : Store) (uid : Uid) :
    Task → Answer → Option (Outcome Task)
  | .getDocuments _, .failed => some (.ends store [])
  | .getDocuments familyId, .succeeded =>
      if form.Contains store.familyIDs familyId then
        some (.issues store [.append familyId .getDocument])
      else some (.ends store [.showError "Can not find this family!"])
  | .append familyId task, answer =>
      (AppendFamily.resume form texts store uid familyId task answer).map
        (Outcome.lift (.append familyId))
  | _, _ => none

/-! ## What a step can do -/

/-- One constructor for each branch of the callbacks. -/
inductive Resumed (form : CanonicalForm) (store : Store) (uid : Uid) :
    Task → Answer → Outcome Task → Prop where
  | unread {familyId} :
      Resumed form store uid (.getDocuments familyId) .failed (.ends store [])
  | listed {familyId} : form.Contains store.familyIDs familyId →
      Resumed form store uid (.getDocuments familyId) .succeeded
        (.issues store [.append familyId .getDocument])
  | unlisted {familyId} : ¬ form.Contains store.familyIDs familyId →
      Resumed form store uid (.getDocuments familyId) .succeeded
        (.ends store [.showError "Can not find this family!"])
  | appended {familyId task answer outcome} :
      AppendFamily.resume form texts store uid familyId task answer = some outcome →
      Resumed form store uid (.append familyId task) answer (outcome.lift (.append familyId))

/-- A callback runs exactly through one of its branches. -/
theorem resume_eq_some {form : CanonicalForm} {store : Store} {uid : Uid} {task : Task}
    {answer : Answer} {outcome : Outcome Task} :
    resume form store uid task answer = some outcome ↔
      Resumed form store uid task answer outcome := by
  constructor
  · intro resumed
    cases task with
    | getDocuments familyId =>
        cases answer with
        | failed =>
            obtain rfl := Option.some.inj resumed
            exact .unread
        | succeeded =>
            simp only [resume] at resumed
            split_ifs at resumed with inList
            · obtain rfl := Option.some.inj resumed
              exact .listed inList
            · obtain rfl := Option.some.inj resumed
              exact .unlisted inList
        | _ => simp [resume] at resumed
    | append familyId task =>
        obtain ⟨result, ran, rfl⟩ := Option.map_eq_some_iff.mp resumed
        exact .appended ran
  · intro resumed
    cases resumed with
    | unread => rfl
    | listed inList => simp [resume, inList]
    | unlisted absent => simp [resume, absent]
    | appended ran => simp [resume, ran]

end Familog.LogInPage.JoinFamily
