import Familog.LogInPage.AppendFamily

/-!
Contract: `CreateFamilyViewController.createTapped`.

Owns the write of the Family document under the text of the id field, the write
of the channel under a fresh key, and the hand-over to the read-modify-write of
the user document. The channel write and the user document are independent
requests, issued when the Family write is acknowledged.

Does not own `randomString`, which only fills the field in beforehand: the id
is whatever text the field holds when the button is tapped.
-/

set_option autoImplicit false

namespace Familog.LogInPage.CreateFamily

open Firestore Swift

/-- What is left to do for one tap. -/
inductive Task where
  | setData (familyName familyId : String)
  | addDocument (familyName familyId : String)
  | append (familyId : String) (task : AppendFamily.Task)

def texts : AppendFamily.Texts where
  unreadable := "Can not get families!"
  unwritten := "Can not create this family!"
  done := "Create family successfully!"

/-- The tap, with the texts of the two fields. An id that is no document path
makes `REF_FAMILY.document` throw. -/
def createTapped (familyNameText familyIdText : String) : List Task × List Notice :=
  let familyName := trimmingCharacters familyNameText
  if familyName = "" then
    ([], [.showing "Waiting...", .showError "You must fill family name"])
  else
    match document? familyIdText with
    | none => ([], [.showing "Waiting...", .trap])
    | some _ => ([.setData familyName familyIdText], [.showing "Waiting..."])

/-- Run the callback of one step. -/
def resume (form : CanonicalForm) (store : Store) (uid : Uid) :
    Task → Answer → Option (Outcome Task)
  | .setData _ _, .failed => some (.ends store [.showError "Can not Creat this family!"])
  | .setData familyName familyId, .succeeded =>
      (document? familyId).map fun path =>
        .issues { store with families := store.families.set path (familyData familyName familyId) }
          [.addDocument familyName familyId, .append familyId .getDocument]
  | .addDocument _ _, .failed => some (.ends store [])
  | .addDocument familyName familyId, .assigned key =>
      match store.channels.get? key with
      | some _ => none
      | none =>
          let channel : Channel := ⟨some familyId, familyName⟩
          some (.ends
            { store with channels := store.channels.set key channel.representation } [])
  | .append familyId task, answer =>
      (AppendFamily.resume form texts store uid familyId task answer).map
        (Outcome.lift (.append familyId))
  | _, _ => none

/-! ## What a step can do -/

/-- One constructor for each branch of the callbacks. -/
inductive Resumed (form : CanonicalForm) (store : Store) (uid : Uid) :
    Task → Answer → Outcome Task → Prop where
  | unsaved {familyName familyId} : Resumed form store uid (.setData familyName familyId) .failed
      (.ends store [.showError "Can not Creat this family!"])
  | saved {familyName familyId path} : document? familyId = some path →
      Resumed form store uid (.setData familyName familyId) .succeeded
        (.issues
          { store with families := store.families.set path (familyData familyName familyId) }
          [.addDocument familyName familyId, .append familyId .getDocument])
  | channelUnsaved {familyName familyId} :
      Resumed form store uid (.addDocument familyName familyId) .failed (.ends store [])
  | channelAdded {familyName familyId key} : store.channels.get? key = none →
      Resumed form store uid (.addDocument familyName familyId) (.assigned key)
        (.ends
          { store with
            channels := store.channels.set key
              (Channel.representation ⟨some familyId, familyName⟩) } [])
  | appended {familyId task answer outcome} :
      AppendFamily.resume form texts store uid familyId task answer = some outcome →
      Resumed form store uid (.append familyId task) answer (outcome.lift (.append familyId))

/-- A callback runs exactly through one of its branches. -/
theorem resume_eq_some {form : CanonicalForm} {store : Store} {uid : Uid} {task : Task}
    {answer : Answer} {outcome : Outcome Task} :
    resume form store uid task answer = some outcome ↔
      Resumed form store uid task answer outcome := by
  constructor
  · intro resumed
    cases task with
    | setData familyName familyId =>
        cases answer with
        | failed =>
            obtain rfl := Option.some.inj resumed
            exact .unsaved
        | succeeded =>
            obtain ⟨path, named, rfl⟩ := Option.map_eq_some_iff.mp resumed
            exact .saved named
        | _ => simp [resume] at resumed
    | addDocument familyName familyId =>
        cases answer with
        | failed =>
            obtain rfl := Option.some.inj resumed
            exact .channelUnsaved
        | assigned key =>
            simp only [resume] at resumed
            split at resumed
            · simp at resumed
            · next free =>
                obtain rfl := Option.some.inj resumed
                exact .channelAdded free
        | _ => simp [resume] at resumed
    | append familyId task =>
        obtain ⟨result, ran, rfl⟩ := Option.map_eq_some_iff.mp resumed
        exact .appended ran
  · intro resumed
    cases resumed with
    | unsaved | channelUnsaved => rfl
    | saved named => simp [resume, named]
    | channelAdded free => simp [resume, free]
    | appended ran => simp [resume, ran]

end Familog.LogInPage.CreateFamily
