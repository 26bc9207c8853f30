import Familog.Store

/-!
Contract: `UploadViewController.shareTapped`, its `getFamilyId` and
`uploadToFirebase`.

Owns the two checks of the button, the read of the user document whose
`familyId` is copied into the post, the upload, and the write of the post. The
copy is not checked: an empty `familyId` is uploaded like any other.

Does not own the placeholder of the description field.
-/

set_option autoImplicit false

namespace Familog.MainPage.Upload

open Firestore Swift

/-- What is left to do for one tap. -/
inductive Task where
  | getFamilyId
  | putData (familyId : String)
  | downloadURL (familyId : String)
  | visionRequest (familyId : String)
  | setData (id : String) (data : Fields)

/-- The `familyId` a pending upload carries on its way to the post. -/
def carried? : Task → Option String
  | .putData familyId => some familyId
  | .downloadURL familyId => some familyId
  | .visionRequest familyId => some familyId
  | _ => none

/-- The tap, with the picked photo and the text of the description field. -/
def shareTapped (canonical : CanonicalForm) (picked : Bool) (descriptionText : String) :
    List Task × List Notice :=
  if picked = false then ([], [.showError "You must pick one Photo"])
  else if canonical.Same (trimmingCharacters descriptionText) "Describe your artifacts..." then
    ([], [.showError "You must fill description"])
  else ([.getFamilyId], [])

/-- Run the callback of one step. `putData` is answered by nil when the photo has
no JPEG encoding: the upload is then not attempted and the spinner stays. The
vision request answers inside the callback of the download URL; without a
classification nothing more happens. -/
def resume (store : Store) (uid : Uid) : Task → Answer → Option (Outcome Task)
  | .getFamilyId, .failed => some (.ends store [])
  | .getFamilyId, .succeeded =>
      match store.users.get? uid with
      | none => some (.ends store [])
      | some data =>
          match data.string? "familyId" with
          | none => some (.ends store [.trap])
          | some familyId =>
              some ⟨store, [.putData familyId], [.showing "Uploading..."]⟩
  | .putData _, .empty => some (.ends store [])
  | .putData _, .failed => some (.ends store [.showError "Failed to upload"])
  | .putData familyId, .succeeded => some (.issues store [.downloadURL familyId])
  | .downloadURL _, .failed => some (.ends store [.showError "Failed to upload"])
  | .downloadURL _, .empty => some (.ends store [.showError "Failed to upload"])
  | .downloadURL familyId, .succeeded => some (.issues store [.visionRequest familyId])
  | .visionRequest _, .failed => some (.ends store [])
  | .visionRequest familyId, .classified draft id =>
      some (.issues store [.setData id
        (postData { draft with description := trimmingCharacters draft.description }
          id uid familyId)])
  | .setData _ _, .failed => some (.ends store [.showError "Failed to upload"])
  | .setData id data, .succeeded =>
      match store.posts.get? id with
      | some _ => none
      | none =>
          some (.ends { store with posts := store.posts.set id data }
            [.showSuccess "Upload Successfully"])
  | _, _ => none

/-! ## What a step can do -/

/-- One constructor for each branch of the callbacks. -/
inductive Resumed (store : Store) (uid : Uid) : Task → Answer → Outcome Task → Prop where
  | unread : Resumed store uid .getFamilyId .failed (.ends store [])
  | missing : store.users.get? uid = none →
      Resumed store uid .getFamilyId .succeeded (.ends store [])
  | trapped {data} : store.users.get? uid = some data → data.string? "familyId" = none →
      Resumed store uid .getFamilyId .succeeded (.ends store [.trap])
  | read {data familyId} : store.users.get? uid = some data →
      data.string? "familyId" = some familyId →
      Resumed store uid .getFamilyId .succeeded
        ⟨store, [.putData familyId], [.showing "Uploading..."]⟩
  | unencoded {familyId} : Resumed store uid (.putData familyId) .empty (.ends store [])
  | unuploaded {familyId} :
      Resumed store uid (.putData familyId) .failed (.ends store [.showError "Failed to upload"])
  | uploaded {familyId} :
      Resumed store uid (.putData familyId) .succeeded (.issues store [.downloadURL familyId])
  | urlFailed {familyId} : Resumed store uid (.downloadURL familyId) .failed
      (.ends store [.showError "Failed to upload"])
  | urlMissing {familyId} : Resumed store uid (.downloadURL familyId) .empty
      (.ends store [.showError "Failed to upload"])
  | urlReceived {familyId} : Resumed store uid (.downloadURL familyId) .succeeded
      (.issues store [.visionRequest familyId])
  | unclassified {familyId} :
      Resumed store uid (.visionRequest familyId) .failed (.ends store [])
  | classified {familyId draft id} :
      Resumed store uid (.visionRequest familyId) (.classified draft id)
        (.issues store [.setData id
          (postData { draft with description := trimmingCharacters draft.description }
            id uid familyId)])
  | unsaved {id data} :
      Resumed store uid (.setData id data) .failed (.ends store [.showError "Failed to upload"])
  | saved {id data} : store.posts.get? id = none →
      Resumed store uid (.setData id data) .succeeded
        (.ends { store with posts := store.posts.set id data }
          [.showSuccess "Upload Successfully"])

theorem resumed_of_resume {store : Store} {uid : Uid} {task : Task} {answer : Answer}
    {outcome : Outcome Task} (resumed : resume store uid task answer = some outcome) :
    Resumed store uid task answer outcome := by
  cases task with
  | getFamilyId =>
      cases answer with
      | failed =>
          obtain rfl := Option.some.inj resumed
          exact .unread
      | succeeded =>
          simp only [resume] at resumed
          split at resumed
          · next absent =>
              obtain rfl := Option.some.inj resumed
              exact .missing absent
          · next data found =>
              split at resumed
              · next unreadable =>
                  obtain rfl := Option.some.inj resumed
                  exact .trapped found unreadable
              · next familyId stored =>
                  obtain rfl := Option.some.inj resumed
                  exact .read found stored
      | _ => simp [resume] at resumed
  | putData familyId =>
      cases answer with
      | empty =>
          obtain rfl := Option.some.inj resumed
          exact .unencoded
      | failed =>
          obtain rfl := Option.some.inj resumed
          exact .unuploaded
      | succeeded =>
          obtain rfl := Option.some.inj resumed
          exact .uploaded
      | _ => simp [resume] at resumed
  | downloadURL familyId =>
      cases answer with
      | failed =>
          obtain rfl := Option.some.inj resumed
          exact .urlFailed
      | empty =>
          obtain rfl := Option.some.inj resumed
          exact .urlMissing
      | succeeded =>
          obtain rfl := Option.some.inj resumed
          exact .urlReceived
      | _ => simp [resume] at resumed
  | visionRequest familyId =>
      cases answer with
      | failed =>
          obtain rfl := Option.some.inj resumed
          exact .unclassified
      | classified draft id =>
          obtain rfl := Option.some.inj resumed
          exact .classified
      | _ => simp [resume] at resumed
  | setData id data =>
      cases answer with
      | failed =>
          obtain rfl := Option.some.inj resumed
          exact .unsaved
      | succeeded =>
          simp only [resume] at resumed
          split at resumed
          · simp at resumed
          · next free =>
              obtain rfl := Option.some.inj resumed
              exact .saved free
      | _ => simp [resume] at resumed

/-- What a callback of an upload does: it changes no document and issues no write, or it
issues the write of the post that has been classified, or it writes the post. -/
theorem resume_cases {store : Store} {uid : Uid} {task : Task} {answer : Answer}
    {outcome : Outcome Task} (resumed : resume store uid task answer = some outcome) :
    (outcome.store = store ∧ (∀ id data, .setData id data ∉ outcome.next) ∧
        ∀ draft id, answer ≠ .classified draft id) ∨
      (∃ familyId draft id, task = .visionRequest familyId ∧ answer = .classified draft id ∧
        outcome.store = store ∧ outcome.next = [.setData id
          (postData { draft with description := trimmingCharacters draft.description }
            id uid familyId)]) ∨
      ∃ id data, task = .setData id data ∧ answer = .succeeded ∧
        outcome.store = { store with posts := store.posts.set id data } ∧ outcome.next = [] := by
  cases resumed_of_resume resumed with
  | classified => exact Or.inr (Or.inl ⟨_, _, _, rfl, rfl, rfl, rfl⟩)
  | saved _ => exact Or.inr (Or.inr ⟨_, _, rfl, rfl, rfl, rfl⟩)
  | _ => exact Or.inl ⟨rfl, by simp [Outcome.ends, Outcome.issues], by simp⟩

end Familog.MainPage.Upload
