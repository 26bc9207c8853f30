import Familog.Store

/-!
Contract: `EditProfileViewController.saveBtn_TouchUpInside` and its `uploadAvatar`.

Owns the three fields that are written each on its own, without a completion
handler; the upload of a picked image, which is attempted only if the avatar has a
JPEG encoding, and whose URL is written in the same way; and the success text,
which is shown as soon as the last of these writes has been issued.

Does not own the date picker, nor the limit that the text view puts on the bio.
The number of characters of a text depends on the Unicode tables and is a
parameter.
-/

set_option autoImplicit false

namespace Familog.MainPage.EditProfile

open Firestore

/-- The texts of the three fields, whether an image was picked, and whether
`avatar.image?.jpegData` is there. -/
structure Form where
  name : String
  dateOfBirth : String
  bio : String
  selectImage : Bool
  encodes : Bool

/-- The writes of `setCurrentUser`, and the requests of `uploadAvatar`. -/
inductive Task where
  | updateData (field value : String)
  | putData
  | downloadURL

/-- What the tap writes: every field that was filled in, if the bio is not too long. -/
def writes (count : String → ℕ) (fields : Form) : List (String × String) :=
  (if 0 < count fields.name then [("firstname", fields.name)] else []) ++
    (if 0 < count fields.dateOfBirth then [("dob", fields.dateOfBirth)] else []) ++
    if 0 < count fields.bio ∧ count fields.bio < 40 then [("bio", fields.bio)] else []

/-- `uploadAvatar` up to its first request; `jpegData(compressionQuality:)!` traps where
there is no encoding. -/
def uploadAvatar (fields : Form) : List Task × List Notice :=
  if fields.encodes then ([.putData], [.showing "Waiting..."])
  else ([], [.showing "Waiting...", .trap])

/-- The tap. -/
def saveBtn_TouchUpInside (count : String → ℕ) (fields : Form) : List Task × List Notice :=
  let issued := (writes count fields).map fun entry => Task.updateData entry.1 entry.2
  if fields.selectImage then
    (issued ++ (uploadAvatar fields).1, .showing "Uploading..." :: (uploadAvatar fields).2)
  else (issued, [.showing "Uploading...", .showSuccess "Update Successfully"])

/-- Run the callback of one step; the acknowledgement of a `setCurrentUser` has none.
`downloadURL` is answered by the text of the URL, or by nil. -/
def resume (store : Store) (uid : Uid) : Task → Answer → Option (Outcome Task)
  | .updateData _ _, .failed => some (.ends store [])
  | .updateData field value, .succeeded =>
      (store.users.update? uid [(field, .string value)]).map fun users =>
        .ends { store with users := users } []
  | .putData, .failed => some (.ends store [])
  | .putData, .succeeded => some (.issues store [.downloadURL])
  | .downloadURL, .failed => some (.ends store [])
  | .downloadURL, .empty => some (.ends store [])
  | .downloadURL, .assigned absoluteString =>
      some ⟨store, [.updateData "profileImageUrl" absoluteString],
        [.showSuccess "Update Successfully"]⟩
  | _, _ => none

/-- The fields of a user document that the screen writes. -/
def fieldNames : List String := ["firstname", "dob", "bio", "profileImageUrl"]

theorem writes_fields {count : String → ℕ} {fields : Form} {entry : String × String}
    (written : entry ∈ writes count fields) : entry.1 ∈ fieldNames := by
  simp only [writes, List.mem_append] at written
  rcases written with (name | dob) | bio
  · split_ifs at name <;> simp_all [fieldNames]
  · split_ifs at dob <;> simp_all [fieldNames]
  · split_ifs at bio <;> simp_all [fieldNames]

/-- Whether a pending write of the screen is one of its own fields. -/
def Task.WritesField : Task → Prop
  | .updateData field _ => field ∈ fieldNames
  | _ => True

/-- Every request of the tap writes a field of the screen, if any. -/
theorem writesField_of_tapped {count : String → ℕ} {fields : Form} {task : Task}
    (issued : task ∈ (saveBtn_TouchUpInside count fields).1) : task.WritesField := by
  have written : ∀ other ∈ (writes count fields).map
      (fun entry => Task.updateData entry.1 entry.2), other.WritesField := by
    intro other inWrites
    obtain ⟨entry, inEntries, rfl⟩ := List.mem_map.mp inWrites
    exact writes_fields inEntries
  unfold saveBtn_TouchUpInside at issued
  split_ifs at issued with image
  · rcases List.mem_append.mp issued with field | avatar
    · exact written task field
    · unfold uploadAvatar at avatar
      split_ifs at avatar
      · rw [List.mem_singleton.mp avatar]
        exact trivial
      · simp at avatar
  · exact written task issued

/-! ## What a step can do -/

/-- One constructor for each branch of the callbacks. -/
inductive Resumed (store : Store) (uid : Uid) : Task → Answer → Outcome Task → Prop where
  | unwritten {field value} :
      Resumed store uid (.updateData field value) .failed (.ends store [])
  | written {field value data} : store.users.get? uid = some data →
      Resumed store uid (.updateData field value) .succeeded
        (.ends
          { store with
            users := store.users.set uid (data.merge [(field, .string value)]) } [])
  | unuploaded : Resumed store uid .putData .failed (.ends store [])
  | uploaded : Resumed store uid .putData .succeeded (.issues store [.downloadURL])
  | urlFailed : Resumed store uid .downloadURL .failed (.ends store [])
  | urlMissing : Resumed store uid .downloadURL .empty (.ends store [])
  | urlReceived {absoluteString} :
      Resumed store uid .downloadURL (.assigned absoluteString)
        ⟨store, [.updateData "profileImageUrl" absoluteString],
          [.showSuccess "Update Successfully"]⟩

theorem resumed_of_resume {store : Store} {uid : Uid} {task : Task} {answer : Answer}
    {outcome : Outcome Task} (resumed : resume store uid task answer = some outcome) :
    Resumed store uid task answer outcome := by
  cases task with
  | updateData field value =>
      cases answer with
      | failed =>
          obtain rfl := Option.some.inj resumed
          exact .unwritten
      | succeeded =>
          obtain ⟨users, updates, rfl⟩ := Option.map_eq_some_iff.mp resumed
          obtain ⟨data, found, rfl⟩ := Collection.update?_eq_some.mp updates
          exact .written found
      | _ => simp [resume] at resumed
  | putData =>
      cases answer with
      | failed =>
          obtain rfl := Option.some.inj resumed
          exact .unuploaded
      | succeeded =>
          obtain rfl := Option.some.inj resumed
          exact .uploaded
      | _ => simp [resume] at resumed
  | downloadURL =>
      cases answer with
      | failed =>
          obtain rfl := Option.some.inj resumed
          exact .urlFailed
      | empty =>
          obtain rfl := Option.some.inj resumed
          exact .urlMissing
      | assigned absoluteString =>
          obtain rfl := Option.some.inj resumed
          exact .urlReceived
      | _ => simp [resume] at resumed

/-- It leaves the store alone, or writes its one field. What it issues writes a field of
the screen, if any. -/
theorem resume_cases {store : Store} {uid : Uid} {task : Task} {answer : Answer}
    {outcome : Outcome Task} (resumed : resume store uid task answer = some outcome) :
    (∀ other ∈ outcome.next, other.WritesField) ∧
      (outcome.store = store ∨ ∃ field value data, task = .updateData field value ∧
        store.users.get? uid = some data ∧ outcome.store =
          { store with users := store.users.set uid (data.merge [(field, .string value)]) }) := by
  cases resumed_of_resume resumed with
  | unwritten | unuploaded | urlFailed | urlMissing =>
      exact ⟨by simp [Outcome.ends], Or.inl rfl⟩
  | written found => exact ⟨by simp [Outcome.ends], Or.inr ⟨_, _, _, rfl, found, rfl⟩⟩
  | uploaded => exact ⟨by simp [Outcome.issues, Task.WritesField], Or.inl rfl⟩
  | urlReceived => exact ⟨by simp [Task.WritesField, fieldNames], Or.inl rfl⟩

end Familog.MainPage.EditProfile
