import Familog.Membership.Growth
import Familog.Users.Alike

/-!
Contract: one tap on the save button of the profile editor, amid joining, creating and
switching.

Owns what the tap is to write, the text of each field that was filled in and the URL of
the picked image, and when it has been acknowledged. Owns the invariant that ties the
answers so far to the user document: each of the four fields holds what was acknowledged
for it, or what it held before the tap. Owns the theorem that every interleaving leaves
these four fields so and all others as the other operations leave them alone.

Does not own a second tap, nor the screen after it.
-/

set_option autoImplicit false

namespace Familog.Users

open App Async Firestore Swift LogInPage MainPage

/-! ## What is written, and what is acknowledged -/

section NewValues

variable (count : String → ℕ) (fields : EditProfile.Form)
  (past : List (EditProfile.Task × Answer))

/-- The value that a field is to get: the text of a field that was filled in, for the bio
one of at most 39 characters, or the URL of the picked image once it has been uploaded. -/
inductive NewValue : String → String → Prop where
  | firstname : 0 < count fields.name → NewValue "firstname" fields.name
  | dob : 0 < count fields.dateOfBirth → NewValue "dob" fields.dateOfBirth
  | bio : 1 ≤ count fields.bio → count fields.bio ≤ 39 → NewValue "bio" fields.bio
  | profileImageUrl {url} : fields.selectImage = true → (.putData, .succeeded) ∈ past →
      (.downloadURL, .assigned url) ∈ past → NewValue "profileImageUrl" url

/-- The write of a value to a field has succeeded. -/
def Acknowledged (field value : String) : Prop := (.updateData field value, .succeeded) ∈ past

end NewValues

section Requests

variable {count : String → ℕ} {fields : EditProfile.Form}
  {past : List (EditProfile.Task × Answer)} {requests : List EditProfile.Task}

theorem NewValue.field_mem {field value : String} (new : NewValue count fields past field value) :
    field ∈ EditProfile.fieldNames := by
  cases new <;> decide

/-- The texts that the tap writes are the new values of the other three fields. -/
theorem mem_writes_iff {field value : String} (other : field ≠ "profileImageUrl") :
    (field, value) ∈ EditProfile.writes count fields ↔
      NewValue count fields past field value := by
  constructor
  · intro written
    simp only [EditProfile.writes, List.mem_append] at written
    rcases written with (name | date) | text
    · split_ifs at name with filled
      · obtain ⟨rfl, rfl⟩ := Prod.mk.inj (List.mem_singleton.mp name)
        exact .firstname filled
      · simp at name
    · split_ifs at date with filled
      · obtain ⟨rfl, rfl⟩ := Prod.mk.inj (List.mem_singleton.mp date)
        exact .dob filled
      · simp at date
    · split_ifs at text with filled
      · obtain ⟨rfl, rfl⟩ := Prod.mk.inj (List.mem_singleton.mp text)
        exact .bio filled.1 (Nat.le_of_lt_succ filled.2)
      · simp at text
  · intro new
    cases new with
    | firstname filled => simp [EditProfile.writes, filled]
    | dob filled => simp [EditProfile.writes, filled]
    | bio filled short =>
        simp [EditProfile.writes, Nat.lt_of_succ_le filled, Nat.lt_succ_of_le short]
    | profileImageUrl picked uploaded assigned => exact absurd rfl other

/-- What a request is for: the field that it writes, or a step of the upload. -/
def slot : EditProfile.Task → String
  | .updateData field _ => field
  | .putData => "putData"
  | .downloadURL => "downloadURL"

/-- All requests so far, with the answers so far: no two are for the same, the texts of the
form are written, and the steps of the upload follow one another. -/
structure Requested (count : String → ℕ) (fields : EditProfile.Form)
    (past : List (EditProfile.Task × Answer)) (requests : List EditProfile.Task) : Prop where
  distinct : (requests.map slot).Nodup
  answered : ∀ entry ∈ past, entry.1 ∈ requests
  texts : ∀ field value, field ≠ "profileImageUrl" →
    (.updateData field value ∈ requests ↔ (field, value) ∈ EditProfile.writes count fields)
  upload : .putData ∈ requests → fields.selectImage = true
  url : .downloadURL ∈ requests → (.putData, .succeeded) ∈ past
  image : ∀ url, .updateData "profileImageUrl" url ∈ requests ↔
    (.downloadURL, .assigned url) ∈ past

namespace Requested

theorem perm (requested : Requested count fields past requests) {others : List EditProfile.Task}
    (same : others.Perm requests) : Requested count fields past others where
  distinct := (same.map slot).nodup_iff.mpr requested.distinct
  answered entry member := same.mem_iff.mpr (requested.answered entry member)
  texts field value other := same.mem_iff.trans (requested.texts field value other)
  upload member := requested.upload (same.mem_iff.mp member)
  url member := requested.url (same.mem_iff.mp member)
  image url := same.mem_iff.trans (requested.image url)

/-- The writes that are requested are those of the new values. -/
theorem mem_iff_newValue (requested : Requested count fields past requests)
    {field value : String} :
    .updateData field value ∈ requests ↔ NewValue count fields past field value := by
  by_cases image : field = "profileImageUrl"
  · constructor
    · intro written
      subst image
      have assigned := (requested.image value).mp written
      have uploaded := requested.url (requested.answered _ assigned)
      exact .profileImageUrl (requested.upload (requested.answered _ uploaded)) uploaded assigned
    · intro new
      cases new with
      | profileImageUrl picked uploaded assigned => exact (requested.image value).mpr assigned
      | _ => exact absurd image (by decide)
  · rw [requested.texts field value image, mem_writes_iff image]

/-- Only one value is written to a field. -/
theorem unique (requested : Requested count fields past requests) {field value other : String}
    (member : .updateData field value ∈ requests) (also : .updateData field other ∈ requests) :
    value = other :=
  (EditProfile.Task.updateData.inj
    (List.inj_on_of_nodup_map requested.distinct member also rfl)).2

end Requested

/-! ## The requests of the tap -/

private theorem ite_sublist {Item : Type*} (condition : Prop) [Decidable condition]
    (items : List Item) : (if condition then items else []).Sublist items := by
  split_ifs
  · exact List.Sublist.refl items
  · exact List.nil_sublist items

theorem fields_of_writes (count : String → ℕ) (fields : EditProfile.Form) :
    ((EditProfile.writes count fields).map Prod.fst).Sublist ["firstname", "dob", "bio"] :=
  (((ite_sublist _ [("firstname", fields.name)]).append
    (ite_sublist _ [("dob", fields.dateOfBirth)])).append
      (ite_sublist _ [("bio", fields.bio)])).map Prod.fst

/-- The writes of the texts, and the upload of an image that was picked and encodes. -/
theorem tapped_eq (count : String → ℕ) (fields : EditProfile.Form) :
    (EditProfile.saveBtn_TouchUpInside count fields).1 =
      (EditProfile.writes count fields).map (fun entry => .updateData entry.1 entry.2) ++
        if fields.selectImage = true ∧ fields.encodes = true then [.putData] else [] := by
  unfold EditProfile.saveBtn_TouchUpInside EditProfile.uploadAvatar
  cases fields.selectImage <;> cases fields.encodes <;> simp

theorem requested_tapped (count : String → ℕ) (fields : EditProfile.Form) :
    Requested count fields [] (EditProfile.saveBtn_TouchUpInside count fields).1 := by
  rw [tapped_eq]
  generalize written : EditProfile.writes count fields = texts
  have names := fields_of_writes count fields
  rw [written] at names
  have mem_texts : ∀ field value, .updateData field value ∈ texts.map
      (fun entry => EditProfile.Task.updateData entry.1 entry.2) ++
        (if fields.selectImage = true ∧ fields.encodes = true then [.putData] else []) ↔
      (field, value) ∈ texts := by
    intro field value
    split_ifs <;> simp
  constructor
  · have slots : texts.map (slot ∘ fun entry => .updateData entry.1 entry.2) =
        texts.map Prod.fst := rfl
    have all : (["firstname", "dob", "bio"] ++ ["putData"]).Nodup := by decide
    rw [List.map_append, List.map_map, slots]
    refine (names.append ?_).nodup all
    split_ifs <;> simp [slot]
  · simp
  · intro field value _
    rw [mem_texts, written]
  · intro member
    split_ifs at member with picked
    · exact picked.1
    · simp at member
  · intro member
    split_ifs at member <;> simp at member
  · intro url
    rw [mem_texts]
    refine iff_of_false (fun member => ?_) (by simp)
    have named : "profileImageUrl" ∈ ["firstname", "dob", "bio"] :=
      names.subset (List.mem_map_of_mem member)
    exact absurd named (by decide)

/-! ## Answers to the requests -/

namespace Requested

variable {task : EditProfile.Task} {answer : Answer}

/-- A request that waits has not been answered. -/
theorem fresh {pool : Pool EditProfile.Task} {ticket : ℕ}
    (requested : Requested count fields past (asked pool past))
    (found : pool.find? ticket = some task) (answer : Answer) : (task, answer) ∉ past := by
  intro answered
  have distinct := requested.distinct
  rw [asked, List.map_append, List.nodup_append] at distinct
  exact distinct.2.2 _ (List.mem_map_of_mem (Pool.mem_tasks_of_find? found)) _
    (List.mem_map_of_mem (List.mem_map_of_mem answered)) rfl

/-- One more answer, and what is requested then. -/
theorem extend (requested : Requested count fields past requests) {new : List EditProfile.Task}
    (pending : task ∈ requests) (single : (new.map slot).Nodup)
    (distinct : ∀ request ∈ new, slot request ∉ requests.map slot)
    (noText : ∀ field value, .updateData field value ∈ new → field = "profileImageUrl")
    (noUpload : .putData ∉ new)
    (url : .downloadURL ∈ new → (task, answer) = (.putData, .succeeded))
    (image : ∀ url, .updateData "profileImageUrl" url ∈ new ↔
      (.downloadURL, .assigned url) = (task, answer)) :
    Requested count fields (past ++ [(task, answer)]) (requests ++ new) where
  distinct := by
    rw [List.map_append, List.nodup_append]
    refine ⟨requested.distinct, single, ?_⟩
    rintro _ old _ fresh rfl
    obtain ⟨request, member, isSlot⟩ := List.mem_map.mp fresh
    exact distinct request member (isSlot ▸ old)
  answered entry member := by
    rcases List.mem_append.mp member with old | here
    · exact List.mem_append_left _ (requested.answered entry old)
    · rw [List.mem_singleton.mp here]
      exact List.mem_append_left _ pending
  texts field value other := by
    rw [← requested.texts field value other, List.mem_append]
    exact or_iff_left fun member => other (noText field value member)
  upload member := requested.upload ((List.mem_append.mp member).resolve_right noUpload)
  url member := by
    rcases List.mem_append.mp member with old | fresh
    · exact List.mem_append_left _ (requested.url old)
    · simp [url fresh]
  image url := by
    rw [List.mem_append, List.mem_append, List.mem_singleton, requested.image, image]

/-- The URL of the image is asked for only once. -/
theorem slot_downloadURL (requested : Requested count fields past requests)
    (notAsked : .downloadURL ∉ requests) : "downloadURL" ∉ requests.map slot := by
  intro member
  obtain ⟨request, member, isSlot⟩ := List.mem_map.mp member
  cases request with
  | updateData field value =>
      obtain rfl : field = "downloadURL" := isSlot
      exact absurd (requested.mem_iff_newValue.mp member).field_mem (by decide)
  | putData => exact absurd isSlot (by decide)
  | downloadURL => exact notAsked member

/-- It is written only once. -/
theorem slot_profileImageUrl (requested : Requested count fields past requests)
    (notAssigned : ∀ url, (.downloadURL, .assigned url) ∉ past) :
    "profileImageUrl" ∉ requests.map slot := by
  intro member
  obtain ⟨request, member, isSlot⟩ := List.mem_map.mp member
  cases request with
  | updateData field value =>
      obtain rfl : field = "profileImageUrl" := isSlot
      exact notAssigned value ((requested.image value).mp member)
  | putData | downloadURL => exact absurd isSlot (by decide)

/-- Every answer keeps all this. -/
theorem resumed {store : Store} {uid : Uid} {outcome : Outcome EditProfile.Task}
    (requested : Requested count fields past requests) (pending : task ∈ requests)
    (fresh : ∀ answer, (task, answer) ∉ past)
    (ran : EditProfile.resume store uid task answer = some outcome) :
    Requested count fields (past ++ [(task, answer)]) (requests ++ outcome.next) := by
  have silent : outcome.next = [] → (∀ url, (.downloadURL, .assigned url) ≠ (task, answer)) →
      Requested count fields (past ++ [(task, answer)]) (requests ++ outcome.next) := by
    intro nothing notAssigned
    rw [nothing]
    exact requested.extend pending (by simp) (by simp) (by simp) (by simp) (by simp)
      fun url => iff_of_false (by simp) (notAssigned url)
  cases EditProfile.resumed_of_resume ran with
  | unwritten | written _ | unuploaded | urlFailed | urlMissing => exact silent rfl (by simp)
  | uploaded =>
      have notAsked : .downloadURL ∉ requests := fun member =>
        fresh .succeeded (requested.url member)
      refine requested.extend pending ?_ ?_ ?_ ?_ ?_ ?_
      · simp [Outcome.issues]
      · intro request member
        rw [List.mem_singleton.mp member]
        exact requested.slot_downloadURL notAsked
      all_goals simp [Outcome.issues]
  | urlReceived =>
      refine requested.extend pending ?_ ?_ ?_ ?_ ?_ ?_
      · simp
      · intro request member
        rw [List.mem_singleton.mp member]
        exact requested.slot_profileImageUrl fun url => fresh (.assigned url)
      all_goals simp

end Requested

end Requests

/-! ## The document -/

/-- In each field of the editor the document holds a value that has been acknowledged, or
what it held before, if none has been. -/
def Holds (before : Fields) (past : List (EditProfile.Task × Answer)) (data : Fields) : Prop :=
  ∀ field ∈ EditProfile.fieldNames,
    (∃ value, Acknowledged past field value ∧ data field = some (.string value)) ∨
      (∀ value, ¬ Acknowledged past field value) ∧ data field = before field

/-- The same in the fields of the editor. -/
def SameProfile (left right : Fields) : Prop :=
  ∀ field ∈ EditProfile.fieldNames, right field = left field

namespace Holds

variable {before data : Fields} {past : List (EditProfile.Task × Answer)}

theorem of_same {other : Fields} (holds : Holds before past data)
    (same : SameProfile data other) : Holds before past other := by
  intro field own
  rw [same field own]
  exact holds field own

/-- What is said of one field stays true of it when something else is answered. -/
theorem keep {field : String} {entry : EditProfile.Task × Answer} {other : Fields}
    (here : (∃ value, Acknowledged past field value ∧ data field = some (.string value)) ∨
      (∀ value, ¬ Acknowledged past field value) ∧ data field = before field)
    (elsewhere : ∀ value, (.updateData field value, .succeeded) ≠ entry)
    (same : other field = data field) :
    (∃ value, Acknowledged (past ++ [entry]) field value ∧
        other field = some (.string value)) ∨
      (∀ value, ¬ Acknowledged (past ++ [entry]) field value) ∧ other field = before field := by
  rw [same]
  rcases here with ⟨value, acknowledged, written⟩ | ⟨none, kept⟩
  · exact Or.inl ⟨value, List.mem_append_left _ acknowledged, written⟩
  · refine Or.inr ⟨fun value acknowledged => ?_, kept⟩
    rcases List.mem_append.mp acknowledged with old | new
    · exact none value old
    · exact elsewhere value (List.mem_singleton.mp new)

/-- An answer that acknowledges nothing. -/
theorem answered (holds : Holds before past data) {entry : EditProfile.Task × Answer}
    (other : ∀ field value, (.updateData field value, .succeeded) ≠ entry) :
    Holds before (past ++ [entry]) data :=
  fun field own => keep (holds field own) (other field) rfl

/-- An answer that acknowledges a write, with what it writes. -/
theorem acknowledged (holds : Holds before past data) (field value : String) :
    Holds before (past ++ [(.updateData field value, .succeeded)])
      (data.merge [(field, .string value)]) := by
  intro name own
  by_cases same : name = field
  · subst same
    refine Or.inl ⟨value, ?_, ?_⟩
    · simp [Acknowledged]
    · rw [Fields.merge_cons, Fields.merge_nil, Function.update_self]
  · refine keep (holds name own) ?_ ?_
    · intro other equal
      exact same (EditProfile.Task.updateData.inj (Prod.mk.inj equal).1).1
    · exact Fields.merge_other fun entry member => by
        rw [List.mem_singleton.mp member]
        exact fun equal => same equal.symm

end Holds

/-- Every answer to the editor does one or the other. -/
theorem holds_of_resume {before data : Fields} {past : List (EditProfile.Task × Answer)}
    {store : Store} {uid : Uid} {task : EditProfile.Task} {answer : Answer}
    {outcome : Outcome EditProfile.Task} (stored : store.users.get? uid = some data)
    (holds : Holds before past data)
    (ran : EditProfile.resume store uid task answer = some outcome) :
    ∃ after, outcome.store.users.get? uid = some after ∧
      Holds before (past ++ [(task, answer)]) after := by
  cases EditProfile.resumed_of_resume ran with
  | @written field value found there =>
      obtain rfl := Option.some.inj (stored.symm.trans there)
      refine ⟨_, ?_, holds.acknowledged field value⟩
      simp [Outcome.ends]
  | unwritten | unuploaded | uploaded | urlFailed | urlMissing | urlReceived =>
      exact ⟨data, stored, holds.answered (by simp)⟩

/-! ## The other operations -/

section Choosing

variable {form : CanonicalForm} {state next : AppState} {new : List App.Task}

/-- A tap on a screen that chooses a family writes nothing, and requests of such screens
follow. -/
theorem chosen_handle {event : App.Event} (chooses : Saving.Chooses event)
    (handled : App.handle form state event = some (next, new)) :
    next.toData = state.toData ∧ ∀ task ∈ new, Saving.ChoosesFor task := by
  obtain ⟨asked, same, _⟩ := handle_asked handled
  refine ⟨same, ?_⟩
  generalize state.toData = data at asked
  cases asked with
  | signUp | launch | refresh | share => exact chooses.elim
  | _ => simp [Saving.ChoosesFor]

section Effects

variable {data data' : Data} {task : App.Task} {answer : Answer}
  {reports : List (Uid × String)}

theorem chooses_of_effect (chooses : Saving.ChoosesFor task)
    (effect : Effect form data task answer data' new reports) :
    ∀ other ∈ new, Saving.ChoosesFor other := by
  cases effect with
  | userRead _ _ goesOn | arrayMade _ _ _ goesOn =>
      exact forall_mem_append goesOn (fun _ _ _ => trivial) fun _ _ _ => trivial
  | userListened _ => exact forall_mem_listeners trivial fun _ _ => trivial
  | accountCreated | userSaved | currentUserRead | postsRead | familyIdRead | uploading |
      postDescribed | postSaved => exact chooses.elim
  | _ => simp [Saving.ChoosesFor]

/-- Other fields written to one user document. -/
theorem sameProfile_set {users : Collection Uid} {uid other : Uid} {document fields : Fields}
    {entries : List (String × Value)} (stored : users.get? uid = some document)
    (found : users.get? other = some fields)
    (elsewhere : ∀ entry ∈ entries, entry.1 ∉ EditProfile.fieldNames) :
    ∃ after, (users.set other (fields.merge entries)).get? uid = some after ∧
      SameProfile document after := by
  by_cases same : uid = other
  · subst same
    obtain rfl := Option.some.inj (stored.symm.trans found)
    refine ⟨document.merge entries, by simp, fun field own => Fields.merge_other ?_⟩
    rintro entry member rfl
    exact elsewhere entry member own
  · exact ⟨document, by simp [Collection.get?_set, same, stored], fun _ _ => rfl⟩

/-- An answer to a request of such a screen leaves the profile in every user document. -/
theorem sameProfile_of_effect {uid : Uid} {document : Fields} (chooses : Saving.ChoosesFor task)
    (stored : data.store.users.get? uid = some document)
    (effect : Effect form data task answer data' new reports) :
    ∃ after, data'.store.users.get? uid = some after ∧ SameProfile document after := by
  cases effect with
  | userUpdated _ found =>
      exact sameProfile_set stored found (by simp [AppendFamily.entries, EditProfile.fieldNames])
  | switched found => exact sameProfile_set stored found (by simp [EditProfile.fieldNames])
  | userSaved => exact chooses.elim
  | _ => exact ⟨document, stored, fun _ _ => rfl⟩

end Effects

end Choosing

/-! ## The invariant -/

/-- All that holds while the answers to the tap come in. -/
structure Editing (count : String → ℕ) (fields : EditProfile.Form) (uid : Uid) (before : Fields)
    (past : List (EditProfile.Task × Answer))
    (config : Config (AppState × Pool EditProfile.Task) App.Task) : Prop where
  requested : Requested count fields past (asked config.state.2 past)
  document : ∃ data, config.state.1.store.users.get? uid = some data ∧ Holds before past data
  chooses : ∀ task ∈ config.pool.tasks, Saving.ChoosesFor task

section Runs

variable {form : CanonicalForm} {count : String → ℕ} {fields : EditProfile.Form} {uid : Uid}
  {before : Fields} {past : List (EditProfile.Task × Answer)}
  {config next : Config (AppState × Pool EditProfile.Task) App.Task}

theorem tasks_begun {app : Config AppState App.Task} :
    (Saving.begun count fields app).state.2.tasks =
      (EditProfile.saveBtn_TouchUpInside count fields).1 := by
  simp [Saving.begun]

/-- A step of the other screens. -/
theorem editing_own {after : Config AppState App.Task} {label : Label App.Event Answer}
    (editing : Editing count fields uid before past config)
    (chooses : ∀ event, label = .event event → Saving.Chooses event)
    (taken : (App.program form).step ⟨config.state.1, config.pool⟩ label = some after) :
    Editing count fields uid before past ⟨(after.state, config.state.2), after.pool⟩ := by
  obtain ⟨requested, ⟨data, stored, holds⟩, waiting⟩ := editing
  rcases Program.step_cases taken with
    ⟨event, new, rfl, handled, tasks⟩ | ⟨ticket, answer, task, new, rfl, found, resumed, tasks⟩
  · obtain ⟨same, fresh⟩ := chosen_handle (chooses event rfl) handled
    refine ⟨requested, ⟨data, ?_, holds⟩, ?_⟩
    · show after.state.toData.store.users.get? uid = some data
      rw [same]
      exact stored
    · rw [tasks]
      exact List.forall_mem_append.mpr ⟨waiting, fresh⟩
  · have chosen := waiting task (Pool.mem_tasks_of_find? found)
    obtain ⟨reports, effect, _⟩ := resume_effect resumed
    obtain ⟨document, there, same⟩ := sameProfile_of_effect chosen stored effect
    refine ⟨requested, ⟨document, there, holds.of_same same⟩, ?_⟩
    rw [tasks]
    exact List.forall_mem_append.mpr
      ⟨fun kept member => waiting kept (Pool.mem_tasks_of_mem_remove member),
        chooses_of_effect chosen effect⟩

/-- An answer to the editor. -/
theorem editing_foreign {after : Config AppState EditProfile.Task} {label : Label Empty Answer}
    (editing : Editing count fields uid before past config)
    (taken : (Saving.editor uid).step ⟨config.state.1, config.state.2⟩ label = some after) :
    Editing count fields uid before (past ++ Saving.answered config (.event (.inr label)))
      ⟨(after.state, after.pool), config.pool⟩ := by
  obtain ⟨requested, ⟨data, stored, holds⟩, waiting⟩ := editing
  rcases Program.step_cases taken with
    ⟨event, _⟩ | ⟨ticket, answer, task, new, rfl, found, resumed, tasks⟩
  · exact event.elim
  · obtain ⟨outcome, ran, same⟩ := Option.map_eq_some_iff.mp resumed
    obtain ⟨isState, rfl⟩ := Prod.mk.inj same
    have observed : Saving.answered config (.event (.inr (.answer ticket answer))) =
        [(task, answer)] := by
      simp [Saving.answered, found]
    have pending : task ∈ asked config.state.2 past :=
      List.mem_append_left _ (Pool.mem_tasks_of_find? found)
    rw [observed]
    refine ⟨?_, ?_, waiting⟩
    · exact (requested.resumed pending (requested.fresh found) ran).perm
        (asked_answered answer found tasks)
    · show ∃ data, after.state.store.users.get? uid = some data ∧ _
      rw [← isState]
      exact holds_of_resume stored holds ran

theorem editing_step {label : Label (App.Event ⊕ Label Empty Answer) Answer}
    (editing : Editing count fields uid before past config)
    (chooses : ∀ event, label = .event (.inl event) → Saving.Chooses event)
    (taken : (Saving.program form uid).step config label = some next) :
    Editing count fields uid before (past ++ Saving.answered config label) next := by
  rcases Program.amid_step_cases taken with
    ⟨own, after, isOwn, isEvent, stepped, rfl⟩ | ⟨foreign, after, rfl, stepped, rfl⟩
  · have silent : Saving.answered config label = [] := by
      cases label with
      | event event =>
          cases event with
          | inl event => rfl
          | inr foreign => simp [Label.own?] at isOwn
      | answer ticket answer => rfl
    rw [silent, List.append_nil]
    exact editing_own editing (fun event same => chooses event (isEvent event same)) stepped
  · exact editing_foreign editing stepped

/-- The tap, before anything has been answered. -/
theorem editing_begun {app : Config AppState App.Task}
    (stored : app.state.store.users.get? uid = some before)
    (waiting : ∀ task ∈ app.pool.tasks, Saving.ChoosesFor task) :
    Editing count fields uid before [] (Saving.begun count fields app) := by
  refine ⟨?_, ⟨before, stored, fun field _ => Or.inr ⟨by simp [Acknowledged], rfl⟩⟩, waiting⟩
  rw [asked, tasks_begun, List.map_nil, List.append_nil]
  exact requested_tapped count fields

/-- The tap amid the other screens, beside these screens alone. -/
theorem beside_begun {app : Config AppState App.Task}
    (waiting : ∀ task ∈ app.pool.tasks, Saving.ChoosesFor task) :
    Unnoticed.Beside AlikeState AlikeTask EditProfile.Task.WritesField
      (Saving.begun count fields app) app := by
  refine ⟨AlikeState.refl _, Pool.Alike.refl fun task member => .refl (waiting task member), ?_⟩
  rw [tasks_begun]
  exact fun task => EditProfile.writesField_of_tapped

/-- Each field holds the new value if its write has succeeded, and otherwise what it held. -/
theorem Requested.commits {requests : List EditProfile.Task} {after : Fields} {field : String}
    (requested : Requested count fields past requests) (holds : Holds before past after)
    (own : field ∈ EditProfile.fieldNames) :
    (∀ value, NewValue count fields past field value → Acknowledged past field value →
      after field = some (.string value)) ∧
    ((∀ value, NewValue count fields past field value → ¬ Acknowledged past field value) →
      after field = before field) := by
  constructor
  · intro value _ acknowledged
    rcases holds field own with ⟨other, written, isOther⟩ | ⟨none, _⟩
    · rw [isOther, requested.unique (requested.answered _ written)
        (requested.answered _ acknowledged)]
    · exact absurd acknowledged (none value)
  · intro unwritten
    rcases holds field own with ⟨value, written, _⟩ | ⟨_, kept⟩
    · exact absurd written
        (unwritten value (requested.mem_iff_newValue.mp (requested.answered _ written)))
    · exact kept

/-- No write of a new value gets lost. -/
theorem Requested.pending_or_answered {pool : Pool EditProfile.Task} {field value : String}
    (requested : Requested count fields past (asked pool past))
    (new : NewValue count fields past field value) :
    .updateData field value ∈ pool.tasks ∨ ∃ answer, (.updateData field value, answer) ∈ past := by
  rcases List.mem_append.mp (requested.mem_iff_newValue.mpr new) with pending | answered
  · exact Or.inl pending
  · obtain ⟨⟨task, answer⟩, member, rfl⟩ := List.mem_map.mp answered
    exact Or.inr ⟨answer, member⟩

end Runs

/-! ## The edit commutes with the other operations -/

/-- Whatever is pending when the button is tapped, and however the answers come in between:
each field of the editor holds its new value if there is one and its write has succeeded,
and otherwise what it held; every new value is being written or has been answered; and the
other fields are as the same run leaves them without the edit. -/
theorem edit_commutes {form : CanonicalForm} {count : String → ℕ} {fields : EditProfile.Form}
    {uid : Uid} {app : Config AppState App.Task} {data : Fields}
    {labels : List (Label (App.Event ⊕ Label Empty Answer) Answer)}
    {last : Config (AppState × Pool EditProfile.Task) App.Task}
    (stored : app.state.store.users.get? uid = some data)
    (waiting : ∀ task ∈ app.pool.tasks, Saving.ChoosesFor task)
    (chooses : ∀ event, .event (.inl event) ∈ labels → Saving.Chooses event)
    (ran : (Saving.program form uid).run (Saving.begun count fields app) labels = some last) :
    let past := (Saving.program form uid).history Saving.answered
      (Saving.begun count fields app) labels
    ∃ after lone alone, last.state.1.store.users.get? uid = some after ∧
      (App.program form).run app (labels.filterMap Label.own?) = some lone ∧
      lone.state.store.users.get? uid = some alone ∧
      (∀ field, field ∉ EditProfile.fieldNames → after field = alone field) ∧
      (∀ field ∈ EditProfile.fieldNames,
        (∀ value, NewValue count fields past field value → Acknowledged past field value →
          after field = some (.string value)) ∧
        ((∀ value, NewValue count fields past field value → ¬ Acknowledged past field value) →
          after field = data field)) ∧
      ∀ field value, NewValue count fields past field value →
        .updateData field value ∈ last.state.2.tasks ∨
          ∃ answer, (.updateData field value, answer) ∈ past := by
  intro past
  have obeys : (Saving.program form uid).Obeys
      (fun _ label => ∀ event, label = .event (.inl event) → Saving.Chooses event)
      (Saving.begun count fields app) labels :=
    Program.obeys_of_forall_mem fun label member event same => chooses event (same ▸ member)
  obtain ⟨requested, ⟨after, there, holds⟩, _⟩ : Editing count fields uid data past last :=
    Program.run_history (Editing count fields uid data) editing_step
      (editing_begun stored waiting) obeys ran
  obtain ⟨lone, ranAlone, ⟨_, _, stores, same⟩, _, _⟩ :=
    (editor_unnoticed form uid).run (beside_begun waiting) chooses ran
  obtain ⟨alone, thereAlone, alike⟩ := stores.users.get? there
  refine ⟨after, lone, alone, there, ranAlone, ?_, fun field other => (alike field other).symm,
    fun field own => requested.commits holds own,
    fun field value new => requested.pending_or_answered new⟩
  rw [same]
  exact thereAlone

/-! ## A join between the writes -/

/-- The name and the bio are filled in, and an image is picked. -/
def filledIn : EditProfile.Form := ⟨"New", "", "Hi", true, true⟩

/-- The name and the image are saved while the user joins a family; the bio is not. -/
def savedAmidJoin : List (Label (App.Event ⊕ Label Empty Answer) Answer) := [
  .event (.inl (.joinTapped ⟨userA, 0⟩ "left")), .answer 0 .succeeded, .answer 1 .succeeded,
  .event (.inr (.answer 0 .succeeded)), .answer 2 (.listed ["left"]),
  .event (.inr (.answer 1 .failed)), .event (.inr (.answer 2 .succeeded)),
  .event (.inr (.answer 3 (.assigned "url"))), .answer 3 .succeeded,
  .event (.inr (.answer 4 .succeeded))]

/-- The read-modify-write of the join and the writes of the editor do not disturb one
another. -/
theorem edit_commutes_join :
    ∃ last after lone alone,
      (Saving.program .scalars userA).run (Saving.begun String.length filledIn
        (Program.start (startingFrom twoFamilies [userA]))) savedAmidJoin = some last ∧
      last.state.1.store.users.get? userA = some after ∧
      (App.program .scalars).run (Program.start (startingFrom twoFamilies [userA]))
        (savedAmidJoin.filterMap Label.own?) = some lone ∧
      lone.state.store.users.get? userA = some alone ∧
      after "families" = alone "families" ∧ after "firstname" = some (.string "New") ∧
      after "profileImageUrl" = some (.string "url") := by
  obtain ⟨last, ran, _⟩ : ∃ last, (Saving.program .scalars userA).run (Saving.begun
      String.length filledIn (Program.start (startingFrom twoFamilies [userA]))) savedAmidJoin =
        some last ∧ True :=
    Program.exists_run (by decide)
  have taps : ∀ event, .event (.inl event) ∈ savedAmidJoin → Saving.Chooses event := by
    simp [savedAmidJoin, Saving.Chooses]
  have found : (startingFrom twoFamilies [userA]).store.users.get? userA =
      some (userData "a@example.org" "A" userA) := rfl
  obtain ⟨after, lone, alone, stored, ranAlone, storedAlone, others, own, _⟩ :=
    edit_commutes found (by simp [Program.start]) taps ran
  have named := (own "firstname" (by decide)).1 "New" (.firstname (by decide))
    (List.mem_of_getElem? (rfl : (_ : List _)[0]? = _))
  have pictured := (own "profileImageUrl" (by decide)).1 "url"
    (.profileImageUrl rfl (List.mem_of_getElem? (rfl : (_ : List _)[2]? = _))
      (List.mem_of_getElem? (rfl : (_ : List _)[3]? = _)))
    (List.mem_of_getElem? (rfl : (_ : List _)[4]? = _))
  exact ⟨last, after, lone, alone, ran, stored, ranAlone, storedAlone, others _ (by decide),
    named, pictured⟩

end Familog.Users
