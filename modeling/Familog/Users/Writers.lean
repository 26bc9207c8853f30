import Familog.App.Screens
import Familog.Membership.Invariant
import Familog.Users.Schema

/-!
Contract: every writer keeps the schema of the user documents.

Owns what the app and the two further screens each guarantee about the user documents:
every callback keeps all of them, given what its request has carried along since it was
issued, the data it has read or the families it is going to write.
-/

set_option autoImplicit false

namespace Familog.Users

open App Async Firestore Swift LogInPage MainPage

/-! ## The invariant -/

/-- Every user document is as the writers leave it. -/
def Documents (state : AppState) : Prop :=
  ∀ uid data, state.store.users.get? uid = some data → Document data

/-- What a pending step of the read-modify-write relies on. -/
def NeedOfAppend : AppendFamily.Task → Prop
  | .getDocument => True
  | .received data => Document data
  | .updateData _ newFamilies => ∀ familyId ∈ newFamilies, (document? familyId).isSome

/-- What a pending request of the app relies on. -/
def NeedOfApp (task : App.Task) : Prop :=
  match task.append? with
  | some (_, familyId, step) => (document? familyId).isSome ∧ NeedOfAppend step
  | none =>
      match task with
      | .signUp (.setData _ data) => Document data
      | .create _ (.setData _ familyId) => (document? familyId).isSome
      | _ => True

/-- What a pending request of the two further screens relies on. -/
def NeedOfScreens : Screens.Task → Prop
  | .save _ (.updateData field _) => field ∈ EditProfile.fieldNames
  | _ => True

theorem needOfApp_of_append? {task : App.Task} {uid : Uid} {familyId : String}
    {step : AppendFamily.Task} (appends : task.append? = some (uid, familyId, step)) :
    NeedOfApp task ↔ (document? familyId).isSome ∧ NeedOfAppend step := by
  unfold NeedOfApp
  rw [appends]

theorem documents_of_users {state next : AppState} (documents : Documents state)
    (same : next.store.users = state.store.users) : Documents next := by
  intro uid data found
  rw [same] at found
  exact documents uid data found

/-- One written document of the kind. -/
theorem documents_of_set {state next : AppState} {uid : Uid} {fields : Fields}
    (documents : Documents state) (document : Document fields)
    (written : next.store.users = state.store.users.set uid fields) : Documents next := by
  intro other data found
  rw [written, Collection.get?_set] at found
  split_ifs at found with same
  · rwa [← Option.some.inj found]
  · exact documents other data found

/-! ## What the programs guarantee -/

/-- Every event of the app issues requests that have what they need. -/
theorem need_of_asked {form : CanonicalForm} {data : Data} {event : Event}
    {new : List App.Task} (asked : Asked form data event new) : ∀ task ∈ new, NeedOfApp task := by
  cases asked with
  | create filled named => simp [NeedOfApp, Task.append?, named]
  | _ => simp [NeedOfApp, Task.append?]

section Effects

variable {form : CanonicalForm} {state next : AppState} {task : App.Task} {answer : Answer}
  {new : List App.Task} {reports : List (Uid × String)}

/-- Every answer keeps the documents. -/
theorem documents_of_effect (documents : Documents state) (need : NeedOfApp task)
    (effect : Effect form state.toData task answer next.toData new reports) : Documents next := by
  generalize before : state.toData = data at effect
  generalize left : next.toData = data' at effect
  have same : data'.store.users = data.store.users → Documents next := by
    intro users
    rw [← before, ← left] at users
    exact documents_of_users documents users
  have set : ∀ {uid fields}, Document fields →
      data'.store.users = data.store.users.set uid fields → Documents next := by
    intro uid fields document users
    rw [← before, ← left] at users
    exact documents_of_set documents document users
  have found : ∀ {uid fields}, data.store.users.get? uid = some fields → Document fields := by
    intro uid fields stored
    rw [← before] at stored
    exact documents uid fields stored
  cases effect with
  | userSaved => exact set need rfl
  | userUpdated appends stored =>
      exact set ((found stored).updated ((needOfApp_of_append? appends).mp need).2) rfl
  | switched stored => exact set ((found stored).set (by decide)) rfl
  | _ => exact same rfl

/-- Every answer issues requests that have what they need. -/
theorem need_of_effect (documents : Documents state) (need : NeedOfApp task)
    (effect : Effect form state.toData task answer next.toData new reports) :
    ∀ other ∈ new, NeedOfApp other := by
  generalize before : state.toData = data at effect
  generalize next.toData = data' at effect
  cases effect with
  | accountCreated _ =>
      intro other member
      rw [List.mem_singleton.mp member]
      exact document_userData _ _ _
  | familyListed listed =>
      intro other member
      rw [List.mem_singleton.mp member]
      obtain ⟨_, path, named⟩ := nameable_of_listed listed
      exact ⟨Option.isSome_iff_exists.mpr ⟨path, named⟩, trivial⟩
  | userRead appends stored goesOn =>
      intro other member
      rw [List.mem_singleton.mp member, needOfApp_of_append? goesOn]
      rw [← before] at stored
      exact ⟨((needOfApp_of_append? appends).mp need).1, documents _ _ stored⟩
  | arrayMade appends decoded array goesOn =>
      intro other member
      rw [List.mem_singleton.mp member, needOfApp_of_append? goesOn]
      obtain ⟨path, document⟩ := (needOfApp_of_append? appends).mp need
      refine ⟨path, fun familyId inNew => ?_⟩
      obtain ⟨families, isFamilies, named⟩ := document.families
      obtain rfl := Option.some.inj (isFamilies.symm.trans decoded)
      rcases List.mem_append.mp (array.from_source familyId inNew) with old | appended
      · exact named familyId old
      · rwa [List.mem_singleton.mp appended]
  | familySaved named =>
      intro other member
      rcases List.mem_pair.mp member with rfl | rfl
      · exact trivial
      · exact ⟨need, trivial⟩
  | userListened _ =>
      exact forall_mem_listeners trivial fun _ _ => trivial
  | uploading _ _ =>
      intro other member
      rw [List.mem_singleton.mp member]
      exact trivial
  | _ => simp [NeedOfApp, Task.append?]

end Effects

/-- The app keeps the documents. -/
theorem app_guarantees (form : CanonicalForm) :
    Guarantees (App.program form) Documents NeedOfApp where
  handled documents handled := by
    obtain ⟨asked, same, _⟩ := handle_asked handled
    refine ⟨documents_of_users documents ?_, need_of_asked asked⟩
    exact congrArg (fun data : Data => data.store.users) same
  resumed documents need resumed := by
    obtain ⟨reports, effect, _⟩ := resume_effect resumed
    exact ⟨documents_of_effect documents need effect, need_of_effect documents need effect⟩

/-- A pending write of the profile editor needs to be one of its own fields. -/
theorem needOfScreens_save {session : Session} {task : EditProfile.Task} :
    NeedOfScreens (.save session task) ↔ task.WritesField := by
  cases task <;> rfl

/-- The requests of the profile editor write its own fields only. -/
theorem need_of_save {count : String → ℕ} {session : Session} {fields : EditProfile.Form} :
    ∀ task ∈ ((EditProfile.saveBtn_TouchUpInside count fields).1.map
      (Screens.Task.save session)), NeedOfScreens task :=
  List.forall_mem_map.mpr fun _ issued =>
    needOfScreens_save.mpr (EditProfile.writesField_of_tapped issued)

/-- Every callback of the profile editor keeps the documents. -/
theorem saved {state : Screens.State} {session : Session} {task : EditProfile.Task}
    {answer : Answer} {outcome : Outcome EditProfile.Task} (documents : Documents state.1)
    (need : NeedOfScreens (.save session task))
    (resumed : EditProfile.resume state.1.store session.user task answer = some outcome) :
    Documents (Screens.after state (.save session) outcome).1.1 ∧
      ∀ other ∈ (Screens.after state (.save session) outcome).2, NeedOfScreens other := by
  obtain ⟨issued, left | ⟨field, value, data, rfl, stored, left⟩⟩ :=
    EditProfile.resume_cases resumed
  · refine ⟨documents_of_users documents (congrArg Store.users left), ?_⟩
    exact List.forall_mem_map.mpr fun other member => needOfScreens_save.mpr (issued other member)
  · refine ⟨?_, List.forall_mem_map.mpr fun other member =>
      needOfScreens_save.mpr (issued other member)⟩
    exact documents_of_set documents
      ((documents _ _ stored).set (ne_families_of_fieldName need)) (congrArg Store.users left)

/-- A tap on the two further screens writes nothing, and what it requests is as it must be. -/
theorem needs_of_handle {count : String → ℕ} {state state' : Screens.State}
    {event : Screens.Event} {new : List Screens.Task}
    (handled : Screens.handle count state event = some (state', new)) :
    state'.1 = state.1 ∧ ∀ task ∈ new, NeedOfScreens task := by
  cases event with
  | saveBtn_TouchUpInside session fields =>
      simp only [Screens.handle] at handled
      split_ifs at handled
      obtain ⟨rfl, rfl⟩ := Prod.mk.inj (Option.some.inj handled)
      exact ⟨rfl, need_of_save⟩
  | logInTapped emailText passwordText =>
      obtain ⟨rfl, rfl⟩ := Prod.mk.inj (Option.some.inj handled)
      exact ⟨rfl, by simp [LogIn.logInTapped, NeedOfScreens]⟩

/-- An answer to the two further screens changes nothing of the app but user documents, and
takes none away. -/
theorem screens_write_users {localizedDescription : String} {state next : Screens.State}
    {task : Screens.Task} {answer : Answer} {new : List Screens.Task}
    (resumed : Screens.resume localizedDescription state task answer = some (next, new)) :
    ∃ users, next.1 = { state.1 with store := { state.1.store with users := users } } ∧
      ∀ uid, (state.1.store.users.get? uid).isSome → (users.get? uid).isSome := by
  cases task with
  | save session request =>
      obtain ⟨outcome, ran, left⟩ := Option.map_eq_some_iff.mp resumed
      obtain ⟨rfl, rfl⟩ := Prod.mk.inj left
      obtain ⟨_, kept | ⟨_, _, _, _, _, kept⟩⟩ := EditProfile.resume_cases ran
      · exact ⟨state.1.store.users, congrArg (fun store => { state.1 with store := store }) kept,
          fun _ => id⟩
      · exact ⟨_, congrArg (fun store => { state.1 with store := store }) kept,
          fun _ => Collection.isSome_get?_set⟩
  | logIn request =>
      obtain ⟨entry, ran, left⟩ := Option.map_eq_some_iff.mp resumed
      obtain ⟨rfl, rfl⟩ := Prod.mk.inj left
      exact ⟨state.1.store.users, congrArg (fun store => { state.1 with store := store })
        (LogIn.resume_cases ran).1, fun _ => id⟩

/-- The two further screens keep the documents. -/
theorem screens_guarantee (count : String → ℕ) (localizedDescription : String) :
    Guarantees (Screens.program count localizedDescription) (fun state => Documents state.1)
      NeedOfScreens where
  handled {state state' event new} documents handled := by
    obtain ⟨kept, issued⟩ := needs_of_handle handled
    exact ⟨by rwa [kept], issued⟩
  resumed {state state' task answer new} documents need resumed := by
    cases task with
    | save session request =>
        obtain ⟨outcome, ran, left⟩ := Option.map_eq_some_iff.mp resumed
        have kept := saved documents need ran
        rwa [left] at kept
    | logIn request =>
        obtain ⟨entry, ran, left⟩ := Option.map_eq_some_iff.mp resumed
        obtain ⟨rfl, rfl⟩ := Prod.mk.inj left
        refine ⟨documents_of_users documents ?_, by simp [NeedOfScreens]⟩
        exact congrArg Store.users (LogIn.resume_cases ran).1

/-- The app and the two screens keep the documents together. -/
theorem whole_guarantees (count : String → ℕ) (localizedDescription : String)
    (form : CanonicalForm) :
    Guarantees (Screens.whole count localizedDescription form)
      (fun state => Documents state.1) (Sum.elim NeedOfApp NeedOfScreens) :=
  (app_guarantees form).within.beside (screens_guarantee count localizedDescription)

theorem documents_empty : Documents Screens.State.empty.1 := by
  intro uid data found
  simp [Screens.State.empty, AppState.empty, Store.empty] at found

end Familog.Users
