import Familog.MainPage.Profile
import Familog.Users.Writers

/-!
Contract: on which user documents a profile opens.

Owns the theorem that in every state that is reached the profile screens open on a user
document exactly if its family is not the empty text. Every `familyId` that is written
later is a document path: the id of a family that has been joined or created, or the
`uid` of a Family document. The sign-up writes the empty text, at which `document`
throws; the log-in and the timeline look for it, the profile screens do not.

Does not own user documents that are missing, at which nothing happens.
-/

set_option autoImplicit false

namespace Familog.Users

open App Async Firestore Swift LogInPage MainPage

/-! ## The invariant -/

/-- The family of a user document is the empty text or a document path. -/
def FamilyNamed (data : Fields) : Prop :=
  ∃ familyId, data.string? "familyId" = some familyId ∧
    (familyId = "" ∨ (document? familyId).isSome)

/-- The `uid` of a Family document is a document path. -/
def UidNamed (data : Fields) : Prop :=
  ∀ uid ∈ data.string? "uid", (document? uid).isSome

/-- The families of the users, of the Family documents and of the switch rows can be
looked up. -/
structure Named (data : Data) : Prop where
  users : ∀ uid fields, data.store.users.get? uid = some fields → FamilyNamed fields
  families : ∀ path fields, data.store.families.get? path = some fields → UidNamed fields
  rows : ∀ entry ∈ data.rows, (document? entry.2).isSome

/-- What a pending write relies on. -/
def NeedOfNamed (task : App.Task) : Prop :=
  match task.append? with
  | some (_, familyId, _) => (document? familyId).isSome
  | none =>
      match task with
      | .signUp (.setData _ data) => FamilyNamed data
      | .create _ (.setData _ familyId) => (document? familyId).isSome
      | .switch _ (.updateData familyId) => (document? familyId).isSome
      | _ => True

theorem needOfNamed_of_append? {task : App.Task} {uid : Uid} {familyId : String}
    {step : AppendFamily.Task} (appends : task.append? = some (uid, familyId, step)) :
    NeedOfNamed task ↔ (document? familyId).isSome := by
  unfold NeedOfNamed
  rw [appends]

section Steps

variable {form : CanonicalForm} {data data' : Data} {task : App.Task} {answer : Answer}
  {new : List App.Task} {reports : List (Uid × String)}

/-- One user document with a family that can be looked up is written. -/
theorem Named.setUser {uid : Uid} {fields : Fields} (named : Named data)
    (family : FamilyNamed fields) :
    Named (data.setStore { data.store with users := data.store.users.set uid fields }) where
  users := by
    intro other found isFound
    simp only [Data.setStore, Collection.get?_set] at isFound
    split_ifs at isFound
    · exact Option.some.inj isFound ▸ family
    · exact named.users other found isFound
  families := named.families
  rows := named.rows

/-- Every answer of the app keeps them. -/
theorem named_of_effect (named : Named data) (need : NeedOfNamed task)
    (effect : Effect form data task answer data' new reports) : Named data' := by
  cases effect with
  | userSaved => exact named.setUser need
  | userUpdated appends found =>
      exact named.setUser ⟨_, AppendFamily.updated_familyId _ _ _,
        Or.inr ((needOfNamed_of_append? appends).mp need)⟩
  | @switched session familyId fields found => exact named.setUser ⟨familyId, rfl, Or.inr need⟩
  | @familySaved session familyName familyId path isPath =>
      refine ⟨named.users, fun other fields found => ?_, named.rows⟩
      simp only [Data.setStore, Collection.get?_set] at found
      split_ifs at found
      · intro uid isUid
        rw [← Option.some.inj found] at isUid
        obtain rfl : familyId = uid := Option.some.inj isUid
        exact Option.isSome_iff_exists.mpr ⟨path, isPath⟩
      · exact named.families other fields found
  | @familyListened session familyId fields row found isRow =>
      refine ⟨named.users, named.families, fun entry member => ?_⟩
      rcases List.mem_append.mp member with old | appended
      · exact named.rows entry old
      · rw [List.mem_singleton.mp appended]
        obtain ⟨path, _, stored⟩ := Store.familyNamed_eq_some.mp found
        exact named.families path fields stored row isRow
  | _ => exact ⟨named.users, named.families, named.rows⟩

/-- Every event of the app issues writes that rely on what holds. -/
theorem needOfNamed_of_asked {event : App.Event} (named : Named data)
    (asked : Asked form data event new) : ∀ other ∈ new, NeedOfNamed other := by
  cases asked with
  | create filled isPath => simp [NeedOfNamed, Task.append?, isPath]
  | famliyTapped listed => simpa [NeedOfNamed, Task.append?] using named.rows _ listed
  | _ => simp [NeedOfNamed, Task.append?]

/-- Every answer of the app does so, too. -/
theorem needOfNamed_of_effect (need : NeedOfNamed task)
    (effect : Effect form data task answer data' new reports) :
    ∀ other ∈ new, NeedOfNamed other := by
  cases effect with
  | accountCreated _ =>
      intro other member
      rw [List.mem_singleton.mp member]
      exact ⟨"", rfl, Or.inl rfl⟩
  | familyListed listed =>
      intro other member
      rw [List.mem_singleton.mp member]
      obtain ⟨_, path, isPath⟩ := nameable_of_listed listed
      exact Option.isSome_iff_exists.mpr ⟨path, isPath⟩
  | userRead appends _ goesOn | arrayMade appends _ _ goesOn =>
      intro other member
      rw [List.mem_singleton.mp member, needOfNamed_of_append? goesOn]
      exact (needOfNamed_of_append? appends).mp need
  | familySaved isPath =>
      intro other member
      rcases List.mem_pair.mp member with rfl | rfl
      · exact trivial
      · exact Option.isSome_iff_exists.mpr ⟨_, isPath⟩
  | userListened _ => exact forall_mem_listeners trivial fun _ _ => trivial
  | uploading _ _ =>
      intro other member
      rw [List.mem_singleton.mp member]
      exact trivial
  | _ => simp [NeedOfNamed, Task.append?]

/-- The profile editor leaves the family alone. -/
theorem familyNamed_set {fields : Fields} {field value : String} (family : FamilyNamed fields)
    (written : field ∈ EditProfile.fieldNames) :
    FamilyNamed (fields.merge [(field, .string value)]) := by
  obtain ⟨familyId, isFamily, named⟩ := family
  refine ⟨familyId, ?_, named⟩
  rw [Fields.string?, Fields.merge_other, ← Fields.string?, isFamily]
  intro entry member
  rw [List.mem_singleton.mp member]
  rintro rfl
  exact absurd written (by decide)

end Steps

/-! ## The programs -/

/-- The app keeps what can be looked up. -/
theorem app_keeps_named (form : CanonicalForm) :
    Guarantees (App.program form) (fun state => Named state.toData) NeedOfNamed where
  handled named handled := by
    obtain ⟨asked, same, _⟩ := handle_asked handled
    exact ⟨by rwa [same], needOfNamed_of_asked named asked⟩
  resumed named need resumed := by
    obtain ⟨reports, effect, _⟩ := resume_effect resumed
    exact ⟨named_of_effect named need effect, needOfNamed_of_effect need effect⟩

/-- The profile editor and the log-in keep it as well. -/
theorem screens_keep_named (count : String → ℕ) (localizedDescription : String) :
    Guarantees (Screens.program count localizedDescription)
      (fun state => Named state.1.toData) NeedOfScreens where
  handled {state state' event new} named handled := by
    obtain ⟨kept, issued⟩ := needs_of_handle handled
    exact ⟨by rwa [kept], issued⟩
  resumed {state state' task answer new} named need resumed := by
    cases task with
    | save session request =>
        obtain ⟨outcome, ran, left⟩ := Option.map_eq_some_iff.mp resumed
        obtain ⟨rfl, rfl⟩ := Prod.mk.inj left
        obtain ⟨issued, kept | ⟨field, value, data, rfl, stored, kept⟩⟩ :=
          EditProfile.resume_cases ran
        · refine ⟨?_, List.forall_mem_map.mpr fun other member =>
            needOfScreens_save.mpr (issued other member)⟩
          show Named { state.1.toData with store := outcome.store }
          rwa [kept]
        · refine ⟨?_, List.forall_mem_map.mpr fun other member =>
            needOfScreens_save.mpr (issued other member)⟩
          show Named { state.1.toData with store := outcome.store }
          rw [kept]
          exact named.setUser (familyNamed_set (named.users _ _ stored) need)
    | logIn request =>
        obtain ⟨entry, ran, left⟩ := Option.map_eq_some_iff.mp resumed
        obtain ⟨rfl, rfl⟩ := Prod.mk.inj left
        refine ⟨?_, by simp [NeedOfScreens]⟩
        show Named { state.1.toData with store := entry.outcome.store }
        rwa [(LogIn.resume_cases ran).1]

/-! ## All runs -/

/-- A document that has all its fields opens exactly if its family can be looked up. -/
theorem userFetched_isSome_iff {data : Fields} (document : Document data)
    (family : FamilyNamed data) :
    (Profile.userFetched data).isSome ↔ data.string? "familyId" ≠ some "" := by
  obtain ⟨familyId, isFamily, named⟩ := family
  obtain ⟨dob, isDob⟩ := Option.isSome_iff_exists.mp (document.strings "dob" (by decide))
  obtain ⟨firstname, isFirstname⟩ :=
    Option.isSome_iff_exists.mp (document.strings "firstname" (by decide))
  have opens : (Profile.userFetched data).isSome ↔ (document? familyId).isSome := by
    simp [Profile.userFetched, transformUser, isDob, Profile.updateInfo, isFirstname, isFamily,
      Profile.getFamilyNameById, Option.isSome_iff_exists, Option.bind_eq_some_iff]
  rw [opens, isFamily]
  have thrown : document? "" = none := by decide
  constructor
  · intro isPath same
    rw [Option.some.inj same, thrown] at isPath
    exact absurd isPath (by simp)
  · intro filled
    exact named.resolve_left fun empty => filled (congrArg some empty)

/-- In every state that is reached by whatever order of sign-ups, edits of profiles,
creations, joins and switches, a profile opens on a user document exactly if its family is
not the empty text. -/
theorem profile_opens_iff (form : CanonicalForm) (count : String → ℕ)
    (localizedDescription : String) {labels : List (Label (App.Event ⊕ Screens.Event) Answer)}
    {last : Config Screens.State (App.Task ⊕ Screens.Task)}
    (ran : (Screens.whole count localizedDescription form).run
      (Program.start Screens.State.empty) labels = some last) {uid : Uid} {data : Fields}
    (found : last.state.1.store.users.get? uid = some data) :
    (Profile.userFetched data).isSome ↔ data.string? "familyId" ≠ some "" := by
  have documents :=
    ((whole_guarantees count localizedDescription form).run documents_empty ran).1
  have none : Named Screens.State.empty.1.toData := by
    refine ⟨fun uid data found => ?_, fun path data found => ?_, ?_⟩
    · simp [Screens.State.empty, AppState.empty, Store.empty] at found
    · simp [Screens.State.empty, AppState.empty, Store.empty] at found
    · simp [Screens.State.empty, AppState.empty]
  have guarantees := (app_keeps_named form).within.beside
    (screens_keep_named count localizedDescription)
  have named := (guarantees.run none ran).1
  exact userFetched_isSome_iff (documents uid data found) (named.users uid data found)

/-! ## A user without a family -/

/-- An account. -/
def newcomer : Uid := ⟨"uidNewcomer", by decide, by decide⟩

/-- The user signs up, and opens the app again before choosing a family: the tab bar with
the profile appears. -/
def reopened : List (Label (App.Event ⊕ Screens.Event) Answer) := [
  .event (.inl (.signUpTapped ⟨"A", "a@example.org", "Passw0rd", "Passw0rd"⟩)),
  .answer 0 (.created newcomer), .answer 1 .succeeded, .event (.inl (.launch ⟨newcomer, 0⟩))]

/-- The user signs up and creates a family. -/
def founded : List (Label (App.Event ⊕ Screens.Event) Answer) := [
  .event (.inl (.signUpTapped ⟨"A", "a@example.org", "Passw0rd", "Passw0rd"⟩)),
  .answer 0 (.created newcomer), .answer 1 .succeeded,
  .event (.inl (.createTapped ⟨newcomer, 0⟩ "Home" "abc")), .answer 2 .succeeded,
  .answer 4 .succeeded, .answer 5 (.listed ["abc"]), .answer 6 .succeeded]

/-- The user document, as far as the run has come. -/
def stored? (last : Config Screens.State (App.Task ⊕ Screens.Task)) : Option Fields :=
  last.state.1.store.users.get? newcomer

/-- With a family the profile opens. -/
theorem profile_opens_iff_founded :
    ∃ last, (Screens.whole String.length "The password is invalid." CanonicalForm.scalars).run
        (Program.start Screens.State.empty) founded = some last ∧
      ∃ data, stored? last = some data ∧ (Profile.userFetched data).isSome := by
  obtain ⟨last, ran, filled⟩ : ∃ last,
      (Screens.whole String.length "The password is invalid." CanonicalForm.scalars).run
        (Program.start Screens.State.empty) founded = some last ∧
      ((stored? last).bind fun data => data.string? "familyId") = some "abc" :=
    Program.exists_run (by decide)
  obtain ⟨data, found, isFamily⟩ := Option.bind_eq_some_iff.mp filled
  refine ⟨last, ran, data, found, (profile_opens_iff _ _ _ ran found).mpr ?_⟩
  rw [isFamily]
  decide

/-- Without one, `document` throws on the tab bar's profile. -/
theorem profile_throws_without_family :
    ∃ last, (Screens.whole String.length "The password is invalid." CanonicalForm.scalars).run
        (Program.start Screens.State.empty) reopened = some last ∧
      ⟨newcomer, 0⟩ ∈ last.state.1.tabBars ∧
      ∃ data, stored? last = some data ∧ Profile.userFetched data = none := by
  obtain ⟨last, ran, onTabBar, throws⟩ : ∃ last,
      (Screens.whole String.length "The password is invalid." CanonicalForm.scalars).run
        (Program.start Screens.State.empty) reopened = some last ∧
      (⟨newcomer, 0⟩ ∈ last.state.1.tabBars ∧
        (stored? last).map (fun data => (Profile.userFetched data).isNone) = some true) :=
    Program.exists_run (by decide)
  obtain ⟨data, found, none⟩ := Option.map_eq_some_iff.mp throws
  exact ⟨last, ran, onTabBar, data, found, Option.isNone_iff_eq_none.mp none⟩

end Familog.Users
