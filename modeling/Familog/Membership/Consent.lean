import Familog.Async.Rely
import Familog.Membership.Posts
import Familog.Users.Writers

/-!
Contract: nobody is put into a family, and nobody reads one, without having asked for it.

Owns the ids a user has asked for, by tapping `joinTapped` or `createTapped` with them, and
the invariant that the families of a user, the family it has chosen, its switch rows, its
posts and the posts its timeline was given all go back to such a tap, whatever the order of
all steps. Owns also what the app and the profile editor each guarantee about it.

Two ids can name one document, because a slash at an end is dropped. A switch row shows the
id that the document stores, so a chosen family is asked for up to its document.
-/

set_option autoImplicit false

namespace Familog.App.Consent

open Async Firestore Swift LogInPage MainPage

/-- The user who asks for a family with the event, and the id it is asked for by. -/
def asked? : Event → Option (Uid × String)
  | .joinTapped session familyIdText => some (session.user, trimmingCharacters familyIdText)
  | .createTapped session _ familyIdText => some (session.user, familyIdText)
  | _ => none

section Definitions

variable (chosen : Uid → String → Prop)

/-- The event asks for a family only if that is among the choices. -/
def Asks (event : Event) : Prop :=
  ∀ operation ∈ asked? event, chosen operation.1 operation.2

/-- The user has chosen the id, and it names a document. -/
structure Picked (uid : Uid) (familyId : String) : Prop where
  chosen : chosen uid familyId
  named : (document? familyId).isSome

/-- The user has chosen an id of the same document, or the text stands for no family. -/
def Entitled (uid : Uid) (familyId : String) : Prop :=
  familyId = "" ∨ ∃ other, Picked chosen uid other ∧ document? familyId = document? other

/-- A user document with the id of its user and with families that the user has chosen. -/
structure OwnDocument (user : Uid) (data : Fields) : Prop where
  uid : data.string? "uid" = some user.value
  families : ∀ families, data.strings? "families" = some families →
    ∀ familyId ∈ families, Picked chosen user familyId
  familyId : ∀ familyId, data.string? "familyId" = some familyId → Entitled chosen user familyId

/-- A post in a family of its author. -/
def OwnPost (post : Fields) : Prop :=
  ∃ (author : Uid) (familyId : String), post.string? "userId" = some author.value ∧
    post.string? "familyId" = some familyId ∧ Entitled chosen author familyId

/-- A channel that somebody created together with the family of its id. -/
def OwnChannel (fields : Fields) : Prop :=
  ∃ (creator : Uid) (familyName familyId : String), Picked chosen creator familyId ∧
    fields = Channel.representation ⟨some familyId, familyName⟩

/-- The invariant of the data. -/
structure Respects (data : Data) : Prop where
  users : ∀ uid fields, data.store.users.get? uid = some fields → OwnDocument chosen uid fields
  families : ∀ path fields, data.store.families.get? path = some fields →
    ∀ familyId, fields.string? "uid" = some familyId → document? familyId = some path
  channels : ∀ key fields, data.store.channels.get? key = some fields → OwnChannel chosen fields
  posts : ∀ id post, data.store.posts.get? id = some post → OwnPost chosen post
  rows : ∀ session row, (session, row) ∈ data.rows → Entitled chosen session.user row
  returned : ∀ session post, (session, post) ∈ data.returned →
    OwnPost chosen post ∧ ∃ familyId, post.string? "familyId" = some familyId ∧
      Entitled chosen session.user familyId

/-- What a pending step of the read-modify-write relies on. -/
def NeedOfAppend (uid : Uid) : AppendFamily.Task → Prop
  | .getDocument => True
  | .received data => OwnDocument chosen uid data
  | .updateData _ newFamilies => ∀ familyId ∈ newFamilies, Picked chosen uid familyId

/-- What a pending request of the app relies on. -/
def Need (task : Task) : Prop :=
  match task.append? with
  | some (uid, familyId, step) => Picked chosen uid familyId ∧ NeedOfAppend chosen uid step
  | none =>
      match task with
      | .signUp (.setData uid fields) => OwnDocument chosen uid fields
      | .join session (.getDocuments familyId) => chosen session.user familyId
      | .create session (.setData _ familyId) => Picked chosen session.user familyId
      | .create session (.addDocument _ familyId) => Picked chosen session.user familyId
      | .switch session (.familyListener familyId) => Picked chosen session.user familyId
      | .switch session (.updateData row) => Entitled chosen session.user row
      | .timeline session (.getPosts familyId) => Entitled chosen session.user familyId
      | .upload _ (.setData _ post) => OwnPost chosen post
      | .upload session request => ∀ familyId, Upload.carried? request = some familyId →
          Entitled chosen session.user familyId
      | _ => True

end Definitions

/-- A callback of the app: accounts and channels are never taken away, and no channel is
changed. -/
structure Grows (data next : Data) : Prop where
  accounts : data.accounts ⊆ next.accounts
  channels : ∀ key fields, data.store.channels.get? key = some fields →
    next.store.channels.get? key = some fields

theorem Grows.refl (data : Data) : Grows data data :=
  ⟨List.Subset.refl _, fun _ _ found => found⟩

/-! ## The documents -/

section Documents

variable {chosen : Uid → String → Prop} {uid : Uid} {data : Fields} {familyId : String}

theorem Picked.entitled (picked : Picked chosen uid familyId) : Entitled chosen uid familyId :=
  Or.inr ⟨familyId, picked, rfl⟩

/-- Whoever is entitled to a family is so by any other id of its document. -/
theorem Picked.entitled_of_document {other : String} (picked : Picked chosen uid familyId)
    (same : document? other = document? familyId) : Entitled chosen uid other :=
  Or.inr ⟨familyId, picked, same⟩

/-- What `signUpTapped` writes. -/
theorem ownDocument_userData (email firstName : String) :
    OwnDocument chosen uid (userData email firstName uid) where
  uid := rfl
  families families found := by
    obtain rfl := Option.some.inj ((userData_families email firstName uid).symm.trans found)
    simp
  familyId familyId found := by
    obtain rfl := Option.some.inj ((userData_familyId email firstName uid).symm.trans found)
    exact Or.inl rfl

/-- What `joinTapped` and `createTapped` write. -/
theorem OwnDocument.updated {newFamilies : List String} (own : OwnDocument chosen uid data)
    (picked : Picked chosen uid familyId) (all : ∀ other ∈ newFamilies, Picked chosen uid other) :
    OwnDocument chosen uid (AppendFamily.updated data familyId newFamilies) where
  uid := own.uid
  families families found := by
    obtain rfl := Option.some.inj ((AppendFamily.updated_families _ _ _).symm.trans found)
    exact all
  familyId other found := by
    obtain rfl := Option.some.inj ((AppendFamily.updated_familyId _ _ _).symm.trans found)
    exact picked.entitled

/-- What `famliyTapped` writes. -/
theorem OwnDocument.choose (own : OwnDocument chosen uid data)
    (entitled : Entitled chosen uid familyId) :
    OwnDocument chosen uid (data.merge [("familyId", .string familyId)]) where
  uid := own.uid
  families families found := by
    rw [Fields.strings?_merge_other (by simp)] at found
    exact own.families families found
  familyId other found := by
    obtain rfl : familyId = other := Option.some.inj found
    exact entitled

/-- What the profile editor writes. -/
theorem OwnDocument.set {field value : String} (own : OwnDocument chosen uid data)
    (written : field ∈ EditProfile.fieldNames) :
    OwnDocument chosen uid (data.merge [(field, .string value)]) := by
  have other : ∀ name ∈ ["uid", "families", "familyId"],
      data.merge [(field, .string value)] name = data name := by
    intro name reserved
    refine Fields.merge_other fun entry member => ?_
    rw [List.mem_singleton.mp member]
    rintro rfl
    simp [EditProfile.fieldNames] at written reserved
    rcases written with rfl | rfl | rfl | rfl <;> simp at reserved
  refine ⟨?_, ?_, ?_⟩
  · rw [Fields.string?, other "uid" (by simp)]
    exact own.uid
  · rw [Fields.strings?, other "families" (by simp)]
    exact own.families
  · rw [Fields.string?, other "familyId" (by simp)]
    exact own.familyId

end Documents

/-! ## What a callback of the app keeps -/

theorem need_of_append? {chosen : Uid → String → Prop} {task : Task} {uid : Uid}
    {familyId : String} {step : AppendFamily.Task}
    (appends : task.append? = some (uid, familyId, step)) :
    Need chosen task ↔ Picked chosen uid familyId ∧ NeedOfAppend chosen uid step := by
  unfold Need
  rw [appends]

theorem need_of_carried {chosen : Uid → String → Prop} {session : Session}
    {request : Upload.Task} {familyId : String}
    (carried : Upload.carried? request = some familyId) :
    Need chosen (.upload session request) ↔ Entitled chosen session.user familyId := by
  cases request <;> simp_all [Upload.carried?, Need, Task.append?]

section Effects

variable {chosen : Uid → String → Prop} {form : CanonicalForm} {data next : Data} {task : Task}
  {answer : Answer} {new : List Task} {reports : List (Uid × String)}

/-- One written user document. -/
theorem users_of_set {uid : Uid} {fields : Fields}
    (users : ∀ other found, data.store.users.get? other = some found →
      OwnDocument chosen other found)
    (own : OwnDocument chosen uid fields) :
    ∀ other found, (data.store.users.set uid fields).get? other = some found →
      OwnDocument chosen other found := by
  intro other found stored
  rw [Collection.get?_set] at stored
  split_ifs at stored with same
  · exact same ▸ Option.some.inj stored ▸ own
  · exact users other found stored

theorem users_of_effect (respects : Respects chosen data) (need : Need chosen task)
    (effect : Effect form data task answer next new reports) :
    ∀ uid fields, next.store.users.get? uid = some fields → OwnDocument chosen uid fields := by
  cases effect with
  | userSaved => exact users_of_set respects.users need
  | userUpdated appends found =>
      obtain ⟨picked, all⟩ := (need_of_append? appends).mp need
      exact users_of_set respects.users ((respects.users _ _ found).updated picked all)
  | switched found => exact users_of_set respects.users ((respects.users _ _ found).choose need)
  | _ => exact respects.users

theorem families_of_effect (respects : Respects chosen data)
    (effect : Effect form data task answer next new reports) :
    ∀ path fields, next.store.families.get? path = some fields →
      ∀ familyId, fields.string? "uid" = some familyId → document? familyId = some path := by
  cases effect with
  | @familySaved session familyName familyId saved named =>
      intro path fields found other uid
      simp only [Data.setStore, Collection.get?_set] at found
      split_ifs at found with here
      · obtain rfl := Option.some.inj found
        obtain rfl := Option.some.inj ((familyData_uid familyName familyId).symm.trans uid)
        rw [named, here]
      · exact respects.families path fields found other uid
  | _ => exact respects.families

theorem channels_of_effect (respects : Respects chosen data) (need : Need chosen task)
    (effect : Effect form data task answer next new reports) :
    ∀ key fields, next.store.channels.get? key = some fields → OwnChannel chosen fields := by
  cases effect with
  | @channelAdded session familyName familyId key fresh =>
      intro other fields found
      simp only [Data.setStore, Collection.get?_set] at found
      split_ifs at found
      · exact ⟨session.user, familyName, familyId, need, (Option.some.inj found).symm⟩
      · exact respects.channels other fields found
  | _ => exact respects.channels

theorem posts_of_effect (respects : Respects chosen data) (need : Need chosen task)
    (effect : Effect form data task answer next new reports) :
    ∀ id post, next.store.posts.get? id = some post → OwnPost chosen post := by
  cases effect with
  | @postSaved session id fields fresh =>
      intro other post found
      simp only [Data.setStore, Collection.get?_set] at found
      split_ifs at found
      · exact Option.some.inj found ▸ need
      · exact respects.posts other post found
  | _ => exact respects.posts

/-- A row shows the id that the document of a picked family stores. -/
theorem rows_of_effect (respects : Respects chosen data) (need : Need chosen task)
    (effect : Effect form data task answer next new reports) :
    ∀ session row, (session, row) ∈ next.rows → Entitled chosen session.user row := by
  cases effect with
  | @familyListened listener familyId fields row found uid =>
      intro session shown listed
      rcases List.mem_append.mp listed with old | appended
      · exact respects.rows session shown old
      · obtain ⟨rfl, rfl⟩ := Prod.mk.inj (List.mem_singleton.mp appended)
        obtain ⟨path, named, stored⟩ := Store.familyNamed_eq_some.mp found
        have picked : Picked chosen session.user familyId := need
        exact picked.entitled_of_document
          ((respects.families path fields stored shown uid).trans named.symm)
  | _ => exact respects.rows

/-- A timeline is given posts of the family it has asked for. -/
theorem returned_of_effect (respects : Respects chosen data) (need : Need chosen task)
    (effect : Effect form data task answer next new reports) :
    ∀ session post, (session, post) ∈ next.returned →
      OwnPost chosen post ∧ ∃ familyId, post.string? "familyId" = some familyId ∧
        Entitled chosen session.user familyId := by
  cases effect with
  | @postsRead reader familyId =>
      intro session post given
      rcases List.mem_append.mp given with old | read
      · exact respects.returned session post old
      · obtain ⟨other, matched, same⟩ := List.mem_map.mp read
        obtain ⟨rfl, rfl⟩ := Prod.mk.inj same
        simp only [Timeline.postsByFamily, List.mem_filter, List.mem_map, decide_eq_true_eq]
          at matched
        obtain ⟨⟨⟨id, _⟩, listed, rfl⟩, field, _⟩ := matched
        exact ⟨respects.posts id _ (Collection.mem_documents.mp listed), familyId, field, need⟩
  | _ => exact respects.returned

theorem respects_of_effect (respects : Respects chosen data) (need : Need chosen task)
    (effect : Effect form data task answer next new reports) : Respects chosen next where
  users := users_of_effect respects need effect
  families := families_of_effect respects effect
  channels := channels_of_effect respects need effect
  posts := posts_of_effect respects need effect
  rows := rows_of_effect respects need effect
  returned := returned_of_effect respects need effect

theorem grows_of_effect (effect : Effect form data task answer next new reports) :
    Grows data next := by
  cases effect with
  | accountCreated _ => exact ⟨List.subset_cons_self _ _, fun _ _ found => found⟩
  | @channelAdded session familyName familyId key fresh =>
      refine ⟨List.Subset.refl _, fun other fields found => ?_⟩
      have different : other ≠ key := by
        rintro rfl
        simp [fresh] at found
      exact (Collection.get?_set_of_ne _ _ different).trans found
  | _ => exact ⟨List.Subset.refl _, fun _ _ found => found⟩

/-- What is issued has what it needs. -/
theorem need_of_effect (respects : Respects chosen data) (need : Need chosen task)
    (effect : Effect form data task answer next new reports) :
    ∀ request ∈ new, Need chosen request := by
  cases effect with
  | accountCreated _ => exact List.forall_mem_singleton.mpr (ownDocument_userData _ _)
  | familyListed listed =>
      refine List.forall_mem_singleton.mpr ⟨⟨need, ?_⟩, trivial⟩
      obtain ⟨filled, free⟩ := Store.slashFree_of_listed listed
      obtain ⟨path, named, _⟩ := document?_slashFree filled free
      exact Option.isSome_iff_exists.mpr ⟨path, named⟩
  | userRead appends found goesOn =>
      refine List.forall_mem_singleton.mpr ((need_of_append? goesOn).mpr ?_)
      exact ⟨((need_of_append? appends).mp need).1, respects.users _ _ found⟩
  | arrayMade appends stored array goesOn =>
      refine List.forall_mem_singleton.mpr ((need_of_append? goesOn).mpr ?_)
      obtain ⟨picked, own⟩ := (need_of_append? appends).mp need
      refine ⟨picked, fun other inNew => ?_⟩
      rcases List.mem_append.mp (array.from_source other inNew) with old | appended
      · exact own.families _ stored other old
      · exact List.mem_singleton.mp appended ▸ picked
  | familySaved named =>
      intro request member
      rcases List.mem_pair.mp member with rfl | rfl
      · exact need
      · exact ⟨need, trivial⟩
  | userListened listed =>
      apply forall_mem_listeners
      · trivial
      · intro familyId inFamilies
        obtain ⟨fields, found, stored⟩ := Option.bind_eq_some_iff.mp listed
        exact (respects.users _ _ found).families _ stored familyId inFamilies
  | familyListened _ _ => exact List.forall_mem_singleton.mpr need
  | currentUserRead found stored =>
      exact List.forall_mem_singleton.mpr ((respects.users _ _ found).familyId _ stored)
  | familyIdRead found stored =>
      exact List.forall_mem_singleton.mpr
        ((need_of_carried rfl).mpr ((respects.users _ _ found).familyId _ stored))
  | uploading carried carries =>
      exact List.forall_mem_singleton.mpr
        ((need_of_carried carries).mpr ((need_of_carried carried).mp need))
  | @postDescribed session familyId draft id =>
      exact List.forall_mem_singleton.mpr
        ⟨session.user, familyId, rfl, rfl, (need_of_carried rfl).mp need⟩
  | _ => simp [Need, Task.append?]

/-- An event issues requests for what it asks for, or for a row that is listed. -/
theorem need_of_asked {event : Event} (respects : Respects chosen data)
    (asks : Asks chosen event) (asked : Asked form data event new) :
    ∀ request ∈ new, Need chosen request := by
  cases asked with
  | join filled => exact List.forall_mem_singleton.mpr (asks _ rfl)
  | create filled named =>
      exact List.forall_mem_singleton.mpr
        ⟨asks _ rfl, Option.isSome_iff_exists.mpr ⟨_, named⟩⟩
  | famliyTapped listed => exact List.forall_mem_singleton.mpr (respects.rows _ _ listed)
  | _ => simp [Need, Task.append?, Upload.carried?]

end Effects

/-! ## What the programs guarantee -/

section Programs

variable (chosen : Uid → String → Prop) (form : CanonicalForm)

/-- The app respects what has been chosen. -/
theorem app_relies : Async.Relies (App.program form) (fun _ => Asks chosen) (fun _ _ _ => True)
    (fun state => Respects chosen state.toData) (fun _ => Need chosen)
    (fun state next => Grows state.toData next.toData) where
  handled respects asks handled := by
    obtain ⟨asked, same, _⟩ := handle_asked handled
    rw [same]
    exact ⟨respects, need_of_asked respects asks asked, Grows.refl _⟩
  resumed respects need _ resumed := by
    obtain ⟨reports, effect, _⟩ := resume_effect resumed
    exact ⟨respects_of_effect respects need effect, need_of_effect respects need effect,
      grows_of_effect effect⟩
  stable _ need := need

/-- Another user document that is the user's own. -/
theorem Respects.setUsers {chosen : Uid → String → Prop} {data : Data}
    (respects : Respects chosen data) {uid : Uid} {fields : Fields}
    (own : OwnDocument chosen uid fields) :
    Respects chosen (data.setStore { data.store with users := data.store.users.set uid fields }) :=
  ⟨users_of_set respects.users own, respects.families, respects.channels, respects.posts,
    respects.rows, respects.returned⟩

/-- So do the profile editor and the log-in: the editor writes none of the three fields. -/
theorem screens_relies (count : String → ℕ) (localizedDescription : String) :
    Async.Relies (Screens.program count localizedDescription) (fun _ _ => True)
      (fun _ _ _ => True) (fun state => Respects chosen state.1.toData)
      (fun _ => Users.NeedOfScreens) (fun state next => Grows state.1.toData next.1.toData) where
  handled {state next event new} respects _ handled := by
    obtain ⟨same, needs⟩ := Users.needs_of_handle handled
    rw [same]
    exact ⟨respects, needs, Grows.refl _⟩
  resumed {state next task answer new} respects need _ resumed := by
    cases task with
    | save session request =>
        obtain ⟨outcome, ran, left⟩ := Option.map_eq_some_iff.mp resumed
        obtain ⟨rfl, rfl⟩ := Prod.mk.inj left
        obtain ⟨issued, same | ⟨field, value, data, rfl, found, same⟩⟩ :=
          EditProfile.resume_cases ran
        · refine ⟨?_, List.forall_mem_map.mpr fun other member =>
            Users.needOfScreens_save.mpr (issued other member), ?_⟩
          · simpa [Screens.after, same] using respects
          · simpa [Screens.after, same] using Grows.refl state.1.toData
        · refine ⟨?_, List.forall_mem_map.mpr fun other member =>
            Users.needOfScreens_save.mpr (issued other member), ?_⟩
          · show Respects chosen (state.1.toData.setStore outcome.store)
            rw [same]
            exact respects.setUsers ((respects.users _ _ found).set need)
          · show Grows state.1.toData (state.1.toData.setStore outcome.store)
            rw [same]
            exact ⟨List.Subset.refl _, fun _ _ stored => stored⟩
    | logIn request =>
        obtain ⟨entry, ran, left⟩ := Option.map_eq_some_iff.mp resumed
        obtain ⟨rfl, rfl⟩ := Prod.mk.inj left
        have same := (LogIn.resume_cases ran).1
        refine ⟨?_, by simp [Users.NeedOfScreens], ?_⟩
        · simpa [Screens.after, same] using respects
        · simpa [Screens.after, same] using Grows.refl state.1.toData
  stable _ need := need

/-- The event of the app asks only for what has been chosen; the two screens ask for no
family. -/
def AsksWhole : Event ⊕ Screens.Event → Prop := Sum.elim (Asks chosen) fun _ => True

/-- Together they respect it as well. -/
theorem whole_relies (count : String → ℕ) (localizedDescription : String) :
    Async.Relies (Screens.whole count localizedDescription form) (fun _ => AsksWhole chosen)
      (fun _ _ _ => True) (fun state => Respects chosen state.1.toData)
      (fun _ => Sum.elim (Need chosen) Users.NeedOfScreens)
      (fun state next => Grows state.1.toData next.1.toData) := by
  have together := (app_relies chosen form).within.beside
    (screens_relies chosen count localizedDescription) (fun _ need => need) fun _ need => need
  refine (together.assuming ?_ ?_).moving ?_ fun _ need => need
  · rintro state (event | event) asks
    · exact asks
    · trivial
  · rintro state (task | task) answer _ <;> trivial
  · rintro state next (moved | moved)
    · exact moved.1
    · exact moved

theorem respects_empty : Respects chosen Screens.State.empty.1.toData := by
  constructor <;> simp [Screens.State.empty, AppState.empty, Store.empty]

/-- What the app and the two screens keep of the documents. -/
def AppSound (state : Screens.State) : Prop :=
  Respects chosen state.1.toData ∧ Users.Documents state.1

/-- What their pending requests rely on. -/
def NeedOfWhole (task : Task ⊕ Screens.Task) : Prop :=
  Sum.elim (Need chosen) Users.NeedOfScreens task ∧
    Sum.elim Users.NeedOfApp Users.NeedOfScreens task

/-- They keep the schema of the user documents, too. -/
theorem sound_relies (count : String → ℕ) (localizedDescription : String) :
    Async.Relies (Screens.whole count localizedDescription form) (fun _ => AsksWhole chosen)
      (fun _ _ _ => True) (AppSound chosen) (fun _ => NeedOfWhole chosen)
      (fun state next => Grows state.1.toData next.1.toData) :=
  (whole_relies chosen form count localizedDescription).guaranteeing
    (Users.whole_guarantees count localizedDescription form)

theorem appSound_empty : AppSound chosen Screens.State.empty :=
  ⟨respects_empty chosen, Users.documents_empty⟩

end Programs

/-! ## Whole runs -/

/-- Along the labels, the user asks for a family by this id. -/
def Tapped (labels : List (Label (Event ⊕ Screens.Event) Answer)) (uid : Uid)
    (familyId : String) : Prop :=
  ∃ event, .event (.inl event) ∈ labels ∧ asked? event = some (uid, familyId)

section Runs

variable {count : String → ℕ} {localizedDescription : String} {form : CanonicalForm}
  {labels : List (Label (Event ⊕ Screens.Event) Answer)}
  {last : Config Screens.State (Task ⊕ Screens.Task)}

/-- Every run respects what is tapped in it. -/
theorem respects_of_run
    (ran : (Screens.whole count localizedDescription form).run
      (Program.start Screens.State.empty) labels = some last) :
    Respects (Tapped labels) last.state.1.toData := by
  refine ((whole_relies (Tapped labels) form count localizedDescription).run (respects_empty _)
    (Program.obeys_of_events ?_) ran).1
  rintro (event | event) member
  · exact fun operation asks => ⟨event, member, asks⟩
  · trivial

/-- No user gets into a family unasked. In every run of the app, the log-in and the profile
editor, in any order of their steps and with any failures, each user document carries the id
of its user, each id in its `families` was typed by that user into a join or a creation, the
family it has chosen is one of those or none, and so is every row of its switch list. -/
theorem families_tapped_of_run
    (ran : (Screens.whole count localizedDescription form).run
      (Program.start Screens.State.empty) labels = some last) :
    (∀ uid data, last.state.1.store.users.get? uid = some data →
        OwnDocument (Tapped labels) uid data) ∧
      ∀ session row, (session, row) ∈ last.state.1.rows →
        Entitled (Tapped labels) session.user row :=
  have respects := respects_of_run ran
  ⟨respects.users, respects.rows⟩

/-- Posts are seen inside the family only. In every such run, each post that a timeline was
given is in a family that both its author and the reader have asked for, up to the document
its id names, or it was shared without any family. -/
theorem posts_entitled_of_run
    (ran : (Screens.whole count localizedDescription form).run
      (Program.start Screens.State.empty) labels = some last) :
    ∀ session post, (session, post) ∈ last.state.1.returned →
      ∃ (author : Uid) (familyId : String), post.string? "userId" = some author.value ∧
        post.string? "familyId" = some familyId ∧ Entitled (Tapped labels) author familyId ∧
          Entitled (Tapped labels) session.user familyId := by
  intro session post given
  obtain ⟨⟨author, familyId, userId, field, authors⟩, other, field', readers⟩ :=
    (respects_of_run ran).returned session post given
  obtain rfl : familyId = other := Option.some.inj (field.symm.trans field')
  exact ⟨author, familyId, userId, field, authors, readers⟩

end Runs

/-! ## A family of two -/

/-- A label of the app. -/
def ofApp : Label Event Answer → Label (Event ⊕ Screens.Event) Answer
  | .event event => .event (.inl event)
  | .answer ticket answer => .answer ticket answer

/-- The second user joins the family of the first and is in it because of its own tap. -/
theorem families_tapped_of_joining : ∃ last data,
    (Screens.whole String.length "The password is invalid." .scalars).run
        (Program.start Screens.State.empty)
        ((signUps ++ creation "abc" ++ joining "abc").map ofApp) = some last ∧
      last.state.1.store.users.get? userB = some data ∧
      data.strings? "families" = some ["abc"] ∧
      OwnDocument (Tapped ((signUps ++ creation "abc" ++ joining "abc").map ofApp)) userB data := by
  obtain ⟨last, ran, stored⟩ : ∃ last,
      (Screens.whole String.length "The password is invalid." .scalars).run
          (Program.start Screens.State.empty)
          ((signUps ++ creation "abc" ++ joining "abc").map ofApp) = some last ∧
        last.state.1.store.familiesOf userB = some ["abc"] :=
    Program.exists_run (by decide)
  obtain ⟨data, found, families⟩ := Option.bind_eq_some_iff.mp stored
  exact ⟨last, data, ran, found, families, (families_tapped_of_run ran).1 userB data found⟩

/-- The creator of a family shares a post and is given it. -/
theorem posts_entitled_of_lateShare : ∃ last post,
    (Screens.whole String.length "The password is invalid." .scalars).run
        (Program.start Screens.State.empty)
        ((signUps ++ creation "abc" ++ lateShare).map ofApp) = some last ∧
      last.state.1.returned = [(⟨userA, 0⟩, post)] ∧
      ∃ (author : Uid) (familyId : String), post.string? "userId" = some author.value ∧
        post.string? "familyId" = some familyId ∧
        Entitled (Tapped ((signUps ++ creation "abc" ++ lateShare).map ofApp)) author familyId ∧
        Entitled (Tapped ((signUps ++ creation "abc" ++ lateShare).map ofApp)) userA
          familyId := by
  obtain ⟨last, ran, given⟩ : ∃ last,
      (Screens.whole String.length "The password is invalid." .scalars).run
          (Program.start Screens.State.empty)
          ((signUps ++ creation "abc" ++ lateShare).map ofApp) = some last ∧
        last.state.1.returned.map Prod.fst = [⟨userA, 0⟩] :=
    Program.exists_run (by decide)
  obtain ⟨⟨reader, post⟩, only, rfl⟩ := List.map_eq_singleton_iff.mp given
  refine ⟨last, post, ran, only, posts_entitled_of_run ran ⟨userA, 0⟩ post ?_⟩
  rw [only]
  exact List.mem_singleton_self _

end Familog.App.Consent
