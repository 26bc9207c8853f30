import Familog.Chat.Avatars
import Familog.Chat.RoundTrip
import Familog.Feed.Controller
import Familog.MainPage.Profile
import Familog.Users.Writers

/-!
Contract: no reader of an existing user document traps.

Owns the theorem that ties writers and readers together: in every state that is
reached, whatever order the sessions go on in and whatever fails, every user document
has the schema, every unwrap of a decoded user succeeds on it, and no pending callback
that reads an existing one can end in a failed cast or unwrap.

Does not own user documents that are missing; the listener of the switch screen traps
at one.
-/

set_option autoImplicit false

namespace Familog.Users

open App Async Firestore Swift LogInPage MainPage

/-! ## Callbacks without a failed cast -/

section Callbacks

variable {store : Store} {uid : Uid} {data : Fields} {answer : Answer}

/-- `joinTapped` and `createTapped`: `families as! [String]`. -/
theorem append_quiet {form : CanonicalForm} {texts : AppendFamily.Texts} {familyId : String}
    {outcome : Outcome AppendFamily.Task} (schema : Schema data)
    (resumed : AppendFamily.resume form texts store uid familyId (.received data) answer =
      some outcome) : .trap ∉ outcome.notices := by
  cases AppendFamily.resume_eq_some.mp resumed with
  | trapped unreadable =>
      have families := schema.families
      simp [unreadable] at families
  | arrayMade _ _ => simp [Outcome.issues]

/-- The switch screen: `families as! [String]`. -/
theorem switch_quiet {listing : SwitchFamily.Listing} (document : Document data)
    (found : store.users.get? uid = some data)
    (resumed : SwitchFamily.resume store uid .userListener answer = some listing) :
    .trap ∉ listing.outcome.notices := by
  cases SwitchFamily.resume_eq_some.mp resumed with
  | userUnread => simp [Outcome.ends]
  | userTrapped unnamed =>
      obtain ⟨families, decoded, named⟩ := document.families
      refine absurd named (unnamed families ?_)
      rw [Store.familiesOf, found]
      exact decoded
  | userListened _ _ => simp [Outcome.issues]

/-- The timeline: `familyId as! String`. -/
theorem getFamilyId_quiet {loading : Timeline.Loading} (schema : Schema data)
    (found : store.users.get? uid = some data)
    (resumed : Timeline.resume store uid .getFamilyId answer = some loading) :
    .trap ∉ loading.outcome.notices := by
  cases Timeline.resumed_of_resume resumed with
  | familyUnread | familyMissing _ | familyRead _ _ => simp [Outcome.ends]
  | familyTrapped there unreadable =>
      obtain rfl := Option.some.inj (found.symm.trans there)
      have familyId := schema.strings "familyId" (by decide)
      simp [unreadable] at familyId

/-- The timeline: `dob as! String`, and `familyId!` of the decoded user. -/
theorem observeCurrentUser_quiet {loading : Timeline.Loading} (schema : Schema data)
    (found : store.users.get? uid = some data)
    (resumed : Timeline.resume store uid .observeCurrentUser answer = some loading) :
    .trap ∉ loading.outcome.notices := by
  cases Timeline.resumed_of_resume resumed with
  | userUnread | userMissing _ => simp [Outcome.ends]
  | userTrapped there unreadable =>
      obtain rfl := Option.some.inj (found.symm.trans there)
      obtain ⟨user, transformed, decoded⟩ := schema.decoded
      have familyId := decoded.familyId
      simp only [transformed, Option.bind_some] at unreadable
      simp [unreadable] at familyId
  | userRead _ _ => simp [Outcome.issues]

/-- The upload: `familyId as! String`. -/
theorem upload_quiet {outcome : Outcome Upload.Task} (schema : Schema data)
    (found : store.users.get? uid = some data)
    (resumed : Upload.resume store uid .getFamilyId answer = some outcome) :
    .trap ∉ outcome.notices := by
  cases Upload.resumed_of_resume resumed with
  | unread | missing _ => simp [Outcome.ends]
  | trapped there unreadable =>
      obtain rfl := Option.some.inj (found.symm.trans there)
      have familyId := schema.strings "familyId" (by decide)
      simp [unreadable] at familyId
  | read _ _ => simp

/-- The log-in: `familyId as! String` of every document that was found. -/
theorem logIn_quiet {localizedDescription email : String} {entry : LogIn.Entry}
    (schemas : ∀ uid data, store.users.get? uid = some data → Schema data)
    (resumed : LogIn.resume localizedDescription store (.getDocuments email) answer = some entry) :
    .trap ∉ entry.outcome.notices := by
  cases LogIn.resumed_of_resume resumed with
  | unread => simp [Outcome.ends]
  | found =>
      have present : ∀ data ∈ LogIn.documentsWith store email,
          (data.string? "familyId").isSome := by
        intro data member
        obtain ⟨⟨uid, fields⟩, listed, rfl⟩ :=
          List.mem_map.mp (List.mem_of_mem_filter member)
        exact (schemas uid fields (Collection.mem_documents.mp listed)).strings "familyId"
          (by decide)
      simp [Outcome.ends, LogIn.forEach_of_familyIds present]

end Callbacks

/-! ## Decoded users -/

/-- Every unwrap of a decoded user succeeds: `firstname!`, `familyId!` and `bio!` of the
profile screens, `familyId!` of the timeline, `uid!`, `firstname!` and
`photoUrlString!` of the chat. -/
structure Unwraps (user : User) : Prop where
  updateInfo : (Profile.updateInfo user).isSome
  showLightbox : (Profile.showLightbox user).isSome
  load : (Feed.TimelineViewController.key? user).isSome
  currentSender : (Chat.currentSender user).isSome
  ofUserText : ∀ (Url Image : Type) (content : String) (now : Int),
    (Chat.Message.ofUserText user content now : Option (Chat.Message Url Image)).isSome
  ofUserPhoto : ∀ (Url Image : Type) (image : Image) (now : Int),
    (Chat.Message.ofUserPhoto user image now : Option (Chat.Message Url Image)).isSome
  avatar : ∀ (Url : Type) (url? : String → Option Url) (loads : Bool),
    (Chat.Avatars.image? url? user loads).isSome

theorem Decoded.unwraps {user : User} (decoded : Decoded user) : Unwraps user := by
  obtain ⟨firstname, hasFirstname⟩ := Option.isSome_iff_exists.mp decoded.firstname
  obtain ⟨uid, hasUid⟩ := Option.isSome_iff_exists.mp decoded.uid
  obtain ⟨bio, hasBio⟩ := Option.isSome_iff_exists.mp decoded.bio
  obtain ⟨familyId, hasFamilyId⟩ := Option.isSome_iff_exists.mp decoded.familyId
  obtain ⟨photo, hasPhoto⟩ := Option.isSome_iff_exists.mp decoded.profileImageUrl
  exact
    { updateInfo := by simp [Profile.updateInfo, hasFirstname, hasFamilyId]
      showLightbox := by simp [Profile.showLightbox, hasPhoto, hasBio]
      load := decoded.familyId
      currentSender := by simp [Chat.currentSender, hasUid, hasFirstname]
      ofUserText := by simp [Chat.Message.ofUserText, hasUid, hasFirstname]
      ofUserPhoto := by simp [Chat.Message.ofUserPhoto, hasUid, hasFirstname]
      avatar := by simp [Chat.Avatars.image?, hasPhoto] }

/-! ## Counting failed casts -/

/-- A callback of the app adds its own failed casts. -/
theorem traps_after {Request : Type} {state : AppState} {task : App.Task}
    {embed : Request → App.Task} {outcome : Outcome Request} {shown : List Notice}
    (quiet : .trap ∉ outcome.notices) :
    Screens.State.traps ((state.after task embed outcome).1, shown) =
      Screens.State.traps (state, shown) := by
  have none : outcome.notices.count Notice.trap = 0 := List.count_eq_zero.mpr quiet
  simp [Screens.State.traps, AppState.after, Function.comp_def, none]

/-- Joining and creating read the user document alike. -/
theorem traps_of_append {Request : Type} {form : CanonicalForm} {texts : AppendFamily.Texts}
    {uid : Uid} {familyId : String} {data : Fields} {answer : Answer} {state next : AppState}
    {shown : List Notice} {task : App.Task} {new : List App.Task}
    {wrap : AppendFamily.Task → Request} {embed : Request → App.Task} (schema : Schema data)
    (resumed : ((AppendFamily.resume form texts state.store uid familyId (.received data)
        answer).map (Outcome.lift wrap)).map (state.after task embed) = some (next, new)) :
    Screens.State.traps (next, shown) = Screens.State.traps (state, shown) := by
  obtain ⟨outcome, ran, left⟩ := Option.map_eq_some_iff.mp resumed
  obtain ⟨inner, appended, rfl⟩ := Option.map_eq_some_iff.mp ran
  obtain ⟨rfl, rfl⟩ := Prod.ext_iff.mp left
  exact traps_after (append_quiet schema appended)

section Safety

variable {form : CanonicalForm}

/-- No callback of the app that reads an existing user document traps. -/
theorem app_quiet {state next : AppState} {shown : List Notice} {task : App.Task}
    {answer : Answer} {new : List App.Task} (documents : Documents state) (need : NeedOfApp task)
    (reads : Screens.usersReadByApp state.store task ≠ [])
    (resumed : App.resume form state task answer = some (next, new)) :
    Screens.State.traps (next, shown) = Screens.State.traps (state, shown) := by
  have stored : ∀ {session : Session},
      (state.store.users.get? session.user).toList ≠ [] →
        ∃ data, state.store.users.get? session.user = some data ∧ Document data := by
    intro session exists_
    cases found : state.store.users.get? session.user with
    | none => simp [found] at exists_
    | some data => exact ⟨data, rfl, documents _ _ found⟩
  cases task with
  | join session request =>
      cases request with
      | getDocuments _ => exact absurd rfl reads
      | append familyId step =>
          cases step with
          | received data =>
              exact traps_of_append need.2.schema resumed
          | _ => exact absurd rfl reads
  | create session request =>
      cases request with
      | append familyId step =>
          cases step with
          | received data =>
              exact traps_of_append need.2.schema resumed
          | _ => exact absurd rfl reads
      | _ => exact absurd rfl reads
  | switch session request =>
      cases request with
      | userListener =>
          obtain ⟨data, found, document⟩ := stored reads
          obtain ⟨listing, ran, left⟩ := Option.map_eq_some_iff.mp resumed
          obtain ⟨rfl, rfl⟩ := Prod.ext_iff.mp left
          exact traps_after (switch_quiet document found ran)
      | _ => exact absurd rfl reads
  | timeline session request =>
      cases request with
      | getFamilyId =>
          obtain ⟨data, found, document⟩ := stored reads
          obtain ⟨loading, ran, left⟩ := Option.map_eq_some_iff.mp resumed
          obtain ⟨rfl, rfl⟩ := Prod.ext_iff.mp left
          exact traps_after (getFamilyId_quiet document.schema found ran)
      | observeCurrentUser =>
          obtain ⟨data, found, document⟩ := stored reads
          obtain ⟨loading, ran, left⟩ := Option.map_eq_some_iff.mp resumed
          obtain ⟨rfl, rfl⟩ := Prod.ext_iff.mp left
          exact traps_after (observeCurrentUser_quiet document.schema found ran)
      | getPosts _ => exact absurd rfl reads
  | upload session request =>
      cases request with
      | getFamilyId =>
          obtain ⟨data, found, document⟩ := stored reads
          obtain ⟨outcome, ran, left⟩ := Option.map_eq_some_iff.mp resumed
          obtain ⟨rfl, rfl⟩ := Prod.ext_iff.mp left
          exact traps_after (upload_quiet document.schema found ran)
      | _ => exact absurd rfl reads
  | signUp _ => exact absurd rfl reads

variable {count : String → ℕ} {localizedDescription : String}

/-- No callback of the two further screens that reads an existing user document traps. -/
theorem screens_quiet {state next : Screens.State} {task : Screens.Task} {answer : Answer}
    {new : List Screens.Task} (documents : Documents state.1)
    (reads : Screens.usersRead state.1.store (.inr task) ≠ [])
    (resumed : Screens.resume localizedDescription state task answer = some (next, new)) :
    next.traps = state.traps := by
  cases task with
  | save session request => exact absurd rfl reads
  | logIn request =>
      cases request with
      | signIn _ _ => exact absurd rfl reads
      | getDocuments email =>
          obtain ⟨entry, ran, left⟩ := Option.map_eq_some_iff.mp resumed
          obtain ⟨rfl, rfl⟩ := Prod.mk.inj left
          have quiet := logIn_quiet (fun uid data found => (documents uid data found).schema) ran
          simp [Screens.State.traps, List.count_eq_zero.mpr quiet]

variable (form count localizedDescription) in
/-- Every user document has the schema, is decoded, and has everything that is unwrapped
of the decoded user; and no pending callback that reads one can trap. -/
structure Safe (config : Config Screens.State (App.Task ⊕ Screens.Task)) : Prop where
  schema : ∀ uid data, config.state.1.store.users.get? uid = some data → Schema data
  decoded : ∀ uid data, config.state.1.store.users.get? uid = some data →
    ∃ user, transformUser data = some user ∧ Unwraps user
  callbacks : ∀ task ∈ config.pool.tasks, ∀ answer next new,
    Screens.usersRead config.state.1.store task ≠ [] →
    (Screens.whole count localizedDescription form).resume config.state task answer =
      some (next, new) → next.traps = config.state.traps

/-- In every run of the app and its screens, every user document has the schema and no
reader of one traps. -/
theorem users_safe_of_run (form : CanonicalForm) (count : String → ℕ)
    (localizedDescription : String)
    {labels : List (Label (App.Event ⊕ Screens.Event) Answer)}
    {last : Config Screens.State (App.Task ⊕ Screens.Task)}
    (ran : (Screens.whole count localizedDescription form).run
      (Program.start Screens.State.empty) labels = some last) :
    Safe form count localizedDescription last := by
  obtain ⟨documents, needs⟩ :=
    (whole_guarantees count localizedDescription form).run documents_empty ran
  have schema : ∀ uid data, last.state.1.store.users.get? uid = some data → Schema data :=
    fun uid data found => (documents uid data found).schema
  refine ⟨schema, fun uid data found => ?_, ?_⟩
  · obtain ⟨user, transformed, decoded⟩ := (schema uid data found).decoded
    exact ⟨user, transformed, decoded.unwraps⟩
  · rintro (task | task) pending answer next new reads resumed
    · obtain ⟨result, ran, left⟩ := Option.map_eq_some_iff.mp resumed
      obtain ⟨rfl, rfl⟩ := Prod.mk.inj left
      obtain ⟨inner, acted, rfl⟩ := Option.map_eq_some_iff.mp ran
      exact app_quiet documents (needs _ pending) reads acted
    · obtain ⟨result, ran, left⟩ := Option.map_eq_some_iff.mp resumed
      obtain ⟨rfl, rfl⟩ := Prod.mk.inj left
      exact screens_quiet documents reads ran

end Safety

/-! ## A sample run -/

/-- A user signs up and edits the profile, and the timeline is opened. -/
def edited : List (Label (App.Event ⊕ Screens.Event) Answer) :=
  let session : Session := ⟨⟨"uidE", by decide, by decide⟩, 1⟩
  [.event (.inl (.signUpTapped ⟨"userA", "a@host", "Abcdefg1", "Abcdefg1"⟩)),
    .answer 0 (.created session.user), .answer 1 .succeeded,
    .event (.inr (.saveBtn_TouchUpInside session ⟨"userB", "01/02/2003", "", false, true⟩)),
    .answer 2 .succeeded, .event (.inl (.launch session))]

/-- The write of the date of birth and the two reads of the timeline are pending, and
nothing traps. -/
theorem users_safe_of_run_edited :
    ∃ last, (Screens.whole String.length "The password is invalid." CanonicalForm.scalars).run
        (Program.start Screens.State.empty) edited = some last ∧
      last.pool.tasks.length = 3 ∧
      Safe CanonicalForm.scalars String.length "The password is invalid." last := by
  have computed : ∃ last,
      (Screens.whole String.length "The password is invalid." CanonicalForm.scalars).run
        (Program.start Screens.State.empty) edited = some last ∧ last.pool.tasks.length = 3 :=
    Program.exists_run (by decide)
  obtain ⟨last, ran, pending⟩ := computed
  exact ⟨last, ran, pending, users_safe_of_run _ _ _ ran⟩

end Familog.Users
