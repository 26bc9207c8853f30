import Familog.App

/-!
Contract: what one callback of the app can do.

Owns `Asked`, one constructor for each kind of request an event issues, and
`Effect`, one constructor for each thing an answered request does to the data,
with the theorems that every handled event and every answered request is one of
them. Every invariant of the app is proved by cases on the two and never looks
into a screen.

Does not own invariants.
-/

set_option autoImplicit false

namespace Familog.App

open Async Firestore Swift LogInPage MainPage

/-- The user, the family and the request of the read-modify-write that
`joinTapped` and `createTapped` share. -/
def Task.append? : Task → Option (Uid × String × AppendFamily.Task)
  | .join session (.append familyId task) => some (session.user, familyId, task)
  | .create session (.append familyId task) => some (session.user, familyId, task)
  | _ => none

/-- The operation whose success a notice reports: it put the family into the
user's document. -/
def reported? : Cause × Notice → Option (Uid × String)
  | (.callback task, .showSuccess _) =>
      task.append?.map fun operation => (operation.1, operation.2.1)
  | _ => none

/-- The join and create operations reported as successful so far. -/
def AppState.reports (state : AppState) : List (Uid × String) :=
  state.shown.filterMap reported?

/-- The data with another store. -/
def Data.setStore (data : Data) (store : Store) : Data := { data with store := store }

/-- The requests an event can issue. -/
inductive Asked (form : CanonicalForm) (data : Data) : Event → List Task → Prop where
  | nothing {event} : Asked form data event []
  | signUp {fields email password firstName} :
      Asked form data (.signUpTapped fields) [.signUp (.createUser email password firstName)]
  | join {session familyIdText} :
      trimmingCharacters familyIdText ≠ "" →
      Asked form data (.joinTapped session familyIdText)
        [.join session (.getDocuments (trimmingCharacters familyIdText))]
  | create {session familyNameText familyIdText path} :
      trimmingCharacters familyNameText ≠ "" → document? familyIdText = some path →
      Asked form data (.createTapped session familyNameText familyIdText)
        [.create session (.setData (trimmingCharacters familyNameText) familyIdText)]
  | getFamilies {session} :
      Asked form data (.getFamilies session) [.switch session .userListener]
  | famliyTapped {session familyId} :
      (session, familyId) ∈ data.rows →
      Asked form data (.famliyTapped session familyId) [.switch session (.updateData familyId)]
  | launch {session} :
      Asked form data (.launch session)
        [.timeline session .getFamilyId, .timeline session .observeCurrentUser]
  | refresh {session} :
      Asked form data (.refresh session) [.timeline session .observeCurrentUser]
  | share {session picked descriptionText} :
      Asked form data (.shareTapped session picked descriptionText)
        [.upload session .getFamilyId]

/-- Everything an answered request can do to the data, with the requests it
issues and the operation it reports as successful. -/
inductive Effect (form : CanonicalForm) (data : Data) :
    Task → Answer → Data → List Task → List (Uid × String) → Prop where
  | ended {task answer} : Effect form data task answer data [] []
  | accountCreated {email password firstName uid} :
      uid ∉ data.accounts →
      Effect form data (.signUp (.createUser email password firstName)) (.created uid)
        { data with accounts := uid :: data.accounts }
        [.signUp (.setData uid (userData email firstName uid))] []
  | userSaved {uid fields} :
      Effect form data (.signUp (.setData uid fields)) .succeeded
        (data.setStore { data.store with users := data.store.users.set uid fields }) [] []
  | familyListed {session familyId} :
      form.Contains data.store.familyIDs familyId →
      Effect form data (.join session (.getDocuments familyId)) .succeeded data
        [.join session (.append familyId .getDocument)] []
  | userRead {task new uid familyId fields} :
      task.append? = some (uid, familyId, .getDocument) →
      data.store.users.get? uid = some fields →
      new.append? = some (uid, familyId, .received fields) →
      Effect form data task .succeeded data [new] []
  | arrayMade {task new uid familyId fields families newFamilies answer} :
      task.append? = some (uid, familyId, .received fields) →
      fields.strings? "families" = some families →
      IsSetArray form (families ++ [familyId]) newFamilies →
      new.append? = some (uid, familyId, .updateData families newFamilies) →
      Effect form data task answer data [new] []
  | userUpdated {task uid familyId fields families newFamilies} :
      task.append? = some (uid, familyId, .updateData families newFamilies) →
      data.store.users.get? uid = some fields →
      Effect form data task .succeeded
        (data.setStore { data.store with
          users := data.store.users.set uid (AppendFamily.updated fields familyId newFamilies) })
        [] [(uid, familyId)]
  | familySaved {session familyName familyId path} :
      document? familyId = some path →
      Effect form data (.create session (.setData familyName familyId)) .succeeded
        (data.setStore { data.store with
          families := data.store.families.set path (familyData familyName familyId) })
        [.create session (.addDocument familyName familyId),
          .create session (.append familyId .getDocument)] []
  | channelAdded {session familyName familyId key} :
      data.store.channels.get? key = none →
      Effect form data (.create session (.addDocument familyName familyId)) (.assigned key)
        (data.setStore { data.store with
          channels := data.store.channels.set key
            (Channel.representation ⟨some familyId, familyName⟩) })
        [] []
  | userListened {session families} :
      data.store.familiesOf session.user = some families →
      Effect form data (.switch session .userListener) .succeeded data
        (.switch session .userListener ::
          families.map fun familyId => .switch session (.familyListener familyId)) []
  | familyListened {session familyId fields row} :
      data.store.familyNamed familyId = some fields → fields.string? "uid" = some row →
      Effect form data (.switch session (.familyListener familyId)) .succeeded
        { data with rows := data.rows ++ [(session, row)] }
        [.switch session (.familyListener familyId)] []
  | switched {session familyId fields} :
      data.store.users.get? session.user = some fields →
      Effect form data (.switch session (.updateData familyId)) .succeeded
        (data.setStore { data.store with
          users := data.store.users.set session.user
            (fields.merge [("familyId", .string familyId)]) })
        [] []
  | currentUserRead {session fields familyId} :
      data.store.users.get? session.user = some fields →
      fields.string? "familyId" = some familyId →
      Effect form data (.timeline session .observeCurrentUser) .succeeded data
        [.timeline session (.getPosts familyId)] []
  | postsRead {session familyId} :
      Effect form data (.timeline session (.getPosts familyId)) .succeeded
        { data with
          returned := data.returned ++
            (Timeline.postsByFamily data.store familyId).map fun post => (session, post) }
        [] []
  | familyIdRead {session fields familyId} :
      data.store.users.get? session.user = some fields →
      fields.string? "familyId" = some familyId →
      Effect form data (.upload session .getFamilyId) .succeeded data
        [.upload session (.putData familyId)] []
  | uploading {session task new familyId answer} :
      Upload.carried? task = some familyId → Upload.carried? new = some familyId →
      Effect form data (.upload session task) answer data [.upload session new] []
  | postDescribed {session familyId draft id} :
      Effect form data (.upload session (.visionRequest familyId)) (.classified draft id) data
        [.upload session (.setData id
          (postData { draft with description := trimmingCharacters draft.description }
            id session.user familyId))] []
  | postSaved {session id fields} :
      data.store.posts.get? id = none →
      Effect form data (.upload session (.setData id fields)) .succeeded
        (data.setStore { data.store with posts := data.store.posts.set id fields }) [] []

/-- What holds of the two kinds of listener holds of all that a delivered user
document leaves registered. -/
theorem forall_mem_listeners {holds : Task → Prop} {session : Session} {families : List String}
    (user : holds (.switch session .userListener))
    (family : ∀ familyId ∈ families, holds (.switch session (.familyListener familyId))) :
    ∀ request ∈ Task.switch session .userListener ::
      families.map (fun familyId => .switch session (.familyListener familyId)),
      holds request := by
  intro request member
  rcases List.mem_cons.mp member with rfl | listener
  · exact user
  · obtain ⟨familyId, inFamilies, rfl⟩ := List.mem_map.mp listener
    exact family familyId inFamilies

/-- What holds of the shared read-modify-write on either screen holds of each of its
requests. -/
theorem Task.of_append {holds : Task → Prop} {request : Task} (append : request.append? ≠ none)
    (join : ∀ session familyId task, holds (.join session (.append familyId task)))
    (create : ∀ session familyId task, holds (.create session (.append familyId task))) :
    holds request := by
  unfold Task.append? at append
  split at append
  · exact join _ _ _
  · exact create _ _ _
  · exact absurd rfl append

/-- The same of the one request with which it goes on. -/
theorem forall_mem_append {holds : Task → Prop} {request : Task}
    {operation : Uid × String × AppendFamily.Task} (issued : request.append? = some operation)
    (join : ∀ session familyId task, holds (.join session (.append familyId task)))
    (create : ∀ session familyId task, holds (.create session (.append familyId task))) :
    ∀ other ∈ [request], holds other := by
  intro other member
  rw [List.mem_singleton.mp member]
  exact Task.of_append (by simp [issued]) join create

/-- What a timeline is given is in the store. -/
theorem returned_stored {form : CanonicalForm} {data data' : Data} {task : App.Task}
    {answer : Answer} {new : List App.Task} {reports : List (Uid × String)}
    (effect : Effect form data task answer data' new reports) :
    ∀ entry ∈ data'.returned, entry ∈ data.returned ∨
      ∃ id, data.store.posts.get? id = some entry.2 := by
  cases effect with
  | @postsRead session familyId =>
      intro entry member
      rcases List.mem_append.mp member with before | given
      · exact Or.inl before
      · obtain ⟨post, listed, rfl⟩ := List.mem_map.mp given
        obtain ⟨⟨id, stored⟩, inStore, rfl⟩ := List.mem_map.mp (List.mem_filter.mp listed).1
        exact Or.inr ⟨id, Collection.mem_documents.mp inStore⟩
  | _ => exact fun entry before => Or.inl before

/-! ## Every answer has an effect -/

section Reports

variable {Request : Type} {state : AppState} {task : Task} {embed : Request → Task}
  {outcome : Outcome Request}

theorem reports_after :
    (state.after task embed outcome).1.reports = state.reports ++
      (outcome.notices.map fun notice => (Cause.callback task, notice)).filterMap reported? := by
  simp [AppState.reports, AppState.after]

/-- A request outside the shared read-modify-write reports no membership. -/
theorem reports_after_other (other : task.append? = none) :
    (state.after task embed outcome).1.reports = state.reports := by
  have silent : (outcome.notices.map fun notice => (Cause.callback task, notice)).filterMap
      reported? = [] := by
    rw [List.filterMap_eq_nil_iff]
    intro entry member
    obtain ⟨notice, _, rfl⟩ := List.mem_map.mp member
    cases notice <;> simp [reported?, other]
  rw [reports_after, silent, List.append_nil]

end Reports

section Screens

variable {form : CanonicalForm} {data : Data} {answer : Answer}

private theorem signUp_effect {request : SignUp.Task} {outcome : Outcome SignUp.Task}
    (resumed : SignUp.resume data.accounts data.store request answer = some outcome) :
    Effect form data (.signUp request) answer
      { data with store := outcome.store, accounts := createdAccounts data.accounts answer }
      (outcome.next.map .signUp) [] := by
  cases SignUp.resumed_of_resume resumed with
  | refused | unsaved => exact .ended
  | created unknown => exact .accountCreated unknown
  | saved => exact .userSaved

/-- The shared read-modify-write, started from either screen. -/
private theorem append_effect {texts : AppendFamily.Texts} {uid : Uid} {familyId : String}
    {request : AppendFamily.Task} {outcome : Outcome AppendFamily.Task}
    (embed : AppendFamily.Task → Task)
    (view : ∀ task, (embed task).append? = some (uid, familyId, task))
    (resumed : AppendFamily.resume form texts data.store uid familyId request answer =
      some outcome) :
    Effect form data (embed request) answer (data.setStore outcome.store)
      (outcome.next.map embed)
      ((outcome.notices.map fun notice => (Cause.callback (embed request), notice)).filterMap
        reported?) := by
  rcases AppendFamily.resume_cases resumed with
    ⟨store, next, silent⟩ | ⟨fields, rfl, rfl, found, rfl⟩ |
    ⟨fields, families, newFamilies, rfl, stored, array, rfl⟩ |
    ⟨fields, families, newFamilies, rfl, rfl, found, rfl⟩
  · have none_reported : (outcome.notices.map fun notice =>
        (Cause.callback (embed request), notice)).filterMap reported? = [] := by
      rw [List.filterMap_eq_nil_iff]
      intro entry member
      obtain ⟨notice, shown, rfl⟩ := List.mem_map.mp member
      cases notice with
      | showSuccess status => exact absurd rfl (silent _ shown status)
      | _ => rfl
    rw [none_reported, next, store]
    exact .ended
  · exact .userRead (view _) found (view _)
  · exact .arrayMade (view _) stored array (view _)
  · have reports : ([Notice.showSuccess texts.done].map fun notice =>
        (Cause.callback (embed (.updateData families newFamilies)), notice)).filterMap
          reported? = [(uid, familyId)] := by
      simp [reported?, view]
    simp only [Outcome.ends]
    rw [reports]
    exact .userUpdated (view _) found

private theorem join_effect {session : Session} {request : JoinFamily.Task}
    {outcome : Outcome JoinFamily.Task}
    (resumed : JoinFamily.resume form data.store session.user request answer = some outcome) :
    Effect form data (.join session request) answer (data.setStore outcome.store)
      (outcome.next.map (.join session))
      ((outcome.notices.map fun notice =>
        (Cause.callback (.join session request), notice)).filterMap reported?) := by
  cases JoinFamily.resume_eq_some.mp resumed with
  | unread | unlisted _ => exact .ended
  | listed inList => exact .familyListed inList
  | @appended familyId _ _ _ ran =>
      simpa [Outcome.lift, Function.comp_def] using append_effect
        (fun task => .join session (.append familyId task)) (fun _ => rfl) ran

private theorem create_effect {session : Session} {request : CreateFamily.Task}
    {outcome : Outcome CreateFamily.Task}
    (resumed : CreateFamily.resume form data.store session.user request answer = some outcome) :
    Effect form data (.create session request) answer (data.setStore outcome.store)
      (outcome.next.map (.create session))
      ((outcome.notices.map fun notice =>
        (Cause.callback (.create session request), notice)).filterMap reported?) := by
  cases CreateFamily.resume_eq_some.mp resumed with
  | unsaved | channelUnsaved => exact .ended
  | saved named => exact .familySaved named
  | channelAdded free => exact .channelAdded free
  | @appended familyId _ _ _ ran =>
      simpa [Outcome.lift, Function.comp_def] using append_effect
        (fun task => .create session (.append familyId task)) (fun _ => rfl) ran

private theorem switch_effect {session : Session} {request : SwitchFamily.Task}
    {listing : SwitchFamily.Listing}
    (resumed : SwitchFamily.resume data.store session.user request answer = some listing) :
    Effect form data (.switch session request) answer
      { data with
        store := listing.outcome.store
        rows := data.rows ++ listing.rows.map fun row => (session, row) }
      (listing.outcome.next.map (.switch session)) [] := by
  cases SwitchFamily.resume_eq_some.mp resumed with
  | userUnread | userTrapped _ | familyUnread | familyTrapped _ | unswitched =>
      simpa [Outcome.ends] using Effect.ended
  | userListened found _ =>
      simpa [Outcome.issues, Function.comp_def] using Effect.userListened found
  | familyListened found =>
      obtain ⟨fields, named, stored⟩ := Option.bind_eq_some_iff.mp found
      simpa [Outcome.issues] using Effect.familyListened named stored
  | switched found => simpa [Outcome.ends, Data.setStore] using Effect.switched found

private theorem timeline_effect {session : Session} {request : Timeline.Task}
    {loading : Timeline.Loading}
    (resumed : Timeline.resume data.store session.user request answer = some loading) :
    Effect form data (.timeline session request) answer
      { data with
        store := loading.outcome.store
        returned := data.returned ++ loading.posts.map fun post => (session, post) }
      (loading.outcome.next.map (.timeline session)) [] := by
  cases Timeline.resumed_of_resume resumed with
  | userRead found decoded =>
      obtain ⟨user, transformed, stored⟩ := Option.bind_eq_some_iff.mp decoded
      obtain ⟨dob, _, rfl⟩ := Option.map_eq_some_iff.mp transformed
      simpa [Outcome.issues] using Effect.currentUserRead found stored
  | postsRead => exact .postsRead
  | _ => simpa [Outcome.ends] using Effect.ended

private theorem upload_effect {session : Session} {request : Upload.Task}
    {outcome : Outcome Upload.Task}
    (resumed : Upload.resume data.store session.user request answer = some outcome) :
    Effect form data (.upload session request) answer (data.setStore outcome.store)
      (outcome.next.map (.upload session)) [] := by
  cases Upload.resumed_of_resume resumed with
  | read found stored => exact .familyIdRead found stored
  | uploaded | urlReceived => exact .uploading rfl rfl
  | classified => exact .postDescribed
  | saved free => exact .postSaved free
  | _ => exact .ended

end Screens

/-- Every answered request has one of the effects, and reports what it says. -/
theorem resume_effect {form : CanonicalForm} {state next : AppState} {task : Task}
    {answer : Answer} {new : List Task}
    (resumed : resume form state task answer = some (next, new)) :
    ∃ reports, Effect form state.toData task answer next.toData new reports ∧
      next.reports = state.reports ++ reports := by
  cases task with
  | signUp request =>
      obtain ⟨outcome, ran, left⟩ := Option.map_eq_some_iff.mp resumed
      obtain ⟨rfl, rfl⟩ := Prod.ext_iff.mp left
      exact ⟨[], signUp_effect ran, by rw [reports_after_other rfl, List.append_nil]; rfl⟩
  | join session request =>
      obtain ⟨outcome, ran, left⟩ := Option.map_eq_some_iff.mp resumed
      obtain ⟨rfl, rfl⟩ := Prod.ext_iff.mp left
      exact ⟨_, join_effect ran, reports_after⟩
  | create session request =>
      obtain ⟨outcome, ran, left⟩ := Option.map_eq_some_iff.mp resumed
      obtain ⟨rfl, rfl⟩ := Prod.ext_iff.mp left
      exact ⟨_, create_effect ran, reports_after⟩
  | switch session request =>
      obtain ⟨listing, ran, left⟩ := Option.map_eq_some_iff.mp resumed
      obtain ⟨rfl, rfl⟩ := Prod.ext_iff.mp left
      exact ⟨[], switch_effect ran, by rw [reports_after_other rfl, List.append_nil]; rfl⟩
  | timeline session request =>
      obtain ⟨loading, ran, left⟩ := Option.map_eq_some_iff.mp resumed
      obtain ⟨rfl, rfl⟩ := Prod.ext_iff.mp left
      exact ⟨[], timeline_effect ran, by rw [reports_after_other rfl, List.append_nil]; rfl⟩
  | upload session request =>
      obtain ⟨outcome, ran, left⟩ := Option.map_eq_some_iff.mp resumed
      obtain ⟨rfl, rfl⟩ := Prod.ext_iff.mp left
      exact ⟨[], upload_effect ran, by rw [reports_after_other rfl, List.append_nil]⟩

/-! ## Every event only asks -/

theorem reports_tapped {Request : Type} {state : AppState} {event : Event}
    {embed : Request → Task} {result : List Request × List Notice} :
    (state.tapped event embed result).1.reports = state.reports := by
  have silent : (result.2.map fun notice => (Cause.tap event, notice)).filterMap reported? =
      [] := by
    rw [List.filterMap_eq_nil_iff]
    intro entry member
    obtain ⟨notice, _, rfl⟩ := List.mem_map.mp member
    rfl
  simp [AppState.tapped, AppState.reports, silent]

theorem signedIn_eq_some {state : AppState} {session : Session}
    {result found : AppState × List Task} (acted : state.signedIn session result = some found) :
    session.user ∈ state.accounts ∧ result = found := by
  unfold AppState.signedIn at acted
  split_ifs at acted with account
  exact ⟨account, Option.some.inj acted⟩

/-- Every event leaves the data and the reports as they are and issues requests
of one of the kinds. -/
theorem handle_asked {form : CanonicalForm} {state next : AppState} {event : Event}
    {new : List Task} (handled : handle form state event = some (next, new)) :
    Asked form state.toData event new ∧ next.toData = state.toData ∧
      next.reports = state.reports := by
  cases event with
  | signUpTapped fields =>
      obtain ⟨rfl, rfl⟩ := Prod.ext_iff.mp (Option.some.inj handled)
      refine ⟨?_, rfl, reports_tapped⟩
      simp only [AppState.tapped, SignUp.signUpTapped]
      split
      · exact .nothing
      · exact .signUp
  | joinTapped session familyIdText =>
      obtain ⟨account, acted⟩ := signedIn_eq_some handled
      obtain ⟨rfl, rfl⟩ := Prod.ext_iff.mp acted
      refine ⟨?_, rfl, reports_tapped⟩
      simp only [AppState.tapped, JoinFamily.joinTapped]
      split
      · exact .nothing
      · next filled => exact .join filled
  | createTapped session familyNameText familyIdText =>
      obtain ⟨account, acted⟩ := signedIn_eq_some handled
      obtain ⟨rfl, rfl⟩ := Prod.ext_iff.mp acted
      refine ⟨?_, rfl, reports_tapped⟩
      simp only [AppState.tapped, CreateFamily.createTapped]
      split
      · exact .nothing
      · next filled =>
          split
          · exact .nothing
          · next path named => exact .create filled named
  | getFamilies session =>
      obtain ⟨account, acted⟩ := signedIn_eq_some handled
      obtain ⟨rfl, rfl⟩ := Prod.mk.inj acted
      exact ⟨.getFamilies, rfl, rfl⟩
  | famliyTapped session familyId =>
      simp only [handle] at handled
      split_ifs at handled with listed
      obtain ⟨account, acted⟩ := signedIn_eq_some handled
      obtain ⟨rfl, rfl⟩ := Prod.mk.inj acted
      exact ⟨.famliyTapped listed, rfl, rfl⟩
  | launch session =>
      obtain ⟨account, acted⟩ := signedIn_eq_some handled
      obtain ⟨rfl, rfl⟩ := Prod.mk.inj acted
      exact ⟨.launch, rfl, rfl⟩
  | refresh session =>
      obtain ⟨account, acted⟩ := signedIn_eq_some handled
      obtain ⟨rfl, rfl⟩ := Prod.mk.inj acted
      exact ⟨.refresh, rfl, rfl⟩
  | shareTapped session picked descriptionText =>
      simp only [handle] at handled
      split_ifs at handled with onTabBar
      obtain ⟨account, acted⟩ := signedIn_eq_some handled
      obtain ⟨rfl, rfl⟩ := Prod.ext_iff.mp acted
      refine ⟨?_, rfl, reports_tapped⟩
      simp only [AppState.tapped, Upload.shareTapped]
      split
      · exact .nothing
      · split
        · exact .nothing
        · exact .share

end Familog.App
