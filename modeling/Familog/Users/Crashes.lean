import Familog.Async.History
import Familog.Users.Readers

/-!
Contract: the steps at which the process of a device ends.

Owns the four kinds of them: a family is created under an id that is no path, an avatar that
has no encoding is saved, and a listener of the switch screen delivers a user document or a
Family document that is missing. Owns the theorem that in every run the app has trapped once
for each such step, and never else.

Does not own what keeps such steps from happening.
-/

set_option autoImplicit false

namespace Familog.Users

open App Async Firestore Swift LogInPage MainPage

/-- The tap traps: `document` throws at an id that is no path, and `jpegData` is nil. -/
def ThrowsAt : App.Event ⊕ Screens.Event → Prop
  | .inl (.createTapped _ familyNameText familyIdText) =>
      trimmingCharacters familyNameText ≠ "" ∧ document? familyIdText = none
  | .inr (.saveBtn_TouchUpInside _ fields) => fields.selectImage = true ∧ fields.encodes = false
  | _ => False

/-- The callback traps: `families as! [String]` of no document, and `uid!` of no family. -/
def ThrowsOn (store : Store) : App.Task ⊕ Screens.Task → Answer → Prop
  | .inl (.switch session .userListener), .succeeded => store.users.get? session.user = none
  | .inl (.switch _ (.familyListener familyId)), .succeeded => store.familyNamed familyId = none
  | _, _ => False

instance decidableThrowsAt : DecidablePred ThrowsAt := fun event => by
  unfold ThrowsAt
  split <;> infer_instance

instance decidableThrowsOn (store : Store) (task : App.Task ⊕ Screens.Task) (answer : Answer) :
    Decidable (ThrowsOn store task answer) := by
  unfold ThrowsOn
  split
  · exact decidable_of_iff _ Option.isNone_iff_eq_none
  · exact decidable_of_iff _ Option.isNone_iff_eq_none
  · exact instDecidableFalse

/-- The step does not trap. -/
def Quiet : Config Screens.State (App.Task ⊕ Screens.Task) →
    Label (App.Event ⊕ Screens.Event) Answer → Prop :=
  onState (fun _ event => ¬ ThrowsAt event) fun state task answer =>
    ¬ ThrowsOn state.1.store task answer

instance decidableQuiet (config : Config Screens.State (App.Task ⊕ Screens.Task))
    (label : Label (App.Event ⊕ Screens.Event) Answer) : Decidable (Quiet config label) :=
  inferInstanceAs (Decidable (onState _ _ config label))

/-- The step, if it traps. -/
def crashes (config : Config Screens.State (App.Task ⊕ Screens.Task))
    (label : Label (App.Event ⊕ Screens.Event) Answer) :
    List (Label (App.Event ⊕ Screens.Event) Answer) :=
  if Quiet config label then [] else [label]

/-! ## Family documents -/

/-- Every Family document is as it has been created. -/
def Founded (store : Store) : Prop :=
  ∀ path data, store.families.get? path = some data →
    ∃ familyName familyId, data = familyData familyName familyId

theorem founded_of_effect {form : CanonicalForm} {data next : Data} {task : App.Task}
    {answer : Answer} {new : List App.Task} {reports : List (Uid × String)}
    (founded : Founded data.store) (effect : Effect form data task answer next new reports) :
    Founded next.store := by
  cases effect with
  | @familySaved session familyName familyId path named =>
      intro other fields found
      simp only [Data.setStore, Collection.get?_set] at found
      split_ifs at found
      · exact ⟨familyName, familyId, (Option.some.inj found).symm⟩
      · exact founded other fields found
  | _ => exact founded

/-- The app keeps them. -/
theorem app_keeps_founded (form : CanonicalForm) :
    Guarantees (App.program form) (fun state => Founded state.store) fun _ => True where
  handled founded handled := by
    obtain ⟨_, same, _⟩ := handle_asked handled
    have store := congrArg Data.store same
    exact ⟨store ▸ founded, fun _ _ => trivial⟩
  resumed founded _ resumed := by
    obtain ⟨_, effect, _⟩ := resume_effect resumed
    exact ⟨founded_of_effect founded effect, fun _ _ => trivial⟩

/-- The two further screens write none. -/
theorem screens_keep_founded (count : String → ℕ) (localizedDescription : String) :
    Guarantees (Screens.program count localizedDescription)
      (fun state => Founded state.1.store) fun _ => True where
  handled founded handled := by
    obtain ⟨kept, _⟩ := needs_of_handle handled
    exact ⟨by rwa [kept], fun _ _ => trivial⟩
  resumed founded _ resumed := by
    obtain ⟨users, same, _⟩ := screens_write_users resumed
    rw [same]
    exact ⟨founded, fun _ _ => trivial⟩

theorem founded_empty : Founded Store.empty := by
  intro path data found
  simp [Store.empty] at found

/-- A listener of a family traps exactly where the document is missing. -/
theorem rowless_iff {store : Store} (founded : Founded store) {familyId : String} :
    ((store.familyNamed familyId).bind fun data => (transformFamily data).uid) = none ↔
      store.familyNamed familyId = none := by
  cases found : store.familyNamed familyId with
  | none => simp
  | some data =>
      obtain ⟨path, _, stored⟩ := Store.familyNamed_eq_some.mp found
      obtain ⟨familyName, other, rfl⟩ := founded path data stored
      have row : (transformFamily (familyData familyName other)).uid = some other :=
        familyData_uid familyName other
      simp [row]

/-! ## Counting failed casts -/

section Counting

variable {form : CanonicalForm} {state next : AppState} {shown : List Notice}

/-- A tap adds its own failed casts. -/
theorem traps_tapped {Request : Type} {event : App.Event} {embed : Request → App.Task}
    {result : List Request × List Notice} :
    Screens.State.traps ((state.tapped event embed result).1, shown) =
      Screens.State.traps (state, shown) + result.2.count .trap := by
  simp [Screens.State.traps, AppState.tapped, Function.comp_def]
  omega

theorem traps_after_count {Request : Type} {task : App.Task} {embed : Request → App.Task}
    {outcome : Outcome Request} :
    Screens.State.traps ((state.after task embed outcome).1, shown) =
      Screens.State.traps (state, shown) + outcome.notices.count .trap := by
  simp [Screens.State.traps, AppState.after, Function.comp_def]
  omega

/-- `createTapped` traps at an id that is no path. -/
theorem count_createTapped {familyNameText familyIdText : String} :
    (CreateFamily.createTapped familyNameText familyIdText).2.count .trap =
      if trimmingCharacters familyNameText ≠ "" ∧ document? familyIdText = none then 1 else 0 := by
  unfold CreateFamily.createTapped
  by_cases filled : trimmingCharacters familyNameText = ""
  · simp [filled]
  · cases named : document? familyIdText <;> simp [filled]

/-- `saveBtn_TouchUpInside` traps at an image without an encoding. -/
theorem count_saveBtn {count : String → ℕ} {fields : EditProfile.Form} :
    (EditProfile.saveBtn_TouchUpInside count fields).2.count .trap =
      if fields.selectImage = true ∧ fields.encodes = false then 1 else 0 := by
  unfold EditProfile.saveBtn_TouchUpInside EditProfile.uploadAvatar
  cases fields.selectImage <;> cases fields.encodes <;> simp

/-- An event of the app traps once if it is one of these, and else not. -/
theorem app_crash_of_handle (shown : List Notice) {event : App.Event} {new : List App.Task}
    (handled : App.handle form state event = some (next, new)) :
    Screens.State.traps (next, shown) =
      Screens.State.traps (state, shown) + if ThrowsAt (.inl event) then 1 else 0 := by
  cases event with
  | signUpTapped fields =>
      obtain ⟨rfl, rfl⟩ := Prod.ext_iff.mp (Option.some.inj handled)
      rw [traps_tapped]
      unfold SignUp.signUpTapped
      split <;> simp [ThrowsAt]
  | joinTapped session familyIdText =>
      obtain ⟨_, acted⟩ := signedIn_eq_some handled
      obtain ⟨rfl, rfl⟩ := Prod.ext_iff.mp acted
      rw [traps_tapped]
      simp only [JoinFamily.joinTapped]
      split <;> simp [ThrowsAt]
  | createTapped session familyNameText familyIdText =>
      obtain ⟨_, acted⟩ := signedIn_eq_some handled
      obtain ⟨rfl, rfl⟩ := Prod.ext_iff.mp acted
      rw [traps_tapped, count_createTapped]
      rfl
  | famliyTapped session familyId =>
      simp only [App.handle] at handled
      split_ifs at handled
      obtain ⟨_, acted⟩ := signedIn_eq_some handled
      obtain ⟨rfl, rfl⟩ := Prod.mk.inj acted
      simp [ThrowsAt]
  | shareTapped session picked descriptionText =>
      simp only [App.handle] at handled
      split_ifs at handled
      obtain ⟨_, acted⟩ := signedIn_eq_some handled
      obtain ⟨rfl, rfl⟩ := Prod.ext_iff.mp acted
      have silent : (Upload.shareTapped form picked descriptionText).2.count .trap = 0 := by
        unfold Upload.shareTapped
        split_ifs <;> simp
      rw [traps_tapped, silent]
      simp [ThrowsAt]
  | getFamilies | launch | refresh =>
      obtain ⟨_, acted⟩ := signedIn_eq_some handled
      obtain ⟨rfl, rfl⟩ := Prod.mk.inj acted
      simp [ThrowsAt, Screens.State.traps]

/-- A listener of the switch screen traps where the document it delivers is missing. -/
theorem count_switch {store : Store} {session : Session} {request : SwitchFamily.Task}
    {answer : Answer} {listing : SwitchFamily.Listing} (founded : Founded store)
    (documents : ∀ uid data, store.users.get? uid = some data → Document data)
    (resumed : SwitchFamily.resume store session.user request answer = some listing) :
    listing.outcome.notices.count .trap =
      if ThrowsOn store (.inl (.switch session request)) answer then 1 else 0 := by
  cases SwitchFamily.resume_eq_some.mp resumed with
  | userTrapped unnamed =>
      cases found : store.users.get? session.user with
      | none => simp [Outcome.ends, ThrowsOn, found]
      | some data =>
          obtain ⟨families, decoded, named⟩ := (documents _ _ found).families
          refine absurd named (unnamed families ?_)
          rw [Store.familiesOf, found]
          exact decoded
  | userListened listed named =>
      obtain ⟨data, found, _⟩ := Option.bind_eq_some_iff.mp listed
      simp [Outcome.issues, ThrowsOn, found]
  | familyTrapped absent => simp [Outcome.ends, ThrowsOn, (rowless_iff founded).mp absent]
  | familyListened found =>
      obtain ⟨data, named, _⟩ := Option.bind_eq_some_iff.mp found
      simp [Outcome.issues, ThrowsOn, named]
  | userUnread | familyUnread | unswitched | switched found => simp [Outcome.ends, ThrowsOn]

/-- The read-modify-write reads nothing but what it has received. -/
theorem append_silent {texts : AppendFamily.Texts} {store : Store} {uid : Uid} {familyId : String}
    {request : AppendFamily.Task} {answer : Answer} {outcome : Outcome AppendFamily.Task}
    (elsewhere : ∀ data, request ≠ .received data)
    (resumed : AppendFamily.resume form texts store uid familyId request answer = some outcome) :
    .trap ∉ outcome.notices := by
  cases AppendFamily.resume_eq_some.mp resumed with
  | trapped _ | arrayMade _ _ => exact absurd rfl (elsewhere _)
  | _ => simp [Outcome.ends, Outcome.issues]

/-- No other callback that reads no user document traps. -/
theorem quiet_of_unread {task : App.Task} {answer : Answer} {new : List App.Task}
    (elsewhere : ∀ session request, task ≠ .switch session request)
    (unread : Screens.usersReadByApp state.store task = [])
    (resumed : App.resume form state task answer = some (next, new)) :
    Screens.State.traps (next, shown) = Screens.State.traps (state, shown) := by
  cases task with
  | switch session request => exact absurd rfl (elsewhere session request)
  | signUp request =>
      obtain ⟨outcome, ran, left⟩ := Option.map_eq_some_iff.mp resumed
      obtain ⟨rfl, rfl⟩ := Prod.ext_iff.mp left
      refine traps_after ?_
      cases SignUp.resumed_of_resume ran <;> simp [Outcome.ends, Outcome.issues]
  | join session request =>
      obtain ⟨outcome, ran, left⟩ := Option.map_eq_some_iff.mp resumed
      obtain ⟨rfl, rfl⟩ := Prod.ext_iff.mp left
      refine traps_after ?_
      cases JoinFamily.resume_eq_some.mp ran with
      | @appended familyId step _ inner appended =>
          refine append_silent (fun data received => ?_) appended
          simp [received, Screens.usersReadByApp] at unread
      | _ => simp [Outcome.ends, Outcome.issues]
  | create session request =>
      obtain ⟨outcome, ran, left⟩ := Option.map_eq_some_iff.mp resumed
      obtain ⟨rfl, rfl⟩ := Prod.ext_iff.mp left
      refine traps_after ?_
      cases CreateFamily.resume_eq_some.mp ran with
      | @appended familyId step _ inner appended =>
          refine append_silent (fun data received => ?_) appended
          simp [received, Screens.usersReadByApp] at unread
      | _ => simp [Outcome.ends, Outcome.issues]
  | timeline session request =>
      obtain ⟨loading, ran, left⟩ := Option.map_eq_some_iff.mp resumed
      obtain ⟨rfl, rfl⟩ := Prod.ext_iff.mp left
      refine traps_after ?_
      cases Timeline.resumed_of_resume ran with
      | familyTrapped found | userTrapped found => simp [Screens.usersReadByApp, found] at unread
      | _ => simp [Outcome.ends, Outcome.issues]
  | upload session request =>
      obtain ⟨outcome, ran, left⟩ := Option.map_eq_some_iff.mp resumed
      obtain ⟨rfl, rfl⟩ := Prod.ext_iff.mp left
      refine traps_after ?_
      cases Upload.resumed_of_resume ran with
      | trapped found => simp [Screens.usersReadByApp, found] at unread
      | _ => simp [Outcome.ends, Outcome.issues]

/-- A callback of the app traps once if it is one of these, and else not. -/
theorem app_crash_of_resume (shown : List Notice) (documents : Documents state)
    (founded : Founded state.store) {task : App.Task} {answer : Answer} {new : List App.Task}
    (need : NeedOfApp task)
    (resumed : App.resume form state task answer = some (next, new)) :
    Screens.State.traps (next, shown) = Screens.State.traps (state, shown) +
      if ThrowsOn state.store (.inl task) answer then 1 else 0 := by
  by_cases switching : ∃ session request, task = .switch session request
  · obtain ⟨session, request, rfl⟩ := switching
    obtain ⟨listing, ran, left⟩ := Option.map_eq_some_iff.mp resumed
    obtain ⟨rfl, rfl⟩ := Prod.ext_iff.mp left
    rw [traps_after_count, count_switch founded documents ran]
    rfl
  · push Not at switching
    have calm : ¬ ThrowsOn state.store (.inl task) answer := by
      cases task with
      | switch session request => exact absurd rfl (switching session request)
      | _ => exact not_false
    rw [if_neg calm, Nat.add_zero]
    by_cases reads : Screens.usersReadByApp state.store task = []
    · exact quiet_of_unread switching reads resumed
    · exact app_quiet documents need reads resumed

end Counting

section Screens

variable {count : String → ℕ} {localizedDescription : String} {state next : Screens.State}

/-- An event of the two further screens. -/
theorem screens_crash_of_handle {event : Screens.Event} {new : List Screens.Task}
    (handled : Screens.handle count state event = some (next, new)) :
    next.traps = state.traps + if ThrowsAt (.inr event) then 1 else 0 := by
  cases event with
  | saveBtn_TouchUpInside session fields =>
      simp only [Screens.handle] at handled
      split_ifs at handled
      obtain ⟨rfl, rfl⟩ := Prod.mk.inj (Option.some.inj handled)
      simp only [Screens.State.traps, List.count_append, count_saveBtn, Nat.add_assoc]
      rfl
  | logInTapped emailText passwordText =>
      obtain ⟨rfl, rfl⟩ := Prod.mk.inj (Option.some.inj handled)
      simp [Screens.State.traps, LogIn.logInTapped, ThrowsAt]

/-- Their callbacks do not trap. -/
theorem screens_silent {task : Screens.Task} {answer : Answer} {new : List Screens.Task}
    (documents : Documents state.1)
    (resumed : Screens.resume localizedDescription state task answer = some (next, new)) :
    next.traps = state.traps := by
  cases task with
  | save session request =>
      obtain ⟨outcome, ran, left⟩ := Option.map_eq_some_iff.mp resumed
      obtain ⟨rfl, rfl⟩ := Prod.mk.inj left
      cases EditProfile.resumed_of_resume ran <;>
        simp [Screens.State.traps, Outcome.ends, Outcome.issues]
  | logIn request =>
      obtain ⟨entry, ran, left⟩ := Option.map_eq_some_iff.mp resumed
      obtain ⟨rfl, rfl⟩ := Prod.mk.inj left
      cases request with
      | signIn email password =>
          cases LogIn.resumed_of_resume ran <;>
            simp [Screens.State.traps, Outcome.ends, Outcome.issues]
      | getDocuments email =>
          have quiet := logIn_quiet (fun uid data found => (documents uid data found).schema) ran
          simp [Screens.State.traps, List.count_eq_zero.mpr quiet]

end Screens

/-! ## Whole runs -/

section Runs

variable {count : String → ℕ} {localizedDescription : String} {form : CanonicalForm}

/-- What the readers of the documents rely on. -/
theorem whole_keeps_founded (count : String → ℕ) (localizedDescription : String)
    (form : CanonicalForm) :
    Guarantees (Screens.whole count localizedDescription form)
      (fun state => Documents state.1 ∧ Founded state.1.store)
      (fun task => Sum.elim NeedOfApp NeedOfScreens task ∧
        Sum.elim (fun _ => True) (fun _ => True) task) :=
  (whole_guarantees count localizedDescription form).and
    ((app_keeps_founded form).within.beside (screens_keep_founded count localizedDescription))

/-- Every step traps once if it is one of the four kinds, and else not. -/
theorem crash_of_step {config next : Config Screens.State (App.Task ⊕ Screens.Task)}
    {label : Label (App.Event ⊕ Screens.Event) Answer}
    (holds : (whole_keeps_founded count localizedDescription form).outline.Holds config)
    (taken : (Screens.whole count localizedDescription form).step config label = some next) :
    next.state.traps = config.state.traps + (crashes config label).length := by
  obtain ⟨documents, founded⟩ := holds.inv
  have length : (crashes config label).length = if Quiet config label then 0 else 1 := by
    unfold crashes
    split_ifs <;> rfl
  rw [length]
  rcases Program.step_cases taken with
    ⟨event, new, rfl, handled, _⟩ | ⟨ticket, answer, task, new, rfl, found, resumed, _⟩
  · have crash : next.state.traps = config.state.traps + if ThrowsAt event then 1 else 0 := by
      rcases Program.handle_beside handled with
        ⟨own, tasks, rfl, acted, _⟩ | ⟨own, tasks, rfl, acted, _⟩
      · obtain ⟨app, same⟩ := Program.handle_within acted
        have counted := app_crash_of_handle config.state.2 app
        rwa [show (next.state.1, config.state.2) = next.state from Prod.ext rfl same.symm]
          at counted
      · exact screens_crash_of_handle acted
    rw [crash]
    by_cases throws : ThrowsAt event <;> simp [Quiet, onState, throws]
  · have needs := (holds.need task (Pool.mem_tasks_of_find? found)).1
    have crash : next.state.traps = config.state.traps +
        if ThrowsOn config.state.1.store task answer then 1 else 0 := by
      rcases Program.resume_beside resumed with
        ⟨own, tasks, rfl, acted, _⟩ | ⟨own, tasks, rfl, acted, _⟩
      · obtain ⟨app, same⟩ := Program.resume_within acted
        have counted := app_crash_of_resume config.state.2 documents founded needs app
        rwa [show (next.state.1, config.state.2) = next.state from Prod.ext rfl same.symm]
          at counted
      · have calm : ¬ ThrowsOn config.state.1.store (.inr own) answer := not_false
        rw [if_neg calm]
        exact screens_silent documents acted
    rw [crash]
    by_cases throws : ThrowsOn config.state.1.store task answer <;>
      simp [Quiet, onState, throws, found]

/-- The app crashes at these steps only. In every run of the app with the log-in and the
profile editor, in any order of the steps and with any failures, it has trapped exactly once
for each step at which a family was created under an id that is no path, an avatar without an
encoding was saved, or a listener of the switch screen delivered a missing document. -/
theorem traps_counted_of_run {labels : List (Label (App.Event ⊕ Screens.Event) Answer)}
    {last : Config Screens.State (App.Task ⊕ Screens.Task)}
    (ran : (Screens.whole count localizedDescription form).run
      (Program.start Screens.State.empty) labels = some last) :
    last.state.traps = ((Screens.whole count localizedDescription form).history crashes
      (Program.start Screens.State.empty) labels).length := by
  let outline := (whole_keeps_founded count localizedDescription form).outline
  let inv := fun (past : List (Label (App.Event ⊕ Screens.Event) Answer))
      (config : Config Screens.State (App.Task ⊕ Screens.Task)) =>
    outline.Holds config ∧ config.state.traps = past.length
  have start : inv [] (Program.start Screens.State.empty) :=
    ⟨outline.start ⟨documents_empty, founded_empty⟩, rfl⟩
  refine (Program.run_history inv ?_ start Program.obeys_true ran).2
  rintro past config label next ⟨holds, counted⟩ _ taken
  refine ⟨outline.step holds trivial taken, ?_⟩
  rw [crash_of_step holds taken, counted, List.length_append]

end Runs

/-! ## A switch screen without a user -/

/-- A user opens the switch screen before the first write of the user document has been
acknowledged, and creates a family under an id that is no path. -/
def hasty : List (Label (App.Event ⊕ Screens.Event) Answer) :=
  let session : Session := ⟨⟨"uidHasty", by decide, by decide⟩, 0⟩
  [.event (.inl (.signUpTapped ⟨"A", "a@example.org", "Passw0rd", "Passw0rd"⟩)),
    .answer 0 (.created session.user), .event (.inl (.getFamilies session)),
    .answer 2 .succeeded, .answer 1 .succeeded,
    .event (.inl (.createTapped session "Home" "a/b"))]

/-- The app traps twice: when the missing document is delivered, and at the creation. -/
theorem traps_counted_of_haste : ∃ last,
    (Screens.whole String.length "The password is invalid." CanonicalForm.scalars).run
        (Program.start Screens.State.empty) hasty = some last ∧
      last.state.traps = 2 ∧
      ((Screens.whole String.length "The password is invalid." CanonicalForm.scalars).history
        crashes (Program.start Screens.State.empty) hasty).length = 2 := by
  obtain ⟨last, ran, twice⟩ : ∃ last,
      (Screens.whole String.length "The password is invalid." CanonicalForm.scalars).run
        (Program.start Screens.State.empty) hasty = some last ∧ last.state.traps = 2 :=
    Program.exists_run (by decide)
  exact ⟨last, ran, twice, (traps_counted_of_run ran).symm.trans twice⟩

end Familog.Users
