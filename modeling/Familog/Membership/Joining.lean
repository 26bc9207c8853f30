import Familog.Membership.Existence
import Familog.Operation.Joining

/-!
Contract: whether a family that has been created can be joined.

Owns the ids whose creation has been reported, that their Family documents stay in every
run of the app, and the exact condition under which another user who types such an id,
with nothing failing, ends up in the family: `joinTapped` trims the id and looks for it
among the ids of the direct documents, while `createTapped` takes it as it stands for a
path.

Does not own a join that overlaps with other operations.
-/

set_option autoImplicit false

namespace Familog.App

open Async Firestore Swift LogInPage MainPage

/-! ## Created families -/

/-- The id of the family whose creation a notice reports. -/
def createdId? : Cause × Notice → Option String
  | (.callback (.create _ (.append familyId _)), .showSuccess _) => some familyId
  | _ => none

/-- The ids whose creation has been reported as successful so far. -/
def AppState.created (state : AppState) : List String :=
  state.shown.filterMap createdId?

/-- The request goes on with the creation of this family, whose document is written. -/
def Task.Creates (familyId : String) (task : Task) : Prop :=
  ∃ session step, task = .create session (.append familyId step)

section Steps

variable {form : CanonicalForm} {state next : AppState} {task : Task} {answer : Answer}
  {event : Event} {new : List Task}

/-- A tap shows something of its own. -/
theorem shown_of_handle (handled : handle form state event = some (next, new)) :
    ∃ notices : List Notice,
      next.shown = state.shown ++ notices.map fun notice => (.tap event, notice) := by
  cases event with
  | signUpTapped fields =>
      obtain ⟨rfl, _⟩ := Prod.ext_iff.mp (Option.some.inj handled)
      exact ⟨_, rfl⟩
  | joinTapped | createTapped =>
      obtain ⟨_, acted⟩ := signedIn_eq_some handled
      obtain ⟨rfl, _⟩ := Prod.ext_iff.mp acted
      exact ⟨_, rfl⟩
  | getFamilies | launch | refresh =>
      obtain ⟨_, acted⟩ := signedIn_eq_some handled
      obtain ⟨rfl, _⟩ := Prod.mk.inj acted
      exact ⟨[], (List.append_nil _).symm⟩
  | famliyTapped =>
      simp only [handle] at handled
      split_ifs at handled
      obtain ⟨_, acted⟩ := signedIn_eq_some handled
      obtain ⟨rfl, _⟩ := Prod.mk.inj acted
      exact ⟨[], (List.append_nil _).symm⟩
  | shareTapped =>
      simp only [handle] at handled
      split_ifs at handled
      obtain ⟨_, acted⟩ := signedIn_eq_some handled
      obtain ⟨rfl, _⟩ := Prod.ext_iff.mp acted
      exact ⟨_, rfl⟩

/-- A callback shows what it shows under its own request. -/
theorem shown_of_resume (resumed : resume form state task answer = some (next, new)) :
    ∃ notices : List Notice,
      next.shown = state.shown ++ notices.map fun notice => (.callback task, notice) := by
  cases task with
  | signUp | join | create | switch | timeline | upload =>
      obtain ⟨_, _, left⟩ := Option.map_eq_some_iff.mp resumed
      obtain ⟨rfl, _⟩ := Prod.ext_iff.mp left
      exact ⟨_, rfl⟩

/-- A tap reports no creation. -/
theorem created_of_handle (handled : handle form state event = some (next, new)) :
    next.created = state.created := by
  obtain ⟨notices, shown⟩ := shown_of_handle handled
  have silent : (notices.map fun notice => (Cause.tap event, notice)).filterMap createdId? =
      [] := by
    rw [List.filterMap_eq_nil_iff]
    intro entry member
    obtain ⟨notice, _, rfl⟩ := List.mem_map.mp member
    rfl
  rw [AppState.created, shown, List.filterMap_append, silent, List.append_nil]
  rfl

/-- A callback reports the creation it goes on with, if any. -/
theorem created_of_resume (resumed : resume form state task answer = some (next, new))
    {familyId : String} (created : familyId ∈ next.created) :
    familyId ∈ state.created ∨ task.Creates familyId := by
  obtain ⟨notices, shown⟩ := shown_of_resume resumed
  rw [AppState.created, shown, List.filterMap_append, List.mem_append] at created
  refine created.imp id fun now => ?_
  obtain ⟨entry, member, reports⟩ := List.mem_filterMap.mp now
  obtain ⟨notice, _, rfl⟩ := List.mem_map.mp member
  unfold createdId? at reports
  split at reports
  · next session id step status same =>
      obtain ⟨cause, _⟩ := Prod.mk.inj same
      obtain rfl := Option.some.inj reports
      exact ⟨session, step, Cause.callback.inj cause⟩
  · simp at reports

/-- The requests of a creation go on once its document is written. -/
theorem creates_of_resume (resumed : resume form state task answer = some (next, new))
    (written : ∀ familyId, task.Creates familyId → Exists next.store familyId) :
    ∀ request ∈ new, ∀ familyId, request.Creates familyId → Exists next.store familyId := by
  rintro request member familyId ⟨session, step, rfl⟩
  cases task with
  | create owner pending =>
      obtain ⟨outcome, ran, left⟩ := Option.map_eq_some_iff.mp resumed
      obtain ⟨rfl, rfl⟩ := Prod.ext_iff.mp left
      obtain ⟨other, issued, same⟩ := List.mem_map.mp member
      obtain ⟨rfl, rfl⟩ := Task.create.inj same
      cases CreateFamily.resume_eq_some.mp ran with
      | unsaved | channelUnsaved | channelAdded _ => simp [Outcome.ends] at issued
      | saved named =>
          simp only [Outcome.issues, List.mem_cons, reduceCtorEq,
            CreateFamily.Task.append.injEq, List.not_mem_nil, or_false, false_or] at issued
          obtain ⟨rfl, _⟩ := issued
          exact ⟨_, Store.familyNamed_eq_some.mpr
            ⟨_, named, Collection.get?_set_self _ _ _⟩⟩
      | @appended id pendingStep _ _ _ =>
          obtain ⟨_, _, same⟩ := List.mem_map.mp issued
          obtain ⟨rfl, _⟩ := CreateFamily.Task.append.inj same
          exact written id ⟨owner, pendingStep, rfl⟩
  | signUp | join | switch | timeline | upload =>
      obtain ⟨outcome, _, left⟩ := Option.map_eq_some_iff.mp resumed
      obtain ⟨rfl, rfl⟩ := Prod.ext_iff.mp left
      obtain ⟨_, _, same⟩ := List.mem_map.mp member
      cases same

end Steps

/-- A family whose creation goes on, or has been reported, is stored. -/
def creationsStored (form : CanonicalForm) : Outline (program form) fun _ _ => True where
  inv state := ∀ familyId ∈ state.created, Exists state.store familyId
  need state task := ∀ familyId, task.Creates familyId → Exists state.store familyId
  apart _ _ := True
  symmetric _ := trivial
  handled := by
    intro config event state new stored _ handled
    obtain ⟨asked, data, _⟩ := handle_asked handled
    have store : state.store = config.state.store := by rw [data]
    refine .of_free (fun _ _ => trivial) ?_ ?_ fun request waiting => ?_
    · show ∀ familyId ∈ state.created, Exists state.store familyId
      rw [created_of_handle handled, store]
      exact stored
    · rintro request member familyId ⟨session, step, rfl⟩
      cases asked <;> simp at member
    · show ∀ familyId, request.Creates familyId → Exists state.store familyId
      rw [store]
      exact waiting.2
  resumed := by
    intro config ticket answer task state new stored need _ _ resumed
    obtain ⟨reports, effect, _⟩ := resume_effect resumed
    have kept : ∀ familyId, Exists config.state.store familyId → Exists state.store familyId :=
      fun _ => exists_of_effect effect
    refine .of_free (fun _ _ => trivial) (fun familyId created => ?_)
      (creates_of_resume resumed fun familyId creates => kept _ (need familyId creates))
      fun _ waiting familyId creates => kept _ (waiting.1 familyId creates)
    exact kept _ ((created_of_resume resumed created).elim (stored familyId) (need familyId))

/-- In every run of the app, a family that has been created is there. -/
theorem exists_of_created {form : CanonicalForm} {store : Store} {accounts : List Uid}
    {labels : List (Label Event Answer)} {last : Config AppState Task}
    (ran : (program form).run (Program.start (startingFrom store accounts)) labels = some last)
    {familyId : String} (created : familyId ∈ last.state.created) :
    Exists last.state.store familyId := by
  have holds : (creationsStored form).Holds (Program.start (startingFrom store accounts)) := by
    refine Outline.start _ fun other inReports => ?_
    simp [AppState.created, startingFrom, AppState.empty] at inReports
  exact ((creationsStored form).run holds Program.obeys_true ran).inv familyId created

/-! ## The join -/

/-- The user is in the family and has it chosen. -/
def Joined (form : CanonicalForm) (store : Store) (uid : Uid) (familyId : String) : Prop :=
  Member form store uid familyId ∧ store.familyIdOf uid = some familyId

instance (form : CanonicalForm) (store : Store) (uid : Uid) (familyId : String) :
    Decidable (Joined form store uid familyId) :=
  inferInstanceAs (Decidable (_ ∧ _))

/-- The text has nothing to trim and is one path segment, and the user has a document
with families; or the user is in the family already and the join finds none. -/
def Joinable (form : CanonicalForm) (store : Store) (uid : Uid) (familyIdText : String) : Prop :=
  (trimmingCharacters familyIdText = familyIdText ∧ '/' ∉ familyIdText.toList ∧
      (store.familiesOf uid).isSome) ∨
    (Joined form store uid familyIdText ∧
      ¬ form.Contains store.familyIDs (trimmingCharacters familyIdText))

instance (form : CanonicalForm) (store : Store) (uid : Uid) (familyIdText : String) :
    Decidable (Joinable form store uid familyIdText) :=
  inferInstanceAs (Decidable (_ ∨ _))

/-- What a join without failures leaves behind. -/
theorem joined_iff_of_course {setting : Operation.Setting} {store after : Store}
    {familyIdText : String} (stored : Exists store familyIdText)
    (course : Operation.JoinCourse setting store (trimmingCharacters familyIdText) [] after) :
    Joined setting.form after setting.user familyIdText ↔
      Joinable setting.form store setting.user familyIdText := by
  generalize trimmed : trimmingCharacters familyIdText = familyId at course
  rw [Joinable, trimmed]
  cases course with
  | missing unlisted =>
      refine ⟨fun joined => Or.inr ⟨joined, unlisted⟩, ?_⟩
      rintro (⟨rfl, slashFree, _⟩ | ⟨joined, _⟩)
      · obtain ⟨data, found⟩ := stored
        exact absurd (CanonicalForm.contains_of_mem (Store.listed_of_familyNamed slashFree found))
          unlisted
      · exact joined
  | unreadable listed absent =>
      refine iff_of_false ?_ ?_
      · rintro ⟨⟨families, found, _⟩, _⟩
        simp [absent] at found
      · rintro (⟨_, _, present⟩ | ⟨_, unlisted⟩)
        · simp [absent] at present
        · exact unlisted listed
  | @joined data families newFamilies listed found families? array =>
      obtain ⟨_, slashFree⟩ := Store.slashFree_of_listed listed
      have member : Member setting.form { store with
          users := store.users.set setting.user
            (AppendFamily.updated data familyId newFamilies) } setting.user familyId := by
        refine ⟨newFamilies, ?_, array.contains_appended⟩
        rw [Store.familiesOf_setUser, if_pos rfl, AppendFamily.updated_families]
      have chosen : Store.familyIdOf { store with
          users := store.users.set setting.user
            (AppendFamily.updated data familyId newFamilies) } setting.user = some familyId := by
        simp [Store.familyIdOf]
      constructor
      · rintro ⟨_, chosenText⟩
        obtain rfl : familyId = familyIdText := Option.some.inj (chosen.symm.trans chosenText)
        exact Or.inl ⟨rfl, slashFree, by simp [Store.familiesOf, found, families?]⟩
      · rintro (⟨rfl, _, _⟩ | ⟨_, unlisted⟩)
        · exact ⟨member, chosen⟩
        · exact absurd listed unlisted

section Created

variable (setting : Operation.Setting) (store : Store) (familyIdText : String)

/-- The user of the setting types the id and has the store to itself. -/
def typed : Config Operation.State Operation.Task :=
  Operation.begun setting store (.joinTapped familyIdText)

/-- The join has ended, without an error. -/
def EndsAs (answers : List (Label Operation.Event Answer))
    (ended : Config Operation.State Operation.Task) : Prop :=
  (∀ label ∈ answers, Operation.Succeeds label) ∧
    (Operation.program setting).run (typed setting store familyIdText) answers = some ended ∧
    ended.pool.tasks = []

end Created

/-- After any run of the app over any store, any user types an id whose creation has been
reported, and nothing fails. The join comes to an end, and then the user is in the family
and has it chosen, exactly if the text is joinable. -/
theorem created_family_joined_iff (setting : Operation.Setting) {store : Store}
    {accounts : List Uid} {labels : List (Label Event Answer)} {last : Config AppState Task}
    (ran : (program setting.form).run (Program.start (startingFrom store accounts)) labels =
      some last)
    {familyIdText : String} (created : familyIdText ∈ last.state.created) :
    (∃ answers ended, EndsAs setting last.state.store familyIdText answers ended) ∧
      ∀ answers ended, EndsAs setting last.state.store familyIdText answers ended →
        (Joined setting.form ended.state.store setting.user familyIdText ↔
          Joinable setting.form last.state.store setting.user familyIdText) := by
  have course := Operation.joinCourse_begun setting last.state.store familyIdText
  constructor
  · refine Operation.joinCourse_ends 5 course fun task _ => ?_
    unfold Operation.remaining
    split <;> omega
  · rintro answers ended ⟨succeed, joined, idle⟩
    have atEnd := Operation.joinCourse_run course succeed joined
    rw [idle] at atEnd
    exact joined_iff_of_course (exists_of_created ran created) atEnd

/-! ## An id with a space, and one with slashes -/

/-- The device of the other user. -/
def joiner : Operation.Setting := { Operation.asciiSetting with user := userB }

/-- The first user creates a family under the id, and the other user, who types the same,
is told that there is no such family. -/
def NotFound (familyIdText : String) : Prop :=
  ∃ last ended,
    (program joiner.form).run (Program.start (startingFrom Store.empty []))
        (signUps ++ creation familyIdText) = some last ∧
      familyIdText ∈ last.state.created ∧
      EndsAs joiner last.state.store familyIdText [.answer 0 .succeeded] ended ∧
      .showError "Can not find this family!" ∈ ended.state.notices ∧
      ¬ Joined joiner.form ended.state.store joiner.user familyIdText

theorem notFound_of_computed {familyIdText : String}
    (computed : (((program joiner.form).run (Program.start (startingFrom Store.empty []))
        (signUps ++ creation familyIdText)).any fun last => decide
          (familyIdText ∈ last.state.created ∧
            (((Operation.program joiner).run (typed joiner last.state.store familyIdText)
              [.answer 0 .succeeded]).any fun ended => decide
                (ended.pool.tasks.length = 0 ∧
                  .showError "Can not find this family!" ∈ ended.state.notices ∧
                  ¬ Joined joiner.form ended.state.store joiner.user familyIdText)) = true)) =
        true) : NotFound familyIdText := by
  obtain ⟨last, ran, created, joined⟩ := Program.exists_run computed
  obtain ⟨ended, joinRan, idle, refused, apart⟩ := Program.exists_run joined
  exact ⟨last, ended, ran, created,
    ⟨by decide, joinRan, List.length_eq_zero_iff.mp idle⟩, refused, apart⟩

/-- An id that ends with a space, and one that is a path. -/
theorem created_family_not_joined : NotFound "abc " ∧ NotFound "a/b/c" :=
  ⟨notFound_of_computed (by decide), notFound_of_computed (by decide)⟩

/-- Under an id of letters the other user ends up in the family. -/
theorem created_family_joined_letters :
    ∃ last, (program joiner.form).run (Program.start (startingFrom Store.empty []))
        (signUps ++ creation "abc") = some last ∧
      (∃ answers ended, EndsAs joiner last.state.store "abc" answers ended) ∧
      ∀ answers ended, EndsAs joiner last.state.store "abc" answers ended →
        Joined joiner.form ended.state.store joiner.user "abc" := by
  obtain ⟨last, ran, created, joinable⟩ : ∃ last, (program joiner.form).run
      (Program.start (startingFrom Store.empty [])) (signUps ++ creation "abc") = some last ∧
        "abc" ∈ last.state.created ∧
        Joinable joiner.form last.state.store joiner.user "abc" :=
    Program.exists_run (by decide)
  obtain ⟨ends, joins⟩ := created_family_joined_iff joiner ran created
  exact ⟨last, ran, ends, fun answers ended endsAs => (joins answers ended endsAs).mpr joinable⟩

end Familog.App
