import Familog.Async.Rely
import Familog.Membership.Existence
import Familog.Users.Crashes

/-!
Contract: what keeps the app from crashing.

Owns the conditions under which nothing is missing where the switch screen looks for it: the
screen is opened by users who have a document, and whoever joins a family types its id as it
is listed. Owns the invariant that then every listed id, and every id on its way into a list,
names a document, and the theorem that such a run with proper ids and images never traps.

Does not own runs in which somebody is less careful; their failures are counted elsewhere.
-/

set_option autoImplicit false

namespace Familog.App.Careful

open Async Firestore Swift LogInPage MainPage

open Users (ThrowsAt ThrowsOn Quiet NeedOfScreens)

/-- The session that opens the switch screen with the event. -/
def opens? : Event ⊕ Screens.Event → Option Session
  | .inl (.getFamilies session) => some session
  | _ => none

/-- The id that is looked for in the list when the request is answered. -/
def joins? : Task ⊕ Screens.Task → Answer → Option String
  | .inl (.join _ (.getDocuments familyId)), .succeeded => some familyId
  | _, _ => none

/-- The tap does not trap, and the switch screen is opened with a user document. -/
def CarefulAt (store : Store) (event : Event ⊕ Screens.Event) : Prop :=
  ¬ ThrowsAt event ∧ ∀ session ∈ opens? event, (store.users.get? session.user).isSome

/-- An id that is taken for a listed one is listed as it is. -/
def CarefulOn (form : CanonicalForm) (store : Store) (task : Task ⊕ Screens.Task)
    (answer : Answer) : Prop :=
  ∀ familyId ∈ joins? task answer,
    form.Contains store.familyIDs familyId → familyId ∈ store.familyIDs

/-- The step is a careful one. -/
def Allowed (form : CanonicalForm) : Config Screens.State (Task ⊕ Screens.Task) →
    Label (Event ⊕ Screens.Event) Answer → Prop :=
  onState (fun state => CarefulAt state.1.store) fun state => CarefulOn form state.1.store

instance decidableAllowed (form : CanonicalForm)
    (config : Config Screens.State (Task ⊕ Screens.Task))
    (label : Label (Event ⊕ Screens.Event) Answer) : Decidable (Allowed form config label) :=
  have (store : Store) : DecidablePred (CarefulAt store) := fun _ =>
    inferInstanceAs (Decidable (_ ∧ ∀ session ∈ _, _))
  have (store : Store) (task : Task ⊕ Screens.Task) (answer : Answer) :
      Decidable (CarefulOn form store task answer) :=
    inferInstanceAs (Decidable (∀ familyId ∈ joins? task answer, _ → _))
  inferInstanceAs (Decidable (onState _ _ config label))

/-- Every id of a stored array names an existing Family document. -/
def Standing (store : Store) : Prop :=
  ∀ uid families, store.familiesOf uid = some families → ∀ id ∈ families, Exists store id

/-- The ids that a step of the read-modify-write has read or is about to write. -/
def heldIds : AppendFamily.Task → List String
  | .getDocument => []
  | .received fields => (fields.strings? "families").getD []
  | .updateData _ newFamilies => newFamilies

/-- What a pending request relies on: the document it listens to, and the ids it writes. -/
def Need (store : Store) (task : Task) : Prop :=
  match task.append? with
  | some (_, familyId, step) => Exists store familyId ∧ ∀ id ∈ heldIds step, Exists store id
  | none =>
      match task with
      | .signUp (.setData _ fields) => fields.strings? "families" = some []
      | .switch session .userListener => (store.users.get? session.user).isSome
      | .switch _ (.familyListener familyId) => Exists store familyId
      | _ => True

/-- No user document and no Family document is taken away. -/
structure Kept (store next : Store) : Prop where
  families : ∀ familyId, Exists store familyId → Exists next familyId
  users : ∀ uid, (store.users.get? uid).isSome → (next.users.get? uid).isSome

theorem Kept.refl (store : Store) : Kept store store := ⟨fun _ => id, fun _ => id⟩

theorem Need.mono {store next : Store} (kept : Kept store next) {task : Task}
    (need : Need store task) : Need next task := by
  unfold Need at need ⊢
  split at need
  · exact ⟨kept.families _ need.1, fun id held => kept.families id (need.2 id held)⟩
  · split at need
    · exact need
    · exact kept.users _ need
    · exact kept.families _ need
    · trivial

theorem need_of_append? {store : Store} {task : Task} {uid : Uid} {familyId : String}
    {step : AppendFamily.Task} (appends : task.append? = some (uid, familyId, step)) :
    Need store task ↔ Exists store familyId ∧ ∀ id ∈ heldIds step, Exists store id := by
  unfold Need
  rw [appends]

/-- One written user document takes none away. -/
theorem kept_setUser {store : Store} {uid : Uid} {fields : Fields} :
    Kept store { store with users := store.users.set uid fields } where
  families _ := id
  users _ := Collection.isSome_get?_set

/-- One written user document, whose families exist. -/
theorem standing_setUser {store : Store} (standing : Standing store) {uid : Uid}
    {fields : Fields}
    (exist : ∀ families, fields.strings? "families" = some families →
      ∀ id ∈ families, Exists store id) :
    Standing { store with users := store.users.set uid fields } := by
  intro other families stored
  rw [Store.familiesOf_setUser] at stored
  split_ifs at stored
  · exact exist families stored
  · exact standing other families stored

section Effects

variable {form : CanonicalForm} {data next : Data} {task : Task} {answer : Answer}
  {new : List Task} {reports : List (Uid × String)}

theorem kept_of_effect (effect : Effect form data task answer next new reports) :
    Kept data.store next.store := by
  refine ⟨fun familyId => exists_of_effect effect, ?_⟩
  cases effect with
  | userSaved | userUpdated | switched => exact kept_setUser.users
  | _ => exact fun _ => id

/-- Every answer keeps the ids existing. -/
theorem standing_of_effect (standing : Standing data.store) (need : Need data.store task)
    (effect : Effect form data task answer next new reports) : Standing next.store := by
  have kept := kept_of_effect effect
  cases effect with
  | userSaved =>
      refine standing_setUser standing fun families stored => ?_
      obtain rfl := Option.some.inj (Eq.trans (Eq.symm need) stored)
      simp
  | @userUpdated task uid familyId fields families newFamilies appends found =>
      refine standing_setUser standing fun other stored => ?_
      obtain rfl := Option.some.inj ((AppendFamily.updated_families _ _ _).symm.trans stored)
      exact ((need_of_append? appends).mp need).2
  | @switched session familyId fields found =>
      refine standing_setUser standing fun families stored => ?_
      rw [Fields.strings?_merge_other (by simp)] at stored
      exact standing session.user families (by simp [Store.familiesOf, found, stored])
  | familySaved named =>
      exact fun other families stored id member =>
        kept.families id (standing other families stored id member)
  | _ => exact standing

/-- Every answer of a careful run issues requests that rely on what holds. -/
theorem need_of_effect (standing : Standing data.store) (need : Need data.store task)
    (careful : CarefulOn form data.store (.inl task) answer)
    (effect : Effect form data task answer next new reports) :
    ∀ request ∈ new, Need next.store request := by
  cases effect with
  | accountCreated _ => simp [Need, Task.append?]
  | @familyListed session familyId listed =>
      refine List.forall_mem_singleton.mpr ⟨?_, by simp [heldIds]⟩
      obtain ⟨path, fields, named, _, stored⟩ :=
        Store.familyNamed_of_listed (careful familyId rfl listed)
      exact ⟨fields, Store.familyNamed_eq_some.mpr ⟨path, named, stored⟩⟩
  | @userRead task request uid familyId fields appends found issued =>
      refine List.forall_mem_singleton.mpr ((need_of_append? issued).mpr
        ⟨((need_of_append? appends).mp need).1, fun id read => ?_⟩)
      cases stored : fields.strings? "families" with
      | none => simp [heldIds, stored] at read
      | some families =>
          rw [heldIds, stored, Option.getD_some] at read
          exact standing uid families (by simp [Store.familiesOf, found, stored]) id read
  | arrayMade appends stored array issued =>
      obtain ⟨here, held⟩ := (need_of_append? appends).mp need
      refine List.forall_mem_singleton.mpr ((need_of_append? issued).mpr ⟨here, fun id inNew => ?_⟩)
      rcases List.mem_append.mp (array.from_source id inNew) with old | appended
      · exact held id (by rwa [heldIds, stored, Option.getD_some])
      · rwa [List.mem_singleton.mp appended]
  | @familySaved session familyName familyId path named =>
      intro request member
      rcases List.mem_pair.mp member with rfl | rfl
      · trivial
      · exact ⟨⟨familyData familyName familyId, Store.familyNamed_eq_some.mpr
          ⟨path, named, Collection.get?_set_self _ _ _⟩⟩, by simp [heldIds]⟩
  | @userListened session families listed =>
      refine forall_mem_listeners need fun familyId member => ?_
      exact standing session.user families listed familyId member
  | familyListened => exact List.forall_mem_singleton.mpr need
  | _ => simp [Need, Task.append?]

theorem need_of_asked {event : Event} (asked : Asked form data event new)
    (careful : CarefulAt data.store (.inl event)) : ∀ request ∈ new, Need data.store request := by
  cases asked with
  | getFamilies => exact List.forall_mem_singleton.mpr (careful.2 _ rfl)
  | _ => simp [Need, Task.append?]

end Effects

theorem standing_empty : Standing Screens.State.empty.1.store := by
  intro uid families stored
  simp [Store.familiesOf, Screens.State.empty, AppState.empty, Store.empty] at stored

/-! ## The programs -/

/-- The app keeps what the switch screen relies on. -/
theorem app_relies (form : CanonicalForm) :
    Async.Relies (App.program form) (fun state event => CarefulAt state.store (.inl event))
      (fun state task => CarefulOn form state.store (.inl task)) (fun state => Standing state.store)
      (fun state => Need state.store) (fun state next => Kept state.store next.store) where
  handled {state next event new} standing careful handled := by
    obtain ⟨asked, same, _⟩ := handle_asked handled
    have store : next.store = state.store := congrArg Data.store same
    rw [store]
    exact ⟨standing, need_of_asked asked careful, Kept.refl _⟩
  resumed standing need careful resumed := by
    obtain ⟨_, effect, _⟩ := resume_effect resumed
    exact ⟨standing_of_effect standing need effect, need_of_effect standing need careful effect,
      kept_of_effect effect⟩
  stable kept need := need.mono kept

/-- The profile editor writes no families. -/
theorem screens_relies (form : CanonicalForm) (count : String → ℕ)
    (localizedDescription : String) :
    Async.Relies (Screens.program count localizedDescription)
      (fun state event => CarefulAt state.1.store (.inr event))
      (fun state task => CarefulOn form state.1.store (.inr task))
      (fun state => Standing state.1.store) (fun _ => NeedOfScreens)
      (fun state next => Kept state.1.store next.1.store) where
  handled standing _ handled := by
    obtain ⟨kept, issued⟩ := Users.needs_of_handle handled
    rw [kept]
    exact ⟨standing, issued, Kept.refl _⟩
  resumed {state next task answer new} standing need _ resumed := by
    cases task with
    | save session request =>
        obtain ⟨outcome, ran, left⟩ := Option.map_eq_some_iff.mp resumed
        obtain ⟨rfl, rfl⟩ := Prod.mk.inj left
        obtain ⟨issued, kept | ⟨field, value, fields, rfl, found, kept⟩⟩ :=
          EditProfile.resume_cases ran
        · refine ⟨?_, List.forall_mem_map.mpr fun other member =>
            Users.needOfScreens_save.mpr (issued other member), ?_⟩
          · show Standing outcome.store
            rwa [kept]
          · show Kept state.1.store outcome.store
            rw [kept]
            exact Kept.refl _
        · refine ⟨?_, List.forall_mem_map.mpr fun other member =>
            Users.needOfScreens_save.mpr (issued other member), ?_⟩
          · show Standing outcome.store
            rw [kept]
            refine standing_setUser standing fun families stored => ?_
            rw [Fields.strings?_merge_other
              (by simpa using Users.ne_families_of_fieldName need)] at stored
            exact standing session.user families (by simp [Store.familiesOf, found, stored])
          · show Kept state.1.store outcome.store
            rw [kept]
            exact kept_setUser
    | logIn request =>
        obtain ⟨entry, ran, left⟩ := Option.map_eq_some_iff.mp resumed
        obtain ⟨rfl, rfl⟩ := Prod.mk.inj left
        have kept := (LogIn.resume_cases ran).1
        refine ⟨?_, by simp [NeedOfScreens], ?_⟩
        · show Standing entry.outcome.store
          rwa [kept]
        · show Kept state.1.store entry.outcome.store
          rw [kept]
          exact Kept.refl _
  stable _ need := need

/-! ## Whole runs -/

section Runs

variable {count : String → ℕ} {localizedDescription : String} {form : CanonicalForm}
  {config : Config Screens.State (Task ⊕ Screens.Task)}
  {label : Label (Event ⊕ Screens.Event) Answer}

/-- Both programs together. -/
theorem whole_relies (count : String → ℕ) (localizedDescription : String) (form : CanonicalForm) :
    Async.Relies (Screens.whole count localizedDescription form)
      (fun state => CarefulAt state.1.store) (fun state => CarefulOn form state.1.store)
      (fun state => Standing state.1.store)
      (fun state => Sum.elim (Need state.1.store) NeedOfScreens)
      (fun state next => Kept state.1.store next.1.store) := by
  have app : Async.Relies ((App.program form).within (List Notice))
      (fun state event => CarefulAt state.1.store (.inl event))
      (fun state task => CarefulOn form state.1.store (.inl task))
      (fun state => Standing state.1.store) (fun state => Need state.1.store)
      (fun state next => Kept state.1.store next.1.store) :=
    (app_relies form).within.moving And.left fun kept need => need.mono kept
  have together := app.beside (screens_relies form count localizedDescription)
    (fun kept need => need.mono kept) fun _ need => need
  refine (together.assuming ?_ ?_).moving (fun moved => moved.elim id id) ?_
  · rintro state (event | event) careful <;> exact careful
  · rintro state (task | task) answer careful <;> exact careful
  · rintro state next (task | task) kept need
    · exact need.mono kept
    · exact need

/-- No careful step traps. -/
theorem quiet_of_allowed
    (holds : (whole_relies count localizedDescription form).outline.Holds config)
    (allowed : Allowed form config label) : Quiet config label := by
  cases label with
  | event event => exact allowed.1
  | answer ticket answer =>
      intro task found throws
      have need := holds.need task (Pool.mem_tasks_of_find? found)
      unfold ThrowsOn at throws
      split at throws
      · next session =>
          obtain ⟨data, stored⟩ := Option.isSome_iff_exists.mp need
          exact absurd (stored.symm.trans throws) (by simp)
      · next session familyId =>
          obtain ⟨fields, named⟩ := need
          exact absurd (named.symm.trans throws) (by simp)
      · exact throws

/-- The document that a listener of the switch screen is registered on is there. -/
def HasDocument (store : Store) : Task ⊕ Screens.Task → Prop
  | .inl (.switch session .userListener) => (store.users.get? session.user).isSome
  | .inl (.switch _ (.familyListener familyId)) => Exists store familyId
  | _ => True

/-- Nothing has trapped, every id of a stored `families` names a Family document, and no
listener is left with a missing document. -/
structure Unharmed (config : Config Screens.State (Task ⊕ Screens.Task)) : Prop where
  traps : config.state.traps = 0
  standing : Standing config.state.1.store
  listeners : ∀ task ∈ config.pool.tasks, HasDocument config.state.1.store task

/-- What the requests rely on holds for the listeners in particular. -/
theorem hasDocument_of_holds {task : Task ⊕ Screens.Task}
    (holds : (whole_relies count localizedDescription form).outline.Holds config)
    (waiting : task ∈ config.pool.tasks) : HasDocument config.state.1.store task := by
  have need := holds.need task waiting
  unfold HasDocument
  split
  · exact need
  · exact need
  · trivial

/-- A careful run does not crash. Where every family is created under a path, every saved
avatar has an encoding, the switch screen is opened by users who have a document, and the ids
of joined families are typed as they are listed, every state of the run is unharmed: every
listed id names a Family document, no listener has lost its document and nothing has trapped,
in whatever order the sessions go on and whatever fails. -/
theorem no_traps_of_careful_run {labels : List (Label (Event ⊕ Screens.Event) Answer)}
    (careful : (Screens.whole count localizedDescription form).Obeys (Allowed form)
      (Program.start Screens.State.empty) labels) :
    (Screens.whole count localizedDescription form).Always Unharmed
      (Program.start Screens.State.empty) labels := by
  let standing := (whole_relies count localizedDescription form).outline
  let counting := (Users.whole_keeps_founded count localizedDescription form).outline
  have standingStart : standing.Holds (Program.start Screens.State.empty) :=
    standing.start standing_empty
  have countingStart : counting.Holds (Program.start Screens.State.empty) :=
    counting.start ⟨Users.documents_empty, Users.founded_empty⟩
  refine Program.always_of_invariant
    (fun config => standing.Holds config ∧ counting.Holds config ∧ config.state.traps = 0)
    ?_ ?_ ⟨standingStart, countingStart, rfl⟩ careful
  · rintro config ⟨stands, _, none⟩
    exact ⟨none, stands.inv, fun task waiting => hasDocument_of_holds stands waiting⟩
  · rintro config label next ⟨stands, counts, none⟩ allowed taken
    refine ⟨standing.step stands allowed taken, counting.step counts trivial taken, ?_⟩
    rw [Users.crash_of_step counts taken, Users.crashes, if_pos (quiet_of_allowed stands allowed),
      none]
    rfl

end Runs

/-! ## A careful run -/

/-- Two users and one family: it is created, joined, and listed by the switch screen. -/
def orderly : List (Label (Event ⊕ Screens.Event) Answer) :=
  let founder : Session := ⟨⟨"uidFounder", by decide, by decide⟩, 0⟩
  let joiner : Session := ⟨⟨"uidJoiner", by decide, by decide⟩, 0⟩
  [.event (.inl (.signUpTapped ⟨"A", "a@example.org", "Passw0rd", "Passw0rd"⟩)),
    .answer 0 (.created founder.user), .answer 1 .succeeded,
    .event (.inl (.createTapped founder "Home" "abc")), .answer 2 .succeeded,
    .event (.inl (.signUpTapped ⟨"B", "b@example.org", "Passw0rd", "Passw0rd"⟩)),
    .answer 5 (.created joiner.user), .answer 6 .succeeded,
    .event (.inl (.joinTapped joiner "abc")), .answer 7 .succeeded, .answer 8 .succeeded,
    .answer 9 (.listed ["abc"]), .answer 10 .succeeded,
    .event (.inl (.getFamilies joiner)), .answer 11 .succeeded, .answer 13 .succeeded]

/-- The row of the family is listed, and the state with its listeners is unharmed. -/
theorem no_traps_of_orderly : ∃ last,
    (Screens.whole String.length "The password is invalid." CanonicalForm.scalars).run
        (Program.start Screens.State.empty) orderly = some last ∧
      (last.state.1.rows.map Prod.snd) = ["abc"] ∧ Unharmed last := by
  obtain ⟨last, ran, listed⟩ : ∃ last,
      (Screens.whole String.length "The password is invalid." CanonicalForm.scalars).run
        (Program.start Screens.State.empty) orderly = some last ∧
      (last.state.1.rows.map Prod.snd) = ["abc"] := Program.exists_run (by decide)
  exact ⟨last, ran, listed, Program.always_last (no_traps_of_careful_run (by decide)) ran⟩

end Familog.App.Careful
