import Familog.Membership.Exclusive

/-!
Contract: the users, the families and the switch rows agree.

Owns `Tidy`, the invariant that ties `familyId` to `families`, a Family
document's `uid` to its path and a switch row to the memberships of its user,
and the outline that keeps it along every run whose writes of `families` are
current and whose created ids are bare.

A created id with a slash at an end names the document of the id without that
slash but is stored as that document's `uid`; `BareIds` excludes it.
-/

set_option autoImplicit false

namespace Familog.App

open Async Firestore Swift LogInPage MainPage

/-- The id names a document and is the text that document is named after. -/
def Nameable (familyId : String) : Prop :=
  Bare familyId ∧ ∃ path, document? familyId = some path

theorem Nameable.ne_empty {familyId : String} (nameable : Nameable familyId) : familyId ≠ "" := by
  rintro rfl
  obtain ⟨_, path, named⟩ := nameable
  have thrown : document? "" = none := by decide
  simp [thrown] at named

/-- An id that `joinTapped` finds among the listed ids is nameable. -/
theorem nameable_of_listed {form : CanonicalForm} {store : Store} {familyId : String}
    (listed : form.Contains store.familyIDs familyId) : Nameable familyId := by
  obtain ⟨filled, free⟩ := Store.slashFree_of_listed listed
  obtain ⟨key, named, _⟩ := document?_slashFree filled free
  exact ⟨bare_of_slashFree free, key, named⟩

/-! ## The invariant -/

/-- The two family fields of a user document agree. -/
structure Consistent (form : CanonicalForm) (families : List String) (familyId : String) :
    Prop where
  nameable : ∀ other ∈ families, Nameable other
  empty_iff : familyId = "" ↔ families = []
  chosen : familyId ≠ "" → form.Contains families familyId

/-- A user document whose family fields are there and agree. -/
def ConsistentUser (form : CanonicalForm) (fields : Fields) : Prop :=
  ∃ families familyId, fields.strings? "families" = some families ∧
    fields.string? "familyId" = some familyId ∧ Consistent form families familyId

/-- The invariant of the data. -/
structure Tidy (form : CanonicalForm) (data : Data) : Prop where
  users : ∀ uid fields, data.store.users.get? uid = some fields → ConsistentUser form fields
  families : ∀ path fields, data.store.families.get? path = some fields →
    ∃ familyId, Bare familyId ∧ document? familyId = some path ∧
      fields.string? "uid" = some familyId
  rows : ∀ session row, (session, row) ∈ data.rows →
    row ≠ "" ∧ Member form data.store session.user row

/-- The ids a step of the read-modify-write has read. -/
def readIds : AppendFamily.Task → List String
  | .getDocument => []
  | .received fields => (fields.strings? "families").getD []
  | .updateData families _ => families

/-- What a pending request relies on. -/
def Relies (form : CanonicalForm) (store : Store) (task : Task) : Prop :=
  match task.append? with
  | some (_, familyId, step) => Nameable familyId ∧ ∀ other ∈ readIds step, Nameable other
  | none =>
      match task with
      | .signUp (.setData _ fields) => ConsistentUser form fields
      | .create _ (.setData _ familyId) => Nameable familyId
      | .switch session (.familyListener familyId) =>
          Nameable familyId ∧ Member form store session.user familyId
      | .switch session (.updateData row) => row ≠ "" ∧ Member form store session.user row
      | _ => True

theorem Relies.mono {form : CanonicalForm} {store store' : Store} {task : Task}
    (grows : ∀ uid familyId, Member form store uid familyId → Member form store' uid familyId)
    (relies : Relies form store task) : Relies form store' task := by
  unfold Relies at relies ⊢
  split at relies
  · exact relies
  · split at relies
    · exact relies
    · exact relies
    · exact ⟨relies.1, grows _ _ relies.2⟩
    · exact ⟨relies.1, grows _ _ relies.2⟩
    · trivial

theorem consistent_nil (form : CanonicalForm) : Consistent form [] "" :=
  ⟨by simp, by simp, fun nonempty => absurd rfl nonempty⟩

/-- The fields an acknowledged write of `families` leaves agree. -/
theorem Consistent.of_setArray {form : CanonicalForm} {families newFamilies : List String}
    {familyId : String} (nameable : Nameable familyId)
    (read : ∀ other ∈ families, Nameable other)
    (array : IsSetArray form (families ++ [familyId]) newFamilies) :
    Consistent form newFamilies familyId where
  nameable other inNew := by
    rcases List.mem_append.mp (array.from_source other inNew) with old | appended
    · exact read other old
    · rwa [List.mem_singleton.mp appended]
  empty_iff := by
    apply iff_of_false nameable.ne_empty
    rintro rfl
    obtain ⟨_, member, _⟩ := array.contains_appended
    simp at member
  chosen _ := array.contains_appended

/-- Choosing a family the user is in keeps the fields in agreement. -/
theorem Consistent.choose {form : CanonicalForm} {families : List String}
    {familyId row : String} (consistent : Consistent form families familyId)
    (filled : row ≠ "") (contained : form.Contains families row) :
    Consistent form families row where
  nameable := consistent.nameable
  empty_iff := by
    apply iff_of_false filled
    rintro rfl
    obtain ⟨_, member, _⟩ := contained
    simp at member
  chosen _ := contained

/-- In tidy data a nameable id is the `uid` of the document it names. -/
theorem Tidy.uid_eq {form : CanonicalForm} {data : Data} (tidy : Tidy form data)
    {familyId : String} {fields : Fields} (nameable : Nameable familyId)
    (found : data.store.familyNamed familyId = some fields) :
    fields.string? "uid" = some familyId := by
  obtain ⟨path, named, stored⟩ := Store.familyNamed_eq_some.mp found
  obtain ⟨other, bare, otherNamed, uid⟩ := tidy.families path fields stored
  rw [uid, eq_of_document?_eq otherNamed named bare nameable.1]

/-! ## Its preservation -/

section Effects

variable {form : CanonicalForm} {data next : Data} {task : Task} {answer : Answer}
  {new : List Task} {reports : List (Uid × String)}

theorem tidy_users_set {uid : Uid} {fields : Fields}
    (users : ∀ uid fields, data.store.users.get? uid = some fields → ConsistentUser form fields)
    (consistent : ConsistentUser form fields) :
    ∀ other found, (data.store.users.set uid fields).get? other = some found →
      ConsistentUser form found := by
  intro other found stored
  rw [Collection.get?_set] at stored
  split_ifs at stored
  · exact Option.some.inj stored ▸ consistent
  · exact users other found stored

theorem users_of_tidy_effect (effect : Effect form data task answer next new reports)
    (tidy : Tidy form data) (relies : Relies form data.store task)
    (made : MadeFromRead form task) :
    ∀ uid fields, next.store.users.get? uid = some fields → ConsistentUser form fields := by
  cases effect with
  | userSaved => exact tidy_users_set tidy.users relies
  | userUpdated pending found =>
      simp only [Relies, MadeFromRead, pending] at relies made
      refine tidy_users_set tidy.users ⟨_, _, AppendFamily.updated_families _ _ _,
        AppendFamily.updated_familyId _ _ _, ?_⟩
      exact .of_setArray relies.1 relies.2 made
  | @switched session row fields found =>
      obtain ⟨filled, stored, was, contained⟩ := relies
      obtain ⟨families, familyId, families', _, consistent⟩ := tidy.users _ _ found
      obtain rfl : stored = families := by
        simpa [Store.familiesOf, found, families'] using was.symm
      refine tidy_users_set tidy.users ⟨stored, row, ?_, rfl, consistent.choose filled contained⟩
      rw [Fields.strings?_merge_other (by simp)]
      exact families'
  | _ => exact tidy.users

theorem families_of_tidy_effect (effect : Effect form data task answer next new reports)
    (tidy : Tidy form data) (relies : Relies form data.store task) :
    ∀ path fields, next.store.families.get? path = some fields →
      ∃ familyId, Bare familyId ∧ document? familyId = some path ∧
        fields.string? "uid" = some familyId := by
  cases effect with
  | @familySaved session familyName familyId saved named =>
      intro path fields stored
      simp only [Data.setStore, Collection.get?_set] at stored
      split_ifs at stored with here
      · obtain rfl := Option.some.inj stored
        exact ⟨familyId, relies.1, here ▸ named, familyData_uid familyName familyId⟩
      · exact tidy.families path fields stored
  | _ => exact tidy.families

theorem rows_of_tidy_effect (effect : Effect form data task answer next new reports)
    (tidy : Tidy form data) (relies : Relies form data.store task)
    (grows : ∀ uid familyId, Member form data.store uid familyId →
      Member form next.store uid familyId) :
    ∀ session row, (session, row) ∈ next.rows →
      row ≠ "" ∧ Member form next.store session.user row := by
  have kept : ∀ session row, (session, row) ∈ data.rows →
      row ≠ "" ∧ Member form next.store session.user row := fun session row listed =>
    ⟨(tidy.rows session row listed).1, grows _ _ (tidy.rows session row listed).2⟩
  cases effect with
  | @familyListened listener familyId fields row found uid =>
      intro session row' listed
      rcases List.mem_append.mp listed with old | appended
      · exact kept session row' old
      · obtain ⟨rfl, rfl⟩ := Prod.mk.inj (List.mem_singleton.mp appended)
        obtain ⟨nameable, member⟩ := relies
        obtain rfl : familyId = row' :=
          Option.some.inj ((tidy.uid_eq nameable found).symm.trans uid)
        exact ⟨nameable.ne_empty, member⟩
  | _ => exact kept

/-- What is issued in tidy data can rely on it. -/
theorem relies_of_effect (effect : Effect form data task answer next new reports)
    (tidy : Tidy form data) (relies : Relies form data.store task) :
    ∀ request ∈ new, Relies form next.store request := by
  cases effect with
  | accountCreated unknown =>
      intro request member
      rw [List.mem_singleton.mp member]
      exact ⟨[], "", rfl, rfl, consistent_nil form⟩
  | familyListed listed =>
      intro request member
      rw [List.mem_singleton.mp member]
      exact ⟨nameable_of_listed listed, by simp [readIds]⟩
  | userRead pending found issued =>
      intro request member
      simp only [Relies, pending] at relies
      obtain ⟨families, _, stored, _, consistent⟩ := tidy.users _ _ found
      rw [List.mem_singleton.mp member]
      simp only [Relies, issued, readIds, stored, Option.getD_some]
      exact ⟨relies.1, consistent.nameable⟩
  | arrayMade pending stored array issued =>
      intro request member
      simp only [Relies, pending, readIds, stored, Option.getD_some] at relies
      rw [List.mem_singleton.mp member]
      simpa only [Relies, issued, readIds] using relies
  | familySaved named =>
      intro request member
      rcases List.mem_pair.mp member with rfl | rfl
      · trivial
      · exact ⟨relies, by simp [readIds]⟩
  | userListened listed =>
      apply forall_mem_listeners
      · trivial
      · intro familyId inFamilies
        obtain ⟨fields, found, stored⟩ := Option.bind_eq_some_iff.mp listed
        obtain ⟨families, _, stored', _, consistent⟩ := tidy.users _ _ found
        obtain rfl := Option.some.inj (stored.symm.trans stored')
        exact ⟨consistent.nameable familyId inFamilies,
          ⟨_, listed, CanonicalForm.contains_of_mem inFamilies⟩⟩
  | familyListened found uid =>
      intro request member
      rw [List.mem_singleton.mp member]
      exact relies
  | _ => simp [Relies, Task.append?]

/-- An event relies on the rows that are listed and on the ids that are created. -/
theorem relies_of_asked {event : Event} (asked : Asked form data event new)
    (tidy : Tidy form data)
    (bare : ∀ session familyNameText familyIdText,
      event = .createTapped session familyNameText familyIdText → Bare familyIdText) :
    ∀ request ∈ new, Relies form data.store request := by
  cases asked with
  | create filled named =>
      intro request member
      rw [List.mem_singleton.mp member]
      exact ⟨bare _ _ _ rfl, _, named⟩
  | famliyTapped listed =>
      intro request member
      rw [List.mem_singleton.mp member]
      exact tidy.rows _ _ listed
  | _ => simp [Relies, Task.append?]

end Effects

/-! ## The outline -/

/-- No id is created that begins or ends with a slash. -/
def BareIds : Config AppState Task → Label Event Answer → Prop
  | _, .event (.createTapped _ _ familyIdText) => Bare familyIdText
  | _, _ => True

instance (config : Config AppState Task) (label : Label Event Answer) :
    Decidable (BareIds config label) := by
  unfold BareIds
  split <;> infer_instance

/-- The data are tidy and every pending request can rely on them. -/
def agreeing (form : CanonicalForm) {condition : Config AppState Task → Label Event Answer → Prop}
    (current : ∀ {config label}, condition config label → Current form config label)
    (bare : ∀ {config label}, condition config label → BareIds config label) :
    Outline (program form) (orderly form condition).along where
  inv state := Tidy form state.toData
  need state task := Relies form state.store task
  apart _ _ := True
  symmetric _ := trivial
  handled := by
    intro config event state new tidy allowed handled
    obtain ⟨asked, data, _⟩ := handle_asked handled
    refine .of_free (fun _ _ => trivial) ?_ ?_ ?_
    · show Tidy form state.toData
      rwa [data]
    · show ∀ request ∈ new, Relies form state.store request
      rw [data]
      apply relies_of_asked asked tidy
      rintro session familyNameText familyIdText rfl
      exact bare allowed.1
    · rintro other ⟨_, relies⟩
      show Relies form state.store other
      rwa [data]
  resumed := by
    intro config ticket answer task state new tidy relies allowed found resumed
    obtain ⟨reports, effect, _⟩ := resume_effect resumed
    obtain ⟨made, saved⟩ := allowed.2.need task (Pool.mem_tasks_of_find? found)
    have grows := members_grow effect made saved (current allowed.1 task found)
    refine .of_free (fun _ _ => trivial) ⟨?_, ?_, ?_⟩ (relies_of_effect effect tidy relies)
      fun other waiting => waiting.1.mono grows
    · exact users_of_tidy_effect effect tidy relies made
    · exact families_of_tidy_effect effect tidy relies
    · exact rows_of_tidy_effect effect tidy relies grows

theorem tidy_empty (form : CanonicalForm) : Tidy form AppState.empty.toData where
  users _ _ found := absurd found (by simp [AppState.empty, Store.empty])
  families _ _ found := absurd found (by simp [AppState.empty, Store.empty])
  rows _ _ listed := absurd listed (by simp [AppState.empty])

end Familog.App
