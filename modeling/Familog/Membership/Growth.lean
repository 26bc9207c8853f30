import Familog.App.Effect

/-!
Contract: no membership is lost while every write of `families` is current.

Owns `Member`, the condition `Current` under which the read-modify-write of
`families` is safe, the theorem that under it no callback takes a family away,
and the run of two sessions in which one membership is lost without it.

`joinTapped` and `createTapped` read the array, compute, and overwrite it in
three separate steps. `Current` asks of the third step alone that it stores
every id that is in the document at that moment: each was in the array the
operation had read, or is the id it appends.
-/

set_option autoImplicit false

namespace Familog.App

open Async Firestore Swift LogInPage MainPage

/-- The family is in the `families` of the user, as Swift's `contains` sees it: by `==`, so
that two created ids that are canonically equal are one element. -/
def Member (form : CanonicalForm) (store : Store) (uid : Uid) (familyId : String) : Prop :=
  ∃ families, store.familiesOf uid = some families ∧ form.Contains families familyId

instance (form : CanonicalForm) (store : Store) (uid : Uid) (familyId : String) :
    Decidable (Member form store uid familyId) :=
  inferInstanceAs (Decidable (∃ _, _ ∧ _))

/-- The write of `families` that is about to take effect was computed from an
array that had every id now in the document, apart from the one it appends. -/
def CurrentWrite (form : CanonicalForm) (data : Data) (task : Task) (answer : Answer) : Prop :=
  match task.append?, answer with
  | some (uid, familyId, .updateData families _), .succeeded =>
      ∀ stored, data.store.familiesOf uid = some stored →
        ∀ other ∈ stored, form.Contains (families ++ [familyId]) other
  | _, _ => True

instance (form : CanonicalForm) (data : Data) (task : Task) (answer : Answer) :
    Decidable (CurrentWrite form data task answer) := by
  unfold CurrentWrite
  split <;> infer_instance

/-- Every write of `families` along the run is current. -/
def Current (form : CanonicalForm) : Config AppState Task → Label Event Answer → Prop :=
  onState (fun _ _ => True) fun state task answer => CurrentWrite form state.toData task answer

instance (form : CanonicalForm) (config : Config AppState Task) (label : Label Event Answer) :
    Decidable (Current form config label) :=
  inferInstanceAs (Decidable (onState _ _ config label))

/-- The array a pending write carries is the set made of what was read and the
id that is appended. -/
def MadeFromRead (form : CanonicalForm) (task : Task) : Prop :=
  match task.append? with
  | some (_, familyId, .updateData families newFamilies) =>
      IsSetArray form (families ++ [familyId]) newFamilies
  | _ => True

section Step

variable {form : CanonicalForm} {data next : Data} {task : Task} {answer : Answer}
  {new : List Task} {reports : List (Uid × String)} {uid : Uid} {familyId : String}
  {families newFamilies : List String}

/-- A current write keeps every member. -/
theorem member_of_updated {fields : Fields} {other : Uid} {appended : String}
    (array : IsSetArray form (families ++ [appended]) newFamilies)
    (current : ∀ stored, data.store.familiesOf other = some stored →
      ∀ id ∈ stored, form.Contains (families ++ [appended]) id)
    (member : Member form data.store uid familyId) :
    Member form { data.store with
      users := data.store.users.set other (AppendFamily.updated fields appended newFamilies) }
      uid familyId := by
  obtain ⟨stored, found, id, inStored, same⟩ := member
  rw [Member, Store.familiesOf_setUser]
  split_ifs with here
  · subst here
    refine ⟨newFamilies, AppendFamily.updated_families fields appended newFamilies, ?_⟩
    obtain ⟨kept, inNew, same'⟩ := array.contains (current stored found id inStored)
    exact ⟨kept, inNew, same'.trans same⟩
  · exact ⟨stored, found, id, inStored, same⟩

/-- Memberships survive every callback whose write of `families` is current and
which does not set up the user's document anew. -/
theorem member_of_effect (effect : Effect form data task answer next new reports)
    (made : MadeFromRead form task) (current : CurrentWrite form data task answer)
    (saved : ∀ fields, task = .signUp (.setData uid fields) →
      data.store.users.get? uid = none)
    (member : Member form data.store uid familyId) : Member form next.store uid familyId := by
  cases effect with
  | @userSaved other fields =>
      simp only [Data.setStore]
      by_cases here : uid = other
      · subst here
        obtain ⟨stored, found, _⟩ := member
        simp [Store.familiesOf, saved fields rfl] at found
      · obtain ⟨stored, found, contained⟩ := member
        refine ⟨stored, ?_, contained⟩
        rw [Store.familiesOf_setUser, if_neg here, found]
  | userUpdated pending found =>
      simp only [MadeFromRead, CurrentWrite, pending] at made current
      exact member_of_updated made current member
  | @switched session switchedTo fields found =>
      obtain ⟨stored, was, contained⟩ := member
      refine ⟨stored, ?_, contained⟩
      simp only [Data.setStore]
      rw [Store.familiesOf_setUser]
      split_ifs with here
      · subst here
        rw [Fields.strings?_merge_other (by simp)]
        simpa [Store.familiesOf, found] using was
      · exact was
  | _ => exact member

/-- A write that takes effect without being current takes a family away. -/
theorem lost_of_stale (effect : Effect form data task answer next new reports)
    (reported : reports ≠ []) (made : MadeFromRead form task)
    (stale : ¬ CurrentWrite form data task answer) :
    ∃ user lost, Member form data.store user lost ∧ ¬ Member form next.store user lost := by
  cases effect with
  | @userUpdated task user appended fields families newFamilies pending found =>
      simp only [MadeFromRead, CurrentWrite, pending] at made stale
      push Not at stale
      obtain ⟨stored, was, lost, inStored, missing⟩ := stale
      refine ⟨user, lost, ⟨stored, was, CanonicalForm.contains_of_mem inStored⟩, ?_⟩
      rintro ⟨now, stores, other, inNow, same⟩
      simp only [Data.setStore] at stores
      rw [Store.familiesOf_setUser, if_pos rfl, AppendFamily.updated_families] at stores
      obtain rfl := Option.some.inj stores
      exact missing ⟨other, made.from_source other inNow, same⟩
  | _ => exact absurd rfl reported

/-- What an operation reports is stored. -/
theorem member_of_report (effect : Effect form data task answer next new reports)
    (made : MadeFromRead form task) (report : (uid, familyId) ∈ reports) :
    Member form next.store uid familyId := by
  cases effect with
  | @userUpdated task other appended fields families newFamilies pending found =>
      obtain ⟨rfl, rfl⟩ := Prod.mk.inj (List.mem_singleton.mp report)
      simp only [MadeFromRead, pending] at made
      refine ⟨newFamilies, ?_, made.contains_appended⟩
      simp only [Data.setStore]
      rw [Store.familiesOf_setUser, if_pos rfl, AppendFamily.updated_families]
  | _ => simp at report

/-- Every request that is issued carries an array made from what was read. -/
theorem madeFromRead_of_effect (effect : Effect form data task answer next new reports) :
    ∀ request ∈ new, MadeFromRead form request := by
  cases effect with
  | userRead pending found issued => simp [MadeFromRead, issued]
  | arrayMade pending stored array issued => simpa [MadeFromRead, issued] using array
  | userListened listed => exact forall_mem_listeners trivial fun _ _ => trivial
  | _ => simp [MadeFromRead, Task.append?]

theorem madeFromRead_of_asked {event : Event} (asked : Asked form data event new) :
    ∀ request ∈ new, MadeFromRead form request := by
  cases asked <;> simp [MadeFromRead, Task.append?]

/-- Accounts are never removed, and a request to set up a user's document is
issued only for an account that did not exist. -/
theorem accounts_of_effect (effect : Effect form data task answer next new reports)
    (account : uid ∈ data.accounts) :
    uid ∈ next.accounts ∧ ∀ request ∈ new, ∀ fields, request ≠ .signUp (.setData uid fields) := by
  cases effect with
  | @accountCreated email password firstName created unknown =>
      refine ⟨List.mem_cons_of_mem _ account, ?_⟩
      intro request member fields equal
      rw [List.mem_singleton.mp member] at equal
      cases equal
      exact unknown account
  | userRead _ _ issued | arrayMade _ _ _ issued =>
      exact ⟨account, forall_mem_append issued (by simp) (by simp)⟩
  | userListened listed => exact ⟨account, by simp⟩
  | _ => exact ⟨account, by simp⟩

end Step

/-! ## Whole runs -/

/-- A store with its accounts, before anybody has tapped anything. -/
def startingFrom (store : Store) (accounts : List Uid) : AppState :=
  { AppState.empty with store := store, accounts := accounts }

/-- The memberships a user started with and those reported since are stored. -/
def keepsMemberships (form : CanonicalForm) (store : Store) (uid : Uid) :
    Outline (program form) (Current form) where
  inv state := uid ∈ state.accounts ∧
    ∀ familyId, Member form store uid familyId ∨ (uid, familyId) ∈ state.reports →
      Member form state.store uid familyId
  need _ task := MadeFromRead form task ∧ ∀ fields, task ≠ .signUp (.setData uid fields)
  apart _ _ := True
  symmetric _ := trivial
  handled := by
    intro config event state new inv _ handled
    obtain ⟨asked, data, reports⟩ := handle_asked handled
    refine .of_free (fun _ _ => trivial) ?_ (fun request member => ?_) fun _ waiting => waiting.2
    · show uid ∈ state.accounts ∧ _
      rw [data, reports]
      exact inv
    · refine ⟨madeFromRead_of_asked asked request member, fun fields equal => ?_⟩
      subst equal
      cases asked <;> simp at member
  resumed := by
    intro config ticket answer task state new inv need current found resumed
    obtain ⟨account, kept⟩ := inv
    obtain ⟨made, other⟩ := need
    obtain ⟨reports, effect, reported⟩ := resume_effect resumed
    obtain ⟨account', fresh⟩ := accounts_of_effect effect account
    have stays : ∀ {familyId}, Member form config.state.store uid familyId →
        Member form state.store uid familyId :=
      member_of_effect effect made (current task found) fun fields equal =>
        absurd equal (other fields)
    refine .of_free (fun _ _ => trivial) ⟨account', fun familyId source => ?_⟩
      (fun request member => ⟨madeFromRead_of_effect effect request member, fresh request member⟩)
      fun _ waiting => waiting.1
    rcases source with initial | inReports
    · exact stays (kept familyId (Or.inl initial))
    · rw [reported, List.mem_append] at inReports
      rcases inReports with earlier | now
      · exact stays (kept familyId (Or.inr earlier))
      · exact member_of_report effect made now

/-- Any number of sessions join and create families over any store, in any
order of their steps. As long as every write of `families` is current, each
family a user had at the start, and each whose join or creation was reported as
successful, is in the user's document. -/
theorem member_of_current_run {form : CanonicalForm} {store : Store} {accounts : List Uid}
    {uid : Uid} {familyId : String} {labels : List (Label Event Answer)}
    {last : Config AppState Task} (account : uid ∈ accounts)
    (obeys : (program form).Obeys (Current form) (Program.start (startingFrom store accounts))
      labels)
    (ran : (program form).run (Program.start (startingFrom store accounts)) labels = some last)
    (source : Member form store uid familyId ∨ (uid, familyId) ∈ last.state.reports) :
    Member form last.state.store uid familyId := by
  have holds : (keepsMemberships form store uid).Holds
      (Program.start (startingFrom store accounts)) := by
    refine Outline.start _ ⟨account, fun other source => ?_⟩
    exact source.elim id fun reported => absurd reported (by simp [AppState.reports, startingFrom,
      AppState.empty])
  exact ((keepsMemberships form store uid).run holds obeys ran).inv.2 familyId source

/-! ## Two overlapping joins -/

/-- An account. -/
def userA : Uid := ⟨"uidA", by decide, by decide⟩

/-- Two families and one user who is in neither. -/
def twoFamilies : Store :=
  { Store.empty with
    users := Store.empty.users.set userA (userData "a@example.org" "A" userA)
    families := (Store.empty.families.set ⟨["left"], rfl, by decide⟩ (familyData "Left" "left")).set
      ⟨["right"], rfl, by decide⟩ (familyData "Right" "right") }

/-- Two devices of the user join one family each: both read the user document
before either writes it. -/
def overlappingJoins : List (Label Event Answer) := [
  .event (.joinTapped ⟨userA, 0⟩ "left"), .event (.joinTapped ⟨userA, 1⟩ "right"),
  .answer 0 .succeeded, .answer 1 .succeeded,
  .answer 2 .succeeded, .answer 3 .succeeded,
  .answer 4 (.listed ["left"]), .answer 5 (.listed ["right"]),
  .answer 6 .succeeded, .answer 7 .succeeded]

/-- The same two joins, one after the other. -/
def successiveJoins : List (Label Event Answer) := [
  .event (.joinTapped ⟨userA, 0⟩ "left"), .answer 0 .succeeded, .answer 1 .succeeded,
  .answer 2 (.listed ["left"]), .answer 3 .succeeded,
  .event (.joinTapped ⟨userA, 1⟩ "right"), .answer 4 .succeeded, .answer 5 .succeeded,
  .answer 6 (.listed ["right", "left"]), .answer 7 .succeeded]

/-- Both joins report success, nothing is pending, and the first family is gone. -/
theorem overlappingJoins_lose :
    ∃ last, (program .scalars).run (Program.start (startingFrom twoFamilies [userA]))
        overlappingJoins = some last ∧
      last.pool.tasks = [] ∧ (userA, "left") ∈ last.state.reports ∧
      (userA, "right") ∈ last.state.reports ∧
      ¬ Member .scalars last.state.store userA "left" :=
  Program.exists_run (by decide)

/-- After the successive joins both families are stored. -/
theorem successiveJoins_keep :
    ∃ last, (program .scalars).run (Program.start (startingFrom twoFamilies [userA]))
        successiveJoins = some last ∧
      Member .scalars last.state.store userA "left" ∧
      Member .scalars last.state.store userA "right" := by
  obtain ⟨last, ran, left, right⟩ : ∃ last, (program .scalars).run
      (Program.start (startingFrom twoFamilies [userA])) successiveJoins = some last ∧
      (userA, "left") ∈ last.state.reports ∧ (userA, "right") ∈ last.state.reports :=
    Program.exists_run (by decide)
  exact ⟨last, ran,
    member_of_current_run (by decide) (by decide) ran (Or.inr left),
    member_of_current_run (by decide) (by decide) ran (Or.inr right)⟩

end Familog.App
