import Familog.Membership.Invariant

/-!
Contract: every id in a user's `families` is the `uid` of an existing Family
document.

Owns `MembershipInvariant`, the theorem that it holds after every run whose
users do not overlap their own operations, create bare ids and join ids exactly
as they are listed, and the run in which a created id with a slash at its end
breaks it.

`joinTapped` compares the typed id with the listed ids by Swift's `==`, which
identifies canonically equivalent texts; the store does not. `ExactJoins` asks
that an id which passes the comparison is listed as it is.
-/

set_option autoImplicit false

namespace Familog.App

open Async Firestore Swift LogInPage MainPage

/-- The membership invariant of one user document: (a) no duplicates, (b) the
chosen family is empty exactly when there is none and else a member, (c) every
id names a Family document whose `uid` it is. Elements are compared by Swift's `==`,
documents by their paths. -/
structure MembershipInvariant (form : CanonicalForm) (store : Store) (families : List String)
    (familyId : String) : Prop where
  distinct : families.Pairwise fun left right => ¬ form.Same left right
  empty_iff : familyId = "" ↔ families = []
  chosen : familyId ≠ "" → form.Contains families familyId
  named : ∀ id ∈ families, ∃ fields, store.familyNamed id = some fields ∧
    fields.string? "uid" = some id

/-- A typed id that is taken for a listed one is listed as it is. -/
def ExactJoins (form : CanonicalForm) : Config AppState Task → Label Event Answer → Prop :=
  onState (fun _ _ => True) fun state task answer =>
    match task, answer with
    | .join _ (.getDocuments familyId), .succeeded =>
        form.Contains state.store.familyIDs familyId → familyId ∈ state.store.familyIDs
    | _, _ => True

instance (form : CanonicalForm) (config : Config AppState Task) (label : Label Event Answer) :
    Decidable (ExactJoins form config label) :=
  have (state : AppState) (task : Task) (answer : Answer) : Decidable
      (match task, answer with
        | .join _ (.getDocuments familyId), .succeeded =>
            form.Contains state.store.familyIDs familyId → familyId ∈ state.store.familyIDs
        | _, _ => True) := by
    split <;> infer_instance
  inferInstanceAs (Decidable (onState _ _ config label))

/-- The id names an existing Family document. -/
def Exists (store : Store) (familyId : String) : Prop :=
  ∃ fields, store.familyNamed familyId = some fields

/-- Every stored array has distinct ids, and they exist. -/
def AllExist (form : CanonicalForm) (store : Store) : Prop :=
  ∀ uid families, store.familiesOf uid = some families →
    families.Pairwise (fun left right => ¬ form.Same left right) ∧
      ∀ id ∈ families, Exists store id

/-- The ids a pending request may store exist. -/
def StoresExisting (store : Store) (task : Task) : Prop :=
  match task.append? with
  | some (_, familyId, step) => Exists store familyId ∧ ∀ id ∈ readIds step, Exists store id
  | none =>
      match task with
      | .signUp (.setData _ fields) => fields.strings? "families" = some []
      | _ => True

section Effects

variable {form : CanonicalForm} {data next : Data} {task : Task} {answer : Answer}
  {new : List Task} {reports : List (Uid × String)}

/-- A Family document is never taken away. -/
theorem exists_of_effect (effect : Effect form data task answer next new reports)
    {familyId : String} (found : Exists data.store familyId) : Exists next.store familyId := by
  cases effect with
  | @familySaved session familyName saved path named =>
      obtain ⟨fields, there⟩ := found
      obtain ⟨key, keyed, stored⟩ := Store.familyNamed_eq_some.mp there
      by_cases here : key = path
      · exact ⟨_, Store.familyNamed_eq_some.mpr ⟨key, keyed, by
          simp only [Data.setStore]
          rw [here, Collection.get?_set_self]⟩⟩
      · refine ⟨fields, Store.familyNamed_eq_some.mpr ⟨key, keyed, ?_⟩⟩
        simp only [Data.setStore]
        rw [Collection.get?_set_of_ne _ _ here, stored]
  | _ => exact found

theorem StoresExisting.mono {store store' : Store} {request : Task}
    (kept : ∀ familyId, Exists store familyId → Exists store' familyId)
    (stores : StoresExisting store request) : StoresExisting store' request := by
  unfold StoresExisting at stores ⊢
  split at stores
  · exact ⟨kept _ stores.1, fun id read => kept id (stores.2 id read)⟩
  · exact stores

theorem allExist_users_set {uid : Uid} {fields : Fields} {families : List String}
    (all : AllExist form data.store) (stored : fields.strings? "families" = some families)
    (distinct : families.Pairwise fun left right => ¬ form.Same left right)
    (exist : ∀ id ∈ families, Exists data.store id) :
    AllExist form { data.store with users := data.store.users.set uid fields } := by
  intro other found there
  rw [Store.familiesOf_setUser] at there
  split_ifs at there
  · obtain rfl := Option.some.inj (stored.symm.trans there)
    exact ⟨distinct, exist⟩
  · exact all other found there

/-- The arrays stay distinct and existing. -/
theorem allExist_of_effect (effect : Effect form data task answer next new reports)
    (all : AllExist form data.store) (made : MadeFromRead form task)
    (stores : StoresExisting data.store task) : AllExist form next.store := by
  have kept : ∀ familyId, Exists data.store familyId → Exists next.store familyId :=
    fun _ => exists_of_effect effect
  cases effect with
  | userSaved => exact allExist_users_set all stores List.Pairwise.nil (by simp)
  | @userUpdated task user familyId fields families newFamilies pending found =>
      simp only [MadeFromRead, StoresExisting, pending] at made stores
      apply allExist_users_set all (AppendFamily.updated_families _ _ _) made.distinct
      intro id inNew
      rcases List.mem_append.mp (made.from_source id inNew) with old | appended
      · exact stores.2 id old
      · exact List.mem_singleton.mp appended ▸ stores.1
  | @switched session row fields found =>
      intro other families stored
      simp only [Data.setStore] at stored
      rw [Store.familiesOf_setUser] at stored
      split_ifs at stored with here
      · rw [Fields.strings?_merge_other (by simp)] at stored
        exact all session.user families (by simpa [Store.familiesOf, found] using stored)
      · exact all other families stored
  | familySaved named =>
      intro other families stored
      exact ⟨(all other families stored).1, fun id member =>
        kept id ((all other families stored).2 id member)⟩
  | _ => exact all

/-- What is issued stores existing ids again. -/
theorem storesExisting_of_effect (effect : Effect form data task answer next new reports)
    (all : AllExist form data.store) (stores : StoresExisting data.store task)
    (exact' : ∀ session familyId, task = .join session (.getDocuments familyId) →
      answer = .succeeded → form.Contains data.store.familyIDs familyId →
        familyId ∈ data.store.familyIDs) :
    ∀ request ∈ new, StoresExisting next.store request := by
  cases effect with
  | accountCreated unknown => simp [StoresExisting, Task.append?]
  | @familyListed session familyId listed =>
      obtain ⟨path, fields, named, _, stored⟩ :=
        Store.familyNamed_of_listed (exact' session familyId rfl rfl listed)
      intro request member
      rw [List.mem_singleton.mp member]
      exact ⟨⟨fields, Store.familyNamed_eq_some.mpr ⟨path, named, stored⟩⟩, by simp [readIds]⟩
  | @userRead task request uid familyId fields pending found issued =>
      intro request member
      simp only [StoresExisting, pending] at stores
      rw [List.mem_singleton.mp member]
      simp only [StoresExisting, issued, readIds]
      refine ⟨stores.1, fun id read => ?_⟩
      cases stored : fields.strings? "families" with
      | none => simp [stored] at read
      | some families =>
          rw [stored, Option.getD_some] at read
          exact (all uid families (by simp [Store.familiesOf, found, stored])).2 id read
  | arrayMade pending stored array issued =>
      intro request member
      simp only [StoresExisting, pending, readIds, stored, Option.getD_some] at stores
      rw [List.mem_singleton.mp member]
      simpa only [StoresExisting, issued, readIds] using stores
  | @familySaved session familyName familyId path named =>
      intro request member
      rcases List.mem_pair.mp member with rfl | rfl
      · trivial
      · refine ⟨⟨familyData familyName familyId,
          Store.familyNamed_eq_some.mpr ⟨path, named, ?_⟩⟩, by simp [readIds]⟩
        simp only [Data.setStore]
        exact Collection.get?_set_self _ _ _
  | userListened listed => exact forall_mem_listeners trivial fun _ _ => trivial
  | _ => simp [StoresExisting, Task.append?]

theorem storesExisting_of_asked {event : Event} (asked : Asked form data event new)
    (store : Store) : ∀ request ∈ new, StoresExisting store request := by
  cases asked <;> simp [StoresExisting, Task.append?]

end Effects

/-! ## Whole runs -/

/-- The conditions of the claim on a step: operations of one user do not overlap,
created ids are bare, joined ids are exact. -/
def Orderly (form : CanonicalForm) (config : Config AppState Task)
    (label : Label Event Answer) : Prop :=
  Separate config label ∧ BareIds config label ∧ ExactJoins form config label

instance (form : CanonicalForm) (config : Config AppState Task) (label : Label Event Answer) :
    Decidable (Orderly form config label) :=
  inferInstanceAs (Decidable (_ ∧ _ ∧ _))

section Run

variable {form : CanonicalForm} {condition : Config AppState Task → Label Event Answer → Prop}

/-- On top of the agreement of the fields: stored ids are distinct and exist. -/
def existing (current : ∀ {config label}, condition config label → Current form config label)
    (bare : ∀ {config label}, condition config label → BareIds config label)
    (exact' : ∀ {config label}, condition config label → ExactJoins form config label) :
    Outline (program form) (agreeing form current bare).along where
  inv state := AllExist form state.store
  need state task := StoresExisting state.store task
  apart _ _ := True
  symmetric _ := trivial
  handled := by
    intro config event state new all _ handled
    obtain ⟨asked, data, _⟩ := handle_asked handled
    refine .of_free (fun _ _ => trivial) ?_ (storesExisting_of_asked asked _) ?_
    · show AllExist form state.store
      rwa [data]
    · rintro other ⟨_, stores⟩
      show StoresExisting state.store other
      rwa [data]
  resumed := by
    intro config ticket answer task state new all stores allowed found resumed
    obtain ⟨reports, effect, _⟩ := resume_effect resumed
    have made := (allowed.1.2.need task (Pool.mem_tasks_of_find? found)).1
    refine .of_free (fun _ _ => trivial) (allExist_of_effect effect all made stores) ?_
      fun other waiting => waiting.1.mono fun familyId => exists_of_effect effect
    apply storesExisting_of_effect effect all stores
    rintro session familyId rfl rfl listed
    exact exact' allowed.1.1 _ found listed

end Run

/-- Any number of users sign up, create, join and switch families from the empty
store, with any failures and any order of different users' steps. While the
steps are orderly, every Users document satisfies the membership invariant. -/
theorem membership_of_orderly_run {form : CanonicalForm} {labels : List (Label Event Answer)}
    {last : Config AppState Task} {uid : Uid} {fields : Fields}
    (obeys : (program form).Obeys (Orderly form) (Program.start AppState.empty) labels)
    (ran : (program form).run (Program.start AppState.empty) labels = some last)
    (found : last.state.store.users.get? uid = some fields) :
    ∃ families familyId, fields.strings? "families" = some families ∧
      fields.string? "familyId" = some familyId ∧
      MembershipInvariant form last.state.store families familyId := by
  have withCurrent := current_of_separate (fun allowed => allowed.1) obeys
  have ordered := (orderly form _).obeys_along (orderly_start form _) withCurrent
  let condition := fun config label => Orderly form config label ∧ Current form config label
  let agrees : Outline (program form) (orderly form condition).along :=
    agreeing form (fun allowed => allowed.2) fun allowed => allowed.1.2.1
  let exists' : Outline (program form) agrees.along :=
    existing (fun allowed => allowed.2) (fun allowed => allowed.1.2.1)
      fun allowed => allowed.1.2.2
  have start : agrees.Holds (Program.start AppState.empty) := Outline.start _ (tidy_empty form)
  have tidy : Tidy form last.state.toData := (agrees.run start ordered ran).inv
  have alongAgrees := agrees.obeys_along start ordered
  have all : AllExist form last.state.store := by
    refine (exists'.run (Outline.start _ ?_) alongAgrees ran).inv
    intro uid families stored
    simp [Store.familiesOf, AppState.empty, Store.empty] at stored
  obtain ⟨families, familyId, stored, chosen, consistent⟩ := tidy.users uid fields found
  obtain ⟨distinct, exist⟩ := all uid families (by simp [Store.familiesOf, found, stored])
  refine ⟨families, familyId, stored, chosen, distinct, consistent.empty_iff,
    consistent.chosen, fun id member => ?_⟩
  obtain ⟨family, named⟩ := exist id member
  exact ⟨family, named, tidy.uid_eq (consistent.nameable id member) named⟩

/-! ## A created id with a slash at its end -/

/-- Another account. -/
def userB : Uid := ⟨"uidB", by decide, by decide⟩

/-- Both users sign up. -/
def signUps : List (Label Event Answer) := [
  .event (.signUpTapped ⟨"A", "a@example.org", "Passw0rd", "Passw0rd"⟩),
  .answer 0 (.created userA), .answer 1 .succeeded,
  .event (.signUpTapped ⟨"B", "b@example.org", "Passw0rd", "Passw0rd"⟩),
  .answer 2 (.created userB), .answer 3 .succeeded]

/-- After the sign-ups, the first user creates a family under the given id. -/
def creation (familyIdText : String) : List (Label Event Answer) := [
  .event (.createTapped ⟨userA, 0⟩ "First" familyIdText),
  .answer 4 .succeeded, .answer 5 (.assigned "channel"), .answer 6 .succeeded,
  .answer 7 (.listed [familyIdText]), .answer 8 .succeeded]

/-- After the creation, the second user joins a family. -/
def joining (familyIdText : String) : List (Label Event Answer) := [
  .event (.joinTapped ⟨userB, 0⟩ familyIdText),
  .answer 9 .succeeded, .answer 10 .succeeded, .answer 11 (.listed [familyIdText]),
  .answer 12 .succeeded]

/-- One user creates the family "abc/", the other joins "abc", which is the id
the store lists. Nothing overlaps and nothing fails, and the joined id names a
document with another `uid`. -/
theorem slashed_creation_breaks_membership :
    ∃ last fields, (program .scalars).Obeys Separate (Program.start AppState.empty)
        (signUps ++ creation "abc/" ++ joining "abc") ∧
      (program .scalars).run (Program.start AppState.empty)
        (signUps ++ creation "abc/" ++ joining "abc") = some last ∧
      last.state.store.users.get? userB = some fields ∧
      ¬ ∃ families familyId, fields.strings? "families" = some families ∧
        fields.string? "familyId" = some familyId ∧
        MembershipInvariant .scalars last.state.store families familyId := by
  obtain ⟨last, ran, families, uid⟩ : ∃ last, (program .scalars).run
      (Program.start AppState.empty) (signUps ++ creation "abc/" ++ joining "abc") = some last ∧
      last.state.store.familiesOf userB = some ["abc"] ∧
      (last.state.store.familyNamed "abc").bind (fun data => data.string? "uid") = some "abc/" :=
    Program.exists_run (by decide)
  obtain ⟨fields, found, stored⟩ := Option.bind_eq_some_iff.mp families
  obtain ⟨family, named, slashed⟩ := Option.bind_eq_some_iff.mp uid
  refine ⟨last, fields, by decide, ran, found, ?_⟩
  rintro ⟨others, familyId, stored', _, invariant⟩
  obtain rfl := Option.some.inj (stored.symm.trans stored')
  obtain ⟨family', named', same⟩ := invariant.named "abc" List.mem_cons_self
  obtain rfl := Option.some.inj (named.symm.trans named')
  simp [slashed] at same

/-- With a bare id the same steps keep the invariant. -/
theorem bare_creation_keeps_membership :
    ∃ last fields, (program .scalars).run (Program.start AppState.empty)
        (signUps ++ creation "abc" ++ joining "abc") = some last ∧
      last.state.store.users.get? userB = some fields ∧
      ∃ families familyId, fields.strings? "families" = some families ∧
        fields.string? "familyId" = some familyId ∧
        MembershipInvariant .scalars last.state.store families familyId := by
  obtain ⟨last, ran, families⟩ : ∃ last, (program .scalars).run
      (Program.start AppState.empty) (signUps ++ creation "abc" ++ joining "abc") = some last ∧
      last.state.store.familiesOf userB = some ["abc"] :=
    Program.exists_run (by decide)
  obtain ⟨fields, found, _⟩ := Option.bind_eq_some_iff.mp families
  exact ⟨last, fields, ran, found, membership_of_orderly_run (by decide) ran found⟩

end Familog.App
