import Familog.App.Discussion
import Familog.App.Effect

/-!
Contract: the two counters that are stored with families and users.

Owns the theorem that every Family document keeps the `userNumber` of its creation, 1,
and every Users document the `postNumber` of the sign-up, 0, after every run of sign-ups,
creations, joins, switches, uploads and deletions by any number of users. No operation
reads or updates either; the number of posts that a profile shows is that of a query.

A counter therefore counts exactly where there is one member, or no post.
-/

set_option autoImplicit false

namespace Familog.App.Discussion

open Async Firestore Swift LogInPage MainPage

/-! ## What the counters would count -/

/-- The number of user documents whose `families` contains the id of the family. -/
def members (form : CanonicalForm) (store : Store) (path : DocumentPath) : ℕ :=
  (store.users.documents.filter fun document => decide
    (form.Contains ((document.2.strings? "families").getD []) path.text)).length

/-- The number of post documents of the user. -/
def postsBy (store : Store) (uid : Uid) : ℕ :=
  (store.posts.documents.filter fun document => decide
    (document.2.string? "userId" = some uid.value)).length

/-- Every counter equals what it would count. -/
structure CountersCount (form : CanonicalForm) (store : Store) : Prop where
  userNumber : ∀ path data, store.families.get? path = some data →
    data.int? "userNumber" = some (members form store path : Int)
  postNumber : ∀ uid data, store.users.get? uid = some data →
    data.int? "postNumber" = some (postsBy store uid : Int)

/-- Every counter is as it was written first. -/
structure AsCreated (store : Store) : Prop where
  userNumber : ∀ path data, store.families.get? path = some data →
    data.int? "userNumber" = some 1
  postNumber : ∀ uid data, store.users.get? uid = some data → data.int? "postNumber" = some 0

/-! ## No operation touches them -/

/-- A pending sign-up writes its user document with no posts. -/
def SignsUpWithNone : App.Task → Prop
  | .signUp (.setData _ data) => data.int? "postNumber" = some 0
  | _ => True

section Steps

variable {form : CanonicalForm} {data data' : Data} {task : App.Task} {answer : Answer}
  {new : List App.Task} {reports : List (Uid × String)} {store : Store}

theorem int?_merge_other {fields : Fields} {entries : List (String × Value)} {name : String}
    (other : ∀ entry ∈ entries, entry.1 ≠ name) :
    (fields.merge entries).int? name = fields.int? name := by
  rw [Fields.int?, Fields.merge_other other, Fields.int?]

/-- One user document is written without its counter. -/
theorem asCreated_setUser {uid : Uid} {fields : Fields} (created : AsCreated store)
    (none : fields.int? "postNumber" = some 0) :
    AsCreated { store with users := store.users.set uid fields } where
  userNumber := created.userNumber
  postNumber := by
    intro other data found
    simp only [Collection.get?_set] at found
    split_ifs at found
    · exact Option.some.inj found ▸ none
    · exact created.postNumber other data found

/-- Every answer of the app leaves the counters alone. -/
theorem asCreated_of_effect (created : AsCreated data.store) (signsUp : SignsUpWithNone task)
    (effect : Effect form data task answer data' new reports) : AsCreated data'.store := by
  cases effect with
  | userSaved => exact asCreated_setUser created signsUp
  | @userUpdated task uid familyId fields families newFamilies appends found =>
      refine asCreated_setUser created ?_
      have kept : (AppendFamily.updated fields familyId newFamilies).int? "postNumber" =
          fields.int? "postNumber" :=
        int?_merge_other (by simp [AppendFamily.entries])
      exact kept.trans (created.postNumber uid fields found)
  | @switched session familyId fields found =>
      refine asCreated_setUser created ?_
      have kept : (fields.merge [("familyId", .string familyId)]).int? "postNumber" =
          fields.int? "postNumber" :=
        int?_merge_other (by simp)
      exact kept.trans (created.postNumber session.user fields found)
  | familySaved =>
      refine ⟨fun other fields found => ?_, created.postNumber⟩
      simp only [Data.setStore, Collection.get?_set] at found
      split_ifs at found
      · rw [← Option.some.inj found]
        rfl
      · exact created.userNumber other fields found
  | _ => exact ⟨created.userNumber, created.postNumber⟩

/-- A sign-up starts with no posts. -/
theorem signsUp_of_effect (effect : Effect form data task answer data' new reports) :
    ∀ other ∈ new, SignsUpWithNone other := by
  cases effect with
  | accountCreated _ =>
      intro other member
      rw [List.mem_singleton.mp member]
      rfl
  | userRead _ _ issued | arrayMade _ _ _ issued =>
      exact forall_mem_append issued (fun _ _ _ => trivial) fun _ _ _ => trivial
  | userListened _ => exact forall_mem_listeners trivial fun _ _ => trivial
  | _ => simp [SignsUpWithNone]

end Steps

/-- The app leaves the counters alone. -/
theorem app_leaves_counters (form : CanonicalForm) :
    Guarantees (App.program form) (fun state => AsCreated state.store) SignsUpWithNone where
  handled created handled := by
    obtain ⟨asked, same, _⟩ := handle_asked handled
    have store := congrArg (fun data : Data => data.store) same
    refine ⟨by rwa [store], ?_⟩
    cases asked <;> simp [SignsUpWithNone]
  resumed created signsUp resumed := by
    obtain ⟨reports, effect, _⟩ := resume_effect resumed
    exact ⟨asCreated_of_effect created signsUp effect, signsUp_of_effect effect⟩

/-- The comment and the detail screens write neither users nor families. -/
theorem screens_leave_counters (form : CanonicalForm) :
    Guarantees (program form) (fun state => AsCreated state.1.store) fun _ => True where
  handled created handled := by
    refine ⟨?_, fun _ _ => trivial⟩
    cases handle_acted handled <;> exact created
  resumed created _ resumed := by
    refine ⟨?_, fun _ _ => trivial⟩
    cases (resume_answered resumed).1 <;> exact ⟨created.userNumber, created.postNumber⟩

/-- In every state that is reached, by whatever order of the operations of any number of
users, every counter is as it was created. So a `userNumber` counts exactly where there is
one member, and a `postNumber` exactly where there is no post. -/
theorem counters_as_created (form : CanonicalForm)
    {labels : List (Label (App.Event ⊕ Event) Answer)} {last : Config State (App.Task ⊕ Task)}
    (ran : (whole form).run (Program.start State.empty) labels = some last) :
    AsCreated last.state.1.store ∧
      (∀ path data, last.state.1.store.families.get? path = some data →
        (data.int? "userNumber" = some (members form last.state.1.store path : Int) ↔
          members form last.state.1.store path = 1)) ∧
      ∀ uid data, last.state.1.store.users.get? uid = some data →
        (data.int? "postNumber" = some (postsBy last.state.1.store uid : Int) ↔
          postsBy last.state.1.store uid = 0) := by
  have start : AsCreated State.empty.1.store :=
    ⟨fun path data found => by simp [State.empty, AppState.empty, Store.empty] at found,
      fun uid data found => by simp [State.empty, AppState.empty, Store.empty] at found⟩
  have guarantees := (app_leaves_counters form).within.beside (screens_leave_counters form)
  have created := (guarantees.run start ran).1
  refine ⟨created, fun path data found => ?_, fun uid data found => ?_⟩
  · rw [created.userNumber path data found, Option.some.injEq]
    omega
  · rw [created.postNumber uid data found, Option.some.injEq]
    omega

/-! ## A second member -/

/-- A user who joins. -/
def member : Uid := ⟨"uidMember", by decide, by decide⟩

/-- The author of the post creates a family, and another user signs up and joins it. -/
def joining : List (Label (App.Event ⊕ Event) Answer) := posting ++ [
  .event (.inl (.createTapped ⟨author, 0⟩ "Home" "abc")), .answer 9 .succeeded,
  .answer 11 .succeeded, .answer 12 (.listed ["abc"]), .answer 13 .succeeded,
  .event (.inl (.signUpTapped ⟨"B", "b@example.org", "Passw0rd", "Passw0rd"⟩)),
  .answer 14 (.created member), .answer 15 .succeeded,
  .event (.inl (.joinTapped ⟨member, 0⟩ "abc")), .answer 16 .succeeded,
  .answer 17 .succeeded, .answer 18 (.listed ["abc"]), .answer 19 .succeeded]

/-- There are two members and one post, and the counters say one and none. -/
def Miscounted (last : Config State (App.Task ⊕ Task)) : Prop :=
  let store := last.state.1.store
  (∃ path ∈ document? "abc",
      ((store.families.get? path).bind fun data => data.int? "userNumber") = some 1 ∧
        members CanonicalForm.scalars store path = 2) ∧
    ((store.users.get? author).bind fun data => data.int? "postNumber") = some 0 ∧
      postsBy store author = 1

instance : DecidablePred Miscounted := fun _ =>
  inferInstanceAs (Decidable ((∃ path ∈ document? "abc", _ ∧ _) ∧ _ ∧ _))

/-- Neither counter counts. -/
theorem counters_miscount :
    ∃ last, (whole CanonicalForm.scalars).run (Program.start State.empty) joining = some last ∧
      Miscounted last ∧ ¬ CountersCount CanonicalForm.scalars last.state.1.store := by
  obtain ⟨last, ran, miscounted⟩ : ∃ last, (whole CanonicalForm.scalars).run
      (Program.start State.empty) joining = some last ∧ Miscounted last :=
    Program.exists_run (by decide)
  refine ⟨last, ran, miscounted, fun count => ?_⟩
  obtain ⟨⟨path, _, stored, two⟩, _⟩ := miscounted
  obtain ⟨data, found, one⟩ := Option.bind_eq_some_iff.mp stored
  have counted := count.userNumber path data found
  rw [one, two] at counted
  simp at counted

/-- They are as they were created. -/
theorem counters_as_created_joining :
    ∃ last, (whole CanonicalForm.scalars).run (Program.start State.empty) joining = some last ∧
      AsCreated last.state.1.store := by
  obtain ⟨last, ran, _⟩ : ∃ last, (whole CanonicalForm.scalars).run
      (Program.start State.empty) joining = some last ∧ Miscounted last :=
    Program.exists_run (by decide)
  exact ⟨last, ran, (counters_as_created CanonicalForm.scalars ran).1⟩

end Familog.App.Discussion
