import Familog.Membership.Existence

/-!
Contract: posts stay inside the families of their authors.

Owns `PostsInside` and `ReturnedInside`, the theorem that both hold after every
run whose writes of `families` are current, whose created ids are bare and whose
shares read a family that has been chosen, and the run in which a share that
overtakes the guard of the timeline puts a post into no family at all.

`TimelineViewController.getFamilyId` sends a user without a family to the family
page; `UploadViewController.getFamilyId` reads the same field and does not look
whether it is empty.
-/

set_option autoImplicit false

namespace Familog.App

open Async Firestore Swift LogInPage MainPage

/-- The post belongs to a family of its author. -/
def PostInside (form : CanonicalForm) (store : Store) (post : Fields) : Prop :=
  ∃ (author : Uid) (familyId : String), post.string? "userId" = some author.value ∧
    post.string? "familyId" = some familyId ∧ familyId ≠ "" ∧ Member form store author familyId

/-- Every stored post belongs to a family of its author. -/
def PostsInside (form : CanonicalForm) (store : Store) : Prop :=
  ∀ id post, store.posts.get? id = some post → PostInside form store post

/-- The two users have a family in common. -/
def ShareFamily (form : CanonicalForm) (store : Store) (left right : Uid) : Prop :=
  ∃ familyId, Member form store left familyId ∧ Member form store right familyId

/-- Every post that a timeline was given is by somebody who shares a family with
its user. -/
def ReturnedInside (form : CanonicalForm) (data : Data) : Prop :=
  ∀ session post, (session, post) ∈ data.returned →
    ∃ author : Uid, post.string? "userId" = some author.value ∧
      ShareFamily form data.store session.user author

/-- A share reads the user document when a family has been chosen. -/
def SharesFromFamily : Config AppState Task → Label Event Answer → Prop :=
  onState (fun _ _ => True) fun state task answer =>
    match task, answer with
    | .upload session .getFamilyId, .succeeded =>
        state.store.familyIdOf session.user ≠ some ""
    | _, _ => True

instance (config : Config AppState Task) (label : Label Event Answer) :
    Decidable (SharesFromFamily config label) :=
  have (state : AppState) (task : Task) (answer : Answer) : Decidable
      (match task, answer with
        | .upload session .getFamilyId, .succeeded =>
            state.store.familyIdOf session.user ≠ some ""
        | _, _ => True) := by
    split <;> infer_instance
  inferInstanceAs (Decidable (onState _ _ config label))

/-- What a pending read or write of posts relies on. -/
def PostRelies (form : CanonicalForm) (store : Store) : Task → Prop
  | .timeline session (.getPosts familyId) =>
      familyId = "" ∨ Member form store session.user familyId
  | .upload _ (.setData _ post) => PostInside form store post
  | .upload session request => ∀ familyId, Upload.carried? request = some familyId →
      familyId ≠ "" ∧ Member form store session.user familyId
  | _ => True

section Effects

variable {form : CanonicalForm} {data next : Data} {task : Task} {answer : Answer}
  {new : List Task} {reports : List (Uid × String)} {store store' : Store}

theorem PostInside.mono {post : Fields}
    (grows : ∀ uid familyId, Member form store uid familyId → Member form store' uid familyId)
    (inside : PostInside form store post) : PostInside form store' post := by
  obtain ⟨author, familyId, userId, stored, filled, member⟩ := inside
  exact ⟨author, familyId, userId, stored, filled, grows _ _ member⟩

theorem PostRelies.mono {request : Task}
    (grows : ∀ uid familyId, Member form store uid familyId → Member form store' uid familyId)
    (relies : PostRelies form store request) : PostRelies form store' request := by
  unfold PostRelies at relies ⊢
  split at relies
  · exact relies.imp_right (grows _ _)
  · exact relies.mono grows
  · exact fun familyId carried => (relies familyId carried).imp_right (grows _ _)
  · trivial

theorem postRelies_iff_of_carried {session : Session} {request : Upload.Task} {familyId : String}
    (carried : Upload.carried? request = some familyId) :
    PostRelies form store (.upload session request) ↔
      familyId ≠ "" ∧ Member form store session.user familyId := by
  cases request <;> simp_all [Upload.carried?, PostRelies]

/-- The chosen family is one of the user's, unless none is chosen. -/
theorem Tidy.chosen (tidy : Tidy form data) {uid : Uid} {fields : Fields} {familyId : String}
    (found : data.store.users.get? uid = some fields)
    (stored : fields.string? "familyId" = some familyId) :
    familyId = "" ∨ Member form data.store uid familyId := by
  obtain ⟨families, chosen, array, field, consistent⟩ := tidy.users uid fields found
  obtain rfl := Option.some.inj (field.symm.trans stored)
  by_cases empty : chosen = ""
  · exact Or.inl empty
  · exact Or.inr ⟨families, by simp [Store.familiesOf, found, array], consistent.chosen empty⟩

/-- Stored posts stay inside. -/
theorem postsInside_of_effect (effect : Effect form data task answer next new reports)
    (grows : ∀ uid familyId, Member form data.store uid familyId →
      Member form next.store uid familyId)
    (inside : PostsInside form data.store) (relies : PostRelies form data.store task) :
    PostsInside form next.store := by
  have kept : ∀ id post, data.store.posts.get? id = some post → PostInside form next.store post :=
    fun id post found => (inside id post found).mono grows
  cases effect with
  | @postSaved session id fields fresh =>
      intro other post found
      simp only [Data.setStore] at found
      rw [Collection.get?_set] at found
      split_ifs at found
      · exact Option.some.inj found ▸ PostInside.mono grows relies
      · exact kept other post found
  | _ => exact kept

/-- What a timeline was given stays inside. -/
theorem returnedInside_of_effect (effect : Effect form data task answer next new reports)
    (grows : ∀ uid familyId, Member form data.store uid familyId →
      Member form next.store uid familyId)
    (inside : PostsInside form data.store) (returned : ReturnedInside form data)
    (relies : PostRelies form data.store task) : ReturnedInside form next := by
  have kept : ∀ session post, (session, post) ∈ data.returned →
      ∃ author : Uid, post.string? "userId" = some author.value ∧
        ShareFamily form next.store session.user author := by
    intro session post given
    obtain ⟨author, userId, familyId, left, right⟩ := returned session post given
    exact ⟨author, userId, familyId, grows _ _ left, grows _ _ right⟩
  cases effect with
  | @postsRead reader familyId =>
      intro session post given
      rcases List.mem_append.mp given with old | read
      · exact kept session post old
      · obtain ⟨other, matched, same⟩ := List.mem_map.mp read
        obtain ⟨rfl, rfl⟩ := Prod.mk.inj same
        simp only [Timeline.postsByFamily, List.mem_filter, List.mem_map, decide_eq_true_eq]
          at matched
        obtain ⟨⟨⟨id, _⟩, listed, rfl⟩, field, _⟩ := matched
        obtain ⟨author, stored, userId, field', filled, member⟩ :=
          inside id _ (Collection.mem_documents.mp listed)
        obtain rfl := Option.some.inj (field'.symm.trans field)
        exact ⟨author, userId, stored, relies.resolve_left filled, member⟩
  | _ => exact kept

/-- What is issued can rely on it again. -/
theorem postRelies_of_effect (effect : Effect form data task answer next new reports)
    (tidy : Tidy form data) (relies : PostRelies form data.store task)
    (chosen : ∀ session, task = .upload session .getFamilyId → answer = .succeeded →
      data.store.familyIdOf session.user ≠ some "") :
    ∀ request ∈ new, PostRelies form next.store request := by
  cases effect with
  | currentUserRead found stored =>
      intro request member
      rw [List.mem_singleton.mp member]
      exact tidy.chosen found stored
  | @familyIdRead session fields familyId found stored =>
      intro request member
      rw [List.mem_singleton.mp member]
      rintro other carried
      obtain rfl := Option.some.inj carried
      have filled : familyId ≠ "" := by
        rintro rfl
        exact chosen session rfl rfl (by simp [Store.familyIdOf, found, stored])
      exact ⟨filled, (tidy.chosen found stored).resolve_left filled⟩
  | @uploading session task new familyId answer carried carried' =>
      intro request member
      rw [List.mem_singleton.mp member, postRelies_iff_of_carried carried']
      exact (postRelies_iff_of_carried carried).mp relies
  | @postDescribed session familyId draft id =>
      intro request member
      rw [List.mem_singleton.mp member]
      obtain ⟨filled, belongs⟩ := relies familyId rfl
      exact ⟨session.user, familyId, rfl, rfl, filled, belongs⟩
  | userRead _ _ issued | arrayMade _ _ _ issued =>
      exact forall_mem_append issued (fun _ _ _ => trivial) fun _ _ _ => trivial
  | userListened listed => exact forall_mem_listeners trivial fun _ _ => trivial
  | _ => simp [PostRelies]

theorem postRelies_of_asked {event : Event} (asked : Asked form data event new)
    (store : Store) : ∀ request ∈ new, PostRelies form store request := by
  cases asked <;> simp [PostRelies, Upload.carried?]

end Effects

/-! ## Whole runs -/

/-- The conditions on a step: writes of `families` are current, created ids are
bare, and a share reads a family. -/
def FamilyChosen (form : CanonicalForm) (config : Config AppState Task)
    (label : Label Event Answer) : Prop :=
  Current form config label ∧ BareIds config label ∧ SharesFromFamily config label

instance (form : CanonicalForm) (config : Config AppState Task) (label : Label Event Answer) :
    Decidable (FamilyChosen form config label) :=
  inferInstanceAs (Decidable (_ ∧ _ ∧ _))

/-- The agreement of users and families under the conditions. -/
def familiesAgree (form : CanonicalForm) :
    Outline (program form) (orderly form (FamilyChosen form)).along :=
  agreeing form (fun allowed => allowed.1) fun allowed => allowed.2.1

/-- On top of that agreement: posts and what timelines were given stay inside. -/
def postsStayInside (form : CanonicalForm) : Outline (program form) (familiesAgree form).along where
  inv state := PostsInside form state.store ∧ ReturnedInside form state.toData
  need state task := PostRelies form state.store task
  apart _ _ := True
  symmetric _ := trivial
  handled := by
    intro config event state new inside _ handled
    obtain ⟨asked, data, _⟩ := handle_asked handled
    refine .of_free (fun _ _ => trivial) ?_ (postRelies_of_asked asked _) ?_
    · show PostsInside form state.store ∧ ReturnedInside form state.toData
      rwa [data]
    · rintro other ⟨_, relies⟩
      show PostRelies form state.store other
      rwa [data]
  resumed := by
    intro config ticket answer task state new inside relies allowed found resumed
    obtain ⟨reports, effect, _⟩ := resume_effect resumed
    obtain ⟨⟨conditions, ordered⟩, agrees⟩ := allowed
    obtain ⟨made, saved⟩ := ordered.need task (Pool.mem_tasks_of_find? found)
    have grows := members_grow effect made saved (conditions.1 task found)
    refine .of_free (fun _ _ => trivial) ⟨?_, ?_⟩ ?_ fun other waiting => waiting.1.mono grows
    · exact postsInside_of_effect effect grows inside.1 relies
    · exact returnedInside_of_effect effect grows inside.1 inside.2 relies
    · apply postRelies_of_effect effect agrees.inv relies
      rintro session rfl rfl
      exact conditions.2.2 _ found

/-- Every post is in a family of its author, and no timeline is given a post of
somebody with whom its user shares no family, in every state that is reached from
the empty store by steps that meet the conditions. -/
theorem posts_inside_of_run {form : CanonicalForm} {labels : List (Label Event Answer)}
    {last : Config AppState Task}
    (obeys : (program form).Obeys (FamilyChosen form) (Program.start AppState.empty) labels)
    (ran : (program form).run (Program.start AppState.empty) labels = some last) :
    PostsInside form last.state.store ∧ ReturnedInside form last.state.toData := by
  have ordered := (orderly form _).obeys_along (orderly_start form _) obeys
  have agrees := (familiesAgree form).obeys_along (Outline.start _ (tidy_empty form)) ordered
  refine ((postsStayInside form).run (Outline.start _ ⟨?_, ?_⟩) agrees ran).inv
  · intro id post found
    simp [AppState.empty, Store.empty] at found
  · intro session post given
    simp [AppState.empty] at given

/-! ## A share that overtakes the guard -/

/-- A user signs up and opens the app again; the tab bar appears, and the share is
answered while the guard's read is still pending. -/
def earlyShare : List (Label Event Answer) := [
  .event (.signUpTapped ⟨"A", "a@example.org", "Passw0rd", "Passw0rd"⟩),
  .answer 0 (.created userA), .answer 1 .succeeded,
  .event (.launch ⟨userA, 0⟩), .event (.shareTapped ⟨userA, 0⟩ true "A day out"),
  .answer 4 .succeeded, .answer 5 .succeeded, .answer 6 .succeeded,
  .answer 7 (.classified ⟨"A day out", "url", 0, "label", "1.00%"⟩ "post"), .answer 8 .succeeded]

/-- After the creation of the family the same user shares, and then refreshes. -/
def lateShare : List (Label Event Answer) := [
  .event (.launch ⟨userA, 0⟩), .event (.shareTapped ⟨userA, 0⟩ true "A day out"),
  .answer 11 .succeeded, .answer 12 .succeeded, .answer 13 .succeeded,
  .answer 14 (.classified ⟨"A day out", "url", 0, "label", "1.00%"⟩ "post"), .answer 15 .succeeded,
  .answer 10 .succeeded, .answer 16 .succeeded]

/-- The early share writes a post that belongs to no family. -/
theorem earlyShare_escapes :
    ∃ last, (program .scalars).run (Program.start AppState.empty) earlyShare = some last ∧
      ¬ PostsInside .scalars last.state.store := by
  obtain ⟨last, ran, stored⟩ : ∃ last, (program .scalars).run (Program.start AppState.empty)
      earlyShare = some last ∧
      (last.state.store.posts.get? "post").bind (fun post => post.string? "familyId") =
        some "" :=
    Program.exists_run (by decide)
  obtain ⟨post, found, empty⟩ := Option.bind_eq_some_iff.mp stored
  refine ⟨last, ran, fun inside => ?_⟩
  obtain ⟨author, familyId, _, stored', filled, _⟩ := inside "post" post found
  exact filled (Option.some.inj (stored'.symm.trans empty))

/-- The late share writes a post inside the family, and the timeline is given it. -/
theorem lateShare_inside :
    ∃ last, (program .scalars).run (Program.start AppState.empty)
        (signUps ++ creation "abc" ++ lateShare) = some last ∧
      last.state.returned.length = 1 ∧
      PostsInside .scalars last.state.store ∧ ReturnedInside .scalars last.state.toData := by
  obtain ⟨last, ran, given⟩ : ∃ last, (program .scalars).run (Program.start AppState.empty)
      (signUps ++ creation "abc" ++ lateShare) = some last ∧ last.state.returned.length = 1 :=
    Program.exists_run (by decide)
  exact ⟨last, ran, given, posts_inside_of_run (by decide) ran⟩

end Familog.App
