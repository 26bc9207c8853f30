import Familog.Membership.Careful
import Familog.Membership.Shown

/-!
Contract: whoever has shared a post can be looked up.

Owns the invariant that the author of every stored post has a user document, and that every
stored post and comment has a time, so that the queries that order by it find them all.

Does not own the signers of comments: a comment is sent without a look at the user document,
and so may be signed by an account that has none.
-/

set_option autoImplicit false

namespace Familog.App.Authors

open Async Firestore Swift LogInPage MainPage

/-- The author of the post has a document, and the post a time. -/
structure Attributed (store : Store) (data : Fields) : Prop where
  author : ∃ user : Uid, data.string? "userId" = some user.value ∧ (store.users.get? user).isSome
  timestamp : (data "timestamp").isSome

/-- All posts are attributed. -/
def PostsAttributed (store : Store) : Prop :=
  ∀ id data, store.posts.get? id = some data → Attributed store data

/-- All comments have a time. -/
def CommentsTimed (comments : Collection String) : Prop :=
  ∀ ref data, comments.get? ref = some data → (data "timestamp").isSome

/-- The posts are attributed, and the comments have a time. -/
def Credited (state : Home.State) : Prop :=
  PostsAttributed state.1.1.store ∧ CommentsTimed state.2.discussion.comments

/-- No user document is taken away. -/
def UsersStay (store next : Store) : Prop :=
  ∀ uid, (store.users.get? uid).isSome → (next.users.get? uid).isSome

/-- An upload has read the document of its user, and its post is attributed. -/
def NeedOfApp (store : Store) : App.Task → Prop
  | .upload _ .getFamilyId => True
  | .upload _ (.setData _ data) => Attributed store data
  | .upload session _ => (store.users.get? session.user).isSome
  | _ => True

/-- A comment that is about to be written has a time. -/
def NeedOfDiscussion : Discussion.Task → Prop
  | .comment (.setData _ data) => (data "timestamp").isSome
  | .deletePost _ => True

theorem Attributed.mono {store next : Store} {data : Fields} (attributed : Attributed store data)
    (stay : UsersStay store next) : Attributed next data :=
  have ⟨user, userId, there⟩ := attributed.author
  ⟨⟨user, userId, stay user there⟩, attributed.timestamp⟩

theorem PostsAttributed.mono {store next : Store} (attributed : PostsAttributed store)
    (stay : UsersStay store next) (same : next.posts = store.posts) : PostsAttributed next :=
  fun id data stored => (attributed id data (same ▸ stored)).mono stay

theorem NeedOfApp.mono {store next : Store} {task : App.Task} (need : NeedOfApp store task)
    (stay : UsersStay store next) : NeedOfApp next task := by
  cases task with
  | upload session request =>
      cases request with
      | getFamilyId => trivial
      | setData id data => exact Attributed.mono need stay
      | _ => exact stay _ need
  | _ => trivial

section Effects

variable {form : CanonicalForm} {data next : Data} {task : App.Task} {answer : Answer}
  {new : List App.Task} {reports : List (Uid × String)}

/-- What an upload carries on has been read by its user. -/
theorem needOfApp_of_carried {store : Store} {session : Session} {request : Upload.Task}
    {familyId : String} (carried : Upload.carried? request = some familyId) :
    NeedOfApp store (.upload session request) ↔ (store.users.get? session.user).isSome := by
  cases request with
  | getFamilyId | setData => simp [Upload.carried?] at carried
  | _ => exact Iff.rfl

/-- Every answer to the app keeps the posts attributed. -/
theorem posts_of_effect (attributed : PostsAttributed data.store) (need : NeedOfApp data.store task)
    (effect : Effect form data task answer next new reports) : PostsAttributed next.store := by
  have stay : UsersStay data.store next.store := (Careful.kept_of_effect effect).users
  cases effect with
  | @postSaved session id fields fresh =>
      intro other post stored
      simp only [Data.setStore, Collection.get?_set] at stored
      split_ifs at stored
      · exact Option.some.inj stored ▸ Attributed.mono need stay
      · exact (attributed other post stored).mono stay
  | _ => exact attributed.mono stay rfl

/-- What an answer issues relies on what is there. -/
theorem need_of_effect (need : NeedOfApp data.store task)
    (effect : Effect form data task answer next new reports) :
    ∀ request ∈ new, NeedOfApp next.store request := by
  cases effect with
  | @familyIdRead session fields familyId stored =>
      refine List.forall_mem_singleton.mpr ?_
      show (data.store.users.get? session.user).isSome
      simp [stored]
  | uploading carried carries =>
      refine List.forall_mem_singleton.mpr ((needOfApp_of_carried carries).mpr ?_)
      exact (needOfApp_of_carried carried).mp need
  | @postDescribed session familyId draft id =>
      exact List.forall_mem_singleton.mpr ⟨⟨session.user, rfl, need⟩, rfl⟩
  | userRead _ _ issued | arrayMade _ _ _ issued =>
      exact forall_mem_append issued (fun _ _ _ => trivial) fun _ _ _ => trivial
  | userListened _ => exact forall_mem_listeners trivial fun _ _ => trivial
  | _ => simp [NeedOfApp]

end Effects

/-! ## The programs -/

theorem app_relies (form : CanonicalForm) :
    Async.Relies (App.program form) (fun _ _ => True) (fun _ _ _ => True)
      (fun state => PostsAttributed state.store) (fun state => NeedOfApp state.store)
      fun state next => UsersStay state.store next.store where
  handled {state next event new} attributed _ handled := by
    obtain ⟨asked, same, _⟩ := handle_asked handled
    have store : next.store = state.store := congrArg Data.store same
    rw [store]
    refine ⟨attributed, ?_, fun _ => id⟩
    cases asked <;> simp [NeedOfApp]
  resumed attributed need _ resumed := by
    obtain ⟨_, effect, _⟩ := resume_effect resumed
    exact ⟨posts_of_effect attributed need effect, need_of_effect need effect,
      (Careful.kept_of_effect effect).users⟩
  stable stay need := need.mono stay

/-- The profile editor and the log-in write no posts. -/
theorem screens_relies (count : String → ℕ) (localizedDescription : String) :
    Async.Relies (Screens.program count localizedDescription) (fun _ _ => True)
      (fun _ _ _ => True) (fun state => PostsAttributed state.1.store) (fun _ _ => True)
      fun state next => UsersStay state.1.store next.1.store where
  handled attributed _ handled := by
    obtain ⟨kept, _⟩ := Users.needs_of_handle handled
    rw [kept]
    exact ⟨attributed, fun _ _ => trivial, fun _ => id⟩
  resumed {state next task answer new} attributed _ _ resumed := by
    obtain ⟨users, same, stay⟩ := Users.screens_write_users resumed
    rw [same]
    exact ⟨attributed.mono stay rfl, fun _ _ => trivial, stay⟩
  stable _ need := need

/-- The pages of posts and comments write comments with a time. -/
theorem home_relies (form : CanonicalForm) :
    Async.Relies (Home.program form) (fun _ _ => True) (fun _ _ _ => True) Credited
      (fun _ => NeedOfDiscussion)
      fun state next => UsersStay state.1.1.store next.1.1.store where
  handled {state next event new} credited _ handled := by
    rcases Home.handle_cases handled with
      ⟨own, after, rfl, acted, rfl⟩ | ⟨same, sameComments, rfl⟩
    · cases acted with
      | postRead | commentsOpened => exact ⟨credited, by simp, fun _ => id⟩
      | deleting => exact ⟨credited, by simp [NeedOfDiscussion], fun _ => id⟩
      | @typed session event screen shown tasks isScreen typed =>
          refine ⟨credited, List.forall_mem_map.mpr fun task issued => ?_, fun _ => id⟩
          rcases Comments.handle_cases typed with ⟨_, _, _, rfl⟩ | ⟨ref, timestamp, _, rfl, _⟩
          · simp at issued
          · obtain rfl := List.mem_singleton.mp issued
            exact rfl
    · rw [Credited, same, sameComments]
      exact ⟨credited, by simp, fun _ => id⟩
  resumed {state next task answer new} credited need _ resumed := by
    obtain ⟨after, answered, rfl, rfl⟩ := Home.resume_cases resumed
    cases answered with
    | failed => exact ⟨credited, by simp, fun _ => id⟩
    | @commented ref data =>
        refine ⟨⟨credited.1, fun other fields stored => ?_⟩, by simp, fun _ => id⟩
        rw [Collection.get?_set] at stored
        split_ifs at stored
        · exact Option.some.inj stored ▸ need
        · exact credited.2 other fields stored
    | deleted =>
        refine ⟨⟨fun other data stored => ?_, credited.2⟩, by simp, fun _ => id⟩
        exact (credited.1 other data (Collection.get?_of_get?_erase stored)).mono fun _ => id
  stable _ need := need

/-- All programs together keep the posts and the comments credited. -/
theorem credited_relies (count : String → ℕ) (localizedDescription : String)
    (form : CanonicalForm) :
    Async.Relies (Home.whole count localizedDescription form) (fun _ _ => True)
      (fun _ _ _ => True) Credited
      (fun state => Sum.elim (Sum.elim (NeedOfApp state.1.1.store) fun _ => True)
        NeedOfDiscussion)
      fun state next => UsersStay state.1.1.store next.1.1.store := by
  have app : Async.Relies ((App.program form).within (List Notice)) (fun _ _ => True)
      (fun _ _ _ => True) (fun state => PostsAttributed state.1.store)
      (fun state => NeedOfApp state.1.store)
      fun state next => UsersStay state.1.store next.1.store :=
    (app_relies form).within.moving And.left fun stay need => need.mono stay
  have screens := (app.beside (screens_relies count localizedDescription)
    (fun stay need => need.mono stay) fun _ need => need).within.frame
    fun {state next : Home.State} _ (timed : CommentsTimed state.2.discussion.comments) moved =>
      show CommentsTimed next.2.discussion.comments from moved.2 ▸ timed
  have stays : ∀ {state next : Home.State} {task : App.Task ⊕ Screens.Task},
      UsersStay state.1.1.store next.1.1.store →
      Sum.elim (NeedOfApp state.1.1.store) (fun _ => True) task →
      Sum.elim (NeedOfApp next.1.1.store) (fun _ => True) task := by
    rintro state next (task | task) stay need
    · exact NeedOfApp.mono need stay
    · trivial
  have together := screens.beside (home_relies form) stays fun _ need => need
  refine (together.assuming ?_ ?_).moving (fun moved => moved.elim (fun app => app.1.elim id id) id)
    ?_
  · rintro state ((event | event) | event) _ <;> trivial
  · rintro state ((task | task) | task) answer _ <;> trivial
  · rintro state next (task | task) stay need
    · exact stays stay need
    · exact need

end Familog.App.Authors
