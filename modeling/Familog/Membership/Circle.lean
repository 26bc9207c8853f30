import Familog.App.Browsing
import Familog.Membership.Shown
import Mathlib.Logic.Relation

/-!
Contract: how far posts and profiles are seen.

Owns the circle of a user: everybody one comes to by going over from one member of a family
to another, again and again, where members are those who have asked for the family in the
run. Owns the theorem that whatever the taps, nobody is ever shown a post by, or the profile
of, a user outside the circle, and that a profile shows posts of its user only; and a run in
which a post is seen by a user who has never asked for its family.

Does not own posts that are shared without a family: these are seen by everybody else without
one, and the runs in question have none.
-/

set_option autoImplicit false

namespace Familog.App.Circle

open Async Firestore Swift LogInPage MainPage Browsing

open Consent (AppSound AsksWhole Entitled NeedOfWhole Picked)

section Definitions

variable (chosen : Uid → String → Prop) (authorOf : String → Uid)

/-- Both have asked for one family. -/
def Kin (user other : Uid) : Prop :=
  ∃ familyId familyId', Picked chosen user familyId ∧ Picked chosen other familyId' ∧
    document? familyId = document? familyId'

/-- The users one comes to from family to family. -/
def InCircle : Uid → Uid → Prop := Relation.ReflTransGen (Kin chosen)

/-- What the cell leads to belongs to the circle of the reader. -/
def Near (reader : Uid) : Sight → Prop
  | .post postId => InCircle chosen reader (authorOf postId)
  | .user userId => ∃ user : Uid, user.value = userId ∧ InCircle chosen reader user

/-- A post of the author of the id, in a family. -/
structure OwnedPost (postId : String) (data : Fields) : Prop where
  uid : data.string? "uid" = some postId
  userId : data.string? "userId" = some (authorOf postId).value
  familyId : ∃ familyId, familyId ≠ "" ∧ data.string? "familyId" = some familyId

/-- A comment by a user in the circle of the author of the post. -/
def SocialComment (data : Fields) : Prop :=
  ∃ (signer : Uid) (postId : String), data.string? "uid" = some signer.value ∧
    data.string? "postId" = some postId ∧ InCircle chosen signer (authorOf postId)

/-- A post of the author of its id. -/
def Posted (data : Fields) : Prop := ∃ id, OwnedPost authorOf id data

/-- The posts are owned. -/
def PostsOwned (store : Store) : Prop :=
  ∀ id data, store.posts.get? id = some data → OwnedPost authorOf id data

/-- So are those that timelines were given. -/
structure Owned (state : AppState) : Prop where
  posts : PostsOwned authorOf state.store
  returned : ∀ entry ∈ state.returned, Posted authorOf entry.2

/-- Comments, opened posts and comment pages stay in the circle. -/
structure SocialBoard (board : Discussion.Board) : Prop where
  comments : ∀ ref data, board.comments.get? ref = some data → SocialComment chosen authorOf data
  read : ∀ entry ∈ board.read, ∃ id, OwnedPost authorOf id entry.2 ∧
    InCircle chosen entry.1.user (authorOf id)
  screens : ∀ session, ∀ screen ∈ board.screens session,
    InCircle chosen session.user (authorOf screen.postId)

/-- So do the lists of comments. -/
structure SocialPages (board : Home.Board) : Prop where
  discussion : SocialBoard chosen authorOf board.discussion
  commentLists : ∀ copy ∈ board.commentLists,
    InCircle chosen copy.profile.1.user (authorOf copy.profile.2)

/-- The posts are owned, and the pages on which they are seen stay in the circle. -/
def Social (state : Home.State) : Prop :=
  Owned authorOf state.1.1 ∧ SocialPages chosen authorOf state.2

/-- The page of comments that the event opens, with its session. -/
def commentPage? : Home.Event → Option (Session × String)
  | .discussion (.goToCommentVC session postId) => some (session, postId)
  | .goToCommentVC session postId => some (session, postId)
  | .commentsViewDidLoad session postId => some (session, postId)
  | _ => none

/-- A post or a page of comments is opened in the circle only. -/
structure OpensNear (state : Home.State) (event : Home.Event) : Prop where
  posts : ∀ page ∈ opened? (.inl (.inr event)), Near chosen authorOf page.1.user page.2
  comments : ∀ page ∈ commentPage? event, Home.HasSeen state page.1 page.2 →
    InCircle chosen page.1.user (authorOf page.2)

/-- A pending read of a profile is of a post of its user. -/
def OfUser (userId : String) : ProfileGrid.Task → Prop
  | .getDocuments => True
  | .observePost postId => (authorOf postId).value = userId

/-- A profile of a user in the circle, with posts of that user. -/
structure ProfileSound (copy : ProfileCopy) : Prop where
  near : Near chosen authorOf copy.profile.1.user (.user copy.profile.2)
  posts : ∀ post ∈ copy.config.state.posts, ∃ id, post.uid = some id ∧
    post.userId = some copy.profile.2 ∧ (authorOf id).value = copy.profile.2
  waiting : ∀ task ∈ copy.config.pool.tasks, OfUser authorOf copy.profile.2 task

/-- The draft of a post that is described, with its session, its family and its id. -/
def described? : App.Task → Answer → Option (Session × String × String)
  | .upload session (.visionRequest familyId), .classified _ id => some (session, familyId, id)
  | _, _ => none

/-- A new post gets an id of its author, and is shared in a family. -/
def Shares (task : App.Task) (answer : Answer) : Prop :=
  ∀ post ∈ described? task answer, authorOf post.2.2 = post.1.user ∧ post.2.1 ≠ ""

instance decidableShares (task : App.Task) (answer : Answer) :
    Decidable (Shares authorOf task answer) :=
  inferInstanceAs (Decidable (∀ post ∈ described? task answer, _ ∧ _ ≠ ""))

/-- A post that is about to be written is owned. -/
def NeedOfApp : App.Task → Prop
  | .upload _ (.setData id data) => OwnedPost authorOf id data
  | _ => True

/-- A comment that is about to be written stays in the circle. -/
def NeedOfDiscussion : Discussion.Task → Prop
  | .comment (.setData _ data) => SocialComment chosen authorOf data
  | .deletePost _ => True

end Definitions

section Circles

variable {chosen : Uid → String → Prop} {authorOf : String → Uid} {user other : Uid}

theorem Kin.symm (kin : Kin chosen user other) : Kin chosen other user := by
  obtain ⟨familyId, familyId', picks, picks', same⟩ := kin
  exact ⟨familyId', familyId, picks', picks, same.symm⟩

instance kinSymm : Std.Symm (Kin chosen) := ⟨fun _ _ => Kin.symm⟩

theorem InCircle.symm (circle : InCircle chosen user other) : InCircle chosen other user :=
  Relation.ReflTransGen.stdSymm.symm user other circle

/-- Whoever may see a post in a family is kin to its author. -/
theorem kin_of_entitled {familyId : String} (attached : familyId ≠ "")
    (may : Entitled chosen user familyId) (may' : Entitled chosen other familyId) :
    Kin chosen user other := by
  obtain ⟨left, picks, same⟩ := may.resolve_left attached
  obtain ⟨right, picks', same'⟩ := may'.resolve_left attached
  exact ⟨left, right, picks, picks', same.symm.trans same'⟩

end Circles

/-! ## The posts -/

section Posts

variable {authorOf : String → Uid} {form : CanonicalForm}

/-- Every answer to the app keeps the posts owned. -/
theorem posts_of_effect {data next : Data} {task : App.Task} {answer : Answer}
    {new : List App.Task} {reports : List (Uid × String)} (owned : PostsOwned authorOf data.store)
    (need : NeedOfApp authorOf task) (effect : Effect form data task answer next new reports) :
    PostsOwned authorOf next.store := by
  cases effect with
  | @postSaved session id fields fresh =>
      intro other post found
      simp only [Data.setStore, Collection.get?_set] at found
      split_ifs at found with same
      · exact same ▸ Option.some.inj found ▸ need
      · exact owned other post found
  | _ => exact owned

/-- A described post is owned, as it is written under an id of its author. -/
theorem need_of_effect {data next : Data} {task : App.Task} {answer : Answer}
    {new : List App.Task} {reports : List (Uid × String)} (shares : Shares authorOf task answer)
    (effect : Effect form data task answer next new reports) :
    ∀ request ∈ new, NeedOfApp authorOf request := by
  cases effect with
  | @postDescribed session familyId draft id =>
      obtain ⟨author, attached⟩ := shares (session, familyId, id) rfl
      refine List.forall_mem_singleton.mpr ⟨rfl, ?_, familyId, attached, rfl⟩
      rw [author]
      rfl
  | uploading carried carries =>
      intro request member
      rw [List.mem_singleton.mp member]
      cases ‹Upload.Task› <;> trivial
  | userRead _ _ issued | arrayMade _ _ _ issued =>
      exact forall_mem_append issued (fun _ _ _ => trivial) fun _ _ _ => trivial
  | userListened _ => exact forall_mem_listeners trivial fun _ _ => trivial
  | _ => simp [NeedOfApp]

theorem app_relies (authorOf : String → Uid) (form : CanonicalForm) :
    Async.Relies (App.program form) (fun _ _ => True) (fun _ => Shares authorOf)
      (Owned authorOf) (fun _ => NeedOfApp authorOf) fun _ _ => True where
  handled {state next event new} owned _ handled := by
    obtain ⟨asked, same, _⟩ := handle_asked handled
    have store : next.store = state.store := congrArg Data.store same
    have returned : next.returned = state.returned := congrArg Data.returned same
    refine ⟨⟨store ▸ owned.posts, returned ▸ owned.returned⟩, ?_, trivial⟩
    cases asked <;> simp [NeedOfApp]
  resumed {state next task answer new} owned need shares resumed := by
    obtain ⟨_, effect, _⟩ := resume_effect resumed
    refine ⟨⟨posts_of_effect owned.posts need effect, fun entry member => ?_⟩,
      need_of_effect shares effect, trivial⟩
    rcases returned_stored effect entry member with before | ⟨id, stored⟩
    · exact owned.returned entry before
    · exact ⟨id, owned.posts id entry.2 stored⟩
  stable _ need := need

/-- The profile editor and the log-in write no posts. -/
theorem screens_relies (authorOf : String → Uid) (count : String → ℕ)
    (localizedDescription : String) :
    Async.Relies (Screens.program count localizedDescription) (fun _ _ => True)
      (fun _ _ _ => True) (fun state => Owned authorOf state.1) (fun _ _ => True)
      fun _ _ => True where
  handled owned _ handled := by
    obtain ⟨kept, _⟩ := Users.needs_of_handle handled
    rw [kept]
    exact ⟨owned, fun _ _ => trivial, trivial⟩
  resumed {state next task answer new} owned _ _ resumed := by
    obtain ⟨users, same, _⟩ := Users.screens_write_users resumed
    rw [same]
    exact ⟨⟨owned.posts, owned.returned⟩, fun _ _ => trivial, trivial⟩
  stable _ need := need

end Posts

/-! ## Comments and opened pages -/

section Pages

variable {chosen : Uid → String → Prop} {authorOf : String → Uid} {form : CanonicalForm}

/-- Whoever has read a post of the id is in the circle of its author. -/
theorem inCircle_of_hasRead {board : Discussion.Board} (social : SocialBoard chosen authorOf board)
    {session : Session} {postId : String} (hasRead : board.HasRead session postId) :
    InCircle chosen session.user (authorOf postId) := by
  obtain ⟨entry, member, rfl, uid⟩ := hasRead
  obtain ⟨id, owned, circle⟩ := social.read entry member
  obtain rfl := Option.some.inj (owned.uid.symm.trans uid)
  exact circle

/-- A page of comments is opened in the circle. -/
theorem SocialBoard.opened {board : Discussion.Board} (social : SocialBoard chosen authorOf board)
    {session : Session} {postId : String}
    (circle : InCircle chosen session.user (authorOf postId)) :
    SocialBoard chosen authorOf (board.setScreen session (.opened postId)) :=
  ⟨social.comments, social.read, Discussion.Board.screens_setScreen social.screens circle⟩

/-- An event of the comment and detail screens keeps it, if what it opens is near. -/
theorem social_of_acted {state next : Discussion.State} {event : Discussion.Event}
    {new : List Discussion.Task} (posts : PostsOwned authorOf state.1.store)
    (social : SocialBoard chosen authorOf state.2)
    (near : ∀ page ∈ opened? (.inl (.inr (.discussion event))),
      Near chosen authorOf page.1.user page.2)
    (comments : ∀ page ∈ commentPage? (.discussion event),
      Discussion.HasSeen state page.1 page.2 → InCircle chosen page.1.user (authorOf page.2))
    (acted : Discussion.Acted form state event next new) :
    next.1 = state.1 ∧ SocialBoard chosen authorOf next.2 ∧
      ∀ task ∈ new, NeedOfDiscussion chosen authorOf task := by
  cases acted with
  | @postRead session postId data stored =>
      refine ⟨rfl, ⟨social.comments, List.forall_mem_append.mpr ⟨social.read, ?_⟩,
        social.screens⟩, by simp⟩
      have circle : InCircle chosen session.user (authorOf postId) :=
        near (session, .post postId) rfl
      exact List.forall_mem_singleton.mpr ⟨postId, posts postId data stored, circle⟩
  | @commentsOpened session postId hasSeen =>
      exact ⟨rfl, social.opened (comments (session, postId) rfl hasSeen), by simp⟩
  | @typed session own screen after tasks isScreen handled =>
      have circle := social.screens session screen isScreen
      have keeps : ∀ shown : Comments.Screen, shown.postId = screen.postId →
          SocialBoard chosen authorOf (state.2.setScreen session shown) := fun shown same =>
        ⟨social.comments, social.read,
          Discussion.Board.screens_setScreen social.screens (same ▸ circle)⟩
      rcases Comments.handle_cases handled with
        ⟨text, _, rfl, rfl⟩ | ⟨ref, timestamp, rfl, rfl, _⟩
      · exact ⟨rfl, keeps _ rfl, by simp⟩
      · exact ⟨rfl, keeps _ rfl, List.forall_mem_singleton.mpr
          ⟨session.user, screen.postId, rfl, rfl, circle⟩⟩
  | deleting => exact ⟨rfl, social, by simp [NeedOfDiscussion]⟩

/-- So does every answer to them. -/
theorem social_of_answered {state next : Discussion.State} {task : Discussion.Task}
    (owned : Owned authorOf state.1) (social : SocialBoard chosen authorOf state.2)
    (need : NeedOfDiscussion chosen authorOf task)
    (answered : Discussion.Answered state task next) :
    Owned authorOf next.1 ∧ SocialBoard chosen authorOf next.2 := by
  cases answered with
  | failed => exact ⟨owned, social⟩
  | @commented ref data =>
      refine ⟨owned, fun other fields stored => ?_, social.read, social.screens⟩
      rw [Collection.get?_set] at stored
      split_ifs at stored
      · exact Option.some.inj stored ▸ need
      · exact social.comments other fields stored
  | deleted =>
      exact ⟨⟨fun id data stored => owned.posts id data (Collection.get?_of_get?_erase stored),
        owned.returned⟩, social.comments, social.read, social.screens⟩

/-- The pages on which posts are seen keep it. -/
theorem home_relies (chosen : Uid → String → Prop) (authorOf : String → Uid)
    (form : CanonicalForm) :
    Async.Relies (Home.program form) (OpensNear chosen authorOf)
      (fun _ _ _ => True) (Social chosen authorOf) (fun _ => NeedOfDiscussion chosen authorOf)
      fun _ _ => True where
  handled {state next event new} social near handled := by
    cases event with
    | discussion event =>
        obtain ⟨⟨after, tasks⟩, acted, same⟩ := Option.map_eq_some_iff.mp handled
        obtain ⟨rfl, rfl⟩ := Prod.mk.inj same
        obtain ⟨app, board, needs⟩ := social_of_acted social.1.posts social.2.discussion near.posts
          (fun page opens seen => near.comments page opens (Or.inl seen))
          (Discussion.handle_acted acted)
        refine ⟨⟨?_, board, social.2.commentLists⟩, needs, trivial⟩
        show Owned authorOf after.1
        rw [app]
        exact social.1
    | goToCommentVC session postId =>
        simp only [Home.program, Home.handle] at handled
        split_ifs at handled with hasRow
        obtain ⟨rfl, rfl⟩ := Prod.mk.inj (Option.some.inj handled)
        exact ⟨⟨social.1, social.2.discussion.opened
          (near.comments (session, postId) rfl (Or.inr hasRow)), social.2.commentLists⟩,
          by simp, trivial⟩
    | timelineViewDidLoad session =>
        simp only [Home.program, Home.handle] at handled
        split_ifs at handled
        obtain ⟨rfl, rfl⟩ := Prod.mk.inj (Option.some.inj handled)
        exact ⟨⟨social.1, social.2.discussion, social.2.commentLists⟩, by simp, trivial⟩
    | timeline index label =>
        obtain ⟨timelines, _, same⟩ := Option.map_eq_some_iff.mp handled
        obtain ⟨rfl, rfl⟩ := Prod.mk.inj same
        exact ⟨⟨social.1, social.2.discussion, social.2.commentLists⟩, by simp, trivial⟩
    | commentsViewDidLoad session postId =>
        simp only [Home.program, Home.handle] at handled
        split_ifs at handled with hasSeen
        obtain ⟨rfl, rfl⟩ := Prod.mk.inj (Option.some.inj handled)
        refine ⟨⟨social.1, social.2.discussion, List.forall_mem_append.mpr
          ⟨social.2.commentLists, List.forall_mem_singleton.mpr ?_⟩⟩, by simp, trivial⟩
        exact near.comments (session, postId) rfl hasSeen
    | comments index label =>
        obtain ⟨commentLists, acted, same⟩ := Option.map_eq_some_iff.mp handled
        obtain ⟨rfl, rfl⟩ := Prod.mk.inj same
        refine ⟨⟨social.1, social.2.discussion, ?_⟩, by simp, trivial⟩
        exact Copy.forall_act social.2.commentLists acted fun circle _ => circle
  resumed social need _ resumed := by
    obtain ⟨after, answered, rfl, rfl⟩ := Home.resume_cases resumed
    obtain ⟨owned, board⟩ := social_of_answered social.1 social.2.discussion need answered
    exact ⟨⟨owned, board, social.2.commentLists⟩, by simp, trivial⟩
  stable _ need := need

end Pages

/-! ## Profiles -/

section Profiles

variable {chosen : Uid → String → Prop} {authorOf : String → Uid}

/-- The query of a profile finds posts of its user only. -/
theorem ofUser_of_perm {store : Store} (posts : PostsOwned authorOf store) {userId : String}
    {ids : List String} (perm : ids.Perm (postsByUser store userId)) :
    ∀ id ∈ ids, (authorOf id).value = userId := by
  intro id listed
  obtain ⟨⟨other, data⟩, matched, rfl⟩ := List.mem_map.mp (perm.mem_iff.mp listed)
  obtain ⟨inDocs, field⟩ := List.mem_filter.mp matched
  have owned := posts other data (Collection.mem_documents.mp inDocs)
  exact Option.some.inj (owned.userId.symm.trans (of_decide_eq_true field))

/-- What a read returns: an error, the posts of the user, or the post that is stored. -/
theorem read_cases {store : Store} {userId : String} {task : ProfileGrid.Task}
    {reply : Home.Reply} {answer : ProfileGrid.Answer}
    (isAnswer : Browsing.read store userId task reply = some answer) :
    answer = .failed ∨
      (∃ ids, task = .getDocuments ∧ answer = .documents ids ∧
        ids.Perm (postsByUser store userId)) ∨
      ∃ postId, task = .observePost postId ∧ answer = .snapshot (store.posts.get? postId) := by
  unfold Browsing.read at isAnswer
  split at isAnswer
  · exact Or.inl (Option.some.inj isAnswer).symm
  · split_ifs at isAnswer with perm
    exact Or.inr (Or.inl ⟨_, rfl, (Option.some.inj isAnswer).symm, perm⟩)
  · exact Or.inr (Or.inr ⟨_, rfl, (Option.some.inj isAnswer).symm⟩)
  · simp at isAnswer

/-- What an answer adds to a profile. -/
theorem added_of_answer {store : Store} (posts : PostsOwned authorOf store) {userId : String}
    {state next : ProfileGrid.State} {task : ProfileGrid.Task} {reply : Home.Reply}
    {answer : ProfileGrid.Answer} {new : List ProfileGrid.Task}
    (awaited : OfUser authorOf userId task)
    (isAnswer : Browsing.read store userId task reply = some answer)
    (resumed : ProfileGrid.resume state task answer = some (next, new)) :
    (∀ post ∈ next.posts, post ∈ state.posts ∨ ∃ id, post.uid = some id ∧
        post.userId = some userId ∧ (authorOf id).value = userId) ∧
      ∀ other ∈ new, OfUser authorOf userId other := by
  rcases read_cases isAnswer with rfl | ⟨ids, rfl, rfl, perm⟩ | ⟨postId, rfl, rfl⟩
  · cases task <;>
    · obtain ⟨rfl, rfl⟩ := Prod.mk.inj (Option.some.inj resumed)
      exact ⟨fun post member => Or.inl member, by simp⟩
  · obtain ⟨rfl, rfl⟩ := Prod.mk.inj (Option.some.inj resumed)
    exact ⟨fun post member => Or.inl member,
      List.forall_mem_map.mpr (ofUser_of_perm posts perm)⟩
  · cases stored : store.posts.get? postId with
    | none =>
        rw [stored] at resumed
        obtain ⟨rfl, rfl⟩ := Prod.mk.inj (Option.some.inj resumed)
        exact ⟨fun post member => Or.inl member, by simp⟩
    | some data =>
        rw [stored] at resumed
        obtain ⟨rfl, rfl⟩ := Prod.mk.inj (Option.some.inj resumed)
        have owned := posts postId data stored
        have isUser : (authorOf postId).value = userId := awaited
        refine ⟨fun post member => ?_, by simp⟩
        rcases List.mem_append.mp member with old | appended
        · exact Or.inl old
        · rw [List.mem_singleton.mp appended]
          exact Or.inr ⟨postId, owned.uid, isUser ▸ owned.userId, isUser⟩

/-- Every step of a profile adds posts of its user only. -/
theorem ProfileSound.step {store : Store} {copy : ProfileCopy}
    {config : Config ProfileGrid.State ProfileGrid.Task}
    {label : Label ProfileGrid.Event Home.Reply} (sound : ProfileSound chosen authorOf copy)
    (posts : PostsOwned authorOf store)
    (taken : (profile store copy.profile).step copy.config label = some config) :
    ProfileSound chosen authorOf { copy with config := config } := by
  rcases Program.step_cases taken with
    ⟨event, new, rfl, handled, tasks⟩ | ⟨ticket, reply, task, new, rfl, found, resumed, tasks⟩
  · cases event with
    | viewDidAppear =>
        obtain ⟨state, rfl⟩ := Prod.mk.inj (Option.some.inj handled)
        refine ⟨sound.near, by simp [← state], ?_⟩
        show ∀ task ∈ config.pool.tasks, _
        rw [tasks]
        exact List.forall_mem_append.mpr
          ⟨sound.waiting, List.forall_mem_singleton.mpr trivial⟩
  · obtain ⟨answer, isAnswer, acted⟩ := Option.bind_eq_some_iff.mp resumed
    have awaited := sound.waiting task (Pool.mem_tasks_of_find? found)
    obtain ⟨added, issued⟩ := added_of_answer posts awaited isAnswer acted
    refine ⟨sound.near, fun post member => (added post member).elim (sound.posts post) id, ?_⟩
    show ∀ task ∈ config.pool.tasks, _
    rw [tasks]
    exact List.forall_mem_append.mpr
      ⟨fun other waiting => sound.waiting other (Pool.mem_tasks_of_mem_remove waiting), issued⟩

end Profiles

/-! ## All pages together -/

section Together

variable {chosen : Uid → String → Prop} {authorOf : String → Uid}

/-- Everything that has to hold between two callbacks. -/
def Sound (chosen : Uid → String → Prop) (authorOf : String → Uid) (state : State) : Prop :=
  (Home.Sound chosen (Posted authorOf) (SocialComment chosen authorOf) state.1 ∧
      Social chosen authorOf state.1) ∧
    ∀ copy ∈ state.2, ProfileSound chosen authorOf copy

/-- The event asks for families that have been chosen, or opens a page that is near. -/
def Asks (chosen : Uid → String → Prop) (authorOf : String → Uid) : WholeEvent → Prop
  | .inl (.inl event) => AsksWhole chosen event
  | event => ∀ page ∈ opened? event, Near chosen authorOf page.1.user page.2

/-- New posts get ids of their authors, and are shared in families. -/
def SharesWhole (authorOf : String → Uid) : WholeTask → Answer → Prop :=
  Sum.elim (Sum.elim (Sum.elim (Shares authorOf) fun _ _ => True) fun _ _ => True) fun _ _ => True

instance decidableSharesWhole (authorOf : String → Uid) (task : WholeTask) (answer : Answer) :
    Decidable (SharesWhole authorOf task answer) :=
  inferInstanceAs (Decidable (Sum.elim (Sum.elim (Sum.elim (Shares authorOf) fun _ _ => True)
    fun _ _ => True) (fun _ _ => True) task answer))

/-- What the pending requests rely on besides. -/
def NeedOfHome (chosen : Uid → String → Prop) (authorOf : String → Uid) :
    (App.Task ⊕ Screens.Task) ⊕ Discussion.Task → Prop :=
  Sum.elim (Sum.elim (NeedOfApp authorOf) fun _ => True) (NeedOfDiscussion chosen authorOf)

/-- The app, its further screens and the pages of posts and comments stay in the circle. -/
theorem social_relies (chosen : Uid → String → Prop) (authorOf : String → Uid)
    (count : String → ℕ) (localizedDescription : String) (form : CanonicalForm) :
    Async.Relies (Home.whole count localizedDescription form)
      (fun state => Sum.elim (fun _ => True) (OpensNear chosen authorOf state))
      (fun _ => Sum.elim (Sum.elim (Shares authorOf) fun _ _ => True) fun _ _ => True)
      (Social chosen authorOf) (fun _ => NeedOfHome chosen authorOf) fun _ _ => True := by
  have screens := (app_relies authorOf form).within.beside
    (screens_relies authorOf count localizedDescription) (fun _ need => need) fun _ need => need
  have app := screens.within.frame fun {state next : Home.State} _
      (social : SocialPages chosen authorOf state.2) moved =>
    show SocialPages chosen authorOf next.2 from moved.2 ▸ social
  have together := app.beside (home_relies chosen authorOf form) (fun _ need => need)
    fun _ need => need
  refine (together.assuming ?_ ?_).moving (fun _ => trivial) fun _ need => need
  · rintro state ((event | event) | event) allowed <;> trivial
  · rintro state ((task | task) | task) answer allowed <;> trivial

/-- What is stored is recorded. -/
theorem recorded_of_social {state : Home.State} (social : Social chosen authorOf state) :
    Home.Recorded (Posted authorOf) (SocialComment chosen authorOf) state where
  posts id data stored := ⟨id, social.1.posts id data stored⟩
  comments := social.2.discussion.comments

theorem eq_of_value {user other : Uid} (same : user.value = other.value) : user = other := by
  cases user
  cases other
  simpa using same

/-- A post that a timeline shows is by a user in the circle. -/
theorem inCircle_of_genuinePost {reader : Uid} {row : Post}
    (genuine : Home.GenuinePost chosen (Posted authorOf) reader row) :
    ∃ id, row.uid = some id ∧ row.userId = some (authorOf id).value ∧
      InCircle chosen reader (authorOf id) := by
  obtain ⟨data, author, familyId, ⟨id, owned⟩, rfl, userId, field, authors, may⟩ := genuine
  obtain ⟨other, attached, isFamily⟩ := owned.familyId
  obtain rfl := Option.some.inj (isFamily.symm.trans field)
  obtain rfl : author = authorOf id :=
    eq_of_value (Option.some.inj (userId.symm.trans owned.userId))
  exact ⟨id, owned.uid, owned.userId, .single (kin_of_entitled attached may authors)⟩

/-- Whoever has seen a post is in the circle of its author. -/
theorem inCircle_of_seen {state : Home.State}
    (home : Home.Sound chosen (Posted authorOf) (SocialComment chosen authorOf) state)
    (social : Social chosen authorOf state) {session : Session} {postId : String}
    (seen : Home.HasSeen state session postId) :
    InCircle chosen session.user (authorOf postId) := by
  rcases seen with (hasRead | ⟨⟨_, data⟩, member, rfl, uid⟩) |
    ⟨copy, member, rfl, post, inRows, uid⟩
  · exact inCircle_of_hasRead social.2.discussion hasRead
  · obtain ⟨⟨author, family, userId, field, authors⟩, familyId, isFamily, may⟩ :=
      home.1.1.returned _ data member
    obtain rfl := Option.some.inj (field.symm.trans isFamily)
    obtain ⟨id, isId, _, circle⟩ := inCircle_of_genuinePost
      ⟨data, author, family, social.1.returned _ member, rfl, userId, field, authors, may⟩
    obtain rfl := Option.some.inj (isId.symm.trans uid)
    exact circle
  · obtain ⟨id, isId, _, circle⟩ :=
      inCircle_of_genuinePost ((home.2.timelines copy member).rows post inRows)
    obtain rfl := Option.some.inj (isId.symm.trans uid)
    exact circle

/-- They also keep what they show genuine. -/
theorem home_whole_relies (chosen : Uid → String → Prop) (authorOf : String → Uid)
    (count : String → ℕ) (localizedDescription : String) (form : CanonicalForm) :
    Async.Relies (Home.whole count localizedDescription form)
      (fun _ event => Asks chosen authorOf (.inl event))
      (fun _ task => SharesWhole authorOf (.inl task))
      (fun state => Home.Sound chosen (Posted authorOf) (SocialComment chosen authorOf) state ∧
        Social chosen authorOf state)
      (fun _ task => Sum.elim (NeedOfWhole chosen) Home.Need task ∧
        NeedOfHome chosen authorOf task) fun _ _ => True := by
  refine Async.Relies.moving (Async.Relies.both
    (Home.whole_relies chosen (Posted authorOf) (SocialComment chosen authorOf) form count
      localizedDescription)
    (social_relies chosen authorOf count localizedDescription form) ?_ ?_)
    (fun _ => trivial) fun _ need => need
  · rintro state (event | event) home social asks
    · exact ⟨asks, trivial⟩
    · exact ⟨recorded_of_social social, asks, fun _ _ seen => inCircle_of_seen home social seen⟩
  · intro state task answer shares
    exact ⟨trivial, shares⟩

/-- So do the profiles. -/
theorem program_relies (chosen : Uid → String → Prop) (authorOf : String → Uid) :
    Async.Relies Browsing.program (fun _ event => Asks chosen authorOf (.inr event))
      (fun _ _ _ => True) (Sound chosen authorOf) (fun _ _ => True) fun _ _ => True where
  handled {state next event new} sound near handled := by
    have posts : PostsOwned authorOf state.1.1.1.store := sound.1.2.1.posts
    cases event with
    | profileViewDidLoad session uid =>
        simp only [Browsing.program, Browsing.handle] at handled
        split_ifs at handled
        obtain ⟨rfl, rfl⟩ := Prod.mk.inj (Option.some.inj handled)
        refine ⟨⟨sound.1, List.forall_mem_append.mpr ⟨sound.2, List.forall_mem_singleton.mpr
          ⟨near (session, .user uid) rfl, ?_, ?_⟩⟩⟩, by simp, trivial⟩
        · simp [Program.start, ProfileGrid.State.empty]
        · simp [Program.start]
    | profile index label =>
        obtain ⟨profiles, acted, same⟩ := Option.map_eq_some_iff.mp handled
        obtain ⟨rfl, rfl⟩ := Prod.mk.inj same
        exact ⟨⟨sound.1, Copy.forall_act sound.2 acted fun isSound taken =>
          isSound.step posts taken⟩, by simp, trivial⟩
  resumed {state next task answer new} _ _ _ _ := nomatch task
  stable _ need := need

/-- Everything together keeps it. -/
theorem pages_relies (chosen : Uid → String → Prop) (authorOf : String → Uid)
    (count : String → ℕ) (localizedDescription : String) (form : CanonicalForm) :
    Async.Relies (pages count localizedDescription form) (fun _ => Asks chosen authorOf)
      (fun _ => SharesWhole authorOf) (Sound chosen authorOf)
      (fun _ => Sum.elim (fun task => Sum.elim (NeedOfWhole chosen) Home.Need task ∧
        NeedOfHome chosen authorOf task) fun _ => True) fun _ _ => True := by
  have home := (home_whole_relies chosen authorOf count localizedDescription form).within.frame
    fun {state next : State} _ (sound : ∀ copy ∈ state.2, ProfileSound chosen authorOf copy)
      moved => show ∀ copy ∈ next.2, ProfileSound chosen authorOf copy from moved.2 ▸ sound
  have together := home.beside (program_relies chosen authorOf) (fun _ need => need)
    fun _ need => need
  refine (together.assuming ?_ ?_).moving (fun _ => trivial) fun _ need => need
  · rintro state (event | event) asks <;> exact asks
  · rintro state (task | task) answer shares
    · exact shares
    · exact nomatch task

end Together

/-! ## What is shown -/

section Shown

variable {chosen : Uid → String → Prop} {authorOf : String → Uid}

/-- A comment of a list is by a user in the circle of the author of the post. -/
theorem inCircle_of_genuineComment {postId : String} {row : Comment}
    (genuine : Home.GenuineComment (SocialComment chosen authorOf) postId row) :
    ∃ signer : Uid, row.uid = some signer.value ∧ InCircle chosen signer (authorOf postId) := by
  obtain ⟨data, ⟨signer, other, uid, about, circle⟩, rfl, _, field⟩ := genuine
  obtain rfl := Option.some.inj (about.symm.trans field)
  exact ⟨signer, uid, circle⟩

/-- Beside every user that a feed shows stands a row by that user. -/
theorem row_of_user {Row : Type} {controller : Feed.Controller Row} {mayAsk : String → Prop}
    {genuine : Row → Prop} {config : Config (Feed.State Row) (Feed.Task Row)}
    (shows : Feed.Shows controller mayAsk genuine config) {user : User}
    (member : user ∈ config.state.users) :
    ∃ row, genuine row ∧ user.uid = controller.author? row := by
  obtain ⟨index, inUsers, rfl⟩ := List.mem_iff_getElem.mp member
  have inRows : index < config.state.rows.length := shows.aligned.count ▸ inUsers
  refine ⟨config.state.rows[index], shows.rows _ (List.getElem_mem inRows), ?_⟩
  exact (shows.aligned.author index _ _ (List.getElem?_eq_getElem inUsers)
    (List.getElem?_eq_getElem inRows)).1

theorem near_of_timeline {state : Home.State}
    (home : Home.Sound chosen (Posted authorOf) (SocialComment chosen authorOf) state)
    {copy : Home.TimelineCopy} (member : copy ∈ state.2.timelines) :
    ∀ item ∈ ofTimeline copy, Near chosen authorOf item.1.user item.2 := by
  have shows := home.2.timelines copy member
  intro item shown
  rcases List.mem_append.mp shown with ofPost | ofUser
  · obtain ⟨row, inRows, isItem⟩ := List.mem_filterMap.mp ofPost
    obtain ⟨uid, isUid, rfl⟩ := Option.map_eq_some_iff.mp isItem
    obtain ⟨id, isId, _, circle⟩ := inCircle_of_genuinePost (shows.rows row inRows)
    obtain rfl := Option.some.inj (isId.symm.trans isUid)
    exact circle
  · obtain ⟨user, inUsers, isItem⟩ := List.mem_filterMap.mp ofUser
    obtain ⟨uid, isUid, rfl⟩ := Option.map_eq_some_iff.mp isItem
    obtain ⟨row, genuine, author⟩ := row_of_user shows inUsers
    obtain ⟨id, _, userId, circle⟩ := inCircle_of_genuinePost genuine
    have same : some uid = some (authorOf id).value := isUid.symm.trans (author.trans userId)
    exact ⟨authorOf id, (Option.some.inj same).symm, circle⟩

theorem near_of_comments {state : Home.State}
    (home : Home.Sound chosen (Posted authorOf) (SocialComment chosen authorOf) state)
    (social : Social chosen authorOf state) {copy : Home.CommentCopy}
    (member : copy ∈ state.2.commentLists) :
    ∀ item ∈ ofComments copy, Near chosen authorOf item.1.user item.2 := by
  intro item shown
  obtain ⟨user, inUsers, isItem⟩ := List.mem_filterMap.mp shown
  obtain ⟨uid, isUid, rfl⟩ := Option.map_eq_some_iff.mp isItem
  obtain ⟨row, genuine, author⟩ := row_of_user (home.2.commentLists copy member) inUsers
  obtain ⟨signer, signed, circle⟩ := inCircle_of_genuineComment genuine
  have same : some uid = some signer.value := isUid.symm.trans (author.trans signed)
  exact ⟨signer, (Option.some.inj same).symm,
    (social.2.commentLists copy member).trans circle.symm⟩

theorem near_of_profile {copy : ProfileCopy} (sound : ProfileSound chosen authorOf copy) :
    ∀ item ∈ ofProfile copy, Near chosen authorOf item.1.user item.2 := by
  intro item shown
  obtain ⟨post, inPosts, isItem⟩ := List.mem_filterMap.mp shown
  obtain ⟨uid, isUid, rfl⟩ := Option.map_eq_some_iff.mp isItem
  obtain ⟨id, isId, _, author⟩ := sound.posts post inPosts
  obtain rfl := Option.some.inj (isId.symm.trans isUid)
  obtain ⟨user, isUser, circle⟩ := sound.near
  obtain rfl : authorOf id = user := eq_of_value (author.trans isUser.symm)
  exact circle

theorem near_of_detail {entry : Session × Fields} {id : String}
    (owned : OwnedPost authorOf id entry.2) (circle : InCircle chosen entry.1.user (authorOf id)) :
    ∀ item ∈ ofDetail entry, Near chosen authorOf item.1.user item.2 := by
  have shown : ofDetail entry =
      [(entry.1, .post id), (entry.1, .user (authorOf id).value)] := by
    simp [ofDetail, transformPostPhoto, owned.uid, owned.userId]
  rw [shown]
  exact List.forall_mem_cons.mpr
    ⟨circle, List.forall_mem_singleton.mpr ⟨authorOf id, rfl, circle⟩⟩

/-- Everything that is shown is near. -/
theorem near_of_shows {state : State} (sound : Sound chosen authorOf state) :
    ∀ item ∈ shows state, Near chosen authorOf item.1.user item.2 := by
  obtain ⟨⟨home, social⟩, profiles⟩ := sound
  refine List.forall_mem_append.mpr ⟨List.forall_mem_append.mpr ⟨List.forall_mem_append.mpr
    ⟨List.forall_mem_flatMap.mpr fun copy member => ?_,
      List.forall_mem_flatMap.mpr fun copy member => ?_⟩,
    List.forall_mem_flatMap.mpr fun copy member => ?_⟩,
    List.forall_mem_flatMap.mpr fun entry member => ?_⟩
  · exact near_of_timeline home member
  · exact near_of_comments home social member
  · exact near_of_profile (profiles copy member)
  · obtain ⟨id, owned, circle⟩ := social.2.discussion.read entry member
    exact near_of_detail owned circle

end Shown

/-! ## Whole runs -/

section Runs

variable {authorOf : String → Uid} {count : String → ℕ} {localizedDescription : String}
  {form : CanonicalForm} {labels : List (Label WholeEvent Answer)}
  {last : Config (State × List (Session × Sight)) WholeTask}

/-- Along the labels, the user asks for a family by this id. -/
def Tapped (labels : List (Label WholeEvent Answer)) (uid : Uid) (familyId : String) : Prop :=
  ∃ event, .event (.inl (.inl (.inl event))) ∈ labels ∧
    Consent.asked? event = some (uid, familyId)

/-- The app that is browsed by taps stays in the circle. -/
theorem app_browsed_relies (chosen : Uid → String → Prop) (authorOf : String → Uid)
    (count : String → ℕ) (localizedDescription : String) (form : CanonicalForm) :
    Async.Relies (app count localizedDescription form)
      (fun _ event => ∀ own, event = .inl (.inl own) → AsksWhole chosen own)
      (fun _ => SharesWhole authorOf)
      (fun state => Sound chosen authorOf state.1 ∧
        ∀ item ∈ state.2, Near chosen authorOf item.1.user item.2)
      (fun _ => Sum.elim (fun task => Sum.elim (NeedOfWhole chosen) Home.Need task ∧
        NeedOfHome chosen authorOf task) fun _ => True) fun _ _ => True := by
  refine (pages_relies chosen authorOf count localizedDescription form).revealing shows opens
    (fun _ event => ∀ own, event = .inl (.inl own) → AsksWhole chosen own) near_of_shows ?_
  intro past state event near mayOpen asks
  have opened : ∀ page ∈ opened? event, Near chosen authorOf page.1.user page.2 := by
    intro page isPage
    rcases mayOpen page isPage with own | shown
    · rw [own]
      exact ⟨page.1.user, rfl, .refl⟩
    · exact near page shown
  rcases event with (event | event) | event
  · exact asks event rfl
  · exact opened
  · exact opened

theorem sound_empty (chosen : Uid → String → Prop) (authorOf : String → Uid) :
    Sound chosen authorOf State.empty := by
  refine ⟨⟨Home.sound_empty _ _ _, ⟨?_, ?_⟩, ⟨?_, ?_, ?_⟩, ?_⟩, ?_⟩ <;>
    simp [PostsOwned, State.empty, Home.State.empty, Screens.State.empty, AppState.empty,
      Store.empty, Discussion.Board.empty]

/-- Nobody looks out of the circle. In every run of the app that is browsed by taps, in any
order of its steps and with any failures, in which the ids of posts are made for one author
each and no post is shared without a family, everything that a session has ever been shown, a
post or a user, belongs to the circle of its user, and every profile shows posts of its user
only. -/
theorem shown_in_circle_of_run
    (obeys : (app count localizedDescription form).Obeys
      (onState (fun _ _ => True) fun _ => SharesWhole authorOf)
      (Program.start (State.empty, [])) labels)
    (ran : (app count localizedDescription form).run (Program.start (State.empty, [])) labels =
      some last) :
    (∀ item ∈ last.state.2, Near (Tapped labels) authorOf item.1.user item.2) ∧
      ∀ copy ∈ last.state.1.2,
        Near (Tapped labels) authorOf copy.profile.1.user (.user copy.profile.2) ∧
          ∀ post ∈ copy.config.state.posts, post.userId = some copy.profile.2 := by
  have tapped : ∀ event, .event event ∈ labels → ∀ own, event = .inl (.inl own) →
      AsksWhole (Tapped labels) own := by
    rintro event member (own | own) rfl
    · exact fun operation asks => ⟨own, member, asks⟩
    · trivial
  obtain ⟨⟨sound, near⟩, _⟩ := (app_browsed_relies (Tapped labels) authorOf count
    localizedDescription form).run ⟨sound_empty _ _, by simp⟩
    (Program.obeys_of_answers tapped obeys) ran
  refine ⟨near, fun copy member => ⟨(sound.2 copy member).near, fun post shown => ?_⟩⟩
  obtain ⟨_, _, userId, _⟩ := (sound.2 copy member).posts post shown
  exact userId

end Runs

/-! ## A post of another family -/

/-- A tap of the app. -/
def tap (event : App.Event) : Label WholeEvent Answer := .event (.inl (.inl (.inl event)))

/-- A user signs up, from this ticket on. -/
def signingUp (user : Uid) (ticket : ℕ) : List (Label WholeEvent Answer) := [
  tap (.signUpTapped ⟨"A", "a@example.org", "Passw0rd", "Passw0rd"⟩),
  .answer ticket (.created user), .answer (ticket + 1) .succeeded]

/-- A user creates a family and is given these families. -/
def creating (user : Uid) (familyId : String) (families : List String) (ticket : ℕ) :
    List (Label WholeEvent Answer) := [
  tap (.createTapped ⟨user, 0⟩ "Home" familyId), .answer ticket .succeeded,
  .answer (ticket + 2) .succeeded, .answer (ticket + 3) (.listed families),
  .answer (ticket + 4) .succeeded]

/-- A user shares a post, which gets this id. -/
def sharing (user : Uid) (id : String) (ticket : ℕ) : List (Label WholeEvent Answer) := [
  tap (.shareTapped ⟨user, 0⟩ true "A vase"), .answer ticket .succeeded,
  .answer (ticket + 1) .succeeded, .answer (ticket + 2) .succeeded,
  .answer (ticket + 3) (.classified ⟨"A vase", "url", 0, "vase", "1.00%"⟩ id),
  .answer (ticket + 4) .succeeded]

/-- One user has a family; another one joins it, shares a post, creates a second family and
shares a post there. -/
def twoFamilies : List (Label WholeEvent Answer) :=
  signingUp userA 0 ++ creating userA "abc" ["abc"] 2 ++ signingUp userB 7 ++ [
    tap (.joinTapped ⟨userB, 0⟩ "abc"), .answer 9 .succeeded, .answer 10 .succeeded,
    .answer 11 (.listed ["abc"]), .answer 12 .succeeded, tap (.launch ⟨userB, 0⟩)] ++
  sharing userB "first" 15 ++ creating userB "xyz" ["abc", "xyz"] 20 ++ sharing userB "second" 25

/-- The first user opens the timeline, and from the first post the profile of its author. -/
def visiting : List (Label WholeEvent Answer) :=
  twoFamilies ++ .event (.inl (.inr (.timelineViewDidLoad ⟨userA, 0⟩))) ::
    ([.event .refresh, .answer 0 .succeeded, .answer 1 (.documents ["first"]),
      .answer 2 .succeeded].map fun label => .event (.inl (.inr (.timeline 0 label)))) ++
    .event (.inr (.profileViewDidLoad ⟨userA, 0⟩ userB.value)) ::
      [.event .viewDidAppear, .answer 0 (.documents ["first", "second"]), .answer 1 .succeeded,
        .answer 2 .succeeded].map fun label => .event (.inr (.profile 0 label))

/-- The profile shows a post of a family that the reader is not in. -/
def SeesOther (last : Config (State × List (Session × Sight)) WholeTask) : Prop :=
  last.state.1.1.1.1.store.familiesOf userA = some ["abc"] ∧
    ((last.state.1.1.1.1.store.posts.get? "second").bind fun data =>
      data.string? "familyId") = some "xyz" ∧
    (⟨userA, 0⟩, .post "second") ∈ last.state.2

instance decidableSeesOther : DecidablePred SeesOther := fun _ =>
  inferInstanceAs (Decidable (_ ∧ _ ∧ _))

/-- The first user sees the post of the second family, whose author is in the circle. -/
theorem shown_in_circle_of_visiting : ∃ last,
    (app String.length "The password is invalid." .scalars).run (Program.start (State.empty, []))
        visiting = some last ∧
      SeesOther last ∧ InCircle (Tapped visiting) userA userB := by
  obtain ⟨last, ran, other⟩ : ∃ last,
      (app String.length "The password is invalid." .scalars).run (Program.start (State.empty, []))
        visiting = some last ∧ SeesOther last := Program.exists_run (by decide)
  have obeys : (app String.length "The password is invalid." .scalars).Obeys
      (onState (fun _ _ => True) fun _ => SharesWhole fun _ => userB)
      (Program.start (State.empty, [])) visiting := by decide
  have near := (shown_in_circle_of_run obeys ran).1 (⟨userA, 0⟩, .post "second") other.2.2
  exact ⟨last, ran, other, near⟩

end Familog.App.Circle
