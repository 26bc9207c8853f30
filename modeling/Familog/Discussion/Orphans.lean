import Familog.App.Effect
import Familog.App.Discussion

/-!
Contract: which posts the comments are about.

Owns the theorem that every comment is about a post that exists or has existed and been
deleted, after every run of uploads, comments and deletions by any number of users.
`deletePost` removes one document and leaves its comments, and `sendComment` does not look
whether the post is still there; there is no other way to an orphan.

Does not own the comments of the app's channels.
-/

set_option autoImplicit false

namespace Familog.App.Discussion

open Async Firestore Swift MainPage

/-! ## The law and what holds instead -/

/-- The comment is about a post for which the property holds. -/
def About (holds : String → Prop) (data : Fields) : Prop :=
  ∃ postId, data.string? "postId" = some postId ∧ holds postId

/-- The post exists. -/
def Exists (state : State) (postId : String) : Prop :=
  (state.1.store.posts.get? postId).isSome

/-- The post exists, or has existed and been deleted. -/
def Known (state : State) (postId : String) : Prop :=
  Exists state postId ∨ postId ∈ state.2.deleted

/-- Every comment is about a post that exists. -/
def NoOrphans (state : State) : Prop :=
  ∀ ref data, state.2.comments.get? ref = some data → About (Exists state) data

/-- Every comment is about a post that exists or has been deleted. -/
def OrphansOfDeleted (state : State) : Prop :=
  ∀ ref data, state.2.comments.get? ref = some data → About (Known state) data

/-! ## The invariant -/

/-- Posts are stored under their `uid`, and what has been shown, opened or commented on is
known. -/
structure Tracked (state : State) : Prop where
  keyed : ∀ id data, state.1.store.posts.get? id = some data → data.string? "uid" = some id
  read : ∀ entry ∈ state.2.read, ∀ postId ∈ entry.2.string? "uid", Known state postId
  returned : ∀ entry ∈ state.1.returned, ∀ postId ∈ entry.2.string? "uid", Known state postId
  opened : ∀ session, ∀ screen ∈ state.2.screens session, Known state screen.postId
  comments : OrphansOfDeleted state

/-- What a pending write relies on: a post is written under its `uid`, and a comment is
about a known post. -/
def Need (state : State) : App.Task ⊕ Task → Prop
  | .inl (.upload _ (.setData id data)) => data.string? "uid" = some id
  | .inr (.comment (.setData _ data)) => About (Known state) data
  | _ => True

section Steps

variable {form : CanonicalForm} {state next : State}

theorem About.mono {holds kept : String → Prop} {data : Fields}
    (grows : ∀ postId, holds postId → kept postId) (about : About holds data) :
    About kept data := by
  obtain ⟨postId, isPost, known⟩ := about
  exact ⟨postId, isPost, grows postId known⟩

/-- What a pending write relies on stays true as long as posts stay known. -/
theorem Need.mono {task : App.Task ⊕ Task}
    (grows : ∀ postId, Known state postId → Known next postId) (need : Need state task) :
    Need next task := by
  unfold Need at need ⊢
  split at need
  · exact need
  · exact need.mono grows
  · trivial

/-- The `uid` of a stored post is that of a post. -/
theorem Tracked.exists_of_stored (tracked : Tracked state) {id postId : String} {data : Fields}
    (stored : state.1.store.posts.get? id = some data) (isPost : data.string? "uid" = some postId) :
    Exists state postId := by
  obtain rfl : id = postId := Option.some.inj ((tracked.keyed id data stored).symm.trans isPost)
  rw [Exists, stored]
  rfl

/-- What is tracked stays so as long as posts stay known and no comment is written. -/
theorem Tracked.mono (tracked : Tracked state)
    (grows : ∀ postId, Known state postId → Known next postId)
    (keyed : ∀ id data, next.1.store.posts.get? id = some data → data.string? "uid" = some id)
    (returned : ∀ entry ∈ next.1.returned, entry ∈ state.1.returned ∨
      ∃ id, state.1.store.posts.get? id = some entry.2)
    (board : next.2.read = state.2.read ∧ next.2.screens = state.2.screens ∧
      next.2.comments = state.2.comments) : Tracked next := by
  obtain ⟨read, screens, comments⟩ := board
  refine ⟨keyed, ?_, ?_, ?_, ?_⟩
  · rw [read]
    exact fun entry member postId isPost => grows _ (tracked.read entry member postId isPost)
  · intro entry member postId isPost
    refine grows _ ?_
    rcases returned entry member with before | ⟨id, stored⟩
    · exact tracked.returned entry before postId isPost
    · exact Or.inl (tracked.exists_of_stored stored isPost)
  · rw [screens]
    exact fun session screen isScreen => grows _ (tracked.opened session screen isScreen)
  · intro ref data found
    rw [comments] at found
    exact (tracked.comments ref data found).mono grows

/-- The app takes no post away. -/
theorem known_of_app (board : next.2 = state.2)
    (posts : ∀ id, (state.1.store.posts.get? id).isSome → (next.1.store.posts.get? id).isSome) :
    ∀ postId, Known state postId → Known next postId := by
  intro postId known
  rw [Known, board]
  exact known.imp_left (posts postId)

/-- Of what the app does to the posts, all that matters here: it adds one, under its
`uid`, or leaves them alone. -/
theorem posts_of_effect {data data' : Data} {task : App.Task} {answer : Answer}
    {new : List App.Task} {reports : List (Uid × String)}
    (effect : Effect form data task answer data' new reports) :
    data'.store.posts = data.store.posts ∨
      ∃ session id fields, task = .upload session (.setData id fields) ∧
        data'.store.posts = data.store.posts.set id fields := by
  cases effect with
  | postSaved => exact Or.inr ⟨_, _, _, rfl, rfl⟩
  | _ => exact Or.inl rfl

theorem need_of_carried {session : Session} {request : Upload.Task}
    (carried : Upload.carried? request ≠ none) : Need state (.inl (.upload session request)) := by
  cases request <;> simp_all [Upload.carried?, Need]

/-- Every answer of the app issues writes of posts under their `uid` only. -/
theorem need_of_effect {data data' : Data} {task : App.Task} {answer : Answer}
    {new : List App.Task} {reports : List (Uid × String)}
    (effect : Effect form data task answer data' new reports) :
    ∀ other ∈ new, Need state (.inl other) := by
  cases effect with
  | userRead _ _ issued | arrayMade _ _ _ issued =>
      exact forall_mem_append issued (fun _ _ _ => trivial) fun _ _ _ => trivial
  | userListened _ => exact forall_mem_listeners trivial fun _ _ => trivial
  | uploading _ goesOn =>
      intro other member
      rw [List.mem_singleton.mp member]
      exact need_of_carried (by simp [goesOn])
  | postDescribed =>
      intro other member
      rw [List.mem_singleton.mp member]
      rfl
  | _ => simp [Need]

theorem need_of_asked {data : Data} {event : App.Event} {new : List App.Task}
    (asked : Asked form data event new) : ∀ other ∈ new, Need state (.inl other) := by
  cases asked <;> simp [Need]

/-! ## One step -/

/-- An answer of the app keeps what is tracked. -/
theorem tracked_of_app {data' : Data} {task : App.Task} {answer : Answer} {new : List App.Task}
    {reports : List (Uid × String)} (tracked : Tracked state) (need : Need state (.inl task))
    (effect : Effect form state.1.toData task answer data' new reports)
    (app : next.1.toData = data') (board : next.2 = state.2) :
    Tracked next ∧ ∀ postId, Known state postId → Known next postId := by
  subst app
  rcases posts_of_effect effect with same | ⟨session, id, fields, rfl, saved⟩
  · have grows := known_of_app board fun id stored => by rwa [same]
    refine ⟨tracked.mono grows (fun id data found => ?_) (returned_stored effect)
      (by simp [board]), grows⟩
    rw [same] at found
    exact tracked.keyed id data found
  · have grows : ∀ postId, Known state postId → Known next postId := by
      apply known_of_app board
      intro other stored
      rw [saved, Collection.get?_set]
      split_ifs
      · rfl
      · exact stored
    refine ⟨tracked.mono grows (fun other data found => ?_) (returned_stored effect)
      (by simp [board]), grows⟩
    rw [saved, Collection.get?_set] at found
    split_ifs at found with here
    · rw [here, ← Option.some.inj found]
      exact need
    · exact tracked.keyed other data found

/-- An event of the screens keeps what is tracked, and what it issues is tracked. -/
theorem tracked_of_acted {event : Event} {new : List Task} (tracked : Tracked state)
    (acted : Acted form state event next new) :
    Tracked next ∧ (∀ postId, Known state postId → Known next postId) ∧
      ∀ task ∈ new, Need next (.inr task) := by
  cases acted with
  | @postRead session postId data found =>
      refine ⟨⟨tracked.keyed, ?_, tracked.returned, tracked.opened, tracked.comments⟩,
        fun _ known => known, by simp⟩
      intro entry member other isPost
      rcases List.mem_append.mp member with old | new
      · exact tracked.read entry old other isPost
      · rw [List.mem_singleton.mp new] at isPost
        exact Or.inl (tracked.exists_of_stored found isPost)
  | @commentsOpened session postId hasSeen =>
      have known : Known state postId := by
        rcases hasSeen with ⟨entry, member, _, isPost⟩ | ⟨entry, member, _, isPost⟩
        · exact tracked.read entry member postId isPost
        · exact tracked.returned entry member postId isPost
      refine ⟨⟨tracked.keyed, tracked.read, tracked.returned, ?_, tracked.comments⟩,
        fun _ kept => kept, by simp⟩
      exact Board.forall_setScreen tracked.opened known
  | @typed session own screen after tasks isScreen acted =>
      have known := tracked.opened session screen isScreen
      have post : after.postId = screen.postId ∧
          ∀ task ∈ tasks, Need state (.inr (.comment task)) := by
        rcases Comments.handle_cases acted with ⟨text, _, rfl, rfl⟩ | ⟨ref, timestamp, rfl, rfl, _⟩
        · exact ⟨rfl, by simp⟩
        · refine ⟨rfl, fun task member => ?_⟩
          rw [List.mem_singleton.mp member]
          exact ⟨screen.postId, rfl, known⟩
      refine ⟨⟨tracked.keyed, tracked.read, tracked.returned, ?_, tracked.comments⟩,
        fun _ kept => kept, List.forall_mem_map.mpr post.2⟩
      apply Board.forall_setScreen tracked.opened
      show Known state after.postId
      rw [post.1]
      exact known
  | deleting => exact ⟨tracked, fun _ known => known, by simp [Need]⟩

/-- A post that is deleted now was known, and stays so: its deletion is noted. -/
theorem known_of_deletion {postId other : String} (known : Known state other) :
    Known (AppState.erasePost state.1 postId,
      { state.2 with deleted := if (state.1.store.posts.get? postId).isSome then
          postId :: state.2.deleted else state.2.deleted }) other := by
  rcases known with exist | gone
  · by_cases same : other = postId
    · right
      subst same
      rw [Exists] at exist
      simp [exist]
    · left
      rwa [Exists, AppState.erasePost, Collection.get?_erase_of_ne _ same]
  · right
    show other ∈ if _ then _ else _
    split_ifs
    · exact List.mem_cons_of_mem _ gone
    · exact gone

/-- An answer of the screens keeps what is tracked: a deleted post is noted as such. -/
theorem tracked_of_answered {task : Task} (tracked : Tracked state) (need : Need state (.inr task))
    (answered : Answered state task next) :
    Tracked next ∧ ∀ postId, Known state postId → Known next postId := by
  cases answered with
  | failed => exact ⟨tracked, fun _ known => known⟩
  | @commented ref data =>
      refine ⟨⟨tracked.keyed, tracked.read, tracked.returned, tracked.opened, ?_⟩,
        fun _ known => known⟩
      intro other fields found
      rw [Collection.get?_set] at found
      split_ifs at found
      · exact Option.some.inj found ▸ need
      · exact tracked.comments other fields found
  | @deleted postId =>
      refine ⟨tracked.mono (fun _ => known_of_deletion) (fun id data found => ?_)
        (fun _ => Or.inl) ⟨rfl, rfl, rfl⟩, fun _ => known_of_deletion⟩
      exact tracked.keyed id data (Collection.get?_of_get?_erase found)

end Steps

/-! ## All runs -/

/-- What is tracked, as an outline. -/
def tracking (form : CanonicalForm) : Outline (whole form) fun _ _ => True where
  inv := Tracked
  need := Need
  apart _ _ := True
  symmetric _ := trivial
  handled := by
    intro config event state new tracked _ handled
    rcases whole_handled handled with
      ⟨own, tasks, rfl, acted, board, rfl⟩ | ⟨own, tasks, rfl, acted, rfl⟩
    · obtain ⟨asked, same, _⟩ := handle_asked acted
      have grows := known_of_app board fun id stored => by
        rwa [congrArg (fun data : Data => data.store.posts) same]
      have returned := congrArg (fun data : Data => data.returned) same
      refine .of_free (fun _ _ => trivial) (tracked.mono grows ?_
        (by rw [returned]; exact fun _ => Or.inl) (by simp [board]))
        (List.forall_mem_map.mpr (need_of_asked asked)) fun _ waiting => waiting.2.mono grows
      intro id data found
      rw [congrArg (fun data : Data => data.store.posts) same] at found
      exact tracked.keyed id data found
    · obtain ⟨kept, grows, issued⟩ := tracked_of_acted tracked acted
      exact .of_free (fun _ _ => trivial) kept (List.forall_mem_map.mpr issued)
        fun _ waiting => waiting.2.mono grows
  resumed := by
    intro config ticket answer task state new tracked need _ _ resumed
    rcases whole_resumed resumed with
      ⟨own, tasks, rfl, acted, board, rfl⟩ | ⟨own, rfl, answered, rfl⟩
    · obtain ⟨reports, effect, _⟩ := resume_effect acted
      obtain ⟨kept, grows⟩ := tracked_of_app tracked need effect rfl board
      exact .of_free (fun _ _ => trivial) kept
        (List.forall_mem_map.mpr (need_of_effect effect)) fun _ waiting => waiting.1.mono grows
    · obtain ⟨kept, grows⟩ := tracked_of_answered tracked need answered
      exact .of_free (fun _ _ => trivial) kept (by simp) fun _ waiting => waiting.1.mono grows

/-- In every state that is reached, by whatever order of uploads, comments and deletions of
any number of users, every comment is about a post that exists, or that has existed and
been deleted. -/
theorem orphans_of_deleted (form : CanonicalForm)
    {labels : List (Label (App.Event ⊕ Event) Answer)} {last : Config State (App.Task ⊕ Task)}
    (ran : (whole form).run (Program.start State.empty) labels = some last) :
    OrphansOfDeleted last.state := by
  have start : Tracked State.empty := by
    refine ⟨?_, ?_, ?_, ?_, ?_⟩
    · intro id data found
      simp [State.empty, AppState.empty, Store.empty] at found
    · simp [State.empty, Board.empty]
    · simp [State.empty, AppState.empty]
    · simp [State.empty, Board.empty]
    · intro ref data found
      simp [State.empty, Board.empty] at found
  exact ((tracking form).run ((tracking form).start start) Program.obeys_true ran).inv.comments

/-! ## A deleted post -/

/-- The author comments on the post, and deletes it. -/
def deletedAfterwards : List (Label (App.Event ⊕ Event) Answer) := posting ++ [
  .event (.inr (.comment ⟨author, 0⟩ (.textFieldDidChange "Nice"))),
  .event (.inr (.comment ⟨author, 0⟩ (.sendButton_TouchUpInside "first" 1))),
  .answer 9 .succeeded,
  .event (.inr (.deletePostButtonTapped ⟨author, 0⟩ "post")), .answer 10 .succeeded]

/-- The author deletes the post on one device while its comments are open on another, and
comments on it there. -/
def deletedBefore : List (Label (App.Event ⊕ Event) Answer) := posting ++ [
  .event (.inr (.observePost ⟨author, 1⟩ "post")),
  .event (.inr (.deletePostButtonTapped ⟨author, 1⟩ "post")), .answer 9 .succeeded,
  .event (.inr (.comment ⟨author, 0⟩ (.textFieldDidChange "Nice"))),
  .event (.inr (.comment ⟨author, 0⟩ (.sendButton_TouchUpInside "first" 1))),
  .answer 10 .succeeded]

/-- A comment is there, and its post is not. -/
def OneOrphan (last : Config State (App.Task ⊕ Task)) : Prop :=
  ((last.state.2.comments.get? "first").bind fun data => data.string? "postId") = some "post" ∧
    (last.state.1.store.posts.get? "post").isSome = false

instance : DecidablePred OneOrphan := fun _ => inferInstanceAs (Decidable (_ ∧ _))

/-- Either way the comment is left without its post. -/
theorem comment_orphaned_by_deletion :
    (∃ last, (whole CanonicalForm.scalars).run (Program.start State.empty) deletedAfterwards =
        some last ∧ ¬ NoOrphans last.state) ∧
      ∃ last, (whole CanonicalForm.scalars).run (Program.start State.empty) deletedBefore =
        some last ∧ ¬ NoOrphans last.state := by
  have orphaned : ∀ last, OneOrphan last → ¬ NoOrphans last.state := by
    rintro last ⟨stored, gone⟩ none
    obtain ⟨data, found, isPost⟩ := Option.bind_eq_some_iff.mp stored
    obtain ⟨postId, isPost', exist⟩ := none "first" data found
    obtain rfl := Option.some.inj (isPost.symm.trans isPost')
    rw [Exists, gone] at exist
    exact absurd exist (by simp)
  constructor
  · obtain ⟨last, ran, orphan⟩ : ∃ last, (whole CanonicalForm.scalars).run
        (Program.start State.empty) deletedAfterwards = some last ∧ OneOrphan last :=
      Program.exists_run (by decide)
    exact ⟨last, ran, orphaned last orphan⟩
  · obtain ⟨last, ran, orphan⟩ : ∃ last, (whole CanonicalForm.scalars).run
        (Program.start State.empty) deletedBefore = some last ∧ OneOrphan last :=
      Program.exists_run (by decide)
    exact ⟨last, ran, orphaned last orphan⟩

/-- The orphan is one of a deleted post. -/
theorem orphans_of_deleted_afterwards :
    ∃ last, (whole CanonicalForm.scalars).run (Program.start State.empty) deletedAfterwards =
      some last ∧ OrphansOfDeleted last.state := by
  obtain ⟨last, ran, _⟩ : ∃ last, (whole CanonicalForm.scalars).run
      (Program.start State.empty) deletedAfterwards = some last ∧ OneOrphan last :=
    Program.exists_run (by decide)
  exact ⟨last, ran, orphans_of_deleted CanonicalForm.scalars ran⟩

end Familog.App.Discussion
