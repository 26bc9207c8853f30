import Familog.App.Effect
import Familog.Async.History
import Familog.Async.Rely
import Familog.Discussion.Orphans

/-!
Contract: what has been shared stays, until its author takes it away.

Owns the posts that a run has uploaded, and the theorem that each of them stays in the store
as it was uploaded until somebody with the id of its author has tapped its delete button,
that nothing else is in the store, and that every post a timeline was given is one of them.
Owns the same for comments, which nobody can take away: each is signed by the user whose
session sent it, and its text is what that session typed.

Does not own how the ids of new documents are made: that one is never made twice is a
condition on the answers.
-/

set_option autoImplicit false

namespace Familog.App.Discussion

open Async Firestore Swift MainPage

/-! ## Posts -/

/-- A post that has been uploaded. -/
structure Shared where
  author : Uid
  id : String
  data : Fields

/-- The post whose upload an answer acknowledges. -/
def shared (_ : State) : App.Task ⊕ Task → Answer → List Shared
  | .inl (.upload session (.setData id data)), .succeeded => [⟨session.user, id, data⟩]
  | _, _ => []

/-- A new post does not get the id of a deleted one. -/
def FreshId (state : State) (task : App.Task ⊕ Task) (_ : Answer) : Prop :=
  match task with
  | .inl (.upload _ (.setData id _)) => id ∉ state.2.deleted
  | _ => True

instance (state : State) (task : App.Task ⊕ Task) (answer : Answer) :
    Decidable (FreshId state task answer) := by
  unfold FreshId
  split <;> infer_instance

section Definitions

variable (form : CanonicalForm) (removes : Session → String → Prop)

/-- Somebody with the id of the author has asked to remove the post. -/
def Removed (post : Shared) : Prop :=
  ∃ session, removes session post.id ∧ form.Same post.author.value session.user.value

/-- A tap of the delete button asks to remove the post. -/
def AsksToRemove : App.Event ⊕ Event → Prop
  | .inr (.deletePostButtonTapped session postId) => removes session postId
  | _ => True

/-- The store has what has been uploaded and not removed by its author, and no other post. -/
structure Kept (past : List Shared) (state : State) : Prop where
  kept : ∀ post ∈ past, state.1.store.posts.get? post.id = some post.data ∨
    post.id ∈ state.2.deleted ∧ Removed form removes post
  stored : ∀ id data, state.1.store.posts.get? id = some data →
    ∃ post ∈ past, post.id = id ∧ post.data = data
  signed : ∀ post ∈ past, post.data.string? "uid" = some post.id ∧
    post.data.string? "userId" = some post.author.value
  distinct : (past.map Shared.id).Nodup
  read : ∀ entry ∈ state.2.read, ∃ post ∈ past, post.data = entry.2
  returned : ∀ entry ∈ state.1.returned, ∃ post ∈ past, post.data = entry.2

/-- What a pending upload or deletion relies on. -/
def Pending (past : List Shared) : App.Task ⊕ Task → Prop
  | .inl (.upload session (.setData id data)) =>
      data.string? "uid" = some id ∧ data.string? "userId" = some session.user.value
  | .inr (.deletePost postId) => ∃ post ∈ past, post.id = postId ∧ Removed form removes post
  | _ => True

end Definitions

section Steps

variable {form : CanonicalForm} {removes : Session → String → Prop} {past : List Shared}
  {state next : State} {post : Shared}

theorem Pending.append {task : App.Task ⊕ Task} (pending : Pending form removes past task)
    (later : List Shared) : Pending form removes (past ++ later) task := by
  unfold Pending at pending ⊢
  split at pending
  · exact pending
  · obtain ⟨post, member, rest⟩ := pending
    exact ⟨post, List.mem_append_left _ member, rest⟩
  · trivial

/-- What was kept is so after a step that changes no post and shows only what was uploaded. -/
theorem Kept.of_posts (kept : Kept form removes past state)
    (posts : next.1.store.posts = state.1.store.posts) (deleted : next.2.deleted = state.2.deleted)
    (read : ∀ entry ∈ next.2.read, entry ∈ state.2.read ∨
      ∃ id, state.1.store.posts.get? id = some entry.2)
    (returned : ∀ entry ∈ next.1.returned, entry ∈ state.1.returned ∨
      ∃ id, state.1.store.posts.get? id = some entry.2) : Kept form removes past next where
  kept := by rw [posts, deleted]; exact kept.kept
  stored := by rw [posts]; exact kept.stored
  signed := kept.signed
  distinct := kept.distinct
  read entry member := by
    rcases read entry member with before | ⟨id, found⟩
    · exact kept.read entry before
    · obtain ⟨post, inPast, _, same⟩ := kept.stored id entry.2 found
      exact ⟨post, inPast, same⟩
  returned entry member := by
    rcases returned entry member with before | ⟨id, found⟩
    · exact kept.returned entry before
    · obtain ⟨post, inPast, _, same⟩ := kept.stored id entry.2 found
      exact ⟨post, inPast, same⟩

/-- An upload under a new id adds its post. -/
theorem Kept.upload (kept : Kept form removes past state)
    (free : state.1.store.posts.get? post.id = none) (fresh : post.id ∉ state.2.deleted)
    (signed : post.data.string? "uid" = some post.id ∧
      post.data.string? "userId" = some post.author.value)
    (posts : next.1.store.posts = state.1.store.posts.set post.id post.data)
    (returned : next.1.returned = state.1.returned) (board : next.2 = state.2) :
    Kept form removes (past ++ [post]) next := by
  have unused : ∀ other ∈ past, other.id ≠ post.id := by
    intro other member same
    rcases kept.kept other member with stored | ⟨gone, _⟩
    · simp [same, free] at stored
    · exact fresh (same ▸ gone)
  refine ⟨?_, ?_, List.forall_mem_append.mpr ⟨kept.signed, List.forall_mem_singleton.mpr signed⟩,
    ?_, ?_, ?_⟩
  · rw [posts, board]
    refine List.forall_mem_append.mpr ⟨fun other member => ?_, List.forall_mem_singleton.mpr ?_⟩
    · rw [Collection.get?_set_of_ne _ _ (unused other member)]
      exact kept.kept other member
    · exact Or.inl (Collection.get?_set_self _ _ _)
  · intro id data found
    rw [posts, Collection.get?_set] at found
    split_ifs at found with here
    · exact ⟨post, by simp, here.symm, Option.some.inj found⟩
    · obtain ⟨other, member, rest⟩ := kept.stored id data found
      exact ⟨other, List.mem_append_left _ member, rest⟩
  · rw [List.map_append, List.nodup_append]
    refine ⟨kept.distinct, List.nodup_singleton _, ?_⟩
    rintro id inPast other isPost rfl
    obtain ⟨earlier, member, same⟩ := List.mem_map.mp inPast
    exact unused earlier member (same.trans (List.mem_singleton.mp isPost))
  · intro entry member
    rw [board] at member
    obtain ⟨other, inPast, same⟩ := kept.read entry member
    exact ⟨other, List.mem_append_left _ inPast, same⟩
  · intro entry member
    rw [returned] at member
    obtain ⟨other, inPast, same⟩ := kept.returned entry member
    exact ⟨other, List.mem_append_left _ inPast, same⟩

/-- A deletion takes away the one post that its author has asked to remove. -/
theorem Kept.delete {postId : String} (kept : Kept form removes past state)
    (wanted : ∃ post ∈ past, post.id = postId ∧ Removed form removes post) :
    Kept form removes past (AppState.erasePost state.1 postId,
      { state.2 with deleted := if (state.1.store.posts.get? postId).isSome then
          postId :: state.2.deleted else state.2.deleted }) where
  kept := by
    obtain ⟨removed, inPast, rfl, byAuthor⟩ := wanted
    intro post member
    by_cases same : post.id = removed.id
    · obtain rfl : post = removed := List.inj_on_of_nodup_map kept.distinct member inPast same
      rcases kept.kept post member with stored | ⟨gone, byOther⟩
      · exact Or.inr ⟨by simp [stored], byAuthor⟩
      · refine Or.inr ⟨?_, byOther⟩
        show post.id ∈ if _ then _ else _
        split_ifs
        · exact List.mem_cons_of_mem _ gone
        · exact gone
    · rcases kept.kept post member with stored | ⟨gone, byOther⟩
      · exact Or.inl ((Collection.get?_erase_of_ne _ same).trans stored)
      · refine Or.inr ⟨?_, byOther⟩
        show post.id ∈ if _ then _ else _
        split_ifs
        · exact List.mem_cons_of_mem _ gone
        · exact gone
  stored id data found := kept.stored id data (Collection.get?_of_get?_erase found)
  signed := kept.signed
  distinct := kept.distinct
  read := kept.read
  returned := kept.returned

/-! ### One step -/

/-- An answer of the app uploads a post, or changes none. -/
theorem shared_cases {task : App.Task} {answer : Answer} {after : AppState} {new : List App.Task}
    (resumed : App.resume form state.1 task answer = some (after, new)) :
    (shared state (.inl task) answer = [] ∧ after.store.posts = state.1.store.posts) ∨
      ∃ session id data, task = .upload session (.setData id data) ∧
        shared state (.inl task) answer = [⟨session.user, id, data⟩] ∧
        state.1.store.posts.get? id = none ∧
        after.store.posts = state.1.store.posts.set id data ∧
        after.returned = state.1.returned := by
  by_cases upload : ∃ session id data, task = .upload session (.setData id data)
  · obtain ⟨session, id, data, rfl⟩ := upload
    obtain ⟨outcome, ran, left⟩ := Option.map_eq_some_iff.mp resumed
    obtain ⟨rfl, rfl⟩ := Prod.mk.inj left
    cases Upload.resumed_of_resume ran with
    | unsaved => exact Or.inl ⟨rfl, rfl⟩
    | saved free => exact Or.inr ⟨session, id, data, rfl, rfl, free, rfl, rfl⟩
  · obtain ⟨reports, effect, _⟩ := resume_effect resumed
    refine Or.inl ⟨?_, ?_⟩
    · unfold shared
      split
      · next isUpload => exact absurd ⟨_, _, _, Sum.inl.inj isUpload⟩ upload
      · rfl
    · rcases posts_of_effect effect with same | ⟨session, id, fields, isUpload, _⟩
      · exact same
      · exact absurd ⟨session, id, fields, isUpload⟩ upload

/-- The requests of the app that are issued write posts that are signed. -/
theorem pending_of_effect {data data' : Data} {task : App.Task} {answer : Answer}
    {new : List App.Task} {reports : List (Uid × String)}
    (effect : Effect form data task answer data' new reports) :
    ∀ other ∈ new, Pending form removes past (.inl other) := by
  cases effect with
  | userRead _ _ issued | arrayMade _ _ _ issued =>
      exact forall_mem_append issued (fun _ _ _ => trivial) fun _ _ _ => trivial
  | userListened _ => exact forall_mem_listeners trivial fun _ _ => trivial
  | @uploading _ _ request _ _ _ goesOn =>
      rw [List.forall_mem_singleton]
      cases request <;> first | exact trivial | simp [Upload.carried?] at goesOn
  | postDescribed => exact List.forall_mem_singleton.mpr ⟨rfl, rfl⟩
  | _ => simp [Pending]

theorem pending_of_asked {data : Data} {event : App.Event} {new : List App.Task}
    (asked : Asked form data event new) :
    ∀ other ∈ new, Pending form removes past (.inl other) := by
  cases asked <;> simp [Pending]

/-- An event of the screens changes no post, and deletes only what its session has read as
its own. -/
theorem kept_of_acted {event : Event} {new : List Task} (kept : Kept form removes past state)
    (allowed : AsksToRemove removes (.inr event)) (acted : Acted form state event next new) :
    Kept form removes past next ∧ ∀ task ∈ new, Pending form removes past (.inr task) := by
  cases acted with
  | @postRead session postId data found =>
      refine ⟨kept.of_posts rfl rfl (fun entry member => ?_) fun _ before => Or.inl before,
        by simp⟩
      rcases List.mem_append.mp member with before | new
      · exact Or.inl before
      · rw [List.mem_singleton.mp new]
        exact Or.inr ⟨postId, found⟩
  | commentsOpened _ =>
      exact ⟨kept.of_posts rfl rfl (fun _ => Or.inl) fun _ => Or.inl, by simp⟩
  | typed isScreen acted =>
      exact ⟨kept.of_posts rfl rfl (fun _ => Or.inl) fun _ => Or.inl, by simp [Pending]⟩
  | deleting hasOwn =>
      refine ⟨kept, List.forall_mem_singleton.mpr ?_⟩
      obtain ⟨entry, member, rfl, uid, userId, isUser, same⟩ := hasOwn
      obtain ⟨post, inPast, isData⟩ := kept.read entry member
      obtain ⟨keyed, byAuthor⟩ := kept.signed post inPast
      rw [isData] at keyed byAuthor
      obtain rfl := Option.some.inj (keyed.symm.trans uid)
      obtain rfl := Option.some.inj (byAuthor.symm.trans isUser)
      exact ⟨post, inPast, rfl, _, allowed, same⟩

/-- An answer of the screens changes no post, or deletes the one it was asked to. -/
theorem kept_of_answered {task : Task} (kept : Kept form removes past state)
    (pending : Pending form removes past (.inr task)) (answered : Answered state task next) :
    Kept form removes past next := by
  cases answered with
  | failed => exact kept
  | commented => exact kept.of_posts rfl rfl (fun _ => Or.inl) fun _ => Or.inl
  | deleted => exact kept.delete pending

end Steps

/-! ### Whole runs -/

/-- Posts are kept as long as new ones get new ids. -/
theorem keeping (form : CanonicalForm) (removes : Session → String → Prop) :
    Records (whole form) shared (onState (fun _ => AsksToRemove removes) FreshId)
      (Kept form removes) (Pending form removes) where
  handled := by
    intro past config event state new kept allowed handled
    rcases whole_handled handled with
      ⟨own, tasks, rfl, acted, board, rfl⟩ | ⟨own, tasks, rfl, acted, rfl⟩
    · obtain ⟨asked, same, _⟩ := handle_asked acted
      have store := congrArg (fun data : Data => data.store.posts) same
      have returned := congrArg (fun data : Data => data.returned) same
      exact ⟨kept.of_posts store (by rw [board]) (by rw [board]; exact fun _ => Or.inl)
        (by rw [returned]; exact fun _ => Or.inl), List.forall_mem_map.mpr (pending_of_asked asked)⟩
    · obtain ⟨after, issued⟩ := kept_of_acted kept allowed acted
      exact ⟨after, List.forall_mem_map.mpr issued⟩
  resumed := by
    intro past config ticket answer task state new kept pending allowed found resumed
    rcases whole_resumed resumed with
      ⟨own, tasks, rfl, acted, board, rfl⟩ | ⟨own, rfl, answered, rfl⟩
    · obtain ⟨reports, effect, _⟩ := resume_effect acted
      refine ⟨?_, List.forall_mem_map.mpr (pending_of_effect effect)⟩
      rcases shared_cases acted with
        ⟨nothing, posts⟩ | ⟨session, id, data, rfl, uploaded, free, posts, returned⟩
      · rw [nothing, List.append_nil]
        exact kept.of_posts posts (by rw [board]) (by rw [board]; exact fun _ => Or.inl)
          (returned_stored effect)
      · rw [uploaded]
        exact kept.upload free (allowed _ found) pending posts returned board
    · rw [show shared config.state (.inr own) answer = [] by cases own <;> rfl, List.append_nil]
      exact ⟨kept_of_answered kept pending answered, by simp⟩
  lasting later pending := pending.append later

/-- Along the labels, the session taps the delete button of the post. -/
def DeleteTapped (labels : List (Label (App.Event ⊕ Event) Answer)) (session : Session)
    (postId : String) : Prop :=
  .event (.inr (.deletePostButtonTapped session postId)) ∈ labels

/-- Nothing that was shared is lost. In every run of the app with its comment and detail
screens, in any order of their steps, in which no new post gets the id of a deleted one, each
post whose upload was acknowledged is in the store as it was uploaded, or its delete button
was tapped with the id of its author signed in; nothing else is in the store, and each post
that a timeline was given, or that was opened, is one of those uploads, unaltered. -/
theorem posts_kept_of_run {form : CanonicalForm}
    {labels : List (Label (App.Event ⊕ Event) Answer)} {last : Config State (App.Task ⊕ Task)}
    (obeys : (whole form).Obeys (onState (fun _ _ => True) FreshId) (Program.start State.empty)
      labels)
    (ran : (whole form).run (Program.start State.empty) labels = some last) :
    Kept form (DeleteTapped labels)
      ((whole form).history (onAnswer shared) (Program.start State.empty) labels) last.state := by
  have start : Kept form (DeleteTapped labels) [] State.empty := by
    refine ⟨by simp, fun id data found => ?_, by simp, List.nodup_nil, ?_, ?_⟩
    · simp [State.empty, AppState.empty, Store.empty] at found
    · simp [State.empty, Board.empty]
    · simp [State.empty, AppState.empty]
  refine ((keeping form (DeleteTapped labels)).run start (Program.obeys_of_answers ?_ obeys) ran).1
  intro event member
  unfold AsksToRemove
  split
  · exact member
  · trivial

/-- The author uploads a post, comments on it, and deletes it. -/
theorem posts_kept_of_deletion : ∃ last,
    (whole .scalars).run (Program.start State.empty) deletedAfterwards = some last ∧
      Kept .scalars (DeleteTapped deletedAfterwards)
        ((whole .scalars).history (onAnswer shared) (Program.start State.empty) deletedAfterwards)
        last.state := by
  obtain ⟨last, ran, _⟩ : ∃ last, (whole CanonicalForm.scalars).run
      (Program.start State.empty) deletedAfterwards = some last ∧ OneOrphan last :=
    Program.exists_run (by decide)
  exact ⟨last, ran, posts_kept_of_run (by decide) ran⟩

/-! ## Comments -/

/-- The step sends a comment under the id: the session taps the button while it is enabled,
or presses the return key, and what is written is what its screen shows. -/
def Sends (config : Config State (App.Task ⊕ Task))
    (label : Label (App.Event ⊕ Event) Answer) (ref : String) (data : Fields) : Prop :=
  ∃ session screen timestamp, config.state.2.screens session = some screen ∧
    (label = .event (.inr (.comment session (.sendButton_TouchUpInside ref timestamp))) ∧
        screen.isEnabled = true ∨
      label = .event (.inr (.comment session (.textFieldShouldReturn ref timestamp)))) ∧
    data = commentData screen.text timestamp session.user screen.postId

/-- The comment is in the store, or about to be written. -/
def OnItsWay (ref : String) (data : Fields) (config : Config State (App.Task ⊕ Task)) : Prop :=
  config.state.2.comments.get? ref = some data ∨
    .inr (.comment (.setData ref data)) ∈ config.pool.tasks

section Comments

variable {form : CanonicalForm} {config next last : Config State (App.Task ⊕ Task)}
  {label : Label (App.Event ⊕ Event) Answer} {ref : String} {data : Fields}
  {labels : List (Label (App.Event ⊕ Event) Answer)}

theorem onItsWay_of_issued {waiting new : List (App.Task ⊕ Task)}
    (comments : next.state.2.comments = config.state.2.comments)
    (tasks : next.pool.tasks = waiting ++ new) (old : waiting ⊆ config.pool.tasks)
    (onItsWay : OnItsWay ref data next) :
    OnItsWay ref data config ∨ .inr (.comment (.setData ref data)) ∈ new := by
  rw [OnItsWay, comments, tasks, List.mem_append] at onItsWay
  rcases onItsWay with stored | before | issued
  · exact Or.inl (Or.inl stored)
  · exact Or.inl (Or.inr (old before))
  · exact Or.inr issued

theorem comments_of_acted {state after : State} {event : Event} {new : List Task}
    (acted : Acted form state event after new) : after.2.comments = state.2.comments := by
  cases acted <;> rfl

/-- An event of the screens issues a comment only when it sends it. -/
theorem sends_of_acted {after : State} {event : Event} {new : List Task}
    (acted : Acted form config.state event after new)
    (issued : .comment (.setData ref data) ∈ new) :
    Sends config (.event (.inr event)) ref data := by
  cases acted with
  | postRead | commentsOpened | deleting => simp at issued
  | @typed session own screen shown tasks isScreen handled =>
      obtain ⟨request, member, same⟩ := List.mem_map.mp issued
      obtain rfl := Task.comment.inj same
      rcases Comments.handle_cases handled with
        ⟨text, _, _, rfl⟩ | ⟨other, timestamp, _, rfl, tapped⟩
      · simp at member
      · obtain ⟨rfl, rfl⟩ := Comments.Task.setData.inj (List.mem_singleton.mp member)
        refine ⟨session, screen, timestamp, isScreen, ?_, rfl⟩
        rcases tapped with ⟨rfl, enabled⟩ | rfl
        · exact Or.inl ⟨rfl, enabled⟩
        · exact Or.inr rfl

/-- A comment sets out when it is sent. -/
theorem sends_of_onItsWay (taken : (whole form).step config label = some next)
    (onItsWay : OnItsWay ref data next) :
    OnItsWay ref data config ∨ Sends config label ref data := by
  rcases Program.step_cases taken with
    ⟨event, new, rfl, handled, tasks⟩ | ⟨ticket, answer, task, new, rfl, found, resumed, tasks⟩
  · rcases whole_handled handled with
      ⟨own, asked, rfl, acted, board, rfl⟩ | ⟨own, asked, rfl, acted, rfl⟩
    · refine (onItsWay_of_issued (by rw [board]) tasks (List.Subset.refl _) onItsWay).imp_right ?_
      simp
    · refine (onItsWay_of_issued (comments_of_acted acted) tasks (List.Subset.refl _)
        onItsWay).imp_right fun issued => sends_of_acted acted ?_
      simpa using issued
  · have old : (config.pool.remove ticket).tasks ⊆ config.pool.tasks :=
      fun other => Pool.mem_tasks_of_mem_remove
    left
    rcases whole_resumed resumed with
      ⟨own, asked, rfl, acted, board, rfl⟩ | ⟨own, rfl, answered, rfl⟩
    · exact (onItsWay_of_issued (by rw [board]) tasks old onItsWay).resolve_right (by simp)
    · by_cases comments : next.state.2.comments = config.state.2.comments
      · exact (onItsWay_of_issued comments tasks old onItsWay).resolve_right (by simp)
      · generalize reached : next.state = state at answered comments
        cases answered with
        | failed | deleted => exact absurd rfl comments
        | @commented written fields =>
            rcases onItsWay with stored | waiting
            · rw [reached, Collection.get?_set] at stored
              split_ifs at stored with here
              · rw [here, ← Option.some.inj stored]
                exact Or.inr (Pool.mem_tasks_of_find? found)
              · exact Or.inl stored
            · rw [tasks, List.append_nil] at waiting
              exact Or.inr (old waiting)

/-- No answer of the screens writes over a comment. -/
theorem comment_kept_of_resume {state after : State} {task : Task} {answer : Answer}
    {new : List Task} (resumed : resume state task answer = some (after, new))
    (stored : state.2.comments.get? ref = some data) : after.2.comments.get? ref = some data := by
  by_cases written : ∃ other fields, task = .comment (.setData other fields) ∧ answer = .succeeded
  · obtain ⟨other, fields, rfl, rfl⟩ := written
    simp only [resume] at resumed
    split at resumed
    · simp at resumed
    · next free =>
        obtain ⟨rfl, rfl⟩ := Prod.mk.inj (Option.some.inj resumed)
        have different : ref ≠ other := by
          rintro rfl
          simp [free] at stored
        exact (Collection.get?_set_of_ne _ _ different).trans stored
  · unfold resume at resumed
    split at resumed
    · obtain ⟨rfl, rfl⟩ := Prod.mk.inj (Option.some.inj resumed)
      exact stored
    · exact absurd ⟨_, _, rfl, rfl⟩ written
    · obtain ⟨rfl, rfl⟩ := Prod.mk.inj (Option.some.inj resumed)
      exact stored
    · obtain ⟨rfl, rfl⟩ := Prod.mk.inj (Option.some.inj resumed)
      exact stored
    · simp at resumed

/-- No step takes a comment away. -/
theorem comment_kept (taken : (whole form).step config label = some next)
    (stored : config.state.2.comments.get? ref = some data) :
    next.state.2.comments.get? ref = some data := by
  rcases Program.step_cases taken with
    ⟨event, new, rfl, handled, _⟩ | ⟨ticket, answer, task, new, rfl, _, resumed, _⟩
  · rcases whole_handled handled with ⟨_, _, _, _, board, _⟩ | ⟨own, asked, rfl, acted, rfl⟩
    · rwa [board]
    · rwa [comments_of_acted acted]
  · rcases Program.resume_beside resumed with
      ⟨own, tasks, rfl, acted, rfl⟩ | ⟨own, tasks, rfl, acted, rfl⟩
    · obtain ⟨_, board⟩ := Program.resume_within acted
      rwa [board]
    · exact comment_kept_of_resume acted stored

/-- Comments are genuine and permanent. In every run of the app with its comment and detail
screens, in any order of their steps, each stored comment was sent by a session of the user
that signs it, with the text that the session's field showed at that moment and on the post
whose comments it had open; and whatever comment is in the store at some point of the run is
there at its end, unaltered. -/
theorem comments_genuine_of_run
    (ran : (whole form).run (Program.start State.empty) labels = some last) :
    (∀ ref data, last.state.2.comments.get? ref = some data → ∃ config label,
        (whole form).Passes (Program.start State.empty) labels config label ∧
          Sends config label ref data) ∧
      ∀ config label, (whole form).Passes (Program.start State.empty) labels config label →
        ∀ ref data, config.state.2.comments.get? ref = some data →
          last.state.2.comments.get? ref = some data := by
  constructor
  · intro ref data stored
    refine Program.passes_origin sends_of_onItsWay ?_ ran (Or.inl stored : OnItsWay ref data last)
    rintro (early | early)
    · simp [Program.start, State.empty, Board.empty] at early
    · simp [Program.start] at early
  · intro config label passes ref data stored
    exact passes.kept (fun config => config.state.2.comments.get? ref = some data) comment_kept
      ran stored

end Comments

/-- The author comments on the post after it has been deleted on another device. -/
theorem comments_genuine_of_late_comment : ∃ last data,
    (whole .scalars).run (Program.start State.empty) deletedBefore = some last ∧
      last.state.2.comments.get? "first" = some data ∧
      ∃ config label,
        (whole .scalars).Passes (Program.start State.empty) deletedBefore config label ∧
          Sends config label "first" data := by
  obtain ⟨last, ran, commented, _⟩ : ∃ last, (whole CanonicalForm.scalars).run
      (Program.start State.empty) deletedBefore = some last ∧ OneOrphan last :=
    Program.exists_run (by decide)
  obtain ⟨data, stored, _⟩ := Option.bind_eq_some_iff.mp commented
  exact ⟨last, data, ran, stored, (comments_genuine_of_run ran).1 "first" data stored⟩

end Familog.App.Discussion
