import Familog.App.Home
import Familog.Async.History
import Familog.Membership.Consent

/-!
Contract: what the timelines and the lists of comments show.

Owns the theorems that in every run of the app with all its screens that load posts and
comments no timeline and no list of comments traps, that each row of a timeline is a post
that was in the store, of an author and in a family that both the author and the reader have
asked for, and each row of a list a comment that was in the store, about its post; beside
each row stands the profile of its author.

Does not own whether all of them are shown, in which order, or how often.
-/

set_option autoImplicit false

namespace Familog.App.Home

open Async Firestore Swift MainPage

open Consent (AppSound AsksWhole Entitled)

section Definitions

variable (chosen : Uid → String → Prop) (posted commented : Fields → Prop)

/-- The row is one of the posts, in a family that its author and its reader have asked for. -/
def GenuinePost (reader : Uid) (row : Post) : Prop :=
  ∃ (data : Fields) (author : Uid) (familyId : String), posted data ∧
    row = transformPostPhoto data ∧ data.string? "userId" = some author.value ∧
    data.string? "familyId" = some familyId ∧ Entitled chosen author familyId ∧
    Entitled chosen reader familyId

/-- The comment is signed by a user. -/
def Signed (data : Fields) : Prop := ∃ author : Uid, data.string? "uid" = some author.value

/-- The row is one of the comments, about the post. -/
def GenuineComment (postId : String) (row : Comment) : Prop :=
  ∃ data : Fields, commented data ∧ row = transformComment data ∧ Signed data ∧
    data.string? "postId" = some postId

/-- The comments are signed, and the timelines and the lists show what is genuine. -/
structure BoardSound (board : Board) : Prop where
  comments : ∀ ref data, board.discussion.comments.get? ref = some data → Signed data
  timelines : ∀ copy ∈ board.timelines, Feed.Shows Feed.TimelineViewController
    (Entitled chosen copy.profile.user) (GenuinePost chosen posted copy.profile.user) copy.config
  commentLists : ∀ copy ∈ board.commentLists, Feed.Shows
    (Feed.CommentViewController copy.profile.2) (· = copy.profile.2)
    (GenuineComment commented copy.profile.2) copy.config

/-- What is stored now is among the posts and the comments. -/
structure Recorded (state : State) : Prop where
  posts : ∀ id data, state.1.1.store.posts.get? id = some data → posted data
  comments : ∀ ref data, state.2.discussion.comments.get? ref = some data → commented data

end Definitions

/-- A comment that is about to be written is signed. -/
def Need : Discussion.Task → Prop
  | .comment (.setData _ data) => Signed data
  | .deletePost _ => True

section Reads

variable {chosen : Uid → String → Prop} {posted commented : Fields → Prop}

theorem userNamed_eq_some {store : Store} {uid : String} {data : Fields}
    (named : userNamed store uid = some data) :
    ∃ user : Uid, user.value = uid ∧ store.users.get? user = some data := by
  obtain ⟨⟨user, stored⟩, isFirst, rfl⟩ := Option.map_eq_some_iff.mp named
  have isUser := List.find?_some isFirst
  exact ⟨user, by simpa using isUser,
    Collection.mem_documents.mp (List.mem_of_find?_eq_some isFirst)⟩

/-- The documents of a query are stored, and match it. -/
theorem stored_of_found {Row : Type} {controller : Feed.Controller Row} {docs : Collection String}
    {key : String} {ids : List String} (perm : ids.Perm (found controller docs key)) :
    ∀ data ∈ ids.filterMap docs.get?, (∃ id, docs.get? id = some data) ∧
      data.string? controller.field = some key := by
  intro data member
  obtain ⟨id, listed, stored⟩ := List.mem_filterMap.mp member
  obtain ⟨⟨other, fields⟩, matched, rfl⟩ := List.mem_map.mp (perm.mem_iff.mp listed)
  obtain ⟨inDocs, matches'⟩ := List.mem_filter.mp matched
  obtain rfl := Option.some.inj ((Collection.mem_documents.mp inDocs).symm.trans stored)
  exact ⟨⟨other, stored⟩, (of_decide_eq_true matches').1⟩

/-- A look-up returns the user it is for. -/
theorem supplies_user {state : Screens.State} (sound : AppSound chosen state) {uid : String}
    {data : Fields} (named : userNamed state.1.store uid = some data) :
    Users.Schema data ∧ data.string? "uid" = some uid := by
  obtain ⟨user, rfl, stored⟩ := userNamed_eq_some named
  exact ⟨(sound.2 user data stored).schema, (sound.1.users user data stored).uid⟩

/-- What the store returns to a feed is in order if its query is, and what it finds. -/
theorem supplies_of_read {Row : Type} {controller : Feed.Controller Row} {mayAsk : String → Prop}
    {genuine : Row → Prop} {state : Screens.State} (sound : AppSound chosen state)
    {docs : Collection String} {session : Session}
    (keyed : ∀ data user, state.1.store.users.get? session.user = some data →
      transformUser data = some user → Users.Decoded user →
      ∃ key ∈ controller.key? user, mayAsk key)
    (queried : ∀ key id data, mayAsk key → docs.get? id = some data →
      data.string? controller.field = some key →
      genuine (controller.transform data) ∧
        ∃ author : Uid, controller.author? (controller.transform data) = some author.value)
    {task : Feed.Task Row} {reply : Reply} {answer : Feed.Answer}
    (isAnswer : read controller state.1.store docs session task reply = some answer) :
    Feed.Supplies controller mayAsk genuine task answer := by
  unfold read at isAnswer
  split at isAnswer
  · obtain rfl := Option.some.inj isAnswer
    cases task <;> trivial
  · obtain rfl := Option.some.inj isAnswer
    cases stored : state.1.store.users.get? session.user with
    | none => trivial
    | some data =>
        have schema := (sound.2 session.user data stored).schema
        obtain ⟨other, isOther, complete⟩ := schema.decoded
        refine ⟨schema, fun user decoded => ?_⟩
        obtain rfl := Option.some.inj (decoded.symm.trans isOther)
        exact keyed data user stored decoded complete
  · split_ifs at isAnswer with perm
    obtain rfl := Option.some.inj isAnswer
    intro may data member
    obtain ⟨⟨id, stored⟩, matched⟩ := stored_of_found perm data member
    obtain ⟨isGenuine, author, isAuthor⟩ := queried _ id data may stored matched
    obtain ⟨key, named, _⟩ := author.document?_value
    exact ⟨isGenuine, author.value, isAuthor, by simp [named]⟩
  · obtain rfl := Option.some.inj isAnswer
    next uid row fired =>
      cases named : userNamed state.1.store uid with
      | none => trivial
      | some data => exact supplies_user sound named
  · simp at isAnswer

/-- What the store returns to a timeline is in order. -/
theorem timeline_supplies {state : Screens.State} (sound : AppSound chosen state)
    (posts : ∀ id data, state.1.store.posts.get? id = some data → posted data) {session : Session}
    {task : Feed.Task Post} {reply : Reply} {answer : Feed.Answer}
    (isAnswer : read Feed.TimelineViewController state.1.store state.1.store.posts session task
      reply = some answer) :
    Feed.Supplies Feed.TimelineViewController (Entitled chosen session.user)
      (GenuinePost chosen posted session.user) task answer := by
  refine supplies_of_read sound ?_ ?_ isAnswer
  · intro data user stored decoded complete
    obtain ⟨familyId, field⟩ := Option.isSome_iff_exists.mp complete.familyId
    obtain ⟨dob, _, rfl⟩ := Option.map_eq_some_iff.mp decoded
    exact ⟨familyId, field, (sound.1.users session.user data stored).familyId familyId field⟩
  · intro key id data may stored matched
    obtain ⟨author, familyId, userId, field, authors⟩ := sound.1.posts id data stored
    obtain rfl := Option.some.inj (field.symm.trans matched)
    exact ⟨⟨data, author, familyId, posts id data stored, rfl, userId, field, authors, may⟩,
      author, userId⟩

/-- What the store returns to a list of comments is in order. -/
theorem comments_supply {state : Screens.State} (sound : AppSound chosen state)
    {comments : Collection String}
    (signed : ∀ ref data, comments.get? ref = some data → Signed data)
    (recorded : ∀ ref data, comments.get? ref = some data → commented data) {session : Session}
    {postId : String} {task : Feed.Task Comment} {reply : Reply} {answer : Feed.Answer}
    (isAnswer : read (Feed.CommentViewController postId) state.1.store comments session task
      reply = some answer) :
    Feed.Supplies (Feed.CommentViewController postId) (· = postId)
      (GenuineComment commented postId) task answer := by
  refine supplies_of_read sound ?_ ?_ isAnswer
  · exact fun _ _ _ _ _ => ⟨postId, rfl, rfl⟩
  · rintro key ref data rfl stored matched
    obtain ⟨author, uid⟩ := signed ref data stored
    exact ⟨⟨data, recorded ref data stored, rfl, ⟨author, uid⟩, matched⟩,
      author, uid⟩

end Reads

/-! ## What the screens keep -/

/-- Everything that has to hold between two callbacks. -/
def Sound (chosen : Uid → String → Prop) (posted commented : Fields → Prop) (state : State) :
    Prop :=
  AppSound chosen state.1 ∧ BoardSound chosen posted commented state.2

section Steps

variable {chosen : Uid → String → Prop} {posted commented : Fields → Prop} {form : CanonicalForm}
  {state next : State} {new : List Discussion.Task}

/-- An event of the comment and detail screens writes nothing itself, and what it issues is
signed. -/
theorem signed_of_acted {before after : Discussion.State} {event : Discussion.Event}
    (acted : Discussion.Acted form before event after new) :
    after.1 = before.1 ∧ after.2.comments = before.2.comments ∧ ∀ task ∈ new, Need task := by
  cases acted with
  | postRead | commentsOpened => exact ⟨rfl, rfl, by simp⟩
  | deleting => exact ⟨rfl, rfl, by simp [Need]⟩
  | @typed session own screen shown tasks isScreen handled =>
      refine ⟨rfl, rfl, List.forall_mem_map.mpr fun task issued => ?_⟩
      rcases Comments.handle_cases handled with
        ⟨text, _, _, rfl⟩ | ⟨ref, timestamp, _, rfl, _⟩
      · simp at issued
      · obtain rfl := List.mem_singleton.mp issued
        exact ⟨session.user, rfl⟩

/-- Other comments, as long as they are signed. -/
theorem BoardSound.setDiscussion {board : Board} (sound : BoardSound chosen posted commented board)
    {discussion : Discussion.Board}
    (signed : ∀ ref data, discussion.comments.get? ref = some data → Signed data) :
    BoardSound chosen posted commented { board with discussion := discussion } :=
  ⟨signed, sound.timelines, sound.commentLists⟩

/-- Every event of the screens keeps what holds between callbacks. -/
theorem Sound.handled (sound : Sound chosen posted commented state)
    (recorded : Recorded posted commented state) {event : Event}
    (handled : handle form state event = some (next, new)) :
    Sound chosen posted commented next ∧ ∀ task ∈ new, Need task := by
  cases event with
  | discussion event =>
      obtain ⟨⟨after, tasks⟩, acted, same⟩ := Option.map_eq_some_iff.mp handled
      obtain ⟨rfl, rfl⟩ := Prod.mk.inj same
      obtain ⟨app, comments, needs⟩ := signed_of_acted (Discussion.handle_acted acted)
      refine ⟨⟨?_, sound.2.setDiscussion ?_⟩, needs⟩
      · show AppSound chosen (after.1, state.1.2)
        rw [app]
        exact sound.1
      · rw [comments]
        exact sound.2.comments
  | goToCommentVC session postId =>
      simp only [handle] at handled
      split_ifs at handled
      obtain ⟨rfl, rfl⟩ := Prod.mk.inj (Option.some.inj handled)
      exact ⟨⟨sound.1, sound.2.setDiscussion sound.2.comments⟩, by simp⟩
  | timelineViewDidLoad session =>
      simp only [handle] at handled
      split_ifs at handled
      obtain ⟨rfl, rfl⟩ := Prod.mk.inj (Option.some.inj handled)
      refine ⟨⟨sound.1, sound.2.comments, List.forall_mem_append.mpr
        ⟨sound.2.timelines, ?_⟩, sound.2.commentLists⟩, by simp⟩
      exact List.forall_mem_singleton.mpr Feed.shows_empty
  | timeline index label =>
      obtain ⟨timelines, acted, same⟩ := Option.map_eq_some_iff.mp handled
      obtain ⟨rfl, rfl⟩ := Prod.mk.inj same
      refine ⟨⟨sound.1, sound.2.comments, ?_, sound.2.commentLists⟩, by simp⟩
      exact Copy.forall_act sound.2.timelines acted fun shows taken =>
        shows.step (fun _ _ _ => timeline_supplies sound.1 recorded.posts) taken
  | commentsViewDidLoad session postId =>
      simp only [handle] at handled
      split_ifs at handled
      obtain ⟨rfl, rfl⟩ := Prod.mk.inj (Option.some.inj handled)
      refine ⟨⟨sound.1, sound.2.comments, sound.2.timelines,
        List.forall_mem_append.mpr ⟨sound.2.commentLists, ?_⟩⟩, by simp⟩
      exact List.forall_mem_singleton.mpr Feed.shows_empty
  | comments index label =>
      obtain ⟨commentLists, acted, same⟩ := Option.map_eq_some_iff.mp handled
      obtain ⟨rfl, rfl⟩ := Prod.mk.inj same
      refine ⟨⟨sound.1, sound.2.comments, sound.2.timelines, ?_⟩, by simp⟩
      exact Copy.forall_act sound.2.commentLists acted fun shows taken =>
        shows.step (fun _ _ _ => comments_supply sound.1 sound.2.comments
          recorded.comments) taken

/-- Every answer to the screens does. -/
theorem Sound.resumed (sound : Sound chosen posted commented state) {task : Discussion.Task}
    (need : Need task) {answer : Answer}
    (resumed : resume state task answer = some (next, new)) :
    Sound chosen posted commented next ∧ ∀ other ∈ new, Need other := by
  obtain ⟨after, answered, rfl, rfl⟩ := resume_cases resumed
  refine ⟨?_, by simp⟩
  cases answered with
  | failed => exact sound
  | @commented ref data =>
      refine ⟨sound.1, sound.2.setDiscussion fun other fields stored => ?_⟩
      rw [Collection.get?_set] at stored
      split_ifs at stored
      · exact Option.some.inj stored ▸ need
      · exact sound.2.comments other fields stored
  | @deleted postId =>
      refine ⟨⟨?_, sound.1.2⟩, sound.2.setDiscussion sound.2.comments⟩
      have respects := sound.1.1
      exact ⟨respects.users, respects.families, respects.channels, fun id post stored =>
        respects.posts id post (Collection.get?_of_get?_erase stored), respects.rows,
        respects.returned⟩

/-- The screens keep it. -/
theorem program_relies (chosen : Uid → String → Prop) (posted commented : Fields → Prop)
    (form : CanonicalForm) :
    Async.Relies (program form) (fun state _ => Recorded posted commented state)
      (fun _ _ _ => True) (Sound chosen posted commented) (fun _ => Need) fun _ _ => True where
  handled sound recorded handled :=
    have after := sound.handled recorded handled
    ⟨after.1, after.2, trivial⟩
  resumed sound need _ resumed :=
    have after := sound.resumed need resumed
    ⟨after.1, after.2, trivial⟩
  stable _ need := need

end Steps

/-! ## Whole runs -/

/-- The event of the app asks only for what has been chosen, and what is stored is recorded. -/
def Allowed (chosen : Uid → String → Prop) (posted commented : Fields → Prop) (state : State) :
    (App.Event ⊕ Screens.Event) ⊕ Event → Prop :=
  Sum.elim (AsksWhole chosen) fun _ => Recorded posted commented state

/-- The app and its further screens keep it as well. -/
theorem app_relies (chosen : Uid → String → Prop) (posted commented : Fields → Prop)
    (form : CanonicalForm) (count : String → ℕ) (localizedDescription : String) :
    Async.Relies ((Screens.whole count localizedDescription form).within Board)
      (fun _ => AsksWhole chosen) (fun _ _ _ => True) (Sound chosen posted commented)
      (fun _ => Consent.NeedOfWhole chosen)
      (fun state next => Consent.Grows state.1.1.toData next.1.1.toData ∧ next.2 = state.2) :=
  (Consent.sound_relies chosen form count localizedDescription).within.frame
    fun {_ next} _ sound moved =>
      show BoardSound chosen posted commented next.2 from moved.2 ▸ sound

/-- So do all programs together. -/
theorem whole_relies (chosen : Uid → String → Prop) (posted commented : Fields → Prop)
    (form : CanonicalForm) (count : String → ℕ) (localizedDescription : String) :
    Async.Relies (whole count localizedDescription form) (Allowed chosen posted commented)
      (fun _ _ _ => True) (Sound chosen posted commented)
      (fun _ => Sum.elim (Consent.NeedOfWhole chosen) Need) fun _ _ => True := by
  have together := (app_relies chosen posted commented form count localizedDescription).beside
    (program_relies chosen posted commented form) (fun _ need => need) fun _ need => need
  refine (together.assuming ?_ ?_).moving (fun _ => trivial) fun _ need => need
  · rintro state (event | event) allowed <;> exact allowed
  · rintro state (task | task) answer _ <;> trivial

theorem sound_empty (chosen : Uid → String → Prop) (posted commented : Fields → Prop) :
    Sound chosen posted commented State.empty :=
  ⟨Consent.appSound_empty chosen, by simp [State.empty, Discussion.Board.empty],
    by simp [State.empty], by simp [State.empty]⟩

section Runs

variable (count : String → ℕ) (localizedDescription : String) (form : CanonicalForm)
  (labels : List (Label ((App.Event ⊕ Screens.Event) ⊕ Event) Answer))

/-- Along the labels, the user asks for a family by this id. -/
def Tapped (uid : Uid) (familyId : String) : Prop :=
  ∃ event, .event (.inl (.inl event)) ∈ labels ∧ Consent.asked? event = some (uid, familyId)

/-- At some point of the run the post was in the store. -/
def Posted (data : Fields) : Prop :=
  ∃ config label,
    (whole count localizedDescription form).Passes (Program.start State.empty) labels config label ∧
      ∃ id, config.state.1.1.store.posts.get? id = some data

/-- At some point of the run the comment was in the store. -/
def Commented (data : Fields) : Prop :=
  ∃ config label,
    (whole count localizedDescription form).Passes (Program.start State.empty) labels config label ∧
      ∃ ref, config.state.2.discussion.comments.get? ref = some data

variable {count : String → ℕ} {localizedDescription : String} {form : CanonicalForm}
  {labels : List (Label ((App.Event ⊕ Screens.Event) ⊕ Event) Answer)}
  {last : Config State ((App.Task ⊕ Screens.Task) ⊕ Discussion.Task)}

/-- Every run keeps what the screens show genuine. -/
theorem sound_of_run
    (ran : (whole count localizedDescription form).run (Program.start State.empty) labels =
      some last) :
    Sound (Tapped labels) (Posted count localizedDescription form labels)
      (Commented count localizedDescription form labels) last.state := by
  refine ((whole_relies _ _ _ form count localizedDescription).run (sound_empty _ _ _)
    (Program.obeys_passes fun {config label} passes => ?_) ran).1
  rcases label with ((event | event) | event) | ⟨ticket, answer⟩
  · exact fun operation asks => ⟨event, passes.mem, asks⟩
  · trivial
  · exact ⟨fun id data stored => ⟨config, _, passes, id, stored⟩,
      fun ref data stored => ⟨config, _, passes, ref, stored⟩⟩
  · exact fun _ _ => trivial

/-- What a timeline shows is genuine. In every run of the app with all these screens, in any
order of their steps and with any failures, no timeline traps, and beside each post that one
shows stands a user that carries the id of its author and lacks no field; the post was in the
store, in a family that both its author and the reader have asked for, or in none. -/
theorem timelines_genuine_of_run
    (ran : (whole count localizedDescription form).run (Program.start State.empty) labels =
      some last) :
    ∀ copy ∈ last.state.2.timelines, copy.config.state.trapped = false ∧
      copy.config.state.users.length = copy.config.state.rows.length ∧
      ∀ (index : ℕ) (user : User) (row : Post), copy.config.state.users[index]? = some user →
        copy.config.state.rows[index]? = some row →
          GenuinePost (Tapped labels) (Posted count localizedDescription form labels)
            copy.profile.user row ∧ Users.Decoded user ∧ user.uid = row.userId := by
  intro copy member
  have shows := (sound_of_run ran).2.timelines copy member
  refine ⟨shows.running, shows.aligned.count, fun index user row userAt rowAt => ?_⟩
  exact ⟨shows.rows row (List.mem_of_getElem? rowAt),
    shows.users user (List.mem_of_getElem? userAt),
    (shows.aligned.author index user row userAt rowAt).1⟩

/-- What a list of comments shows is genuine. In every such run no list of comments traps,
and beside each comment that one shows stands a user that carries the id of the one who has
signed it and lacks no field; the comment was in the store and is about the post of the
list. -/
theorem commentLists_genuine_of_run
    (ran : (whole count localizedDescription form).run (Program.start State.empty) labels =
      some last) :
    ∀ copy ∈ last.state.2.commentLists, copy.config.state.trapped = false ∧
      copy.config.state.users.length = copy.config.state.rows.length ∧
      ∀ (index : ℕ) (user : User) (row : Comment), copy.config.state.users[index]? = some user →
        copy.config.state.rows[index]? = some row →
          GenuineComment (Commented count localizedDescription form labels) copy.profile.2 row ∧
            Users.Decoded user ∧ user.uid = row.uid := by
  intro copy member
  have shows := (sound_of_run ran).2.commentLists copy member
  refine ⟨shows.running, shows.aligned.count, fun index user row userAt rowAt => ?_⟩
  exact ⟨shows.rows row (List.mem_of_getElem? rowAt),
    shows.users user (List.mem_of_getElem? userAt),
    (shows.aligned.author index user row userAt rowAt).1⟩

end Runs

/-! ## A post and a comment on it -/

/-- The author creates a family and shares a post there; another user joins the family. -/
def sharing : List (Label ((App.Event ⊕ Screens.Event) ⊕ Event) Answer) := [
  .event (.inl (.inl (.signUpTapped ⟨"A", "a@example.org", "Passw0rd", "Passw0rd"⟩))),
  .answer 0 (.created userA), .answer 1 .succeeded,
  .event (.inl (.inl (.createTapped ⟨userA, 0⟩ "Home" "abc"))), .answer 2 .succeeded,
  .answer 4 .succeeded, .answer 5 (.listed ["abc"]), .answer 6 .succeeded,
  .event (.inl (.inl (.launch ⟨userA, 0⟩))),
  .event (.inl (.inl (.shareTapped ⟨userA, 0⟩ true "A vase"))), .answer 9 .succeeded,
  .answer 10 .succeeded, .answer 11 .succeeded,
  .answer 12 (.classified ⟨"A vase", "url", 0, "vase", "1.00%"⟩ "post"), .answer 13 .succeeded,
  .event (.inl (.inl (.signUpTapped ⟨"B", "b@example.org", "Passw0rd", "Passw0rd"⟩))),
  .answer 14 (.created userB), .answer 15 .succeeded,
  .event (.inl (.inl (.joinTapped ⟨userB, 0⟩ "abc"))), .answer 16 .succeeded,
  .answer 17 .succeeded, .answer 18 (.listed ["abc"]), .answer 19 .succeeded]

/-- A feed is refreshed and loads one row. -/
def loading (event : Label Feed.Event Reply → Event) (id : String) :
    List (Label ((App.Event ⊕ Screens.Event) ⊕ Event) Answer) := [
  .event (.inr (event (.event .refresh))), .event (.inr (event (.answer 0 .succeeded))),
  .event (.inr (event (.answer 1 (.documents [id])))),
  .event (.inr (event (.answer 2 .succeeded)))]

/-- The other user opens the timeline, and comments on the post. -/
def commenting : List (Label ((App.Event ⊕ Screens.Event) ⊕ Event) Answer) :=
  sharing ++ .event (.inr (.timelineViewDidLoad ⟨userB, 0⟩)) :: loading (.timeline 0) "post" ++ [
    .event (.inr (.discussion (.observePost ⟨userB, 0⟩ "post"))),
    .event (.inr (.discussion (.goToCommentVC ⟨userB, 0⟩ "post"))),
    .event (.inr (.discussion (.comment ⟨userB, 0⟩ (.textFieldDidChange "Nice")))),
    .event (.inr (.discussion (.comment ⟨userB, 0⟩ (.sendButton_TouchUpInside "first" 1)))),
    .answer 20 .succeeded, .event (.inr (.commentsViewDidLoad ⟨userB, 0⟩ "post"))] ++
  loading (.comments 0) "first"

/-- The timeline and the list of comments show one row each. -/
def OneEach (last : Config State ((App.Task ⊕ Screens.Task) ⊕ Discussion.Task)) : Prop :=
  (last.state.2.timelines.map fun copy => copy.config.state.rows.length) = [1] ∧
    (last.state.2.commentLists.map fun copy => copy.config.state.rows.length) = [1]

instance decidableOneEach : DecidablePred OneEach := fun _ => inferInstanceAs (Decidable (_ ∧ _))

/-- The post is shown to the other user, beside its author. -/
theorem timelines_genuine_of_commenting : ∃ last copy row user,
    (whole String.length "The password is invalid." .scalars).run (Program.start State.empty)
        commenting = some last ∧
      last.state.2.timelines = [copy] ∧ copy.config.state.rows = [row] ∧
      copy.config.state.users = [user] ∧ user.uid = row.userId ∧
      GenuinePost (Tapped commenting)
        (Posted String.length "The password is invalid." .scalars commenting)
        copy.profile.user row := by
  obtain ⟨last, ran, one, _⟩ : ∃ last,
      (whole String.length "The password is invalid." .scalars).run (Program.start State.empty)
        commenting = some last ∧ OneEach last := Program.exists_run (by decide)
  obtain ⟨copy, only, isOne⟩ := List.map_eq_singleton_iff.mp one
  obtain ⟨row, shown⟩ := List.length_eq_one_iff.mp isOne
  obtain ⟨_, count, genuine⟩ := timelines_genuine_of_run ran copy (by simp [only])
  rw [shown] at count
  obtain ⟨user, beside⟩ := List.length_eq_one_iff.mp count
  obtain ⟨isGenuine, _, author⟩ := genuine 0 user row (by simp [beside]) (by simp [shown])
  exact ⟨last, copy, row, user, ran, only, shown, beside, author, isGenuine⟩

/-- So is its comment, beside the one who has signed it. -/
theorem commentLists_genuine_of_commenting : ∃ last copy row user,
    (whole String.length "The password is invalid." .scalars).run (Program.start State.empty)
        commenting = some last ∧
      last.state.2.commentLists = [copy] ∧ copy.config.state.rows = [row] ∧
      copy.config.state.users = [user] ∧ user.uid = row.uid ∧
      GenuineComment (Commented String.length "The password is invalid." .scalars commenting)
        copy.profile.2 row := by
  obtain ⟨last, ran, _, one⟩ : ∃ last,
      (whole String.length "The password is invalid." .scalars).run (Program.start State.empty)
        commenting = some last ∧ OneEach last := Program.exists_run (by decide)
  obtain ⟨copy, only, isOne⟩ := List.map_eq_singleton_iff.mp one
  obtain ⟨row, shown⟩ := List.length_eq_one_iff.mp isOne
  obtain ⟨_, count, genuine⟩ := commentLists_genuine_of_run ran copy (by simp [only])
  rw [shown] at count
  obtain ⟨user, beside⟩ := List.length_eq_one_iff.mp count
  obtain ⟨isGenuine, _, author⟩ := genuine 0 user row (by simp [beside]) (by simp [shown])
  exact ⟨last, copy, row, user, ran, only, shown, beside, author, isGenuine⟩

end Familog.App.Home
