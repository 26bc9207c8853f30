import Familog.Async.Hosting
import Familog.Feed.Completeness
import Familog.Membership.Authors

/-!
Contract: that the timelines and the lists of comments show everything.

Owns the condition that a load goes well: nothing that it waits for fails, and listeners
deliver for it only, and only once. Owns the theorems that in every run of the app with all its
pages a load that goes well shows, once it is quiet, every post of the family or every comment
on the post that was stored when its query was answered, each once, and nothing else.

Does not own the order of the rows, nor loads that do not go well; these can miss rows or show
them twice.
-/

set_option autoImplicit false

namespace Familog.App.Complete

open Async Firestore Swift MainPage

open Home (Board Reply State)

/-- An event of the app, of its further screens, or of the pages of posts and comments. -/
abbrev WholeEvent := (App.Event ⊕ Screens.Event) ⊕ Home.Event

/-- A pending request of these. -/
abbrev WholeTask := (App.Task ⊕ Screens.Task) ⊕ Discussion.Task

/-- The timeline that the label is about. -/
def timeline? : Label WholeEvent Answer → Option (ℕ × Label Feed.Event Reply)
  | .event (.inr (.timeline index label)) => some (index, label)
  | _ => none

/-- The list of comments that the label is about. -/
def commentList? : Label WholeEvent Answer → Option (ℕ × Label Feed.Event Reply)
  | .event (.inr (.comments index label)) => some (index, label)
  | _ => none

/-- The posts of a family. -/
def postsOf (posts : Collection String) (familyId : String) : List Fields :=
  (posts.documents.map Prod.snd).filter fun data =>
    decide (data.string? "familyId" = some familyId)

/-- The documents with the key in the field. -/
def matching {Row : Type} (controller : Feed.Controller Row) (docs : Collection String)
    (key : String) : List Fields :=
  (docs.documents.map Prod.snd).filter fun data =>
    decide (data.string? controller.field = some key)

/-- The comments on a post. -/
def commentsOn (comments : Collection String) (postId : String) : List Fields :=
  (comments.documents.map Prod.snd).filter fun data =>
    decide (data.string? "postId" = some postId)

section Conditions

variable {Row : Type}

/-- Nothing that the load waits for fails, and a listener delivers for this load, once. -/
def CalmReply (state : Feed.State Row) : Feed.Task Row → Reply → Prop
  | task, .failed => Feed.Idle state.refreshes task
  | .userListener refresh _ _ fired, _ => refresh = state.refreshes ∧ fired = false
  | _, _ => True

instance decidableCalmReply (state : Feed.State Row) :
    ∀ (task : Feed.Task Row) (reply : Reply), Decidable (CalmReply state task reply)
  | .observeCurrentUser _, .failed | .getDocuments _ _, .failed | .userListener _ _ _ _, .failed =>
      inferInstanceAs (Decidable (_ ∧ _))
  | .userListener _ _ _ _, .succeeded | .userListener _ _ _ _, .documents _ =>
      inferInstanceAs (Decidable (_ ∧ _))
  | .observeCurrentUser _, .succeeded | .observeCurrentUser _, .documents _ => isTrue trivial
  | .getDocuments _ _, .succeeded | .getDocuments _ _, .documents _ => isTrue trivial

/-- A look-up finds the user. -/
def Finds (store : Store) : Feed.Task Row → Prop
  | .userListener _ uid _ _ => (Home.userNamed store uid).isSome
  | _ => True

instance decidableFinds (store : Store) : ∀ task : Feed.Task Row, Decidable (Finds store task)
  | .userListener _ uid _ _ =>
      inferInstanceAs (Decidable ((Home.userNamed store uid).isSome = true))
  | .observeCurrentUser _ | .getDocuments _ _ => isTrue trivial

/-- The step of a timeline is the answer to a request of a load that goes well. -/
def CalmStep : Config (Feed.State Row) (Feed.Task Row) → Label Feed.Event Reply → Prop :=
  onState (fun _ _ => False) CalmReply

/-- So is the step of a list of comments, and it finds whoever it looks for. -/
def CalmSearch (store : Store) :
    Config (Feed.State Row) (Feed.Task Row) → Label Feed.Event Reply → Prop :=
  onState (fun _ _ => False) fun state task reply => CalmReply state task reply ∧ Finds store task

instance decidableCalmStep (config : Config (Feed.State Row) (Feed.Task Row))
    (label : Label Feed.Event Reply) : Decidable (CalmStep config label) :=
  inferInstanceAs (Decidable (onState _ _ config label))

instance decidableCalmSearch (store : Store) (config : Config (Feed.State Row) (Feed.Task Row))
    (label : Label Feed.Event Reply) : Decidable (CalmSearch store config label) :=
  inferInstanceAs (Decidable (onState _ _ config label))

end Conditions

/-! ## What the store returns to a calm load -/

section Reads

variable {Row World : Type} {controller : Feed.Controller Row} {mayAsk : String → Prop}
  {genuine : Row → Prop} {store : Store} {docs : Collection String} {session : Session}
  {state : Feed.State Row} {task : Feed.Task Row} {reply : Reply} {answer : Feed.Answer}

/-- Where every document has a time, a query finds all that have the key. -/
theorem perm_matching (timed : ∀ id data, docs.get? id = some data → (data "timestamp").isSome)
    {key : String} {ids : List String} (perm : ids.Perm (Home.found controller docs key)) :
    (ids.filterMap docs.get?).Perm (matching controller docs key) := by
  have all : docs.documents.filter (fun document => decide
      (document.2.string? controller.field = some key ∧ (document.2 "timestamp").isSome)) =
      docs.documents.filter fun document =>
        decide (document.2.string? controller.field = some key) := by
    refine List.filter_congr fun document member => ?_
    simp [timed document.1 document.2 (Collection.mem_documents.mp member)]
  have found : (Home.found controller docs key).filterMap docs.get? =
      matching controller docs key := by
    rw [Home.found, all, Collection.filterMap_get?_keys, matching, List.filter_map]
    rfl
  rw [← found]
  exact perm.filterMap _

/-- What a query returns is stored. -/
theorem stored_of_read {refresh : ℕ} {key : String} {documents : List Fields}
    (isAnswer : Home.read controller store docs session (.getDocuments refresh key) reply =
      some (.documents documents)) :
    ∀ data ∈ documents, ∃ id, docs.get? id = some data := by
  cases reply with
  | documents ids =>
      simp only [Home.read] at isAnswer
      split_ifs at isAnswer with perm
      obtain rfl := Feed.Answer.documents.inj (Option.some.inj isAnswer)
      exact fun data member => (Home.stored_of_found perm data member).1
  | _ => simp [Home.read] at isAnswer

theorem isSome_userNamed {uid : String} :
    (Home.userNamed store uid).isSome ↔
      ∃ user : Uid, user.value = uid ∧ (store.users.get? user).isSome := by
  constructor
  · intro named
    obtain ⟨data, isData⟩ := Option.isSome_iff_exists.mp named
    obtain ⟨user, isUser, stored⟩ := Home.userNamed_eq_some isData
    exact ⟨user, isUser, by simp [stored]⟩
  · rintro ⟨user, rfl, there⟩
    obtain ⟨fields, stored⟩ := Option.isSome_iff_exists.mp there
    have listed : (user, fields) ∈ store.users.documents := Collection.mem_documents.mpr stored
    rw [Home.userNamed, Option.isSome_map, List.find?_isSome]
    exact ⟨(user, fields), listed, by simp⟩

theorem Finds.mono {next : Store} (finds : Finds store task)
    (stay : Authors.UsersStay store next) : Finds next task := by
  cases task with
  | userListener refresh uid row fired =>
      obtain ⟨user, isUser, there⟩ := isSome_userNamed.mp finds
      exact isSome_userNamed.mpr ⟨user, isUser, stay user there⟩
  | _ => trivial

/-- The key of a timeline is the family of the reader. -/
theorem familyId_of_keyOf {data : Option Fields} {familyId : String}
    (isKey : Feed.TimelineViewController.keyOf data = some familyId) :
    data.bind (Fields.string? · "familyId") = some familyId := by
  obtain ⟨user, decoded, isFamily⟩ := Option.bind_eq_some_iff.mp isKey
  obtain ⟨fields, rfl, isUser⟩ := Option.bind_eq_some_iff.mp decoded
  obtain ⟨dob, _, rfl⟩ := Option.map_eq_some_iff.mp isUser
  exact isFamily

/-- That of a list of comments is its post. -/
theorem keyOf_comments {data : Option Fields} {postId key : String}
    (isKey : (Feed.CommentViewController postId).keyOf data = some key) : postId = key := by
  obtain ⟨_, _, same⟩ := Option.bind_eq_some_iff.mp isKey
  exact Option.some.inj same

/-- What a calm load is answered is clean, and what there is. -/
theorem served_of_calm {world : World} {source : Feed.Source Row World}
    (timed : ∀ id data, docs.get? id = some data → (data "timestamp").isSome)
    (isUser : source.user world = store.users.get? session.user)
    (isFound : source.found world = matching controller docs)
    (supplies : Feed.Supplies controller mayAsk genuine task answer)
    (awaits : Feed.Awaits controller mayAsk genuine task) (calm : CalmReply state task reply)
    (finds : Finds store task)
    (isAnswer : Home.read controller store docs session task reply = some answer) :
    Feed.CleanAnswer controller state task answer ∧ Feed.Unfailing state.refreshes task answer ∧
      ¬ Feed.Faulty controller task answer ∧ Feed.Serves source world task answer := by
  have sane := Feed.not_faulty supplies awaits
  unfold Home.read at isAnswer
  split at isAnswer
  · obtain rfl := Option.some.inj isAnswer
    refine ⟨?_, ?_, sane, ?_⟩
    · cases task with
      | userListener refresh uid row fired =>
          intro current
          have nothing := calm.2
          rw [Feed.Task.awaited?, if_pos current] at nothing
          simp at nothing
      | _ => trivial
    · cases task <;> exact calm
    · cases task <;> trivial
  · obtain rfl := Option.some.inj isAnswer
    exact ⟨trivial, trivial, sane, isUser.symm⟩
  · next refresh key ids =>
      split_ifs at isAnswer with perm
      obtain rfl := Option.some.inj isAnswer
      refine ⟨fun _ => Feed.complete_of_supplies supplies awaits, trivial, sane, ?_⟩
      rw [Feed.Serves, isFound]
      exact perm_matching timed perm
  · next refresh uid row fired =>
      obtain rfl := Option.some.inj isAnswer
      obtain ⟨data, named⟩ := Option.isSome_iff_exists.mp (show (Home.userNamed store uid).isSome
        from finds)
      rw [named] at sane ⊢
      refine ⟨⟨calm.1, calm.2, ?_⟩, trivial, sane, trivial⟩
      exact Option.isSome_iff_ne_none.mpr sane
  · simp at isAnswer

end Reads

/-! ## The pages as hosts -/

section Hosting

variable {count : String → ℕ} {localizedDescription : String} {form : CanonicalForm}

/-- What a step is to the timelines and the lists: one of them takes it, or some are opened. -/
inductive PageStep (config next : Config State WholeTask) : Label WholeEvent Answer → Prop where
  | timeline {index inner} :
      Copy.act (Home.timeline config.state.1.1.store) config.state.2.timelines index inner =
        some next.state.2.timelines →
      next.state.2.commentLists = config.state.2.commentLists →
      PageStep config next (.event (.inr (.timeline index inner)))
  | comments {index inner} :
      Copy.act (Home.commentList config.state.1.1.store config.state.2.discussion.comments)
        config.state.2.commentLists index inner = some next.state.2.commentLists →
      next.state.2.timelines = config.state.2.timelines →
      PageStep config next (.event (.inr (.comments index inner)))
  | opened {label} (sessions : List Session) (posts : List (Session × String)) :
      timeline? label = none → commentList? label = none →
      next.state.2.timelines = config.state.2.timelines ++
        sessions.map (fun session => ⟨session, Program.start (.empty Post)⟩) →
      next.state.2.commentLists = config.state.2.commentLists ++
        posts.map (fun post => ⟨post, Program.start (.empty Comment)⟩) →
      PageStep config next label

/-- Nothing is opened where both stay as they were. -/
theorem PageStep.of_same {config next : Config State WholeTask} {label : Label WholeEvent Answer}
    (noTimeline : timeline? label = none) (noList : commentList? label = none)
    (timelines : next.state.2.timelines = config.state.2.timelines)
    (commentLists : next.state.2.commentLists = config.state.2.commentLists) :
    PageStep config next label :=
  .opened [] [] noTimeline noList (by simp [timelines]) (by simp [commentLists])

theorem pages_step {config next : Config State WholeTask} {label : Label WholeEvent Answer}
    (taken : (Home.whole count localizedDescription form).step config label = some next) :
    PageStep config next label := by
  rcases Program.step_cases taken with
    ⟨event, new, rfl, handled, _⟩ | ⟨ticket, answer, task, new, rfl, _, resumed, _⟩
  · rcases Program.handle_beside handled with
      ⟨own, tasks, rfl, acted, _⟩ | ⟨own, tasks, rfl, acted, _⟩
    · have same := (Program.handle_within acted).2
      exact .of_same rfl rfl (by rw [same]) (by rw [same])
    · cases own with
      | discussion event =>
          obtain ⟨_, _, same⟩ := Option.map_eq_some_iff.mp acted
          exact .of_same rfl rfl (by rw [← (Prod.mk.inj same).1]) (by rw [← (Prod.mk.inj same).1])
      | goToCommentVC session postId =>
          simp only [Home.program, Home.handle] at acted
          split_ifs at acted
          have same := (Prod.mk.inj (Option.some.inj acted)).1
          exact .of_same rfl rfl (by rw [← same]) (by rw [← same])
      | timelineViewDidLoad session =>
          simp only [Home.program, Home.handle] at acted
          split_ifs at acted
          have same := (Prod.mk.inj (Option.some.inj acted)).1
          exact .opened [session] [] rfl rfl (by rw [← same]; rfl) (by rw [← same]; simp)
      | commentsViewDidLoad session postId =>
          simp only [Home.program, Home.handle] at acted
          split_ifs at acted
          have same := (Prod.mk.inj (Option.some.inj acted)).1
          exact .opened [] [(session, postId)] rfl rfl (by rw [← same]; simp) (by rw [← same]; rfl)
      | timeline index inner =>
          obtain ⟨timelines, stepped, same⟩ := Option.map_eq_some_iff.mp acted
          exact .timeline (by rw [← (Prod.mk.inj same).1]; exact stepped)
            (by rw [← (Prod.mk.inj same).1])
      | comments index inner =>
          obtain ⟨commentLists, stepped, same⟩ := Option.map_eq_some_iff.mp acted
          exact .comments (by rw [← (Prod.mk.inj same).1]; exact stepped)
            (by rw [← (Prod.mk.inj same).1])
  · rcases Program.resume_beside resumed with
      ⟨own, tasks, rfl, acted, _⟩ | ⟨own, tasks, rfl, acted, _⟩
    · have same := (Program.resume_within acted).2
      exact .of_same rfl rfl (by rw [same]) (by rw [same])
    · obtain ⟨after, _, same, _⟩ := Home.resume_cases acted
      exact .of_same rfl rfl (by rw [same]) (by rw [same])

/-- The app hosts its timelines. -/
theorem hosts_timelines :
    Hosts (Home.whole count localizedDescription form) (fun state => state.2.timelines)
      (fun state => Home.timeline state.1.1.store) timeline? (.empty Post) where
  acts taken isOwn := by
    cases pages_step taken with
    | timeline acted _ =>
        obtain ⟨rfl, rfl⟩ := Prod.mk.inj (Option.some.inj isOwn)
        exact acted
    | comments => simp [timeline?] at isOwn
    | opened _ _ other => simp [other] at isOwn
  leaves taken isOther := by
    cases pages_step taken with
    | timeline => simp [timeline?] at isOther
    | comments _ same => exact ⟨[], by simp [same]⟩
    | opened sessions _ _ _ opens _ => exact ⟨sessions, opens⟩

/-- And its lists of comments. -/
theorem hosts_commentLists :
    Hosts (Home.whole count localizedDescription form) (fun state => state.2.commentLists)
      (fun state => Home.commentList state.1.1.store state.2.discussion.comments) commentList?
      (.empty Comment) where
  acts taken isOwn := by
    cases pages_step taken with
    | comments acted _ =>
        obtain ⟨rfl, rfl⟩ := Prod.mk.inj (Option.some.inj isOwn)
        exact acted
    | timeline => simp [commentList?] at isOwn
    | opened _ _ _ other => simp [other] at isOwn
  leaves taken isOther := by
    cases pages_step taken with
    | comments => simp [commentList?] at isOther
    | timeline _ same => exact ⟨[], by simp [same]⟩
    | opened _ posts _ _ _ opens => exact ⟨posts, opens⟩

end Hosting

/-! ## What holds along every run -/

section Kept

variable {count : String → ℕ} {localizedDescription : String} {form : CanonicalForm}

/-- The look-ups of a timeline go on finding whom they look for. -/
def TimelinesFind (state : State) : Prop :=
  ∀ copy ∈ state.2.timelines, ∀ task ∈ copy.config.pool.tasks, Finds state.1.1.store task

/-- A timeline looks for the authors of stored posts only. -/
theorem finds_step {store : Store} {session : Session}
    {config next : Config (Feed.State Post) (Feed.Task Post)} {label : Label Feed.Event Reply}
    (attributed : Authors.PostsAttributed store)
    (finds : ∀ task ∈ config.pool.tasks, Finds store task)
    (taken : (Home.timeline store session).step config label = some next) :
    ∀ task ∈ next.pool.tasks, Finds store task := by
  rcases Feed.step_reading taken with
    ⟨_, stepped⟩ | ⟨ticket, reply, task, answer, _, waiting, isAnswer, stepped⟩
  · rcases Feed.step_answered stepped with ⟨_, _, tasks⟩ | ⟨_, _, _, _, other, _⟩
    · rw [tasks]
      exact List.forall_mem_append.mpr ⟨finds, by simp [Feed.refresh, Finds]⟩
    · simp at other
  · rcases Feed.step_answered stepped with ⟨other, _⟩ | ⟨_, _, _, new, same, waits, answered, tasks⟩
    · simp at other
    · obtain ⟨rfl, rfl⟩ := Label.answer.inj same
      obtain rfl := Option.some.inj (waiting.symm.trans waits)
      rw [tasks]
      refine List.forall_mem_append.mpr
        ⟨fun other member => finds other (Pool.mem_tasks_of_mem_remove member), ?_⟩
      have here := finds task (Pool.mem_tasks_of_find? waiting)
      generalize next.state = after at answered
      cases answered with
      | @postsLoaded refresh key documents fetches queried ended =>
          refine List.forall_mem_map.mpr fun fetch inFetches => ?_
          obtain ⟨inRows, isAuthor⟩ := Feed.Controller.mem_of_fetches ended fetch inFetches
          obtain ⟨data, member, isRow⟩ := List.mem_map.mp inRows
          obtain ⟨id, stored⟩ := stored_of_read isAnswer data member
          obtain ⟨user, userId, there⟩ := (attributed id data stored).author
          have author : data.string? "userId" = some fetch.1 :=
            (congrArg Post.userId isRow).trans isAuthor
          exact isSome_userNamed.mpr
            ⟨user, Option.some.inj (userId.symm.trans author), there⟩
      | userMissing | userFetched => exact List.forall_mem_singleton.mpr here
      | _ => simp [Finds]

/-- What the pages show is genuine, and the posts and the comments are credited. -/
theorem app_keeps (count : String → ℕ) (localizedDescription : String) (form : CanonicalForm) :
    Async.Relies (Home.whole count localizedDescription form) (fun _ _ => True)
      (fun _ _ _ => True)
      (fun state => Home.Sound (fun _ _ => True) (fun _ => True) (fun _ => True) state ∧
        Authors.Credited state)
      (fun state task => Sum.elim (Consent.NeedOfWhole fun _ _ => True) Home.Need task ∧
        Sum.elim (Sum.elim (Authors.NeedOfApp state.1.1.store) fun _ => True)
          Authors.NeedOfDiscussion task)
      fun state next => True ∧ Authors.UsersStay state.1.1.store next.1.1.store := by
  refine (Home.whole_relies _ _ _ form count localizedDescription).both
    (Authors.credited_relies count localizedDescription form) ?_ fun _ => ⟨trivial, trivial⟩
  rintro state (event | event) _ _ _
  · refine ⟨?_, trivial⟩
    rcases event with event | event
    · exact fun _ _ => trivial
    · trivial
  · exact ⟨⟨fun _ _ _ => trivial, fun _ _ _ => trivial⟩, trivial⟩

/-- Everything that holds between two callbacks. -/
def Kept (count : String → ℕ) (localizedDescription : String) (form : CanonicalForm)
    (config : Config State WholeTask) : Prop :=
  (app_keeps count localizedDescription form).outline.Holds config ∧ TimelinesFind config.state

theorem kept_start :
    Kept count localizedDescription form (Program.start Home.State.empty) := by
  refine ⟨Outline.start _ ⟨Home.sound_empty _ _ _, ?_, ?_⟩, ?_⟩ <;>
    simp [Authors.PostsAttributed, Authors.CommentsTimed, TimelinesFind, Program.start,
      Home.State.empty, Screens.State.empty, AppState.empty, Store.empty, Discussion.Board.empty]

/-- Every step keeps it. -/
theorem kept_step {config next : Config State WholeTask} {label : Label WholeEvent Answer}
    (kept : Kept count localizedDescription form config)
    (taken : (Home.whole count localizedDescription form).step config label = some next) :
    Kept count localizedDescription form next := by
  obtain ⟨holds, find⟩ := kept
  have relies := app_keeps count localizedDescription form
  have moved : Authors.UsersStay config.state.1.1.store next.state.1.1.store :=
    (relies.moved holds onState_true taken).2
  have finds : ∀ copy ∈ next.state.2.timelines, ∀ task ∈ copy.config.pool.tasks,
      Finds config.state.1.1.store task :=
    hosts_timelines.forall_step (by simp [Program.start])
      (fun finds stepped => finds_step holds.inv.2.1 finds stepped) find taken
  exact ⟨relies.outline.step holds onState_true taken, fun copy member task waiting =>
    (finds copy member task waiting).mono moved⟩

end Kept

/-! ## Whole runs -/

section Runs

variable {count : String → ℕ} {localizedDescription : String} {form : CanonicalForm}
  {before after : List (Label WholeEvent Answer)} {index : ℕ}
  {reached refreshed last : Config State WholeTask}

section Loads

variable {Row Profile : Type}
  {copies : State → List (Copy Profile (Feed.State Row) (Feed.Task Row))}
  {own? : Label WholeEvent Answer → Option (ℕ × Label Feed.Event Reply)}
  {controller : Profile → Feed.Controller Row}
  {read : State → Profile → Feed.Task Row → Reply → Option Feed.Answer}
  (user : Profile → State → Option Fields) (found : Profile → State → String → List Fields)
  {condition : State → Config (Feed.State Row) (Feed.Task Row) → Label Feed.Event Reply → Prop}
  {label : Label WholeEvent Answer}

/-- A moment of the app with its pages. -/
abbrev Moment := Async.Moment State WholeEvent WholeTask Answer

/-- What the state of the app has for a feed at a moment, and the request of the feed that is
answered at it. -/
def sourceOf (copies : State → List (Copy Profile (Feed.State Row) (Feed.Task Row)))
    (own? : Label WholeEvent Answer → Option (ℕ × Label Feed.Event Reply)) (index : ℕ)
    (user : State → Option Fields) (found : State → String → List Fields) :
    Feed.Source Row Moment where
  user moment := user moment.1.state
  found moment := found moment.1.state
  answers := Answers copies own? index

/-- A feed that the app hosts, from a refresh on. Where each of its steps is an answer that is
clean and comes from the state of the app, it shows in the end what it has come to. -/
theorem showsTraced_of_run
    (hosts : Hosts (Home.whole count localizedDescription form) copies
      (fun state profile => Feed.reading (controller profile) (read state profile)) own?
      (.empty Row))
    (allowed : ∀ {config : Config State WholeTask} (label : Label WholeEvent Answer)
      {copy : Copy Profile (Feed.State Row) (Feed.Task Row)} {inner : Label Feed.Event Reply},
      Kept count localizedDescription form config → copy ∈ copies config.state →
      condition config.state copy.config inner → ∃ ticket reply, inner = .answer ticket reply ∧
        ∀ task answer, copy.config.pool.find? ticket = some task →
          read config.state copy.profile task reply = some answer →
          Feed.CleanAnswer (controller copy.profile) copy.config.state task answer ∧
            Feed.Unfailing copy.config.state.refreshes task answer ∧
            ¬ Feed.Faulty (controller copy.profile) task answer ∧
            Feed.Serves (sourceOf copies own? index (user copy.profile) (found copy.profile))
              (config, label) task answer)
    (history : (Home.whole count localizedDescription form).run (Program.start Home.State.empty)
      before = some reached) (none : copies Home.State.empty = [])
    (taken : (Home.whole count localizedDescription form).step reached label = some refreshed)
    (isRefresh : own? label = some (index, .event .refresh))
    (calm : (Home.whole count localizedDescription form).Obeys (OfCopy copies own? index condition)
      refreshed after)
    (ran : (Home.whole count localizedDescription form).run refreshed after = some last) :
    ∀ copy ∈ (copies last.state)[index]?, Feed.Quiet copy.config →
      Feed.ShowsTraced (controller copy.profile)
        (sourceOf copies own? index (user copy.profile) (found copy.profile))
        copy.config.state.refreshes
        ((Home.whole count localizedDescription form).moments refreshed after)
        copy.config.state.rows := by
  have atReached : Kept count localizedDescription form reached :=
    Program.run_invariant _ (fun held _ step => kept_step held step) kept_start Program.obeys_true
      history
  have numbered : ∀ copy ∈ copies reached.state, Feed.Numbered copy.config :=
    hosts.forall_run (by simp [Feed.Numbered, Program.start])
      (fun held stepped => Feed.numbered_reading held stepped) (by simp [Program.start, none])
      history
  -- The refresh opens the load.
  obtain ⟨copy, config, isCopy, stepped, opened⟩ := Copy.act_eq_some (hosts.acts taken isRefresh)
  have here : (copies refreshed.state)[index]? = some ⟨copy.profile, config⟩ := by
    rw [opened]
    exact List.getElem?_set_self (List.getElem?_eq_some_iff.mp isCopy).1
  have starts : Feed.Loading (controller copy.profile)
      (sourceOf copies own? index (user copy.profile) (found copy.profile)) [] config.state
      config.pool.tasks :=
    Feed.loading_of_refresh (numbered copy (List.mem_of_getElem? isCopy)) stepped
  -- From then on every step of the feed carries it on.
  have along : (Home.whole count localizedDescription form).Obeys (fun config label =>
      Kept count localizedDescription form config ∧ OfCopy copies own? index condition config label)
      refreshed after :=
    Program.obeys_of_invariant (Kept count localizedDescription form) And.intro
      (fun held _ step => kept_step held step) (kept_step atReached taken) calm
  obtain ⟨atEnd, there, loading⟩ := hosts.follow (fun past current =>
      Feed.Loading (controller copy.profile)
        (sourceOf copies own? index (user copy.profile) (found copy.profile)) past
        current.state current.pool.tasks) (fun held => held.append) (by
      rintro past config label inner current after ⟨kept, meets⟩ isOwn isHere loading stepped
      obtain ⟨ticket, reply, rfl, serves⟩ := allowed label kept (List.mem_of_getElem? isHere)
        (meets _ isOwn rfl _ isHere)
      exact loading.step serves
        (fun task waiting => ⟨ticket, reply, isOwn, _, isHere, waiting⟩) stepped) here starts along
      ran
  intro other isOther quiet
  obtain rfl := Option.some.inj (there.symm.trans isOther)
  exact loading.shows quiet

end Loads

/-- What a calm timeline is answered. -/
theorem timeline_served {config : Config State WholeTask} (label : Label WholeEvent Answer)
    {copy : Home.TimelineCopy} {inner : Label Feed.Event Reply}
    (kept : Kept count localizedDescription form config)
    (member : copy ∈ config.state.2.timelines) (calm : CalmStep copy.config inner) :
    ∃ ticket reply, inner = .answer ticket reply ∧
      ∀ task answer, copy.config.pool.find? ticket = some task →
        Home.read Feed.TimelineViewController config.state.1.1.store config.state.1.1.store.posts
          copy.profile task reply = some answer →
        Feed.CleanAnswer Feed.TimelineViewController copy.config.state task answer ∧
          Feed.Unfailing copy.config.state.refreshes task answer ∧
          ¬ Feed.Faulty Feed.TimelineViewController task answer ∧
          Feed.Serves (sourceOf (fun state => state.2.timelines) timeline? index
            (fun state => state.1.1.store.users.get? copy.profile.user)
            fun state => postsOf state.1.1.store.posts) (config, label) task answer := by
  obtain ⟨⟨⟨⟨sound, pages⟩, posts, _⟩, _, _⟩, find⟩ := kept
  cases inner with
  | event event => exact absurd calm not_false
  | answer ticket reply =>
      refine ⟨ticket, reply, rfl, fun task answer waiting isAnswer => ?_⟩
      have pending := Pool.mem_tasks_of_find? waiting
      exact served_of_calm (fun id data stored => (posts id data stored).timestamp) rfl rfl
        (Home.timeline_supplies sound (fun _ _ _ => trivial) isAnswer)
        ((pages.timelines copy member).waiting task pending) (calm task waiting)
        (find copy member task pending) isAnswer

/-- What a calm list of comments is answered. -/
theorem comments_served {config : Config State WholeTask} (label : Label WholeEvent Answer)
    {copy : Home.CommentCopy} {inner : Label Feed.Event Reply}
    (kept : Kept count localizedDescription form config)
    (member : copy ∈ config.state.2.commentLists)
    (calm : CalmSearch config.state.1.1.store copy.config inner) :
    ∃ ticket reply, inner = .answer ticket reply ∧
      ∀ task answer, copy.config.pool.find? ticket = some task →
        Home.read (Feed.CommentViewController copy.profile.2) config.state.1.1.store
          config.state.2.discussion.comments copy.profile.1 task reply = some answer →
        Feed.CleanAnswer (Feed.CommentViewController copy.profile.2) copy.config.state task answer ∧
          Feed.Unfailing copy.config.state.refreshes task answer ∧
          ¬ Feed.Faulty (Feed.CommentViewController copy.profile.2) task answer ∧
          Feed.Serves (sourceOf (fun state => state.2.commentLists) commentList? index
            (fun state => state.1.1.store.users.get? copy.profile.1.user)
            fun state => commentsOn state.2.discussion.comments) (config, label) task answer := by
  obtain ⟨⟨⟨⟨sound, pages⟩, _, timed⟩, _, _⟩, _⟩ := kept
  cases inner with
  | event event => exact absurd calm not_false
  | answer ticket reply =>
      refine ⟨ticket, reply, rfl, fun task answer waiting isAnswer => ?_⟩
      exact served_of_calm timed rfl rfl
        (Home.comments_supply sound pages.comments (fun _ _ _ => trivial) isAnswer)
        ((pages.commentLists copy member).waiting task (Pool.mem_tasks_of_find? waiting))
        (calm task waiting).1 (calm task waiting).2 isAnswer

/-- A timeline shows all posts of the family. In every run of the app with all its pages, a
load of a timeline that goes well from a refresh on shows, once it is quiet, the posts that
were stored for the family of the reader at the moment when its query was answered, each once
and nothing else, where the family is the one that the reader had chosen at the moment when the
load read its document; or nothing, if the reader had no document then. -/
theorem timelines_complete_of_run
    (history : (Home.whole count localizedDescription form).run (Program.start Home.State.empty)
      before = some reached)
    (taken : (Home.whole count localizedDescription form).step reached
      (.event (.inr (.timeline index (.event .refresh)))) = some refreshed)
    (calm : (Home.whole count localizedDescription form).Obeys
      (OfCopy (fun state => state.2.timelines) timeline? index fun _ => CalmStep) refreshed after)
    (ran : (Home.whole count localizedDescription form).run refreshed after = some last) :
    ∀ copy ∈ last.state.2.timelines[index]?, Feed.Quiet copy.config →
      (∃ (read answered : Moment) (familyId : String),
        [read, answered].Sublist ((Home.whole count localizedDescription form).moments refreshed
          after) ∧
        Answers (fun state => state.2.timelines) timeline? index read
          (.observeCurrentUser copy.config.state.refreshes) ∧
        Answers (fun state => state.2.timelines) timeline? index answered
          (.getDocuments copy.config.state.refreshes familyId) ∧
        (read.1.state.1.1.store.users.get? copy.profile.user).bind
          (Fields.string? · "familyId") = some familyId ∧
        copy.config.state.rows.Perm
          ((postsOf answered.1.state.1.1.store.posts familyId).map transformPostPhoto)) ∨
      copy.config.state.rows = [] ∧
        ∃ read ∈ (Home.whole count localizedDescription form).moments refreshed after,
          Answers (fun state => state.2.timelines) timeline? index read
            (.observeCurrentUser copy.config.state.refreshes) ∧
          read.1.state.1.1.store.users.get? copy.profile.user = none := by
  intro copy isCopy quiet
  rcases showsTraced_of_run (fun session state => state.1.1.store.users.get? session.user)
    (fun _ state => postsOf state.1.1.store.posts) hosts_timelines timeline_served history
    rfl taken rfl calm ran copy isCopy quiet with
    ⟨documents, ⟨first, second, key, order, isRead, isAnswered, isKey, perm⟩, rows⟩ | missing
  · refine Or.inl ⟨first, second, key, order, isRead, isAnswered, ?_, rows.trans (perm.map _)⟩
    exact familyId_of_keyOf isKey
  · exact Or.inr missing

/-- A list of comments shows all comments on its post. In every such run a load of a list that
goes well from a refresh on, and finds whoever has signed a comment, shows, once it is quiet,
the comments on the post that were stored at the moment when its query was answered, each once
and nothing else; or nothing, if the reader had no document when the load read it. -/
theorem commentLists_complete_of_run
    (history : (Home.whole count localizedDescription form).run (Program.start Home.State.empty)
      before = some reached)
    (taken : (Home.whole count localizedDescription form).step reached
      (.event (.inr (.comments index (.event .refresh)))) = some refreshed)
    (calm : (Home.whole count localizedDescription form).Obeys
      (OfCopy (fun state => state.2.commentLists) commentList? index
        fun state => CalmSearch state.1.1.store) refreshed after)
    (ran : (Home.whole count localizedDescription form).run refreshed after = some last) :
    ∀ copy ∈ last.state.2.commentLists[index]?, Feed.Quiet copy.config →
      (∃ answered ∈ (Home.whole count localizedDescription form).moments refreshed after,
        Answers (fun state => state.2.commentLists) commentList? index answered
          (.getDocuments copy.config.state.refreshes copy.profile.2) ∧
        copy.config.state.rows.Perm ((commentsOn answered.1.state.2.discussion.comments
          copy.profile.2).map transformComment)) ∨
      copy.config.state.rows = [] ∧
        ∃ read ∈ (Home.whole count localizedDescription form).moments refreshed after,
          Answers (fun state => state.2.commentLists) commentList? index read
            (.observeCurrentUser copy.config.state.refreshes) ∧
          read.1.state.1.1.store.users.get? copy.profile.1.user = none := by
  intro copy isCopy quiet
  rcases showsTraced_of_run (fun profile state => state.1.1.store.users.get? profile.1.user)
    (fun _ state => commentsOn state.2.discussion.comments) hosts_commentLists comments_served
    history rfl taken rfl calm ran copy isCopy quiet with
    ⟨documents, ⟨first, second, key, order, _, isAnswered, isKey, perm⟩, rows⟩ | missing
  · obtain rfl : copy.profile.2 = key := keyOf_comments isKey
    exact Or.inl ⟨second, order.subset (by simp), isAnswered, rows.trans (perm.map _)⟩
  · exact Or.inr missing

end Runs

/-! ## A load that overtakes an earlier one -/

/-- The reader opens the timeline, pulls to refresh, and the current user is read. -/
def opening : List (Label WholeEvent Answer) :=
  Home.sharing ++ [.event (.inr (.timelineViewDidLoad ⟨userB, 0⟩)),
    .event (.inr (.timeline 0 (.event .refresh))),
    .event (.inr (.timeline 0 (.answer 0 .succeeded)))]

/-- After the next refresh the earlier query fails, and the later one returns the post. -/
def overtaking : List (Label WholeEvent Answer) := [
  .event (.inr (.timeline 0 (.answer 2 .succeeded))),
  .event (.inr (.timeline 0 (.answer 1 .failed))),
  .event (.inr (.timeline 0 (.answer 3 (.documents ["post"])))),
  .event (.inr (.timeline 0 (.answer 4 .succeeded)))]

/-- The feed is quiet and shows one row. -/
def OneRow {Profile Row : Type}
    (copy? : Option (Copy Profile (Feed.State Row) (Feed.Task Row))) : Prop :=
  ∃ copy ∈ copy?, Feed.Quiet copy.config ∧ copy.config.state.rows.length = 1

instance decidableOneRow {Profile Row : Type}
    (copy? : Option (Copy Profile (Feed.State Row) (Feed.Task Row))) : Decidable (OneRow copy?) :=
  inferInstanceAs (Decidable (∃ copy ∈ copy?, _ ∧ _))

/-- The timeline shows the one post of the family. -/
theorem timelines_complete_of_overtaking :
    ∃ (refreshed last : Config State WholeTask) (copy : Home.TimelineCopy) (answered : Moment)
      (familyId : String),
      (Home.whole String.length "The password is invalid." .scalars).run refreshed overtaking =
          some last ∧
        copy ∈ last.state.2.timelines[0]? ∧ copy.config.state.rows.length = 1 ∧
        Answers (fun state => state.2.timelines) timeline? 0 answered
          (.getDocuments copy.config.state.refreshes familyId) ∧
        copy.config.state.rows.Perm
          ((postsOf answered.1.state.1.1.store.posts familyId).map transformPostPhoto) := by
  obtain ⟨reached, refreshed, history, taken, calm, last, ran, copy, isCopy, quiet, one⟩ :
      ∃ reached refreshed,
        (Home.whole String.length "The password is invalid." .scalars).run
          (Program.start Home.State.empty) opening = some reached ∧
        (Home.whole String.length "The password is invalid." .scalars).step reached
          (.event (.inr (.timeline 0 (.event .refresh)))) = some refreshed ∧
        (Home.whole String.length "The password is invalid." .scalars).Obeys
          (OfCopy (fun state => state.2.timelines) timeline? 0 fun _ => CalmStep) refreshed
          overtaking ∧
        ∃ last, (Home.whole String.length "The password is invalid." .scalars).run refreshed
          overtaking = some last ∧ OneRow last.state.2.timelines[0]? :=
    ⟨_, _, rfl, rfl, by decide, Program.exists_run (by decide)⟩
  rcases timelines_complete_of_run history taken calm ran copy isCopy quiet with
    ⟨_, answered, familyId, _, _, isAnswered, _, shows⟩ | ⟨empty, _⟩
  · exact ⟨refreshed, last, copy, answered, familyId, ran, isCopy, one, isAnswered, shows⟩
  · simp [empty] at one

/-- The same run on to the list of comments, up to where it is opened. -/
def discussing : List (Label WholeEvent Answer) :=
  Home.commenting.take (Home.commenting.length - 4)

/-- The list is answered. -/
def answering : List (Label WholeEvent Answer) := [
  .event (.inr (.comments 0 (.answer 0 .succeeded))),
  .event (.inr (.comments 0 (.answer 1 (.documents ["first"])))),
  .event (.inr (.comments 0 (.answer 2 .succeeded)))]

/-- The list of comments shows the one comment on the post. -/
theorem commentLists_complete_of_answering :
    ∃ (refreshed last : Config State WholeTask) (copy : Home.CommentCopy) (answered : Moment),
      (Home.whole String.length "The password is invalid." .scalars).run refreshed answering =
          some last ∧
        copy ∈ last.state.2.commentLists[0]? ∧ copy.config.state.rows.length = 1 ∧
        Answers (fun state => state.2.commentLists) commentList? 0 answered
          (.getDocuments copy.config.state.refreshes copy.profile.2) ∧
        copy.config.state.rows.Perm ((commentsOn answered.1.state.2.discussion.comments
          copy.profile.2).map transformComment) := by
  obtain ⟨reached, refreshed, history, taken, calm, last, ran, copy, isCopy, quiet, one⟩ :
      ∃ reached refreshed,
        (Home.whole String.length "The password is invalid." .scalars).run
          (Program.start Home.State.empty) discussing = some reached ∧
        (Home.whole String.length "The password is invalid." .scalars).step reached
          (.event (.inr (.comments 0 (.event .refresh)))) = some refreshed ∧
        (Home.whole String.length "The password is invalid." .scalars).Obeys
          (OfCopy (fun state => state.2.commentLists) commentList? 0
            fun state => CalmSearch state.1.1.store) refreshed answering ∧
        ∃ last, (Home.whole String.length "The password is invalid." .scalars).run refreshed
          answering = some last ∧ OneRow last.state.2.commentLists[0]? :=
    ⟨_, _, rfl, rfl, by decide, Program.exists_run (by decide)⟩
  rcases commentLists_complete_of_run history taken calm ran copy isCopy quiet with
    ⟨answered, _, isAnswered, shows⟩ | ⟨empty, _⟩
  · exact ⟨refreshed, last, copy, answered, ran, isCopy, one, isAnswered, shows⟩
  · simp [empty] at one

end Familog.App.Complete
