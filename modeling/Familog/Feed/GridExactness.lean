import Familog.Async.Load
import Familog.Feed.ProfileGrid
import Familog.Firestore.Collection

/-!
Contract: when a profile grid shows exactly the posts of its user.

Owns the grid over a store that changes, with every request numbered by the appearance
it goes back to, and the theorem that after any history an appearance is followed by an
exact grid, whenever nothing is pending and nothing has been written, if no look-up of an
earlier appearance delivers a post any more and no read of the last one fails.
`viewDidAppear` empties the array and cancels nothing, so that an earlier look-up appends
its post besides.

Does not own the order of the posts.
-/

set_option autoImplicit false

namespace Familog.ProfileGrid

open Async Firestore

/-! ## The grid over a store -/

/-- The grid. The posts of the store, the number of appearances so far, and whether a post
has been written since the last one are not stored by the source. -/
structure Screen where
  grid : State
  posts : Collection String
  appearances : ℕ
  written : Bool

/-- The screen appears, or a client writes or deletes a post. -/
inductive ScreenEvent where
  | viewDidAppear
  | storePost (id : String) (data : Option Fields)

/-- An error, or the answer that the store gives: the documents of the query in any order,
or the document as it is now. -/
inductive Reply where
  | failed
  | documents (ids : List String)
  | snapshot

section Program

variable (uid : String)

/-- The existing posts of the user. -/
def userPosts (posts : Collection String) : List (String × Fields) :=
  posts.documents.filter fun document => decide (document.2.string? "userId" = some uid)

/-- What the store answers to a request. -/
def answer? (posts : Collection String) : Task → Reply → Option Answer
  | _, .failed => some .failed
  | .getDocuments, .documents ids =>
      if ids.Perm ((userPosts uid posts).map Prod.fst) then some (.documents ids) else none
  | .observePost id, .snapshot => some (.snapshot (posts.get? id))
  | _, _ => none

/-- The posts after a write, or a deletion. -/
def stored (posts : Collection String) (id : String) : Option Fields → Collection String
  | some data => posts.set id data
  | none => posts.erase id

def Screen.handle (screen : Screen) : ScreenEvent → Option (Screen × List (ℕ × Task))
  | .viewDidAppear =>
      (program.handle screen.grid .viewDidAppear).map fun result =>
        ({ screen with
            grid := result.1
            appearances := screen.appearances + 1
            written := false },
          result.2.map fun task => (screen.appearances + 1, task))
  | .storePost id data =>
      some ({ screen with posts := stored screen.posts id data, written := true }, [])

def Screen.resume (screen : Screen) (task : ℕ × Task) (reply : Reply) :
    Option (Screen × List (ℕ × Task)) :=
  (answer? uid screen.posts task.2 reply).bind fun answer =>
    (program.resume screen.grid task.2 answer).map fun result =>
      ({ screen with grid := result.1 }, result.2.map fun other => (task.1, other))

/-- The grid of the user's posts over the store. -/
def screenProgram : Program Screen ScreenEvent (ℕ × Task) Reply where
  handle := Screen.handle
  resume := Screen.resume uid

/-- In a state without anything pending, and without a write since the last appearance, the
grid shows each existing post of the user once and nothing else. -/
def ExactGrid (config : Config Screen (ℕ × Task)) : Prop :=
  config.pool.tasks = [] → config.state.written = false →
    config.state.grid.posts.Perm
      ((userPosts uid config.state.posts).map fun document => transformPostPhoto document.2)

end Program

/-- Before `viewDidLoad`, over any posts. -/
def Screen.opened (posts : Collection String) : Screen := ⟨State.empty, posts, 0, false⟩

/-- No look-up of an earlier appearance delivers a post, and no read of the last appearance
fails. -/
def CleanReply (screen : Screen) (task : ℕ × Task) : Reply → Prop
  | .failed => task.1 ≠ screen.appearances
  | .documents _ => True
  | .snapshot =>
      match task.2 with
      | .getDocuments => True
      | .observePost id => task.1 = screen.appearances ∨ screen.posts.get? id = none

instance (screen : Screen) (task : ℕ × Task) : (reply : Reply) →
    Decidable (CleanReply screen task reply)
  | .failed => inferInstanceAs (Decidable (_ ≠ _))
  | .documents _ => isTrue trivial
  | .snapshot =>
      match task with
      | (_, .getDocuments) => isTrue trivial
      | (number, .observePost id) =>
          have : Decidable (screen.posts.get? id = none) :=
            decidable_of_iff ((screen.posts.get? id).isNone = true) Option.isNone_iff_eq_none
          inferInstanceAs (Decidable (number = screen.appearances ∨ _))

/-! ## What an answer can do -/

/-- Everything an answered request can do. -/
inductive Replied (uid : String) (screen : Screen) :
    ℕ × Task → Reply → Screen → List (ℕ × Task) → Prop where
  | failed {task} : Replied uid screen task .failed screen []
  | listed {number ids} : ids.Perm ((userPosts uid screen.posts).map Prod.fst) →
      Replied uid screen (number, .getDocuments) (.documents ids) screen
        (ids.map fun id => (number, .observePost id))
  | missing {number id} : screen.posts.get? id = none →
      Replied uid screen (number, .observePost id) .snapshot screen []
  | appended {number id data} : screen.posts.get? id = some data →
      Replied uid screen (number, .observePost id) .snapshot
        { screen with grid := append screen.grid (transformPostPhoto data) } []

theorem resume_replied {uid : String} {screen next : Screen} {task : ℕ × Task} {reply : Reply}
    {new : List (ℕ × Task)} (resumed : screen.resume uid task reply = some (next, new)) :
    Replied uid screen task reply next new := by
  obtain ⟨answer, answered, acted⟩ := Option.bind_eq_some_iff.mp resumed
  obtain ⟨result, ran, left⟩ := Option.map_eq_some_iff.mp acted
  obtain ⟨rfl, rfl⟩ := Prod.mk.inj left
  obtain ⟨number, task⟩ := task
  cases reply with
  | failed =>
      obtain rfl : answer = .failed := by cases task <;> exact (Option.some.inj answered).symm
      obtain rfl : result = (screen.grid, []) := by
        cases task <;> exact (Option.some.inj ran).symm
      exact .failed
  | documents ids =>
      cases task with
      | getDocuments =>
          simp only [answer?] at answered
          split_ifs at answered with perm
          obtain rfl := Option.some.inj answered
          obtain rfl := Option.some.inj ran
          simpa [Function.comp_def] using Replied.listed perm
      | observePost id => simp [answer?] at answered
  | snapshot =>
      cases task with
      | getDocuments => simp [answer?] at answered
      | observePost id =>
          obtain rfl := Option.some.inj answered
          cases found : screen.posts.get? id with
          | none =>
              rw [found] at ran
              obtain rfl := Option.some.inj ran
              exact .missing found
          | some data =>
              rw [found] at ran
              obtain rfl := Option.some.inj ran
              exact .appended found

/-! ## The balance of shown and awaited posts -/

/-- The query of the given appearance. -/
def isQuery (last : ℕ) : ℕ × Task → Bool
  | (number, .getDocuments) => number == last
  | (_, .observePost _) => false

/-- The post that a look-up of the given appearance will append. -/
def awaited? (posts : Collection String) (last : ℕ) : ℕ × Task → Option Post
  | (_, .getDocuments) => none
  | (number, .observePost id) =>
      if number = last then (posts.get? id).map transformPostPhoto else none

/-- The posts of the user, as the grid shows them. -/
def shownPosts (uid : String) (posts : Collection String) : List Post :=
  (userPosts uid posts).map fun document => transformPostPhoto document.2

/-- Nothing pending goes back to an appearance that has not happened, and as long as nothing
is written the load of the last appearance is in balance. -/
structure Balanced (uid : String) (screen : Screen) (tasks : List (ℕ × Task)) : Prop where
  numbered : ∀ task ∈ tasks, task.1 ≤ screen.appearances
  balance : screen.written = false →
    Load.Balance (isQuery screen.appearances) (awaited? screen.posts screen.appearances)
      screen.grid.posts (shownPosts uid screen.posts) tasks

section Steps

variable {uid : String} {screen next : Screen} {tasks others new : List (ℕ × Task)}
  {task : ℕ × Task}

/-- A request of an earlier appearance is nothing to this one. -/
theorem idle_of_older {posts : Collection String} {last : ℕ} (older : task.1 ≠ last) :
    Load.Idle (isQuery last) (awaited? posts last) task := by
  obtain ⟨number, task⟩ := task
  cases task with
  | getDocuments => exact ⟨by simpa [isQuery] using older, rfl⟩
  | observePost id => exact ⟨rfl, if_neg older⟩

theorem Balanced.of_perm (balanced : Balanced uid screen tasks) (perm : tasks.Perm others) :
    Balanced uid screen others where
  numbered task member := balanced.numbered task (perm.mem_iff.mpr member)
  balance unwritten := (balanced.balance unwritten).of_perm perm

/-- With nothing pending the balance is the law. -/
theorem exactGrid_of_balanced {config : Config Screen (ℕ × Task)}
    (balanced : Balanced uid config.state config.pool.tasks) : ExactGrid uid config := by
  intro nothing unwritten
  exact (balanced.balance unwritten).shown_perm (by simp [nothing])

/-- The query of an appearance goes back to it. -/
theorem numbered_viewDidAppear (numbered : ∀ task ∈ tasks, task.1 ≤ screen.appearances)
    (handled : screen.handle .viewDidAppear = some (next, new)) :
    ∀ task ∈ tasks ++ new, task.1 ≤ next.appearances := by
  obtain ⟨rfl, rfl⟩ := Prod.mk.inj (Option.some.inj handled)
  intro task member
  rcases List.mem_append.mp member with old | fresh
  · have := numbered task old
    show task.1 ≤ screen.appearances + 1
    omega
  · obtain rfl : task = (screen.appearances + 1, .getDocuments) := by simpa using fresh
    exact le_refl _

/-- An appearance makes everything that is pending old. -/
theorem balanced_viewDidAppear (numbered : ∀ task ∈ tasks, task.1 ≤ screen.appearances)
    (handled : screen.handle .viewDidAppear = some (next, new)) :
    Balanced uid next (tasks ++ new) := by
  refine ⟨numbered_viewDidAppear numbered handled, fun _ => ?_⟩
  obtain ⟨rfl, rfl⟩ := Prod.mk.inj (Option.some.inj handled)
  apply Load.balance_opened
  · intro task member
    have := numbered task member
    exact idle_of_older (by show task.1 ≠ screen.appearances + 1; omega)
  · simp [isQuery]
  · rfl

/-- The look-ups of the query await exactly the posts of the user. -/
theorem awaited_lookUps {ids : List String}
    (perm : ids.Perm ((userPosts uid screen.posts).map Prod.fst)) :
    ((ids.map fun id => (screen.appearances, .observePost id)).filterMap
      (awaited? screen.posts screen.appearances)).Perm (shownPosts uid screen.posts) := by
  have lookUps : (ids.map fun id => (screen.appearances, Task.observePost id)).filterMap
      (awaited? screen.posts screen.appearances) =
        ids.filterMap fun id => (screen.posts.get? id).map transformPostPhoto := by
    rw [List.filterMap_map]
    simp [Function.comp_def, awaited?]
  have found : ((userPosts uid screen.posts).map Prod.fst).filterMap
      (fun id => (screen.posts.get? id).map transformPostPhoto) =
        shownPosts uid screen.posts := by
    rw [shownPosts, List.filterMap_map, ← List.filterMap_eq_map]
    apply List.filterMap_congr
    intro document member
    have stored := Collection.mem_documents.mp (List.mem_of_mem_filter member)
    simp [stored]
  rw [lookUps, ← found]
  exact perm.filterMap _

/-- What an answer issues goes back to the same appearance, and nothing is written. -/
theorem numbered_replied {reply : Reply} (replied : Replied uid screen task reply next new) :
    next.appearances = screen.appearances ∧ next.written = screen.written ∧
      ∀ other ∈ new, other.1 = task.1 := by
  cases replied with
  | listed _ =>
      refine ⟨rfl, rfl, fun other member => ?_⟩
      obtain ⟨id, _, rfl⟩ := List.mem_map.mp member
      rfl
  | _ => exact ⟨rfl, rfl, by simp⟩

theorem numbered_next {reply : Reply} (numbered : ∀ other ∈ task :: tasks,
    other.1 ≤ screen.appearances) (replied : Replied uid screen task reply next new) :
    ∀ other ∈ tasks ++ new, other.1 ≤ next.appearances := by
  obtain ⟨appearances, _, same⟩ := numbered_replied replied
  intro other member
  rw [appearances]
  rcases List.mem_append.mp member with old | fresh
  · exact numbered other (List.mem_cons_of_mem _ old)
  · rw [same other fresh]
    exact numbered task List.mem_cons_self

/-- A clean answer keeps the balance. -/
theorem balanced_replied {reply : Reply} (balanced : Balanced uid screen (task :: tasks))
    (clean : CleanReply screen task reply)
    (replied : Replied uid screen task reply next new) : Balanced uid next (tasks ++ new) := by
  refine ⟨numbered_next balanced.numbered replied, fun unwritten => ?_⟩
  obtain ⟨_, same, back⟩ := numbered_replied replied
  have balance := balanced.balance (same ▸ unwritten)
  cases replied with
  | failed => exact balance.of_idle (idle_of_older clean) (by simp)
  | @listed number ids perm =>
      by_cases current : number = screen.appearances
      · subst current
        refine balance.loaded (by simp [isQuery]) ?_ (awaited_lookUps perm)
        rw [List.countP_eq_zero]
        intro other member
        obtain ⟨id, _, rfl⟩ := List.mem_map.mp member
        simp [isQuery]
      · exact balance.of_idle (idle_of_older current) fun other member =>
          idle_of_older (back other member ▸ current)
  | @missing number id none =>
      exact balance.of_idle ⟨rfl, by simp [awaited?, none]⟩ (by simp)
  | @appended number id data found =>
      obtain rfl : number = screen.appearances := by
        rcases clean with current | none
        · exact current
        · simp [found] at none
      exact balance.delivered (by simp [awaited?, found]) (by simp)

end Steps

/-! ## Whole runs -/

/-- What is pending goes back to an appearance that has happened. -/
def Numbered (config : Config Screen (ℕ × Task)) : Prop :=
  ∀ task ∈ config.pool.tasks, task.1 ≤ config.state.appearances

/-- Every answer is clean, or comes after a write. -/
def Clean : Config Screen (ℕ × Task) → Label ScreenEvent Reply → Prop :=
  onState (fun _ _ => True) fun screen task reply =>
    screen.written = true ∨ CleanReply screen task reply

instance (config : Config Screen (ℕ × Task)) (label : Label ScreenEvent Reply) :
    Decidable (Clean config label) :=
  inferInstanceAs (Decidable (onState _ _ config label))

section Runs

variable {uid : String} {config next : Config Screen (ℕ × Task)}
  {label : Label ScreenEvent Reply}

theorem numbered_step (numbered : Numbered config)
    (taken : (screenProgram uid).step config label = some next) : Numbered next := by
  rcases Program.step_cases taken with
    ⟨event, new, rfl, handled, tasks⟩ | ⟨ticket, answer, task, new, rfl, found, resumed, tasks⟩
  · cases event with
    | viewDidAppear =>
        intro task member
        rw [tasks] at member
        exact numbered_viewDidAppear numbered handled task member
    | storePost id data =>
        obtain ⟨state, rfl⟩ := Prod.mk.inj (Option.some.inj handled)
        intro task member
        rw [tasks, List.append_nil] at member
        rw [← state]
        exact numbered task member
  · intro other member
    rw [tasks] at member
    refine numbered_next (fun earlier waits => numbered earlier ?_) (resume_replied resumed)
      other member
    exact (Pool.tasks_perm_of_find? found).mem_iff.mpr waits

/-- One clean step keeps the balance. -/
theorem balanced_step (balanced : Balanced uid config.state config.pool.tasks)
    (clean : Clean config label) (taken : (screenProgram uid).step config label = some next) :
    Balanced uid next.state next.pool.tasks := by
  rcases Program.step_cases taken with
    ⟨event, new, rfl, handled, tasks⟩ | ⟨ticket, answer, task, new, rfl, found, resumed, tasks⟩
  · rw [tasks]
    cases event with
    | viewDidAppear => exact balanced_viewDidAppear balanced.numbered handled
    | storePost id data =>
        obtain ⟨state, rfl⟩ := Prod.mk.inj (Option.some.inj handled)
        rw [List.append_nil, ← state]
        exact ⟨balanced.numbered, fun unwritten => by simp at unwritten⟩
  · have replied := resume_replied resumed
    rcases clean task found with written | cleanReply
    · have numbered : Numbered next := numbered_step balanced.numbered taken
      refine ⟨numbered, fun unwritten => ?_⟩
      rw [(numbered_replied replied).2.1, written] at unwritten
      simp at unwritten
    · rw [tasks]
      exact balanced_replied (balanced.of_perm (Pool.tasks_perm_of_find? found)) cleanReply replied

/-- After any history of appearances, writes and answers in any order, an appearance that
is followed by clean answers, and by further appearances and writes, leaves the grid exact
in every state. -/
theorem exactGrid_of_clean_run {uid : String} {posts : Collection String}
    (before : List (Label ScreenEvent Reply)) {after : List (Label ScreenEvent Reply)}
    {reached appeared : Config Screen (ℕ × Task)}
    (history : (screenProgram uid).run (Program.start (Screen.opened posts)) before =
      some reached)
    (taken : (screenProgram uid).step reached (.event .viewDidAppear) = some appeared)
    (clean : (screenProgram uid).Obeys Clean appeared after) :
    (screenProgram uid).Always (ExactGrid uid) appeared after := by
  have numbered : Numbered reached := by
    refine Program.run_invariant Numbered (fun held _ taken => numbered_step held taken) ?_
      Program.obeys_true history
    intro task member
    simp [Program.start] at member
  have balanced : Balanced uid appeared.state appeared.pool.tasks := by
    rcases Program.step_cases taken with
      ⟨event, new, same, handled, tasks⟩ | ⟨_, _, _, _, other, _⟩
    · rw [Label.event.injEq] at same
      subst same
      rw [tasks]
      exact balanced_viewDidAppear numbered handled
    · simp at other
  exact Program.always_of_invariant
    (fun config => Balanced uid config.state config.pool.tasks) exactGrid_of_balanced
    (fun held allowed step => balanced_step held allowed step) balanced clean

end Runs

/-! ## Two appearances that overlap -/

/-- One post of the user. -/
def onePost : Collection String :=
  stored ∅ "post" (some (Fields.ofList [("userId", .string "uid"), ("uid", .string "post")]))

/-- One appearance, answered completely. -/
def appearance : List (Label ScreenEvent Reply) :=
  [.answer 0 (.documents ["post"]), .answer 1 .snapshot]

/-- The grid is exact, and shows the post. -/
theorem exactGrid_of_clean_run_one :
    ∃ appeared, (screenProgram "uid").step (Program.start (Screen.opened onePost))
        (.event .viewDidAppear) = some appeared ∧
      (∃ last, (screenProgram "uid").run appeared appearance = some last ∧
        last.pool.tasks.length = 0 ∧ last.state.grid.posts.length = 1) ∧
      (screenProgram "uid").Always (ExactGrid "uid") appeared appearance :=
  ⟨_, rfl, Program.exists_run (by decide), exactGrid_of_clean_run [] rfl rfl (by decide)⟩

/-- The screen appears again before the first look-up has been answered. -/
def overlapping : List (Label ScreenEvent Reply) := [
  .event .viewDidAppear, .answer 0 (.documents ["post"]), .event .viewDidAppear,
  .answer 2 (.documents ["post"]), .answer 1 .snapshot, .answer 3 .snapshot]

/-- Nothing is pending and nothing has been written, and the post is shown twice. -/
theorem overlapping_duplicates :
    ∃ last, (screenProgram "uid").run (Program.start (Screen.opened onePost)) overlapping =
      some last ∧ ¬ ExactGrid "uid" last := by
  obtain ⟨last, ran, ⟨idle, unwritten⟩, two, one⟩ : ∃ last, (screenProgram "uid").run
      (Program.start (Screen.opened onePost)) overlapping = some last ∧
      (last.pool.tasks.length = 0 ∧ last.state.written = false) ∧
        last.state.grid.posts.length = 2 ∧ (userPosts "uid" last.state.posts).length = 1 :=
    Program.exists_run (by decide)
  refine ⟨last, ran, fun exactly => ?_⟩
  have length := (exactly (List.length_eq_zero_iff.mp idle) unwritten).length_eq
  rw [List.length_map] at length
  omega

end Familog.ProfileGrid
