import Familog.App.Discussion

/-!
Contract: which comments are written empty.

Owns the exact condition under which no comment is written without a text, in every run
of the app with its comment screens: the send button is not tapped before the text has
been edited or a comment sent, and the return key is not pressed in an empty field. The
button is enabled by the text from the first edit on, but not in the storyboard; the
return key looks at nothing.
-/

set_option autoImplicit false

namespace Familog.App.Discussion

open Async Firestore Swift MainPage

/-! ## The law and the condition -/

/-- The comment has a text that is not empty. -/
def Spoken (data : Fields) : Prop := ∃ text, data.string? "commentText" = some text ∧ text ≠ ""

/-- Every comment that is stored, and every one that is about to be, has a text. -/
structure AllSpoken (config : Config State (App.Task ⊕ Task)) : Prop where
  stored : ∀ ref data, config.state.2.comments.get? ref = some data → Spoken data
  pending : ∀ ref data, .inr (.comment (.setData ref data)) ∈ config.pool.tasks → Spoken data

/-- The button is tapped after an edit or a comment only, and the return key is pressed
in a field with a text only. -/
def SentWithText (state : State) : App.Event ⊕ Event → Prop
  | .inr (.comment session (.sendButton_TouchUpInside _ _)) =>
      ∀ screen ∈ state.2.screens session, screen.touched = true
  | .inr (.comment session (.textFieldShouldReturn _ _)) =>
      ∀ screen ∈ state.2.screens session, screen.text ≠ ""
  | _ => True

instance (state : State) (event : App.Event ⊕ Event) : Decidable (SentWithText state event) := by
  unfold SentWithText
  split <;> infer_instance

/-! ## The button and the text -/

/-- Once touched, the button is enabled by the text; before, the text is empty. -/
def Coupled (screen : Comments.Screen) : Prop :=
  if screen.touched then screen.isEnabled = decide (screen.text ≠ "") else screen.text = ""

/-- Every open screen is coupled. -/
def AllCoupled (state : State) : Prop :=
  ∀ session, ∀ screen ∈ state.2.screens session, Coupled screen

theorem coupled_opened (postId : String) : Coupled (.opened postId) := rfl

theorem coupled_handle {currentUser : Uid} {screen next : Comments.Screen}
    {event : Comments.Event} {new : List Comments.Task}
    (handled : Comments.handle currentUser screen event = some (next, new)) : Coupled next := by
  rcases Comments.handle_cases handled with ⟨text, rfl, rfl, _⟩ | ⟨ref, timestamp, rfl, _⟩
  · rfl
  · rfl

/-- A touched button is enabled exactly if there is a text. -/
theorem text_ne_empty_iff {screen : Comments.Screen} (coupled : Coupled screen)
    (enabled : screen.isEnabled = true) : screen.text ≠ "" ↔ screen.touched = true := by
  unfold Coupled at coupled
  split_ifs at coupled with touched
  · rw [enabled] at coupled
    exact iff_of_true (of_decide_eq_true coupled.symm) touched
  · exact iff_of_false (fun filled => filled coupled) touched

/-- Events and answers leave every open screen coupled. -/
theorem couples (form : CanonicalForm) :
    Guarantees (whole form) AllCoupled fun _ => True where
  handled {state next _ _} coupled handled := by
    refine ⟨?_, fun _ _ => trivial⟩
    rcases whole_handled handled with ⟨_, _, _, _, board, _⟩ | ⟨_, _, _, acted, _⟩
    · intro session screen isScreen
      rw [board] at isScreen
      exact coupled session screen isScreen
    · cases acted with
      | postRead => exact coupled
      | commentsOpened => exact Board.forall_setScreen coupled (coupled_opened _)
      | typed isScreen acted => exact Board.forall_setScreen coupled (coupled_handle acted)
      | deleting => exact coupled
  resumed {state next _ _ _} coupled _ resumed := by
    refine ⟨?_, fun _ _ => trivial⟩
    rcases whole_resumed resumed with ⟨_, _, _, _, board, _⟩ | ⟨_, _, answered, _⟩
    · intro session screen isScreen
      rw [board] at isScreen
      exact coupled session screen isScreen
    · cases answered <;> exact coupled

/-! ## One step -/

/-- With no new write, and the comments as they were, the law is kept. -/
theorem allSpoken_of_quiet {config next : Config State (App.Task ⊕ Task)}
    {waiting new : List (App.Task ⊕ Task)} (spoken : AllSpoken config)
    (comments : next.state.2.comments = config.state.2.comments)
    (old : ∀ task ∈ waiting, task ∈ config.pool.tasks)
    (quiet : ∀ ref data, .inr (.comment (.setData ref data)) ∉ new)
    (tasks : next.pool.tasks = waiting ++ new) : AllSpoken next where
  stored ref data found := spoken.stored ref data (comments ▸ found)
  pending ref data member := by
    rw [tasks, List.mem_append] at member
    exact member.elim (fun kept => spoken.pending ref data (old _ kept))
      fun issued => absurd issued (quiet ref data)

/-- A comment that is sent keeps the law exactly if its text is not empty. -/
theorem allSpoken_iff_of_sent {config next : Config State (App.Task ⊕ Task)} {ref : String}
    {screen : Comments.Screen} {timestamp : Int} {uid : Uid} (spoken : AllSpoken config)
    (comments : next.state.2.comments = config.state.2.comments)
    (tasks : next.pool.tasks = config.pool.tasks ++
      [.inr (.comment (.setData ref (commentData screen.text timestamp uid screen.postId)))]) :
    AllSpoken next ↔ screen.text ≠ "" := by
  constructor
  · intro after
    obtain ⟨text, isText, filled⟩ := after.pending ref
      (commentData screen.text timestamp uid screen.postId) (by simp [tasks])
    obtain rfl : screen.text = text := Option.some.inj isText
    exact filled
  · intro filled
    refine ⟨fun other data found => spoken.stored other data (comments ▸ found), ?_⟩
    intro other data member
    rw [tasks, List.mem_append, List.mem_singleton] at member
    rcases member with kept | issued
    · exact spoken.pending other data kept
    · obtain ⟨rfl, rfl⟩ : other = ref ∧ data = _ := by simpa using issued
      exact ⟨screen.text, rfl, filled⟩

/-- A step keeps the law exactly if it meets the condition. -/
theorem allSpoken_step_iff {form : CanonicalForm} {config next : Config State (App.Task ⊕ Task)}
    {label : Label (App.Event ⊕ Event) Answer} (spoken : AllSpoken config)
    (coupled : AllCoupled config.state) (taken : (whole form).step config label = some next) :
    AllSpoken next ↔ onState SentWithText (fun _ _ _ => True) config label := by
  rcases Program.step_cases taken with
    ⟨event, new, rfl, handled, tasks⟩ | ⟨ticket, answer, task, new, rfl, found, resumed, tasks⟩
  · rcases whole_handled handled with
      ⟨own, asked, rfl, _, board, rfl⟩ | ⟨own, asked, rfl, acted, rfl⟩
    · refine iff_of_true ?_ trivial
      exact allSpoken_of_quiet spoken (by rw [board]) (fun _ kept => kept) (by simp) tasks
    · generalize after : next.state = state at acted
      have comments := congrArg (fun state : State => state.2.comments) after
      cases acted with
      | postRead | commentsOpened | deleting =>
          refine iff_of_true ?_ trivial
          exact allSpoken_of_quiet spoken comments (fun _ kept => kept) (by simp) tasks
      | typed isScreen acted =>
          rcases Comments.handle_cases acted with
            ⟨text, rfl, _, rfl⟩ | ⟨ref, timestamp, _, rfl, sent⟩
          · refine iff_of_true ?_ trivial
            exact allSpoken_of_quiet spoken comments (fun _ kept => kept) (by simp) tasks
          · rw [allSpoken_iff_of_sent spoken comments tasks]
            -- Only the button is guarded, and only once it has been touched.
            rcases sent with ⟨rfl, enabled⟩ | rfl
            · rw [text_ne_empty_iff (coupled _ _ isScreen) enabled]
              simp [onState, SentWithText, isScreen]
            · simp [onState, SentWithText, isScreen]
  · refine iff_of_true ?_ fun _ _ => trivial
    have waits : ∀ other ∈ (config.pool.remove ticket).tasks, other ∈ config.pool.tasks :=
      fun _ kept => Pool.mem_tasks_of_mem_remove kept
    rcases whole_resumed resumed with
      ⟨own, asked, rfl, _, board, rfl⟩ | ⟨own, rfl, answered, rfl⟩
    · exact allSpoken_of_quiet spoken (by rw [board]) waits (by simp) tasks
    · generalize after : next.state = state at answered
      cases answered with
      | failed | deleted =>
          exact allSpoken_of_quiet spoken (by rw [after]) waits (by simp) tasks
      | @commented ref data =>
          refine ⟨fun other fields isStored => ?_, fun other fields member => ?_⟩
          · rw [after, Collection.get?_set] at isStored
            split_ifs at isStored
            · rw [← Option.some.inj isStored]
              exact spoken.pending ref data (Pool.mem_tasks_of_find? found)
            · exact spoken.stored other fields isStored
          · rw [tasks, List.append_nil] at member
            exact spoken.pending other fields (waits _ member)

/-! ## All runs -/

/-- In every run of the app with its comment screens, of any number of users and with any
edits, taps and presses in any order, every comment has a text exactly if the button is
not tapped on an untouched screen and the return key is not pressed in an empty field. -/
theorem comments_spoken_iff (form : CanonicalForm)
    {labels : List (Label (App.Event ⊕ Event) Answer)} {last : Config State (App.Task ⊕ Task)}
    (ran : (whole form).run (Program.start State.empty) labels = some last) :
    (whole form).Always AllSpoken (Program.start State.empty) labels ↔
      (whole form).Obeys (onState SentWithText fun _ _ _ => True) (Program.start State.empty)
        labels := by
  have start : AllSpoken (Program.start State.empty) :=
    ⟨fun ref data found => by simp [Program.start, State.empty, Board.empty] at found,
      fun ref data member => by simp [Program.start] at member⟩
  have coupled : AllCoupled State.empty := by
    intro session screen isScreen
    simp [State.empty, Board.empty] at isScreen
  have along : (whole form).Obeys (couples form).outline.along (Program.start State.empty)
      labels :=
    (couples form).outline.obeys_along ((couples form).outline.start coupled) Program.obeys_true
  refine Program.always_iff_obeys ?_ start along ran
  exact fun spoken held taken => allSpoken_step_iff spoken held.2.inv taken

/-! ## The first tap -/

/-- A comment is typed and sent by the button, and a second one by the return key. -/
def typedComments : List (Label (App.Event ⊕ Event) Answer) := posting ++ [
  .event (.inr (.comment ⟨author, 0⟩ (.textFieldDidChange "Nice"))),
  .event (.inr (.comment ⟨author, 0⟩ (.sendButton_TouchUpInside "first" 1))),
  .event (.inr (.comment ⟨author, 0⟩ (.textFieldDidChange "Very nice"))),
  .event (.inr (.comment ⟨author, 0⟩ (.textFieldShouldReturn "second" 2))),
  .answer 9 .succeeded, .answer 10 .succeeded]

/-- Both comments have a text. -/
theorem comments_spoken_iff_typed :
    (whole CanonicalForm.scalars).Always AllSpoken (Program.start State.empty) typedComments := by
  obtain ⟨last, ran, _⟩ : ∃ last, (whole CanonicalForm.scalars).run
      (Program.start State.empty) typedComments = some last ∧ True :=
    Program.exists_run (by decide)
  exact (comments_spoken_iff CanonicalForm.scalars ran).mpr (by decide)

/-- The screen is opened and the button tapped. -/
def firstTap : List (Label (App.Event ⊕ Event) Answer) := posting ++ [
  .event (.inr (.comment ⟨author, 0⟩ (.sendButton_TouchUpInside "first" 1))),
  .answer 9 .succeeded]

/-- The screen is opened and the return key pressed. -/
def firstReturn : List (Label (App.Event ⊕ Event) Answer) := posting ++ [
  .event (.inr (.comment ⟨author, 0⟩ (.textFieldShouldReturn "first" 1))),
  .answer 9 .succeeded]

/-- Either way a comment without a text is stored. -/
theorem comment_empty_by_first_send :
    (∃ last, (whole CanonicalForm.scalars).run (Program.start State.empty) firstTap = some last ∧
        ¬ AllSpoken last) ∧
      ∃ last, (whole CanonicalForm.scalars).run (Program.start State.empty) firstReturn =
        some last ∧ ¬ AllSpoken last := by
  have unspoken : ∀ last : Config State (App.Task ⊕ Task),
      ((last.state.2.comments.get? "first").bind fun data => data.string? "commentText") =
        some "" → ¬ AllSpoken last := by
    intro last stored spoken
    obtain ⟨data, found, empty⟩ := Option.bind_eq_some_iff.mp stored
    obtain ⟨text, isText, filled⟩ := spoken.stored "first" data found
    exact filled (Option.some.inj (isText.symm.trans empty))
  constructor
  · obtain ⟨last, ran, stored⟩ : ∃ last, (whole CanonicalForm.scalars).run
        (Program.start State.empty) firstTap = some last ∧
          ((last.state.2.comments.get? "first").bind fun data => data.string? "commentText") =
            some "" :=
      Program.exists_run (by decide)
    exact ⟨last, ran, unspoken last stored⟩
  · obtain ⟨last, ran, stored⟩ : ∃ last, (whole CanonicalForm.scalars).run
        (Program.start State.empty) firstReturn = some last ∧
          ((last.state.2.comments.get? "first").bind fun data => data.string? "commentText") =
            some "" :=
      Program.exists_run (by decide)
    exact ⟨last, ran, unspoken last stored⟩

end Familog.App.Discussion
