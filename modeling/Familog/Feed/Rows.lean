import Familog.Feed.Alignment
import Familog.Feed.ProfileGrid

/-!
Contract: which rows the four data sources can be asked for.

Owns the data sources of the timeline, the comments and the two profile grids
with their subscripts, the invariant that ties the arrays to the number of rows
the view remembers, and the exact states in which the unguarded data sources are
safe. The timeline and the profile of others compare the row with the counts
before they subscript; the comments and the own profile do not.

Does not own when the view asks: it may ask between any two callbacks, for any
row below the number it read at its last `reloadData`.
-/

set_option autoImplicit false

namespace Familog.Feed

open Async Firestore

/-- What a data source does with a row: a subscript out of range, a cell that is
left as it was dequeued, or a cell that shows the content. -/
inductive Cell (Content : Type) where
  | outOfRange
  | plain
  | shows (content : Content)
deriving DecidableEq

/-! ## The four data sources -/

/-- `posts[row]` and `users[row]`. -/
def subscript {Row : Type} (state : State Row) (row : Nat) : Cell (Row × User) :=
  match state.rows[row]?, state.users[row]? with
  | some content, some user => .shows (content, user)
  | _, _ => .outOfRange

/-- `TimelineViewController`'s `cellForRowAt`. -/
def timelineCellForRowAt (state : State Post) (row : Nat) : Cell (Post × User) :=
  if state.rows.length > row ∧ state.users.length > row then subscript state row else .plain

/-- `CommentViewController`'s `cellForRowAt`. -/
def commentCellForRowAt (state : State Comment) (row : Nat) : Cell (Comment × User) :=
  subscript state row

/-- `posts[row]` of a grid. -/
def gridSubscript (state : ProfileGrid.State) (row : Nat) : Cell Post :=
  match state.posts[row]? with
  | some post => .shows post
  | none => .outOfRange

/-- `ProfileViewController`'s `cellForItemAt`. -/
def profileCellForItemAt (state : ProfileGrid.State) (row : Nat) : Cell Post :=
  gridSubscript state row

/-- `OthersProfileViewController`'s `cellForItemAt`. -/
def othersProfileCellForItemAt (state : ProfileGrid.State) (row : Nat) : Cell Post :=
  if state.posts.length > row then gridSubscript state row else .plain

/-- No row below the remembered number is out of range. -/
def RowsSafe {Content : Type} (cellForRowAt : Nat → Cell Content) (remembered : Nat) : Prop :=
  ∀ row < remembered, cellForRowAt row ≠ .outOfRange

instance {Content : Type} [DecidableEq Content] (cellForRowAt : Nat → Cell Content)
    (remembered : Nat) : Decidable (RowsSafe cellForRowAt remembered) :=
  inferInstanceAs (Decidable (∀ row < remembered, _))

/-- The view remembers no row that was there before the arrays were emptied. -/
def Refilled (emptied : Bool) (remembered : Nat) : Prop := emptied = true → remembered = 0

/-! ## The arrays and the remembered number -/

/-- The view remembers the length of the array, unless the array was emptied. -/
structure Remembers (length remembered : Nat) (emptied : Bool) : Prop where
  filled : emptied = false → remembered = length
  emptied : emptied = true → length = 0

/-- An unguarded data source is safe exactly in a refilled state. -/
theorem Remembers.le_iff {length remembered : Nat} {emptied : Bool}
    (remembers : Remembers length remembered emptied) :
    remembered ≤ length ↔ Refilled emptied remembered := by
  cases emptied with
  | false =>
      have := remembers.filled rfl
      exact iff_of_true (by omega) fun isTrue => absurd isTrue (by decide)
  | true =>
      have := remembers.emptied rfl
      constructor
      · intro short _
        omega
      · intro refilled
        have := refilled rfl
        omega

theorem remembers_of_answered {Row : Type} {controller : Controller Row} {state next : State Row}
    {task : Task Row} {answer : Answer} {new : List (Task Row)}
    (answered : Answered controller state task answer next new)
    (remembers : Remembers state.rows.length state.reloaded state.emptied) :
    Remembers next.rows.length next.reloaded next.emptied := by
  cases answered with
  | userFetched decoded =>
      exact ⟨fun _ => by simp [append], fun isTrue => by simp [append] at isTrue⟩
  | _ => exact remembers

theorem remembers_of_run {Row : Type} {controller : Controller Row}
    {labels : List (Label Event Answer)} {last : Config (State Row) (Task Row)}
    (ran : (program controller).run (Program.start (State.empty Row)) labels = some last) :
    Remembers last.state.rows.length last.state.reloaded last.state.emptied := by
  refine Program.run_invariant
    (fun config => Remembers config.state.rows.length config.state.reloaded config.state.emptied)
    (fun held _ taken => ?_) ⟨fun _ => rfl, fun _ => rfl⟩
    Program.obeys_true ran
  obtain ⟨_, state, _⟩ | ⟨_, _, _, _, _, _, answered, _⟩ := step_answered taken
  · rw [state]
    exact ⟨fun filled => by simp [refresh] at filled, fun _ => rfl⟩
  · exact remembers_of_answered answered held

theorem remembers_of_grid_run {labels : List (Label ProfileGrid.Event ProfileGrid.Answer)}
    {last : Config ProfileGrid.State ProfileGrid.Task}
    (ran : ProfileGrid.program.run (Program.start ProfileGrid.State.empty) labels = some last) :
    Remembers last.state.posts.length last.state.reloaded last.state.emptied := by
  refine Program.run_invariant
    (fun config => Remembers config.state.posts.length config.state.reloaded config.state.emptied)
    (fun held _ taken => ?_) ⟨fun _ => rfl, fun _ => rfl⟩
    Program.obeys_true ran
  rcases Program.step_cases taken with
    ⟨event, new, rfl, handled, _⟩ | ⟨_, answer, task, new, rfl, _, resumed, _⟩
  · cases event with
    | viewDidAppear =>
        obtain ⟨state, _⟩ := Prod.ext_iff.mp (Option.some.inj handled)
        simp only at state
        rw [← state]
        exact ⟨fun filled => by simp at filled, fun _ => rfl⟩
  · rcases ProfileGrid.resume_cases resumed with same | ⟨post, appended⟩
    · rw [same]
      exact held
    · rw [appended]
      exact ⟨fun _ => by simp [ProfileGrid.append],
        fun isTrue => by simp [ProfileGrid.append] at isTrue⟩

/-! ## Safety of the data sources -/

theorem subscript_safe_iff {Row : Type} {state : State Row} {row : Nat}
    (count : state.users.length = state.rows.length) :
    subscript state row ≠ .outOfRange ↔ row < state.rows.length := by
  unfold subscript
  by_cases inRange : row < state.rows.length
  · have atUsers := List.getElem?_eq_getElem (count ▸ inRange)
    simp [atUsers, inRange]
  · simp [inRange]

theorem gridSubscript_safe_iff {state : ProfileGrid.State} {row : Nat} :
    gridSubscript state row ≠ .outOfRange ↔ row < state.posts.length := by
  unfold gridSubscript
  by_cases inRange : row < state.posts.length
  · simp [inRange]
  · simp [inRange]

/-- Rows below a number are in range exactly when the number is at most the
length. -/
theorem rowsSafe_iff_le {Content : Type} {cellForRowAt : Nat → Cell Content} {length : Nat}
    (safe_iff : ∀ row, cellForRowAt row ≠ .outOfRange ↔ row < length) (remembered : Nat) :
    RowsSafe cellForRowAt remembered ↔ remembered ≤ length := by
  constructor
  · intro safe
    by_contra long
    have := (safe_iff length).mp (safe length (by omega))
    omega
  · intro short row below
    exact (safe_iff row).mpr (by omega)

/-- In every reachable state of the four controllers, a row below the number the
view remembers is in range: always for the timeline and for the profile of
others, and exactly in the refilled states for the comments and the own profile. -/
theorem rowsSafe_of_runs {postId : String}
    {timelineLabels commentLabels : List (Label Event Answer)}
    {gridLabels : List (Label ProfileGrid.Event ProfileGrid.Answer)}
    {timeline : Config (State Post) (Task Post)} {comments : Config (State Comment) (Task Comment)}
    {grid : Config ProfileGrid.State ProfileGrid.Task}
    (timelineRan : (program TimelineViewController).run (Program.start (State.empty Post))
      timelineLabels = some timeline)
    (commentRan : (program (CommentViewController postId)).run
      (Program.start (State.empty Comment)) commentLabels = some comments)
    (gridRan : ProfileGrid.program.run (Program.start ProfileGrid.State.empty) gridLabels =
      some grid) :
    RowsSafe (timelineCellForRowAt timeline.state) timeline.state.reloaded ∧
      RowsSafe (othersProfileCellForItemAt grid.state) grid.state.reloaded ∧
      (RowsSafe (commentCellForRowAt comments.state) comments.state.reloaded ↔
        Refilled comments.state.emptied comments.state.reloaded) ∧
      (RowsSafe (profileCellForItemAt grid.state) grid.state.reloaded ↔
        Refilled grid.state.emptied grid.state.reloaded) := by
  refine ⟨?_, ?_, ?_, ?_⟩
  · intro row _
    have count := count_of_run timelineRan
    unfold timelineCellForRowAt
    split
    · next guarded => exact (subscript_safe_iff count).mpr guarded.1
    · simp
  · intro row _
    unfold othersProfileCellForItemAt
    split
    · next guarded => exact gridSubscript_safe_iff.mpr guarded
    · simp
  · have count := count_of_run commentRan
    exact (rowsSafe_iff_le (fun row => subscript_safe_iff count) _).trans
      (remembers_of_run commentRan).le_iff
  · exact (rowsSafe_iff_le (fun row => gridSubscript_safe_iff) _).trans
      (remembers_of_grid_run gridRan).le_iff

/-! ## A row that was there before -/

/-- One post of a profile. -/
def onePost : List (Label ProfileGrid.Event ProfileGrid.Answer) := [
  .event .viewDidAppear, .answer 0 (.documents ["post"]), .answer 1 (.snapshot (some (rowData 1)))]

/-- A row has been shown, and the screen is refreshed or appears again: asking for
the row then is out of range in the comments and in the own profile. -/
theorem emptied_rows_unsafe :
    (∃ last, (program (CommentViewController "abc")).run (Program.start (State.empty Comment))
        (.event .refresh :: oneRow ++ [.event .refresh]) = some last ∧
      ¬ RowsSafe (commentCellForRowAt last.state) last.state.reloaded) ∧
    ∃ last, ProfileGrid.program.run (Program.start ProfileGrid.State.empty)
        (onePost ++ [.event .viewDidAppear]) = some last ∧
      ¬ RowsSafe (profileCellForItemAt last.state) last.state.reloaded :=
  ⟨Program.exists_run (by decide), Program.exists_run (by decide)⟩

/-- Right after the row was shown, all four are safe. -/
theorem shown_rows_safe :
    ∃ (timeline : Config (State Post) (Task Post))
      (comments : Config (State Comment) (Task Comment))
      (grid : Config ProfileGrid.State ProfileGrid.Task),
      (timeline.state.reloaded = 1 ∧ comments.state.reloaded = 1 ∧ grid.state.reloaded = 1) ∧
      RowsSafe (timelineCellForRowAt timeline.state) 1 ∧
      RowsSafe (othersProfileCellForItemAt grid.state) 1 ∧
      RowsSafe (commentCellForRowAt comments.state) 1 ∧
      RowsSafe (profileCellForItemAt grid.state) 1 := by
  obtain ⟨timeline, timelineRan, timelineOne⟩ : ∃ last, (program TimelineViewController).run
      (Program.start (State.empty Post)) (.event .refresh :: oneRow) = some last ∧
      last.state.reloaded = 1 := Program.exists_run (by decide)
  obtain ⟨comments, commentRan, commentsOne, commentsFilled⟩ : ∃ last,
      (program (CommentViewController "abc")).run (Program.start (State.empty Comment))
        (.event .refresh :: oneRow) = some last ∧
      last.state.reloaded = 1 ∧ last.state.emptied = false := Program.exists_run (by decide)
  obtain ⟨grid, gridRan, gridOne, gridFilled⟩ : ∃ last,
      ProfileGrid.program.run (Program.start ProfileGrid.State.empty) onePost = some last ∧
      last.state.reloaded = 1 ∧ last.state.emptied = false := Program.exists_run (by decide)
  have safe := rowsSafe_of_runs timelineRan commentRan gridRan
  simp only [Refilled, timelineOne, commentsOne, commentsFilled, gridOne, gridFilled] at safe
  exact ⟨timeline, comments, grid, ⟨timelineOne, commentsOne, gridOne⟩, safe.1, safe.2.1,
    safe.2.2.1.mpr (by simp), safe.2.2.2.mpr (by simp)⟩

end Familog.Feed
