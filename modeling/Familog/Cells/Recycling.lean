import Familog.Cells.Rendering

/-!
Contract: what a recycled cell shows of its former rows.

Owns the histories of a cell, each row assigned and then followed by `prepareForReuse`,
and the exact condition under which two histories cannot be told apart once a new row
has been assigned: every view that the new row does not set has been left alike. The
cell of the profile grid gets one more recognizer with every row, so that there the
histories must have the same length, too.

Does not own which cell is dequeued for which row.
-/

set_option autoImplicit false

namespace Familog.Cells

open UIKit

/-! ## What a history leaves behind -/

section LeftBehind

variable {Row Value : Type*}

/-- What the last row that had a value has left, or what was there at the beginning. -/
def leftBehind (write? : Row → Option Value) (start : Value) (history : List Row) : Value :=
  (history.filterMap write?).getLast?.getD start

/-- A row with a value leaves that, any other row what was left before it. -/
theorem leftBehind_concat (write? : Row → Option Value) (start : Value) (history : List Row)
    (row : Row) :
    leftBehind write? start (history ++ [row]) =
      (write? row).getD (leftBehind write? start history) := by
  cases written : write? row <;> simp [leftBehind, List.filterMap_append, written]

/-- A part that a row may set is afterwards alike exactly if the row sets it, or it was
alike before. -/
theorem getD_eq_getD_iff (written : Option Value) (left right : Value) :
    written.getD left = written.getD right ↔ written.isSome ∨ left = right := by
  cases written with
  | none => simp
  | some value => simp

end LeftBehind

variable {Url : Type*} (url? : String → Option Url)

theorem timeLabelText_eq (now : ℚ) (timestamp : Option Int) (text : Option String) :
    timeLabelText now timestamp text =
      (timestamp.map fun timestamp => some (timeTextAt now timestamp)).getD text := by
  cases timestamp <;> rfl

theorem photoView_eq (photoUrlString placeholderImage : Option String) (view : ImageView Url) :
    photoView url? photoUrlString placeholderImage view =
      ⟨(photoUrlString.map fun _ => placeholderImage).getD view.image,
        (photoUrlString.map url?).getD view.sd_imageURL, view.gestureRecognizers⟩ := by
  cases photoUrlString <;> rfl

/-! ## The cell of the timeline -/

/-- What the timeline assigns to a cell, and when. -/
structure PostRow where
  post : Post
  user : User
  now : ℚ

namespace TimelineTableViewCell

/-- The assignments of `cellForRowAt`. -/
def assign (row : PostRow) (cell : TimelineTableViewCell Url) : TimelineTableViewCell Url :=
  (cell.updateView url? row.now row.post).setupUserInfo url? row.user

/-- The cell after its former rows. -/
def recycled (history : List PostRow) : TimelineTableViewCell Url :=
  history.foldl (fun cell row => (cell.assign url? row).prepareForReuse) awakeFromNib

/-- The post image, the profile image and the time that former rows have left. -/
def leftPhoto (history : List PostRow) : Option Url :=
  leftBehind (fun row => row.post.url.map url?) none history

def leftProfile (history : List PostRow) : Option Url :=
  leftBehind (fun row => row.user.profileImageUrl.map url?) none history

def leftTime (history : List PostRow) : Option String :=
  leftBehind (fun row => row.post.timestamp.map fun timestamp =>
    some (timeTextAt row.now timestamp)) (some "Time") history

/-- What the former rows have left in the views that a row need not set. -/
theorem recycled_views (history : List PostRow) :
    (recycled url? history).profileImageView =
        ⟨some "Head_Icon", leftProfile url? history, 1⟩ ∧
      (recycled url? history).postImageView = ⟨none, leftPhoto url? history, 1⟩ ∧
      (recycled url? history).timeLabel = leftTime history := by
  induction history using List.reverseRecOn with
  | nil => exact ⟨rfl, rfl, rfl⟩
  | append_singleton history row inductionHypothesis =>
      obtain ⟨profile, photo, time⟩ := inductionHypothesis
      have last : recycled url? (history ++ [row]) =
          ((recycled url? history).assign url? row).prepareForReuse :=
        List.foldl_concat _ _ _ _
      rw [last]
      simp only [prepareForReuse, assign, setupUserInfo, updateView, photoView_eq,
        timeLabelText_eq, profile, photo, time, leftProfile, leftPhoto, leftTime,
        leftBehind_concat]
      refine ⟨?_, ?_, trivial⟩
      · cases row.user.profileImageUrl <;> rfl
      · cases row.post.url <;> rfl

/-- What a recycled cell shows of a new row. -/
theorem assign_recycled (history : List PostRow) (row : PostRow) :
    (recycled url? history).assign url? row =
      { nameLabel := row.user.firstname
        profileImageView := ⟨some "Head_Icon",
          (row.user.profileImageUrl.map url?).getD (leftProfile url? history), 1⟩
        postImageView := ⟨none, (row.post.url.map url?).getD (leftPhoto url? history), 1⟩
        captionLabel := row.post.discription
        timeLabel := (row.post.timestamp.map fun timestamp =>
          some (timeTextAt row.now timestamp)).getD (leftTime history) } := by
  obtain ⟨profile, photo, time⟩ := recycled_views url? history
  simp only [assign, setupUserInfo, updateView, photoView_eq, timeLabelText_eq, profile, photo,
    time]
  congr 2
  · cases row.user.profileImageUrl <;> rfl
  · cases row.post.url <;> rfl

/-- After a new row two cells show the same exactly if each view that the row does not set
has been left alike. -/
theorem assign_recycled_eq_iff (first second : List PostRow) (row : PostRow) :
    (recycled url? first).assign url? row = (recycled url? second).assign url? row ↔
      (row.post.url.isSome ∨ leftPhoto url? first = leftPhoto url? second) ∧
        (row.user.profileImageUrl.isSome ∨ leftProfile url? first = leftProfile url? second) ∧
        (row.post.timestamp.isSome ∨ leftTime first = leftTime second) := by
  simp only [assign_recycled, mk.injEq, ImageView.mk.injEq, getD_eq_getD_iff, Option.isSome_map,
    true_and, and_true]
  exact and_left_comm

end TimelineTableViewCell

/-! ## The cell of a comment -/

/-- What the comment page assigns to a cell, and when. -/
structure CommentRow where
  comment : Comment
  user : User
  now : ℚ

namespace CommentTableViewCell

/-- The assignments of `cellForRowAt`. -/
def assign (row : CommentRow) (cell : CommentTableViewCell Url) : CommentTableViewCell Url :=
  (cell.updateView row.now row.comment).setupUserInfo url? row.user

/-- The cell after its former rows. -/
def recycled (history : List CommentRow) : CommentTableViewCell Url :=
  history.foldl (fun cell row => (cell.assign url? row).prepareForReuse) awakeFromNib

/-- The profile image that is still requested, and the time that former rows have left. -/
def leftProfile (history : List CommentRow) : Option Url :=
  leftBehind (fun row => row.user.profileImageUrl.map url?) none history

def leftTime (history : List CommentRow) : Option String :=
  leftBehind (fun row => row.comment.timestamp.map fun timestamp =>
    some (timeTextAt row.now timestamp)) (some "Time Label") history

/-- The image that `prepareForReuse` puts up, where the cell has been reused at all. -/
def leftImage (history : List CommentRow) : String :=
  if history = [] then "Head_Icon" else "placeholderImg"

/-- What the former rows have left in the views that a row need not set. -/
theorem recycled_views (history : List CommentRow) :
    (recycled url? history).profileImageView =
        ⟨some (leftImage history), leftProfile url? history, 1⟩ ∧
      (recycled url? history).timeLabel = leftTime history := by
  induction history using List.reverseRecOn with
  | nil => exact ⟨rfl, rfl⟩
  | append_singleton history row inductionHypothesis =>
      obtain ⟨profile, time⟩ := inductionHypothesis
      have last : recycled url? (history ++ [row]) =
          ((recycled url? history).assign url? row).prepareForReuse :=
        List.foldl_concat _ _ _ _
      rw [last]
      simp [prepareForReuse, ImageView.setImage, assign, setupUserInfo, updateView,
        photoView_eq, timeLabelText_eq, profile, time, leftProfile, leftTime, leftImage,
        leftBehind_concat]

/-- What a recycled cell shows of a new row. -/
theorem assign_recycled (history : List CommentRow) (row : CommentRow) :
    (recycled url? history).assign url? row =
      { profileImageView := ⟨(row.user.profileImageUrl.map fun _ => some "Head_Icon").getD
            (some (leftImage history)),
          (row.user.profileImageUrl.map url?).getD (leftProfile url? history), 1⟩
        nameLabel := row.user.firstname
        commentLabel := row.comment.commentText
        timeLabel := (row.comment.timestamp.map fun timestamp =>
          some (timeTextAt row.now timestamp)).getD (leftTime history) } := by
  obtain ⟨profile, time⟩ := recycled_views url? history
  simp only [assign, setupUserInfo, updateView, photoView_eq, timeLabelText_eq, profile, time]

theorem leftImage_eq_iff (first second : List CommentRow) :
    leftImage first = leftImage second ↔ (first = [] ↔ second = []) := by
  unfold leftImage
  split_ifs with firstEmpty secondEmpty secondEmpty <;> simp [firstEmpty, secondEmpty]

/-- After a new row two cells show the same exactly if each view that the row does not set
has been left alike. -/
theorem assign_recycled_eq_iff (first second : List CommentRow) (row : CommentRow) :
    (recycled url? first).assign url? row = (recycled url? second).assign url? row ↔
      (row.user.profileImageUrl.isSome ∨
          (first = [] ↔ second = []) ∧ leftProfile url? first = leftProfile url? second) ∧
        (row.comment.timestamp.isSome ∨ leftTime first = leftTime second) := by
  simp only [assign_recycled, mk.injEq, ImageView.mk.injEq, getD_eq_getD_iff, Option.isSome_map,
    Option.some.injEq, leftImage_eq_iff, true_and, and_true, or_and_left, and_assoc]

end CommentTableViewCell

/-! ## The cell of the profile grid -/

namespace PhotoCollectionViewCell

/-- The cell after its former rows. -/
def recycled (history : List Post) : PhotoCollectionViewCell Url :=
  history.foldl (fun cell post => (cell.updateView url? post).prepareForReuse) awakeFromNib

/-- The image that former rows have left. -/
def leftPhoto (history : List Post) : Option Url :=
  leftBehind (fun post => post.url.map url?) none history

/-- Every row has left a recognizer. -/
theorem recycled_eq (history : List Post) :
    recycled url? history = ⟨⟨none, leftPhoto url? history, history.length⟩⟩ := by
  induction history using List.reverseRecOn with
  | nil => rfl
  | append_singleton history post inductionHypothesis =>
      have last : recycled url? (history ++ [post]) =
          ((recycled url? history).updateView url? post).prepareForReuse :=
        List.foldl_concat _ _ _ _
      rw [last, inductionHypothesis]
      cases url : post.url <;>
        simp [prepareForReuse, updateView, photoView, url, ImageView.addGestureRecognizer,
          ImageView.sd_setImage, leftPhoto, leftBehind_concat]

/-- After a new row two cells show the same exactly if they have had equally many rows, and
the image is set or has been left alike. -/
theorem updateView_recycled_eq_iff (first second : List Post) (post : Post) :
    (recycled url? first).updateView url? post = (recycled url? second).updateView url? post ↔
      first.length = second.length ∧
        (post.url.isSome ∨ leftPhoto url? first = leftPhoto url? second) := by
  simp only [recycled_eq, updateView, photoView_eq, ImageView.addGestureRecognizer, mk.injEq,
    ImageView.mk.injEq, getD_eq_getD_iff, Option.isSome_map, Nat.add_right_cancel_iff]
  simp [and_comm]

end PhotoCollectionViewCell

/-! ## The three cells -/

/-- For each of the three cells, after any two histories and with any new row: the cell
shows the same exactly if each view that the row does not set has been left alike and, on
the profile grid, the histories have the same length. -/
theorem recycled_alike_iff :
    (∀ (first second : List PostRow) (row : PostRow),
        (TimelineTableViewCell.recycled url? first).assign url? row =
            (TimelineTableViewCell.recycled url? second).assign url? row ↔
          (row.post.url.isSome ∨ TimelineTableViewCell.leftPhoto url? first =
              TimelineTableViewCell.leftPhoto url? second) ∧
            (row.user.profileImageUrl.isSome ∨ TimelineTableViewCell.leftProfile url? first =
              TimelineTableViewCell.leftProfile url? second) ∧
            (row.post.timestamp.isSome ∨ TimelineTableViewCell.leftTime first =
              TimelineTableViewCell.leftTime second)) ∧
      (∀ (first second : List CommentRow) (row : CommentRow),
        (CommentTableViewCell.recycled url? first).assign url? row =
            (CommentTableViewCell.recycled url? second).assign url? row ↔
          (row.user.profileImageUrl.isSome ∨ (first = [] ↔ second = []) ∧
              CommentTableViewCell.leftProfile url? first =
                CommentTableViewCell.leftProfile url? second) ∧
            (row.comment.timestamp.isSome ∨
              CommentTableViewCell.leftTime first = CommentTableViewCell.leftTime second)) ∧
      ∀ (first second : List Post) (post : Post),
        (PhotoCollectionViewCell.recycled url? first).updateView url? post =
            (PhotoCollectionViewCell.recycled url? second).updateView url? post ↔
          first.length = second.length ∧
            (post.url.isSome ∨ PhotoCollectionViewCell.leftPhoto url? first =
              PhotoCollectionViewCell.leftPhoto url? second) :=
  ⟨TimelineTableViewCell.assign_recycled_eq_iff url?,
    CommentTableViewCell.assign_recycled_eq_iff url?,
    PhotoCollectionViewCell.updateView_recycled_eq_iff url?⟩

/-! ## A cell that was there before -/

/-- A post as the app stores it. -/
def storedPost : Post :=
  ⟨some "A day out", some "https://host/a", some "p", some "uidA", none, some 0, some "sea",
    some "97.00%"⟩

/-- A post without an image or a time. -/
def barePost : Post := ⟨some "Later", none, some "q", some "uidA", none, none, none, none⟩

/-- A user with a photo, and one without. -/
def photographed : User :=
  ⟨none, some "https://host/me", some "A", some "uidA", "Unknow", none, none, none⟩

def faceless : User := ⟨none, none, some "B", some "uidB", "Unknow", none, none, none⟩

/-- On the profile grid a stored post has one recognizer in a new cell, and two in a
recycled one; a row of the timeline without image, photo and time shows those of the row
before, and a comment without a photo and a time keeps the request and the time. -/
theorem recycled_cells_differ :
    (PhotoCollectionViewCell.recycled some []).updateView some storedPost ≠
        (PhotoCollectionViewCell.recycled some [storedPost]).updateView some storedPost ∧
      (TimelineTableViewCell.recycled some []).assign some ⟨barePost, faceless, 60⟩ ≠
        (TimelineTableViewCell.recycled some [⟨storedPost, photographed, 60⟩]).assign some
          ⟨barePost, faceless, 60⟩ ∧
      (CommentTableViewCell.recycled some [⟨⟨none, none, none⟩, faceless, 60⟩]).assign some
          ⟨⟨none, none, none⟩, faceless, 60⟩ ≠
        (CommentTableViewCell.recycled some [⟨⟨none, none, some 0⟩, photographed, 60⟩]).assign some
          ⟨⟨none, none, none⟩, faceless, 60⟩ := by
  refine ⟨by decide, ?_, ?_⟩
  · rw [Ne, TimelineTableViewCell.assign_recycled_eq_iff]
    rintro ⟨photo, _⟩
    exact absurd photo (by decide)
  · rw [Ne, CommentTableViewCell.assign_recycled_eq_iff]
    rintro ⟨profile, _⟩
    exact absurd profile (by decide)

end Familog.Cells
