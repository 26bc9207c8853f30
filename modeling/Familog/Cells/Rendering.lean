import Familog.Cells.TimeText
import Familog.Records
import Familog.UIKit.ImageView

/-!
Contract: what the cells show of a post, a comment and their author.

Owns `TimelineTableViewCell`, `CommentTableViewCell`, `DetailViewCell` and
`PhotoCollectionViewCell` with the views a row is read from, what each assignment of a
post, a comment or a user sets on them, and `prepareForReuse`. An assignment sets a view
under its own `if let`: where the value is nil the view keeps what it had.

Does not own taps, nor the delete button of the detail cell. Whether a text is a URL is
a parameter, and so is the current time.
-/

set_option autoImplicit false

namespace Familog.Cells

open UIKit

variable {Url : Type*} (url? : String → Option Url)

/-! ## What the cells have in common -/

/-- `timeLabel.text` after `if let timestamp = …`. -/
def timeLabelText (now : ℚ) (timestamp : Option Int) (text : Option String) : Option String :=
  match timestamp with
  | some timestamp => some (timeTextAt now timestamp)
  | none => text

/-- `if let photoUrlString = … { view.sd_setImage(with: URL(string: photoUrlString), …) }`. -/
def photoView (photoUrlString placeholderImage : Option String) (view : ImageView Url) :
    ImageView Url :=
  match photoUrlString with
  | some photoUrlString => view.sd_setImage (url? photoUrlString) placeholderImage
  | none => view

/-! ## The cell of the timeline -/

/-- The texts of the labels, and the two images. -/
structure TimelineTableViewCell (Url : Type*) where
  nameLabel : Option String
  profileImageView : ImageView Url
  postImageView : ImageView Url
  captionLabel : Option String
  timeLabel : Option String
deriving DecidableEq

namespace TimelineTableViewCell

/-- The cell of the storyboard after `awakeFromNib`. -/
def awakeFromNib : TimelineTableViewCell Url where
  nameLabel := some "FirstName"
  profileImageView := ⟨some "Head_Icon", none, 1⟩
  postImageView := ⟨none, none, 1⟩
  captionLabel := some ""
  timeLabel := some "Time"

/-- A post is assigned. -/
def updateView (now : ℚ) (post : Post) (cell : TimelineTableViewCell Url) :
    TimelineTableViewCell Url :=
  { cell with
    captionLabel := post.discription
    postImageView := photoView url? post.url none cell.postImageView
    timeLabel := timeLabelText now post.timestamp cell.timeLabel }

/-- A user is assigned. -/
def setupUserInfo (user : User) (cell : TimelineTableViewCell Url) : TimelineTableViewCell Url :=
  { cell with
    nameLabel := user.firstname
    profileImageView :=
      photoView url? user.profileImageUrl (some "Head_Icon") cell.profileImageView }

/-- The cell does not override it. -/
def prepareForReuse (cell : TimelineTableViewCell Url) : TimelineTableViewCell Url := cell

end TimelineTableViewCell

/-! ## The cell of a comment -/

structure CommentTableViewCell (Url : Type*) where
  profileImageView : ImageView Url
  nameLabel : Option String
  commentLabel : Option String
  timeLabel : Option String
deriving DecidableEq

namespace CommentTableViewCell

/-- The cell of the storyboard after `awakeFromNib`. -/
def awakeFromNib : CommentTableViewCell Url where
  profileImageView := ⟨some "Head_Icon", none, 1⟩
  nameLabel := some "Label"
  commentLabel := some ""
  timeLabel := some "Time Label"

/-- A comment is assigned. -/
def updateView (now : ℚ) (comment : Comment) (cell : CommentTableViewCell Url) :
    CommentTableViewCell Url :=
  { cell with
    commentLabel := comment.commentText
    timeLabel := timeLabelText now comment.timestamp cell.timeLabel }

/-- A user is assigned. -/
def setupUserInfo (user : User) (cell : CommentTableViewCell Url) : CommentTableViewCell Url :=
  { cell with
    nameLabel := user.firstname
    profileImageView :=
      photoView url? user.profileImageUrl (some "Head_Icon") cell.profileImageView }

def prepareForReuse (cell : CommentTableViewCell Url) : CommentTableViewCell Url :=
  { cell with profileImageView := cell.profileImageView.setImage (some "placeholderImg") }

end CommentTableViewCell

/-! ## The cell of the detail page -/

structure DetailViewCell (Url : Type*) where
  timeLabel : Option String
  captionLabel : Option String
  postImageView : ImageView Url
deriving DecidableEq

/-- A post is assigned. -/
def DetailViewCell.updateView (now : ℚ) (post : Post) (cell : DetailViewCell Url) :
    DetailViewCell Url :=
  { cell with
    captionLabel := post.discription
    postImageView := photoView url? post.url none cell.postImageView
    timeLabel := timeLabelText now post.timestamp cell.timeLabel }

/-! ## The cell of the profile grid -/

structure PhotoCollectionViewCell (Url : Type*) where
  photo : ImageView Url
deriving DecidableEq

namespace PhotoCollectionViewCell

/-- The cell of the storyboard. -/
def awakeFromNib : PhotoCollectionViewCell Url where
  photo := ⟨none, none, 0⟩

/-- A post is assigned: the tap recognizer is added here. -/
def updateView (post : Post) (cell : PhotoCollectionViewCell Url) :
    PhotoCollectionViewCell Url where
  photo := (photoView url? post.url none cell.photo).addGestureRecognizer

/-- The cell does not override it. -/
def prepareForReuse (cell : PhotoCollectionViewCell Url) : PhotoCollectionViewCell Url := cell

end PhotoCollectionViewCell

end Familog.Cells
