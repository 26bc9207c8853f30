import Familog.Cells.Rendering

/-!
Contract: what the time labels say.

Owns the law that the three cells which show a time say the same, that they state how
often the largest unit that fits goes into the elapsed time, and that they never state a
smaller age later on.
-/

set_option autoImplicit false

namespace Familog.Cells

/-- Whatever the timestamp and the current time, the time labels of the three cells read
the age in words; they are never empty, and no later label states a smaller age. -/
theorem time_labels_state_age {Url : Type*} (url? : String → Option Url) (now : ℚ)
    (timestamp : Int) (written : Comment) (post : Post) (comment : CommentTableViewCell Url)
    (timeline : TimelineTableViewCell Url) (detail : DetailViewCell Url) :
    let label := fun time => (comment.updateView time
      { written with timestamp := some timestamp }).timeLabel
    ∃ age, Describes (wholeSeconds timestamp now) age ∧ age.text ≠ "" ∧
      label now = some age.text ∧
      (timeline.updateView url? now { post with timestamp := some timestamp }).timeLabel =
        label now ∧
      (detail.updateView url? now { post with timestamp := some timestamp }).timeLabel =
        label now ∧
      ∀ later, now ≤ later → ∀ older : Age, label later = some older.text →
        age.seconds ≤ older.seconds := by
  intro label
  obtain ⟨age, describes, text⟩ := exists_describes (wholeSeconds timestamp now)
  refine ⟨age, describes, age.text_ne_empty, congrArg some text, rfl, rfl, ?_⟩
  intro later order older laterLabel
  obtain ⟨described, describesLater, laterText⟩ :=
    exists_describes (wholeSeconds timestamp later)
  have same : described.text = older.text := laterText.symm.trans (Option.some.inj laterLabel)
  obtain rfl := Age.text_injective same
  exact seconds_mono describes describesLater (wholeSeconds_mono order)

end Familog.Cells
