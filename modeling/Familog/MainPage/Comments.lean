import Familog.Store

/-!
Contract: `CommentViewController.sendComment` and the events that lead to it.

Owns the text field and the send button: `textFieldDidChange` enables the button by the
text, `empty` disables it after a comment has been sent, and the storyboard starts with
an empty field and an enabled button. The return key of the keyboard sends as well, and
looks at neither.

Does not own the list of the comments, which is loaded anew after a comment.
-/

set_option autoImplicit false

namespace Familog.MainPage.Comments

open Firestore

/-- `postId`, the text of `commentTextField`, and `sendButton.isEnabled`. Whether the text
has been edited or a comment has been sent is not stored by the source. -/
structure Screen where
  postId : String
  text : String
  isEnabled : Bool
  touched : Bool

/-- The screen as the storyboard has it, for the post that `prepare(for:)` passes on. -/
def Screen.opened (postId : String) : Screen := ⟨postId, "", true, false⟩

/-- The write of a comment under the id that was made for it. -/
inductive Task where
  | setData (ref : String) (data : Fields)

/-- The text is edited, the button is tapped, or the return key is pressed. A comment is
sent with a new id and the seconds of the clock. -/
inductive Event where
  | textFieldDidChange (text : String)
  | sendButton_TouchUpInside (ref : String) (timestamp : Int)
  | textFieldShouldReturn (ref : String) (timestamp : Int)

def Screen.textFieldDidChange (screen : Screen) (text : String) : Screen :=
  { screen with text := text, isEnabled := decide (text ≠ ""), touched := true }

/-- `empty`. -/
def Screen.empty (screen : Screen) : Screen :=
  { screen with text := "", isEnabled := false, touched := true }

def sendComment (currentUser : Uid) (screen : Screen) (ref : String) (timestamp : Int) :
    Screen × List Task :=
  (screen.empty, [.setData ref (commentData screen.text timestamp currentUser screen.postId)])

/-- Run the handler of one event. A disabled button cannot be tapped. -/
def handle (currentUser : Uid) (screen : Screen) : Event → Option (Screen × List Task)
  | .textFieldDidChange text => some (screen.textFieldDidChange text, [])
  | .sendButton_TouchUpInside ref timestamp =>
      if screen.isEnabled then some (sendComment currentUser screen ref timestamp) else none
  | .textFieldShouldReturn ref timestamp => some (sendComment currentUser screen ref timestamp)

/-- An event edits the text, or sends it; the button sends only while it is enabled. -/
theorem handle_cases {currentUser : Uid} {screen next : Screen} {event : Event}
    {new : List Task} (handled : handle currentUser screen event = some (next, new)) :
    (∃ text, event = .textFieldDidChange text ∧ next = screen.textFieldDidChange text ∧
        new = []) ∨
      ∃ ref timestamp, next = screen.empty ∧
        new = [.setData ref (commentData screen.text timestamp currentUser screen.postId)] ∧
        (event = .sendButton_TouchUpInside ref timestamp ∧ screen.isEnabled = true ∨
          event = .textFieldShouldReturn ref timestamp) := by
  cases event with
  | textFieldDidChange text =>
      obtain ⟨rfl, rfl⟩ := Prod.mk.inj (Option.some.inj handled)
      exact Or.inl ⟨text, rfl, rfl, rfl⟩
  | sendButton_TouchUpInside ref timestamp =>
      simp only [handle] at handled
      split_ifs at handled with enabled
      obtain ⟨rfl, rfl⟩ := Prod.mk.inj (Option.some.inj handled)
      exact Or.inr ⟨ref, timestamp, rfl, rfl, Or.inl ⟨rfl, enabled⟩⟩
  | textFieldShouldReturn ref timestamp =>
      obtain ⟨rfl, rfl⟩ := Prod.mk.inj (Option.some.inj handled)
      exact Or.inr ⟨ref, timestamp, rfl, rfl, Or.inr rfl⟩

end Familog.MainPage.Comments
