import Familog.Swift.Text

/-!
Contract: `APTextView`, the text view with a placeholder.

Owns `managePlaceholder`, which runs a moment after the view has been made and first
makes the view its own delegate, the two callbacks that put the placeholder into an empty
field and take it out again, and the edits of the user. The placeholder is text of the
field like any other; which characters the user has typed is noted besides.

Does not own colours, nor the second delegate, which the app does not set.
-/

set_option autoImplicit false

namespace Familog.Editing

open Swift

/-- A character of the field, and whether the user has typed it. -/
abbrev Mark := Char × Bool

/-- The field, whether the view is its own delegate, and whether it is being edited. Who has
typed a character is not stored by the source. -/
structure APTextView where
  field : List Mark
  isDelegate : Bool
  editing : Bool

namespace APTextView

/-- `text`. -/
def text (view : APTextView) : String := String.ofList (view.field.map Prod.fst)

/-- What the user has entered: the characters of the field that the user has typed. -/
def entered (view : APTextView) : String :=
  String.ofList ((view.field.filter Prod.snd).map Prod.fst)

/-- The view as the storyboard has it. -/
def opened : APTextView := ⟨[], false, false⟩

/-- The characters of a text, typed by the user or not. -/
def marked (typed : Bool) (text : String) : List Mark := text.toList.map fun char => (char, typed)

section Callbacks

variable (form : CanonicalForm) (PlaceholderText : String)

def managePlaceholder (view : APTextView) : APTextView :=
  { view with
    isDelegate := true
    field := if view.field = [] then marked false PlaceholderText else view.field }

/-- `textViewDidBeginEditing`; it is called only once the view is its own delegate. -/
def textViewDidBeginEditing (view : APTextView) : APTextView :=
  { view with
    editing := true
    field := if view.isDelegate = true ∧ form.Same view.text PlaceholderText then []
      else view.field }

/-- `textViewDidEndEditing`; the same holds of it. -/
def textViewDidEndEditing (view : APTextView) : APTextView :=
  { view with
    editing := false
    field := if view.isDelegate = true ∧ view.field = [] then marked false PlaceholderText
      else view.field }

/-- The user replaces some characters by others. -/
def edit (view : APTextView) (location length : ℕ) (new : String) : APTextView :=
  { view with
    field := view.field.take location ++ marked true new ++ view.field.drop (location + length) }

end Callbacks

/-! ## What the field holds -/

/-- The user has typed the whole text. -/
def AllTyped (view : APTextView) : Prop := ∀ mark ∈ view.field, mark.2 = true

/-- The field shows the placeholder, which the user has not typed. -/
def Shows (PlaceholderText : String) (view : APTextView) : Prop :=
  view.field = marked false PlaceholderText

instance (PlaceholderText : String) (view : APTextView) :
    Decidable (view.Shows PlaceholderText) :=
  inferInstanceAs (Decidable (_ = _))

/-- The field holds what the user has typed, or shows the placeholder while it is not
edited; the next edit then takes it out. -/
def Sound (PlaceholderText : String) (view : APTextView) : Prop :=
  view.AllTyped ∨ view.Shows PlaceholderText ∧ view.isDelegate = true ∧ view.editing = false

/-- `managePlaceholder` finds an empty field that is not edited, or one that is not empty. -/
def ManagedAside (view : APTextView) : Prop := view.editing = true → view.field ≠ []

instance (view : APTextView) : Decidable view.ManagedAside :=
  inferInstanceAs (Decidable (_ → _))

section Sound

variable {form : CanonicalForm} {PlaceholderText : String} {view : APTextView}

theorem text_of_shows (shows : view.Shows PlaceholderText) : view.text = PlaceholderText := by
  rw [text, shows, marked, List.map_map]
  simp [Function.comp_def]

theorem entered_of_shows (shows : view.Shows PlaceholderText) : view.entered = "" := by
  have none : (marked false PlaceholderText).filter Prod.snd = [] := by
    rw [List.filter_eq_nil_iff]
    intro mark member
    obtain ⟨char, _, rfl⟩ := List.mem_map.mp member
    simp
  rw [entered, shows, none]
  rfl

theorem entered_of_allTyped (typed : view.AllTyped) : view.entered = view.text := by
  rw [entered, List.filter_eq_self.mpr typed, text]

theorem sound_opened : opened.Sound PlaceholderText :=
  Or.inl (by simp [AllTyped, opened])

theorem sound_managePlaceholder (sound : view.Sound PlaceholderText) (aside : view.ManagedAside) :
    (view.managePlaceholder PlaceholderText).Sound PlaceholderText := by
  by_cases empty : view.field = []
  · refine Or.inr ⟨?_, rfl, ?_⟩
    · simp [Shows, managePlaceholder, empty]
    · by_contra editing
      exact aside (by simpa [managePlaceholder] using editing) empty
  · rcases sound with typed | ⟨shows, _, idle⟩
    · exact Or.inl (by simpa [AllTyped, managePlaceholder, empty] using typed)
    · refine Or.inr ⟨?_, rfl, idle⟩
      simpa [Shows, managePlaceholder, empty] using shows

theorem sound_textViewDidBeginEditing (sound : view.Sound PlaceholderText) :
    (view.textViewDidBeginEditing form PlaceholderText).Sound PlaceholderText := by
  left
  unfold AllTyped textViewDidBeginEditing
  split_ifs with placeholder
  · simp
  · rcases sound with typed | ⟨shows, isDelegate, _⟩
    · exact typed
    · refine absurd ⟨isDelegate, ?_⟩ placeholder
      rw [text_of_shows shows]
      exact CanonicalForm.Same.refl _

theorem sound_textViewDidEndEditing (sound : view.Sound PlaceholderText) :
    (view.textViewDidEndEditing PlaceholderText).Sound PlaceholderText := by
  by_cases empty : view.isDelegate = true ∧ view.field = []
  · refine Or.inr ⟨?_, empty.1, rfl⟩
    simp [Shows, textViewDidEndEditing, empty]
  · have same : (view.textViewDidEndEditing PlaceholderText).field = view.field := if_neg empty
    rcases sound with typed | ⟨shows, isDelegate, _⟩
    · exact Or.inl (by rwa [AllTyped, same])
    · exact Or.inr ⟨same.trans shows, isDelegate, rfl⟩

theorem sound_edit {location length : ℕ} {new : String} (sound : view.Sound PlaceholderText)
    (editing : view.editing = true) :
    (view.edit location length new).Sound PlaceholderText := by
  rcases sound with typed | ⟨_, _, idle⟩
  · left
    intro mark member
    simp only [edit, List.mem_append] at member
    rcases member with (before | fresh) | after
    · exact typed mark (List.mem_of_mem_take before)
    · obtain ⟨char, _, rfl⟩ := List.mem_map.mp fresh
      rfl
    · exact typed mark (List.mem_of_mem_drop after)
  · simp [editing] at idle

/-- Nothing that was typed is lost when editing begins, exactly if it is not what the
placeholder is. -/
theorem entered_textViewDidBeginEditing_iff :
    (view.textViewDidBeginEditing form PlaceholderText).entered = view.entered ↔
      (view.isDelegate = true ∧ form.Same view.text PlaceholderText → view.entered = "") := by
  by_cases placeholder : view.isDelegate = true ∧ form.Same view.text PlaceholderText
  · have cleared : (view.textViewDidBeginEditing form PlaceholderText).entered = "" := by
      simp [entered, textViewDidBeginEditing, placeholder]
    rw [cleared]
    exact ⟨fun same _ => same.symm, fun empty => (empty placeholder).symm⟩
  · have same : (view.textViewDidBeginEditing form PlaceholderText).entered = view.entered := by
      simp [entered, textViewDidBeginEditing, placeholder]
    exact iff_of_true same fun both => absurd both placeholder

end Sound

end APTextView

end Familog.Editing
