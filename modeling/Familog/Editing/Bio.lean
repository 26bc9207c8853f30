import Familog.Async.Program
import Familog.MainPage.EditProfile
import Familog.Swift.Graphemes

/-!
Contract: the limit that the text view puts on the bio.

Owns `shouldChangeTextIn`, the field that it guards, and the exact condition under which
an edit is accepted just when it leaves at most 38 characters. The check adds and
subtracts characters of the texts and UTF-16 units of the replaced range: replacing a
range with more units than characters is accepted for as many characters too many.

Owns also what the limit is for: the save drops a bio of 40 characters or more.
-/

set_option autoImplicit false

namespace Familog.Editing.Bio

open Async Swift MainPage

/-- A proposed edit: a range, and the text that is to replace it. -/
structure Edit where
  range : NSRange
  text : Characters

/-- `textView(_:shouldChangeTextIn:replacementText:)` on the text of the field. -/
def shouldChangeTextIn (bioText : Characters) (edit : Edit) : Bool :=
  decide ((bioText.length : Int) + ((edit.text.length : Int) - (edit.range.length : Int)) ≤ 38)

/-- The field after an accepted edit. A refused one changes nothing; a range that begins
or ends inside a character cannot be proposed. -/
def handle (bioText : Characters) (edit : Edit) : Option (Characters × List Empty) :=
  (bioText.replacingCharacters edit.range edit.text).map fun result =>
    (if shouldChangeTextIn bioText edit then result else bioText, [])

/-- The text view of the bio. Nothing is ever pending. -/
def field : Program Characters Edit Empty Empty where
  handle := handle
  resume _ task _ := task.elim

/-- The edit leaves too many characters, but no more of them than the replaced range has
units beyond its characters. -/
def Overshoots (bioText : Characters) (edit : Edit) : Prop :=
  ∃ parts ∈ bioText.cut edit.range,
    38 < (parts.before ++ edit.text ++ parts.after).length ∧
      (parts.before ++ edit.text ++ parts.after).length ≤ 38 + parts.surplus

instance (bioText : Characters) (edit : Edit) : Decidable (Overshoots bioText edit) :=
  inferInstanceAs (Decidable (∃ parts ∈ bioText.cut edit.range, _))

section Edits

variable {bioText result : Characters} {edit : Edit}

/-- An edit is accepted exactly if it leaves at most 38 characters, or the surplus of the
replaced range more. -/
theorem shouldChangeTextIn_iff {parts : Characters.Cut}
    (isCut : bioText.cut edit.range = some parts) : shouldChangeTextIn bioText edit = true ↔
      (parts.before ++ edit.text ++ parts.after).length ≤ 38 + parts.surplus := by
  obtain ⟨whole, _, units⟩ := Characters.cut_eq_some.mp isCut
  have lengths := congrArg List.length whole
  have fewer := Characters.length_le_utf16Count parts.replaced
  simp only [List.length_append] at lengths
  simp only [shouldChangeTextIn, decide_eq_true_eq, List.length_append, Characters.Cut.surplus]
  omega

/-- The check agrees with the limit exactly if the edit does not overshoot. -/
theorem accepts_iff (replaced : bioText.replacingCharacters edit.range edit.text = some result) :
    (shouldChangeTextIn bioText edit = true ↔ result.length ≤ 38) ↔ ¬ Overshoots bioText edit := by
  obtain ⟨parts, isCut, rfl⟩ := Option.map_eq_some_iff.mp replaced
  have overshoots : Overshoots bioText edit ↔
      38 < (parts.before ++ edit.text ++ parts.after).length ∧
        (parts.before ++ edit.text ++ parts.after).length ≤ 38 + parts.surplus := by
    simp [Overshoots, isCut]
  rw [shouldChangeTextIn_iff isCut, overshoots]
  omega

/-- A short field stays short exactly if the edit does not overshoot. -/
theorem short_iff {next : Characters} {new : List Empty} (short : bioText.length ≤ 38)
    (handled : handle bioText edit = some (next, new)) :
    next.length ≤ 38 ↔ ¬ Overshoots bioText edit := by
  obtain ⟨result, replaced, same⟩ := Option.map_eq_some_iff.mp handled
  obtain ⟨rfl, rfl⟩ := Prod.mk.inj same
  have accepts := accepts_iff replaced
  split_ifs with accepted
  · rw [← accepts]
    simp [accepted]
  · -- A refused edit leaves a long text, so it does not overshoot.
    rw [← accepts]
    refine iff_of_true short ?_
    obtain ⟨parts, isCut, rfl⟩ := Option.map_eq_some_iff.mp replaced
    have refused := (shouldChangeTextIn_iff isCut).not.mp accepted
    refine iff_of_false accepted ?_
    omega

end Edits

/-! ## Every sequence of edits -/

/-- The field holds at most 38 characters. -/
def Short (config : Config Characters Empty) : Prop := config.state.length ≤ 38

/-- From the empty field the field stays short all along exactly if no edit overshoots. -/
theorem always_short_iff {labels : List (Label Edit Empty)} {last : Config Characters Empty}
    (ran : field.run (Program.start []) labels = some last) :
    field.Always Short (Program.start []) labels ↔
      field.Obeys (onState (fun bioText edit => ¬ Overshoots bioText edit) fun _ _ _ => True)
        (Program.start []) labels := by
  refine Program.always_iff_obeys ?_ (by simp [Short, Program.start]) Program.obeys_true ran
  intro config label next short _ taken
  rcases Program.step_cases taken with
    ⟨edit, new, rfl, handled, _⟩ | ⟨_, answer, _⟩
  · exact short_iff short handled
  · exact answer.elim

/-- The save stores a bio that is not empty exactly if it has fewer than 40 characters. -/
theorem bio_stored_iff {count : String → ℕ} {fields : EditProfile.Form}
    (nonempty : 0 < count fields.bio) :
    ("bio", fields.bio) ∈ EditProfile.writes count fields ↔ count fields.bio < 40 := by
  simp only [EditProfile.writes, List.mem_append]
  constructor
  · rintro ((name | dob) | bio)
    · split_ifs at name <;> simp at name
    · split_ifs at dob <;> simp at dob
    · split_ifs at bio with fits
      · exact fits.2
      · simp at bio
  · intro fits
    right
    rw [if_pos ⟨nonempty, fits⟩]
    exact List.mem_singleton_self _

/-- The check accepts an edit just when it leaves at most 38 characters, exactly if the edit
does not overshoot. From the empty field the text stays within the limit, exactly if no edit
of the run overshoots; and then the save stores every text that is not empty, as the string
of that many characters. -/
theorem bio_limited_iff {bioText result : Characters} {edit : Edit}
    (replaced : bioText.replacingCharacters edit.range edit.text = some result)
    {labels : List (Label Edit Empty)} {last : Config Characters Empty}
    (ran : field.run (Program.start []) labels = some last) :
    ((shouldChangeTextIn bioText edit = true ↔ result.length ≤ 38) ↔ ¬ Overshoots bioText edit) ∧
      (field.Always Short (Program.start []) labels ↔
        field.Obeys (onState (fun bioText edit => ¬ Overshoots bioText edit) fun _ _ _ => True)
          (Program.start []) labels) ∧
      (field.Always Short (Program.start []) labels →
        ∀ (count : String → ℕ) (fields : EditProfile.Form),
          count fields.bio = last.state.length → 0 < last.state.length →
            ("bio", fields.bio) ∈ EditProfile.writes count fields) := by
  refine ⟨accepts_iff replaced, always_short_iff ran, fun always count fields counted filled => ?_⟩
  have short : last.state.length ≤ 38 := Program.always_last always ran
  rw [bio_stored_iff (by omega)]
  omega

/-! ## A character of eleven units -/

/-- A letter. -/
def letter : Character := ⟨[0x61], by simp⟩

/-- A family of four: one character of eleven units. -/
def familyOfFour : Character :=
  ⟨[0xD83D, 0xDC68, 0x200D, 0xD83D, 0xDC69, 0x200D, 0xD83D, 0xDC67, 0x200D, 0xD83D, 0xDC66],
    by simp⟩

/-- The field is filled with 37 letters and the family. -/
def filling : Edit := ⟨⟨0, 0⟩, List.replicate 37 letter ++ [familyOfFour]⟩

/-- The family is replaced by eleven letters. -/
def replacement : Edit := ⟨⟨37, 11⟩, List.replicate 11 letter⟩

/-- The bio of 48 letters. -/
def longBio : EditProfile.Form :=
  ⟨"", "", "aaaaaaaaaaaaaaaaaaaaaaaaaaaaaaaaaaaaaaaaaaaaaaaa", false, true⟩

/-- The replacement is accepted and leaves 48 characters, and the save drops them. -/
theorem long_bio_accepted :
    (∃ last, field.run (Program.start []) [.event filling, .event replacement] = some last ∧
        ¬ Short last ∧ last.state.length = String.length longBio.bio) ∧
      ("bio", longBio.bio) ∉ EditProfile.writes String.length longBio := by
  refine ⟨?_, by decide⟩
  obtain ⟨last, ran, long⟩ : ∃ last, field.run (Program.start [])
      [.event filling, .event replacement] = some last ∧ last.state.length = 48 :=
    Program.exists_run (by decide)
  refine ⟨last, ran, ?_, long.trans (by decide)⟩
  rw [Short, long]
  decide

/-- The family is replaced by one letter. -/
def swap : Edit := ⟨⟨37, 11⟩, [letter]⟩

/-- The bio of 38 letters. -/
def fullBio : EditProfile.Form := ⟨"", "", "aaaaaaaaaaaaaaaaaaaaaaaaaaaaaaaaaaaaaa", false, true⟩

/-- At the limit the family may be replaced by one letter: the check is right, the limit holds
all along, and the save stores the 38 letters. -/
theorem bio_limited_iff_swap :
    (∃ last, field.run (Program.start []) [.event filling, .event swap] = some last ∧
        last.state.length = 38) ∧
      shouldChangeTextIn filling.text swap = true ∧
      field.Always Short (Program.start []) [.event filling, .event swap] ∧
      ("bio", fullBio.bio) ∈ EditProfile.writes String.length fullBio := by
  obtain ⟨last, ran, full⟩ : ∃ last, field.run (Program.start [])
      [.event filling, .event swap] = some last ∧ last.state.length = 38 :=
    Program.exists_run (by decide)
  obtain ⟨result, replaced, short⟩ : ∃ result,
      filling.text.replacingCharacters swap.range swap.text = some result ∧ result.length ≤ 38 :=
    ⟨_, rfl, by decide⟩
  obtain ⟨check, limit, stores⟩ := bio_limited_iff replaced ran
  have always := limit.mpr (by decide)
  exact ⟨⟨last, ran, full⟩, (check.mpr (by decide)).mpr short, always,
    stores always String.length fullBio (full ▸ by decide) (by omega)⟩

end Familog.Editing.Bio
