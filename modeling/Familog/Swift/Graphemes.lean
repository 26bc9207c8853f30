import Mathlib.Data.List.Basic

/-!
Contract: the two lengths of a Swift string.

Owns texts as sequences of characters, each of one or more UTF-16 units; `count`, which
is the number of characters; ranges, which count UTF-16 units; and the replacement of a
range that begins and ends between two characters.

Does not own how scalars form characters. The characters beside a replaced range stay
what they are.
-/

set_option autoImplicit false

namespace Familog.Swift

/-- A character, with its UTF-16 units. -/
structure Character where
  units : List UInt16
  nonempty : units ≠ []
deriving DecidableEq

/-- A text. `String.count` is its length. -/
abbrev Characters := List Character

/-- `NSRange`, in UTF-16 units. -/
structure NSRange where
  location : ℕ
  length : ℕ
deriving DecidableEq

namespace Characters

/-- `(text as NSString).length`. -/
def utf16Count : Characters → ℕ
  | [] => 0
  | character :: rest => character.units.length + utf16Count rest

@[simp] theorem utf16Count_nil : utf16Count [] = 0 := rfl

@[simp] theorem utf16Count_cons (character : Character) (rest : Characters) :
    utf16Count (character :: rest) = character.units.length + utf16Count rest := rfl

/-- A text has no more characters than units. -/
theorem length_le_utf16Count (text : Characters) : text.length ≤ utf16Count text := by
  induction text with
  | nil => simp
  | cons character rest inductionHypothesis =>
      have := List.length_pos_iff.mpr character.nonempty
      rw [List.length_cons, utf16Count_cons]
      omega

/-- The text up to a number of units and from there on, if there is an end of a character. -/
def splitUnits : ℕ → Characters → Option (Characters × Characters)
  | 0, text => some ([], text)
  | _ + 1, [] => none
  | offset + 1, character :: rest =>
      if character.units.length ≤ offset + 1 then
        (splitUnits (offset + 1 - character.units.length) rest).map fun parts =>
          (character :: parts.1, parts.2)
      else none

/-- What is cut is the text, and the first part has the units asked for. -/
theorem splitUnits_eq_some {offset : ℕ} {text : Characters} {parts : Characters × Characters}
    (split : splitUnits offset text = some parts) :
    parts.1 ++ parts.2 = text ∧ utf16Count parts.1 = offset := by
  induction text generalizing offset parts with
  | nil =>
      cases offset with
      | zero =>
          obtain rfl := Option.some.inj split
          exact ⟨rfl, rfl⟩
      | succ offset => simp [splitUnits] at split
  | cons character rest inductionHypothesis =>
      cases offset with
      | zero =>
          obtain rfl := Option.some.inj split
          exact ⟨rfl, rfl⟩
      | succ offset =>
          simp only [splitUnits] at split
          split_ifs at split with fits
          obtain ⟨inner, found, rfl⟩ := Option.map_eq_some_iff.mp split
          obtain ⟨whole, units⟩ := inductionHypothesis found
          refine ⟨congrArg (List.cons character) whole, ?_⟩
          rw [utf16Count_cons, units]
          omega

/-- A text is cut where a part of it ends. -/
theorem splitUnits_append (before after : Characters) :
    splitUnits (utf16Count before) (before ++ after) = some (before, after) := by
  induction before with
  | nil => cases after <;> rfl
  | cons character rest inductionHypothesis =>
      have positive := List.length_pos_iff.mpr character.nonempty
      obtain ⟨offset, isOffset⟩ : ∃ offset, utf16Count (character :: rest) = offset + 1 :=
        Nat.exists_eq_succ_of_ne_zero (by rw [utf16Count_cons]; omega)
      rw [isOffset, List.cons_append, splitUnits]
      rw [utf16Count_cons] at isOffset
      have remaining : offset + 1 - character.units.length = utf16Count rest := by omega
      rw [if_pos (by omega), remaining, inductionHypothesis]
      rfl

/-- A text around a range: what is before it, in it and after it. -/
structure Cut where
  before : Characters
  replaced : Characters
  after : Characters

/-- The text around the range, if it begins and ends between two characters. -/
def cut (text : Characters) (range : NSRange) : Option Cut :=
  (splitUnits range.location text).bind fun outer =>
    (splitUnits range.length outer.2).map fun inner => ⟨outer.1, inner.1, inner.2⟩

/-- The text with the range replaced. -/
def replacingCharacters (text : Characters) (range : NSRange) (new : Characters) :
    Option Characters :=
  (cut text range).map fun parts => parts.before ++ new ++ parts.after

/-- Any three parts of a text are cut by the range of the middle one. -/
theorem cut_append (before replaced after : Characters) :
    cut (before ++ replaced ++ after) ⟨utf16Count before, utf16Count replaced⟩ =
      some ⟨before, replaced, after⟩ := by
  rw [cut, List.append_assoc, splitUnits_append, Option.bind_some, splitUnits_append,
    Option.map_some]

/-- What a cut is: its parts make the text, and the range measures the first two. -/
theorem cut_eq_some {text : Characters} {range : NSRange} {parts : Cut} :
    cut text range = some parts ↔ parts.before ++ parts.replaced ++ parts.after = text ∧
      utf16Count parts.before = range.location ∧ utf16Count parts.replaced = range.length := by
  constructor
  · intro isCut
    obtain ⟨outer, outerSplit, rest⟩ := Option.bind_eq_some_iff.mp isCut
    obtain ⟨inner, innerSplit, rfl⟩ := Option.map_eq_some_iff.mp rest
    obtain ⟨outerWhole, location⟩ := splitUnits_eq_some outerSplit
    obtain ⟨innerWhole, length⟩ := splitUnits_eq_some innerSplit
    refine ⟨?_, location, length⟩
    rw [List.append_assoc, innerWhole, outerWhole]
  · intro measured
    obtain ⟨location, length⟩ := range
    obtain ⟨rfl, rfl, rfl⟩ := measured
    exact cut_append parts.before parts.replaced parts.after

/-- The units of the replaced range beyond its characters. -/
def Cut.surplus (parts : Cut) : ℕ := utf16Count parts.replaced - parts.replaced.length

end Characters

end Familog.Swift
