import Mathlib.Data.List.DropRight
import Mathlib.Data.List.Nodup

/-!
Contract: the parts of Swift's `String` and `Set` that programs rely on.

Owns string equality, which is canonical equivalence and not equality of the
stored scalars; trimming by `CharacterSet.whitespacesAndNewlines`; and the
arrays that `Array(Set(xs))` may return, whose order is unspecified.

Does not own the Unicode tables: the normal form that decides canonical
equivalence is a parameter. The two laws it carries hold of NFC: nothing but
the empty text normalises to the empty text, and normalisation neither makes
nor removes a slash.
-/

set_option autoImplicit false

namespace Familog.Swift

/-! ## Equality of strings -/

/-- The normal form by which Swift compares strings. -/
structure CanonicalForm where
  normalize : String → String
  empty_only : ∀ text, normalize text = normalize "" → text = ""
  slash_iff : ∀ left right, normalize left = normalize right →
    ('/' ∈ left.toList ↔ '/' ∈ right.toList)

namespace CanonicalForm

variable (form : CanonicalForm)

/-- Swift's `==` on strings. -/
def Same (left right : String) : Prop := form.normalize left = form.normalize right

instance (left right : String) : Decidable (form.Same left right) :=
  inferInstanceAs (Decidable (_ = _))

/-- Swift's `contains` on an array of strings. -/
def Contains (texts : List String) (text : String) : Prop :=
  ∃ other ∈ texts, form.Same other text

instance (texts : List String) (text : String) : Decidable (form.Contains texts text) :=
  inferInstanceAs (Decidable (∃ other ∈ texts, _))

/-- Text in which every scalar is its own normal form, such as ASCII. -/
def scalars : CanonicalForm where
  normalize := id
  empty_only := fun _ same => same
  slash_iff := fun _ _ same => by
    obtain rfl : _ = _ := same
    exact Iff.rfl

variable {form}

theorem Same.refl (text : String) : form.Same text text := rfl

theorem Same.symm {left right : String} (same : form.Same left right) :
    form.Same right left :=
  Eq.symm same

theorem Same.trans {left middle right : String} (first : form.Same left middle)
    (second : form.Same middle right) : form.Same left right :=
  Eq.trans first second

theorem same_empty {text : String} : form.Same text "" ↔ text = "" := by
  constructor
  · exact form.empty_only text
  · rintro rfl
    exact Same.refl ""

theorem contains_of_mem {texts : List String} {text : String} (member : text ∈ texts) :
    form.Contains texts text :=
  ⟨text, member, Same.refl text⟩

end CanonicalForm

/-! ## Trimming -/

/-- `CharacterSet.whitespacesAndNewlines`: the separators (general category Z),
the tab, and the line terminators. -/
def whitespacesAndNewlines (scalar : Char) : Bool :=
  let code := scalar.toNat
  (0x09 ≤ code && code ≤ 0x0D) || code == 0x20 || code == 0x85 || code == 0xA0 ||
    code == 0x1680 || (0x2000 ≤ code && code ≤ 0x200A) || code == 0x2028 || code == 0x2029 ||
    code == 0x202F || code == 0x205F || code == 0x3000

/-- `trimmingCharacters(in: .whitespacesAndNewlines)`. -/
def trimmingCharacters (text : String) : String :=
  String.ofList
    ((text.toList.dropWhile whitespacesAndNewlines).rdropWhile whitespacesAndNewlines)

/-- The text is the core with white space or newlines typed around it. -/
def TypedAround (core text : String) : Prop :=
  ∃ before after : List Char, (∀ scalar ∈ before, whitespacesAndNewlines scalar = true) ∧
    (∀ scalar ∈ after, whitespacesAndNewlines scalar = true) ∧
    text.toList = before ++ core.toList ++ after

/-- Every text is typed around what trimming leaves of it. -/
theorem typedAround_trimmed (text : String) : TypedAround (trimmingCharacters text) text := by
  refine ⟨text.toList.takeWhile whitespacesAndNewlines,
    (text.toList.dropWhile whitespacesAndNewlines).rtakeWhile whitespacesAndNewlines,
    fun scalar => List.mem_takeWhile_imp, fun scalar => List.mem_rtakeWhile_imp, ?_⟩
  rw [trimmingCharacters, String.toList_ofList, List.append_assoc,
    List.rdropWhile_append_rtakeWhile, List.takeWhile_append_dropWhile]

/-- Trimming takes away whatever is typed around a text. -/
theorem trimmingCharacters_of_typedAround {core text : String} (around : TypedAround core text) :
    trimmingCharacters text = trimmingCharacters core := by
  obtain ⟨before, after, blankBefore, blankAfter, typed⟩ := around
  rw [trimmingCharacters, typed, List.append_assoc, List.dropWhile_append_of_pos blankBefore,
    List.dropWhile_append]
  split_ifs with blank
  -- a blank core: everything is dropped from the left
  · rw [List.dropWhile_eq_nil_iff.mpr blankAfter, trimmingCharacters, List.isEmpty_iff.mp blank]
  -- otherwise what follows the core is dropped from the right
  · rw [trimmingCharacters, List.rdropWhile, List.reverse_append,
      List.dropWhile_append_of_pos fun scalar member =>
        blankAfter scalar (List.mem_reverse.mp member),
      ← List.rdropWhile]

theorem trimmingCharacters_idempotent (text : String) :
    trimmingCharacters (trimmingCharacters text) = trimmingCharacters text :=
  (trimmingCharacters_of_typedAround (typedAround_trimmed text)).symm

/-! ## Arrays made from sets -/

/-- `ys` is an array that `Array(Set(xs))` may return: it takes its elements
from `xs`, keeps one of each class of equal strings, and has them in any order. -/
structure IsSetArray (form : CanonicalForm) (xs ys : List String) : Prop where
  from_source : ∀ text ∈ ys, text ∈ xs
  covers : ∀ text ∈ xs, form.Contains ys text
  distinct : ys.Pairwise fun left right => ¬ form.Same left right

instance (form : CanonicalForm) (xs ys : List String) : Decidable (IsSetArray form xs ys) :=
  decidable_of_iff
    ((∀ text ∈ ys, text ∈ xs) ∧ (∀ text ∈ xs, form.Contains ys text) ∧
      ys.Pairwise fun left right => ¬ form.Same left right)
    ⟨fun ⟨source, covers, distinct⟩ => ⟨source, covers, distinct⟩,
      fun array => ⟨array.from_source, array.covers, array.distinct⟩⟩

/-- Every list of strings can be made into a set and listed. -/
theorem exists_isSetArray (form : CanonicalForm) (xs : List String) :
    ∃ ys, IsSetArray form xs ys := by
  induction xs with
  | nil => exact ⟨[], by simp, by simp, List.Pairwise.nil⟩
  | cons text rest ih =>
      obtain ⟨ys, array⟩ := ih
      by_cases known : form.Contains ys text
      · refine ⟨ys, fun other member => List.mem_cons_of_mem _ (array.from_source other member),
          ?_, array.distinct⟩
        intro other member
        rcases List.mem_cons.mp member with rfl | inRest
        · exact known
        · exact array.covers other inRest
      · refine ⟨text :: ys, ?_, ?_, ?_⟩
        · intro other member
          rcases List.mem_cons.mp member with rfl | inYs
          · exact List.mem_cons_self
          · exact List.mem_cons_of_mem _ (array.from_source other inYs)
        · intro other member
          rcases List.mem_cons.mp member with rfl | inRest
          · exact CanonicalForm.contains_of_mem List.mem_cons_self
          · obtain ⟨found, inYs, same⟩ := array.covers other inRest
            exact ⟨found, List.mem_cons_of_mem _ inYs, same⟩
        · refine List.pairwise_cons.mpr ⟨fun other inYs same => known ⟨other, inYs, ?_⟩,
            array.distinct⟩
          exact same.symm

namespace IsSetArray

variable {form : CanonicalForm} {xs ys : List String}

/-- Containment passes from the array to the set made of it. -/
theorem contains (array : IsSetArray form xs ys) {text : String}
    (contained : form.Contains xs text) : form.Contains ys text := by
  obtain ⟨other, member, same⟩ := contained
  obtain ⟨found, inYs, same'⟩ := array.covers other member
  exact ⟨found, inYs, same'.trans same⟩

/-- An appended string is contained in the set of the longer array. -/
theorem contains_appended {text : String} (array : IsSetArray form (xs ++ [text]) ys) :
    form.Contains ys text :=
  array.contains (CanonicalForm.contains_of_mem (by simp))

end IsSetArray

end Familog.Swift
