import Mathlib.Data.List.Basic

/-!
Contract: regular expressions with a start anchor, bounded repetition and look-ahead.

Owns the patterns over any alphabet, the relation between a pattern and the stretches of a
text that it matches, one lemma for each kind of pattern, and what the repetition of a
symbol class matches.

Does not own the notation of patterns, nor the order in which an engine tries the
alternatives: whether a text is matched does not depend on it.
-/

set_option autoImplicit false

namespace Familog.Swift

/-- A pattern over an alphabet. -/
inductive Regex (Symbol : Type*) where
  /-- `^` -/
  | start
  /-- A symbol of a class. -/
  | symbol (inClass : Symbol → Bool)
  | sequence (first second : Regex Symbol)
  /-- `{count,}`; `*` is `{0,}`. -/
  | atLeast (count : ℕ) (repeated : Regex Symbol)
  /-- `(?=ahead)` -/
  | lookAhead (ahead : Regex Symbol)

namespace Regex

variable {Symbol : Type*}

/-- In the text, the pattern leads from what is left to what is left after it. -/
inductive Matches (text : List Symbol) : Regex Symbol → List Symbol → List Symbol → Prop where
  | start : Matches text .start text text
  | symbol {inClass : Symbol → Bool} {scalar : Symbol} {rest : List Symbol} :
      inClass scalar = true → Matches text (.symbol inClass) (scalar :: rest) rest
  | sequence {first second : Regex Symbol} {left middle right : List Symbol} :
      Matches text first left middle → Matches text second middle right →
        Matches text (.sequence first second) left right
  | enough {repeated : Regex Symbol} {left : List Symbol} :
      Matches text (.atLeast 0 repeated) left left
  | once {count : ℕ} {repeated : Regex Symbol} {left middle right : List Symbol} :
      Matches text repeated left middle →
        Matches text (.atLeast (count - 1) repeated) middle right →
        Matches text (.atLeast count repeated) left right
  | lookAhead {ahead : Regex Symbol} {left right : List Symbol} :
      Matches text ahead left right → Matches text (.lookAhead ahead) left left

/-- The pattern matches the whole text. -/
def FullMatch (pattern : Regex Symbol) (text : List Symbol) : Prop :=
  Matches text pattern text []

variable {text left right : List Symbol} {inClass separator : Symbol → Bool}
  {first second ahead : Regex Symbol} {count : ℕ}

/-! ## One lemma for each kind of pattern -/

theorem matches_start : Matches text .start left right ↔ left = text ∧ right = text := by
  constructor
  · rintro ⟨⟩
    exact ⟨rfl, rfl⟩
  · rintro ⟨rfl, rfl⟩
    exact .start

theorem matches_symbol :
    Matches text (.symbol inClass) left right ↔
      ∃ scalar, inClass scalar = true ∧ left = scalar :: right := by
  constructor
  · rintro ⟨⟩
    exact ⟨_, ‹_›, rfl⟩
  · rintro ⟨scalar, inside, rfl⟩
    exact .symbol inside

theorem matches_sequence :
    Matches text (.sequence first second) left right ↔
      ∃ middle, Matches text first left middle ∧ Matches text second middle right := by
  constructor
  · rintro ⟨⟩
    exact ⟨_, ‹_›, ‹_›⟩
  · rintro ⟨middle, before, after⟩
    exact .sequence before after

theorem matches_lookAhead :
    Matches text (.lookAhead ahead) left right ↔
      right = left ∧ ∃ after, Matches text ahead left after := by
  constructor
  · rintro ⟨⟩
    exact ⟨rfl, _, ‹_›⟩
  · rintro ⟨rfl, after, found⟩
    exact .lookAhead found

/-! ## The repetition of a class -/

/-- Scalars of the class, as many as are asked for, can be taken. -/
theorem matches_atLeast_of_all :
    ∀ {taken : List Symbol} {count : ℕ}, count ≤ taken.length →
      (∀ scalar ∈ taken, inClass scalar = true) →
      Matches text (.atLeast count (.symbol inClass)) (taken ++ right) right
  | [], count, long, _ => by
      obtain rfl : count = 0 := Nat.le_zero.mp long
      exact .enough
  | scalar :: rest, count, long, inside => by
      have shorter : count - 1 ≤ rest.length := Nat.sub_le_of_le_add long
      exact .once (.symbol (inside scalar List.mem_cons_self))
        (matches_atLeast_of_all shorter fun other member =>
          inside other (List.mem_cons_of_mem scalar member))

/-- What the repetition takes is a stretch of the class, as long as asked for. -/
theorem matches_atLeast_symbol :
    Matches text (.atLeast count (.symbol inClass)) left right ↔
      ∃ taken, left = taken ++ right ∧ count ≤ taken.length ∧
        ∀ scalar ∈ taken, inClass scalar = true := by
  constructor
  · intro found
    generalize repetition : Regex.atLeast count (.symbol inClass) = pattern at found
    induction found generalizing count with
    | enough =>
        cases repetition
        exact ⟨[], rfl, Nat.zero_le _, by simp⟩
    | once one _ _ inductionHypothesis =>
        cases repetition
        obtain ⟨scalar, inside, rfl⟩ := matches_symbol.mp one
        obtain ⟨taken, rfl, long, all⟩ := inductionHypothesis rfl
        refine ⟨scalar :: taken, rfl, ?_, List.forall_mem_cons.mpr ⟨inside, all⟩⟩
        rw [List.length_cons]
        omega
    | start => cases repetition
    | symbol => cases repetition
    | sequence => cases repetition
    | lookAhead => cases repetition
  · rintro ⟨taken, rfl, long, inside⟩
    exact matches_atLeast_of_all long inside

/-- A stretch of one class and then a scalar of another. -/
theorem matches_through :
    Matches text (.sequence (.atLeast 0 (.symbol separator)) (.symbol inClass)) left right ↔
      ∃ taken scalar, left = taken ++ scalar :: right ∧
        (∀ other ∈ taken, separator other = true) ∧ inClass scalar = true := by
  rw [matches_sequence]
  constructor
  · rintro ⟨middle, stretch, one⟩
    obtain ⟨scalar, inside, rfl⟩ := matches_symbol.mp one
    obtain ⟨taken, split, _, all⟩ := matches_atLeast_symbol.mp stretch
    exact ⟨taken, scalar, split, all, inside⟩
  · rintro ⟨taken, scalar, split, all, inside⟩
    exact ⟨scalar :: right, matches_atLeast_symbol.mpr ⟨taken, split, Nat.zero_le _, all⟩,
      matches_symbol.mpr ⟨scalar, inside, rfl⟩⟩

end Regex

end Familog.Swift
