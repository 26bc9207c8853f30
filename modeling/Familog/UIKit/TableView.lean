import Mathlib.Data.List.InsertIdx

/-!
Contract: one section of a table view that is told about single rows.

Owns the labels the rows were rendered with, the three calls that insert, reload
or delete one row, and UIKit's check that the data source has as many rows as
the call leaves. A row is rendered when it is inserted or reloaded; the other
rows keep their labels and shift.

Does not own the data source, cell reuse or animation.
-/

set_option autoImplicit false

namespace Familog.UIKit

variable {Label : Type*}

/-- A call that changes one row. -/
inductive RowUpdate where
  | insertRows (row : ℕ)
  | reloadRows (row : ℕ)
  | deleteRows (row : ℕ)
deriving DecidableEq

/-- UIKit's check: the row is in range, and the number of rows changes by one, by
nothing, or by minus one. -/
def RowUpdate.Checked (before after : ℕ) : RowUpdate → Prop
  | .insertRows row => row < after ∧ after = before + 1
  | .reloadRows row => row < before ∧ after = before
  | .deleteRows row => row < before ∧ after + 1 = before

/-- The labels that are shown after a call, with what the data source returns now;
`none` where UIKit raises an exception. -/
def perform (source rows : List Label) : RowUpdate → Option (List Label)
  | .insertRows row =>
      if source.length = rows.length + 1 then
        source[row]?.map fun label => rows.insertIdx row label
      else none
  | .reloadRows row =>
      if source.length = rows.length then source[row]?.map fun label => rows.set row label
      else none
  | .deleteRows row =>
      if source.length + 1 = rows.length ∧ row < rows.length then some (rows.eraseIdx row)
      else none

/-- Away from the row of the call, the labels are those of before. -/
def RowUpdate.Elsewhere (before after : List Label) : RowUpdate → Prop
  | .insertRows row => after.eraseIdx row = before
  | .reloadRows row => after.eraseIdx row = before.eraseIdx row
  | .deleteRows row => after = before.eraseIdx row

section Perform

variable {source rows shown : List Label} {update : RowUpdate}

theorem perform_isSome_iff :
    (perform source rows update).isSome ↔ update.Checked rows.length source.length := by
  cases update with
  | insertRows row =>
      simp only [perform, RowUpdate.Checked]
      split_ifs with count
      · simp [count]
      · simp [count]
  | reloadRows row =>
      simp only [perform, RowUpdate.Checked]
      split_ifs with count
      · simp [count]
      · simp [count]
  | deleteRows row =>
      simp only [perform, RowUpdate.Checked]
      split_ifs with count
      · simp [count]
      · simp only [Option.isSome_none, Bool.false_eq_true, false_iff]
        exact fun checked => count ⟨checked.2, checked.1⟩

/-- Everything a call that UIKit accepts can do. -/
inductive Performed (source rows : List Label) : RowUpdate → List Label → Prop where
  | insertRows {row} (inRange : row < source.length) :
      source.length = rows.length + 1 →
      Performed source rows (.insertRows row) (rows.insertIdx row source[row])
  | reloadRows {row} (inRange : row < source.length) :
      source.length = rows.length →
      Performed source rows (.reloadRows row) (rows.set row source[row])
  | deleteRows {row} :
      row < rows.length → source.length + 1 = rows.length →
      Performed source rows (.deleteRows row) (rows.eraseIdx row)

theorem performed_of_perform (performed : perform source rows update = some shown) :
    Performed source rows update shown := by
  have checked : update.Checked rows.length source.length :=
    perform_isSome_iff.mp (by rw [performed]; rfl)
  cases update with
  | insertRows row =>
      obtain ⟨inRange, count⟩ := checked
      simp only [perform, if_pos count, List.getElem?_eq_getElem inRange, Option.map_some,
        Option.some.injEq] at performed
      rw [← performed]
      exact .insertRows inRange count
  | reloadRows row =>
      obtain ⟨inRange, count⟩ := checked
      have present : row < source.length := by omega
      simp only [perform, if_pos count, List.getElem?_eq_getElem present, Option.map_some,
        Option.some.injEq] at performed
      rw [← performed]
      exact .reloadRows present count
  | deleteRows row =>
      obtain ⟨inRange, count⟩ := checked
      simp only [perform, if_pos (And.intro count inRange), Option.some.injEq] at performed
      rw [← performed]
      exact .deleteRows inRange count

/-- After a call UIKit tracks as many rows as the data source has. -/
theorem length_of_perform (performed : perform source rows update = some shown) :
    shown.length = source.length := by
  cases performed_of_perform performed with
  | insertRows inRange count =>
      rw [List.length_insertIdx_of_le_length (by omega), count]
  | reloadRows inRange count =>
      rw [List.length_set, count]
  | deleteRows inRange count =>
      rw [List.length_eraseIdx_of_lt inRange]
      omega

private theorem insertIdx_eraseIdx_self {labels : List Label} {row : ℕ}
    (inRange : row < labels.length) :
    (labels.eraseIdx row).insertIdx row labels[row] = labels := by
  induction labels generalizing row with
  | nil => simp at inRange
  | cons label rest ih =>
      cases row with
      | zero => rfl
      | succ row =>
          simp only [List.eraseIdx_cons_succ, List.insertIdx_succ_cons, List.getElem_cons_succ]
          rw [ih]

private theorem eraseIdx_eq_iff_set_eq {left right : List Label} {row : ℕ} {label : Label}
    (there : right[row]? = some label) (count : left.length = right.length) :
    left.set row label = right ↔ right.eraseIdx row = left.eraseIdx row := by
  induction left generalizing right row with
  | nil =>
      obtain rfl : right = [] := List.length_eq_zero_iff.mp count.symm
      simp at there
  | cons head rest ih =>
      cases right with
      | nil => simp at there
      | cons other others =>
          simp only [List.length_cons, Nat.add_right_cancel_iff] at count
          cases row with
          | zero =>
              simp only [List.getElem?_cons_zero, Option.some.injEq] at there
              simp [there, eq_comm]
          | succ row =>
              simp only [List.getElem?_cons_succ] at there
              have tails := ih there count
              simp only [List.set_cons_succ, List.eraseIdx_cons_succ, List.cons.injEq, tails]
              exact and_congr_left' eq_comm

/-- After a call the labels are those of the data source exactly if, away from the
row of the call, the data source has the labels that were shown before. -/
theorem perform_eq_source_iff (performed : perform source rows update = some shown) :
    shown = source ↔ update.Elsewhere rows source := by
  cases performed_of_perform performed with
  | @insertRows row inRange count =>
      constructor
      · intro same
        show source.eraseIdx row = rows
        rw [← same, List.eraseIdx_insertIdx_self]
      · intro same
        rw [← show source.eraseIdx row = rows from same]
        exact insertIdx_eraseIdx_self inRange
  | reloadRows inRange count =>
      exact eraseIdx_eq_iff_set_eq (List.getElem?_eq_getElem inRange) count.symm
  | deleteRows inRange count =>
      exact eq_comm

end Perform

end Familog.UIKit
