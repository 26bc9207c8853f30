import Mathlib.Data.List.Basic
import Mathlib.Logic.Function.Basic

/-!
Contract: untyped document data.

Owns the values a document field can hold, the casts Swift code applies to
them (`as? String`, `as? Int`, `as? [String]`, `as? Timestamp`), dictionaries,
and the field-by-field merge of `updateData`. A cast returns `none` where the
Swift cast yields nil; an `as!` is the same cast with the trap left to the
caller.

Does not own doubles, bytes, references or geo points. No writer of the app
stores one; its numbers are whole.
-/

set_option autoImplicit false

namespace Familog.Firestore

/-- A field value. Timestamps count microseconds. -/
inductive Value where
  | null
  | bool (value : Bool)
  | int (value : Int)
  | string (value : String)
  | timestamp (value : Int)
  | array (elements : List Value)
  | map (entries : List (String × Value))

namespace Value

/-- `as? String`. -/
def asString? : Value → Option String
  | .string value => some value
  | _ => none

/-- `as? Int`. -/
def asInt? : Value → Option Int
  | .int value => some value
  | _ => none

/-- `as? Timestamp`. -/
def asTimestamp? : Value → Option Int
  | .timestamp value => some value
  | _ => none

/-- `as? [String]`: every element has to be a string. -/
def asStrings? : Value → Option (List String)
  | .array elements => elements.mapM asString?
  | _ => none

/-- An array of strings. -/
def strings (values : List String) : Value := .array (values.map .string)

@[simp] theorem asString?_string (value : String) : (string value).asString? = some value := rfl

@[simp] theorem asInt?_int (value : Int) : (int value).asInt? = some value := rfl

@[simp] theorem asTimestamp?_timestamp (value : Int) :
    (timestamp value).asTimestamp? = some value := rfl

@[simp] theorem asStrings?_strings (values : List String) :
    (strings values).asStrings? = some values := by
  induction values with
  | nil => rfl
  | cons value rest ih =>
      simp only [strings, asStrings?, List.map_cons, List.mapM_cons] at ih ⊢
      rw [ih]
      rfl

end Value

/-- The data of a document: `[String: Any]`. -/
abbrev Fields := String → Option Value

namespace Fields

/-- Write the listed entries over the data, field by field. -/
def merge (data : Fields) (entries : List (String × Value)) : Fields :=
  entries.foldl (fun merged entry => Function.update merged entry.1 (some entry.2)) data

/-- A dictionary literal. -/
def ofList (entries : List (String × Value)) : Fields :=
  merge (fun _ => none) entries

/-- `get(name) as? String`. -/
def string? (data : Fields) (name : String) : Option String :=
  (data name).bind Value.asString?

/-- `get(name) as? Int`. -/
def int? (data : Fields) (name : String) : Option Int :=
  (data name).bind Value.asInt?

/-- `get(name) as? [String]`. -/
def strings? (data : Fields) (name : String) : Option (List String) :=
  (data name).bind Value.asStrings?

/-- `get(name) as? Timestamp`. -/
def timestamp? (data : Fields) (name : String) : Option Int :=
  (data name).bind Value.asTimestamp?

@[simp] theorem merge_nil (data : Fields) : merge data [] = data := rfl

@[simp] theorem merge_cons (data : Fields) (entry : String × Value)
    (rest : List (String × Value)) :
    merge data (entry :: rest) = merge (Function.update data entry.1 (some entry.2)) rest :=
  rfl

/-- A merge leaves the fields it does not name alone. -/
theorem merge_other {data : Fields} {entries : List (String × Value)} {name : String}
    (other : ∀ entry ∈ entries, entry.1 ≠ name) : merge data entries name = data name := by
  induction entries generalizing data with
  | nil => rfl
  | cons entry rest ih =>
      rw [merge_cons, ih fun later member => other later (List.mem_cons_of_mem _ member),
        Function.update_of_ne (other entry List.mem_cons_self).symm]

/-- What holds of a field, and of every value written to it, holds of it after a merge. -/
theorem merge_field (holds : Option Value → Prop) {data : Fields}
    {entries : List (String × Value)} {name : String} (before : holds (data name))
    (written : ∀ entry ∈ entries, entry.1 = name → holds (some entry.2)) :
    holds (merge data entries name) := by
  induction entries generalizing data with
  | nil => exact before
  | cons entry rest ih =>
      rw [merge_cons]
      apply ih
      · by_cases same : name = entry.1
        · subst same
          rw [Function.update_self]
          exact written entry List.mem_cons_self rfl
        · rwa [Function.update_of_ne same]
      · exact fun later member => written later (List.mem_cons_of_mem _ member)

theorem strings?_merge_other {data : Fields} {entries : List (String × Value)} {name : String}
    (other : ∀ entry ∈ entries, entry.1 ≠ name) :
    (merge data entries).strings? name = data.strings? name := by
  rw [strings?, merge_other other, strings?]

end Fields

end Familog.Firestore
