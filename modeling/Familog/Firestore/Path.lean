import Mathlib.Data.List.Infix
import Mathlib.Data.List.Nodup

/-!
Contract: document paths below a collection.

Owns `ResourcePath::FromString` and the check that makes `document(path)`
throw: the text must not contain `//`, a leading or trailing slash is dropped,
and the segments below a collection must be odd in number. `document? = none`
stands for the throw.

Two different texts can name one document, because `document?` drops the
slashes at the ends. `Bare` singles out the texts that have none; such a text is
the one its document is named after.
-/

set_option autoImplicit false

namespace Familog.Firestore

/-- The segments of a path: `absl::StrSplit(path, '/', absl::SkipEmpty())`. -/
def splitPath (path : String) : List String :=
  ((path.toList.splitOn '/').filter fun segment => segment != []).map String.ofList

/-- The path of a document below its collection. -/
structure DocumentPath where
  segments : List String
  odd : segments.length % 2 = 1
  wellFormed : ∀ segment ∈ segments, segment ≠ "" ∧ '/' ∉ segment.toList

namespace DocumentPath

theorem ext_segments {left right : DocumentPath} (same : left.segments = right.segments) :
    left = right := by
  cases left
  cases right
  cases same
  rfl

instance : DecidableEq DocumentPath := fun left right =>
  decidable_of_iff (left.segments = right.segments)
    ⟨ext_segments, fun equal => equal ▸ rfl⟩

/-- The text a document is named after. -/
def text (path : DocumentPath) : String :=
  String.ofList (['/'].intercalate (path.segments.map String.toList))

/-- `document.documentID`: the last segment. -/
def documentID (path : DocumentPath) : String := path.segments.getLastD ""

/-- `document.documentID` of a direct document of the collection. -/
def directID? (path : DocumentPath) : Option String :=
  match path.segments with
  | [name] => some name
  | _ => none

end DocumentPath

private theorem separator_notMem_splitOn (scalars : List Char) :
    ∀ segment ∈ scalars.splitOn '/', '/' ∉ segment := by
  induction scalars with
  | nil => simp [List.splitOn_nil]
  | cons scalar rest ih =>
      obtain ⟨first, others, split⟩ := List.exists_cons_of_ne_nil (List.splitOn_ne_nil '/' rest)
      rw [List.splitOn_cons_eq_if_modifyHead]
      rw [split] at ih ⊢
      split
      · intro segment member
        rcases List.mem_cons.mp member with rfl | later
        · simp
        · exact ih segment later
      · next different =>
          intro segment member
          rw [List.modifyHead_cons] at member
          rcases List.mem_cons.mp member with rfl | later
          · have inFirst := ih first List.mem_cons_self
            simp only [beq_iff_eq] at different
            rw [List.mem_cons, not_or]
            exact ⟨fun equal => different equal.symm, inFirst⟩
          · exact ih segment (List.mem_cons_of_mem _ later)

theorem splitPath_wellFormed (path : String) :
    ∀ segment ∈ splitPath path, segment ≠ "" ∧ '/' ∉ segment.toList := by
  intro segment member
  simp only [splitPath, List.mem_map, List.mem_filter, bne_iff_ne] at member
  obtain ⟨scalars, ⟨inSplit, nonempty⟩, rfl⟩ := member
  refine ⟨by simpa using nonempty, ?_⟩
  rw [String.toList_ofList]
  exact separator_notMem_splitOn path.toList scalars inSplit

/-- `collection.document(path)`, or `none` where it throws. -/
def document? (path : String) : Option DocumentPath :=
  if ['/', '/'] <:+: path.toList then none
  else if odd : (splitPath path).length % 2 = 1 then
    some ⟨splitPath path, odd, splitPath_wellFormed path⟩
  else none

theorem document?_eq_some {path : String} {key : DocumentPath}
    (named : document? path = some key) :
    ¬ ['/', '/'] <:+: path.toList ∧ key.segments = splitPath path := by
  unfold document? at named
  split_ifs at named with double odd
  obtain rfl := Option.some.inj named
  exact ⟨double, rfl⟩

/-! ## Texts without slashes at their ends -/

/-- The text neither begins nor ends with a slash. -/
def Bare (path : String) : Prop :=
  path.toList.head? ≠ some '/' ∧ path.toList.getLast? ≠ some '/'

instance (path : String) : Decidable (Bare path) :=
  inferInstanceAs (Decidable (_ ∧ _))

private theorem splitOn_nonempty (scalars : List Char)
    (single : ¬ ['/', '/'] <:+: scalars) (ends : scalars.getLast? ≠ some '/') :
    (∀ segment ∈ (scalars.splitOn '/').tail, segment ≠ []) ∧
      (scalars ≠ [] → scalars.head? ≠ some '/' → [] ∉ scalars.splitOn '/') := by
  induction scalars with
  | nil => simp [List.splitOn_nil]
  | cons scalar rest ih =>
      have restSingle : ¬ ['/', '/'] <:+: rest := fun double =>
        single (double.trans (List.suffix_cons scalar rest).isInfix)
      have restEnds : rest.getLast? ≠ some '/' := by
        intro last
        apply ends
        cases rest with
        | nil => simp at last
        | cons next later => rwa [List.getLast?_cons_cons]
      obtain ⟨tail, all⟩ := ih restSingle restEnds
      obtain ⟨first, others, split⟩ := List.exists_cons_of_ne_nil (List.splitOn_ne_nil '/' rest)
      rw [List.splitOn_cons_eq_if_modifyHead]
      by_cases slash : scalar = '/'
      · subst slash
        refine ⟨?_, fun _ starts => absurd rfl starts⟩
        have restNonempty : rest ≠ [] := by
          rintro rfl
          exact ends rfl
        have restStarts : rest.head? ≠ some '/' := by
          intro starts
          obtain ⟨next, later, rfl⟩ := List.exists_cons_of_ne_nil restNonempty
          obtain rfl : next = '/' := by simpa using starts
          exact single (List.prefix_append ['/', '/'] later).isInfix
        rw [if_pos (by simp), List.tail_cons]
        intro segment member equal
        exact all restNonempty restStarts (equal ▸ member)
      · rw [if_neg (by simpa using slash)]
        rw [split] at tail ⊢
        refine ⟨tail, fun _ _ member => ?_⟩
        rw [List.modifyHead_cons] at member
        rcases List.mem_cons.mp member with here | later
        · simp at here
        · exact tail [] later rfl

/-- A bare text is the text its document is named after. -/
theorem text_of_bare {path : String} {key : DocumentPath}
    (named : document? path = some key) (bare : Bare path) : key.text = path := by
  obtain ⟨single, segments⟩ := document?_eq_some named
  have nonempty : path.toList ≠ [] := by
    intro empty
    have odd := key.odd
    rw [segments, splitPath, empty] at odd
    simp [List.splitOn_nil] at odd
  have full : [] ∉ path.toList.splitOn '/' :=
    (splitOn_nonempty path.toList single bare.2).2 nonempty bare.1
  have kept : (path.toList.splitOn '/').filter (fun segment => segment != []) =
      path.toList.splitOn '/' :=
    List.filter_eq_self.mpr fun segment member => by
      rw [bne_iff_ne]
      rintro rfl
      exact full member
  have scalars : (key.segments.map String.toList) = path.toList.splitOn '/' := by
    rw [segments, splitPath, kept, List.map_map]
    simp [Function.comp_def]
  rw [DocumentPath.text, scalars, List.intercalate_splitOn, String.ofList_toList]

/-- Two bare texts that name one document are equal. -/
theorem eq_of_document?_eq {left right : String} {key : DocumentPath}
    (leftNamed : document? left = some key) (rightNamed : document? right = some key)
    (leftBare : Bare left) (rightBare : Bare right) : left = right :=
  (text_of_bare leftNamed leftBare).symm.trans (text_of_bare rightNamed rightBare)

/-- A text without slashes is bare. -/
theorem bare_of_slashFree {path : String} (slashFree : '/' ∉ path.toList) : Bare path :=
  ⟨fun starts => slashFree (List.mem_of_head? starts),
    fun ends => slashFree (List.mem_of_getLast? ends)⟩

/-- A text without slashes names the direct document of that name. -/
theorem document?_slashFree {path : String} (nonempty : path ≠ "")
    (slashFree : '/' ∉ path.toList) :
    ∃ key, document? path = some key ∧ key.segments = [path] := by
  have single : ¬ ['/', '/'] <:+: path.toList := fun double =>
    slashFree (double.subset List.mem_cons_self)
  have split : splitPath path = [path] := by
    have scalars : path.toList ≠ [] := by simpa using nonempty
    simp [splitPath, List.splitOn_eq_singleton slashFree, scalars]
  refine ⟨⟨[path], by simp, ?_⟩, ?_, rfl⟩
  · intro segment member
    rw [List.mem_singleton.mp member]
    exact ⟨nonempty, slashFree⟩
  · unfold document?
    rw [if_neg single, dif_pos (by rw [split]; rfl)]
    exact congrArg some (DocumentPath.ext_segments split)

end Familog.Firestore
