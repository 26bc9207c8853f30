import Mathlib.Data.List.Sort

/-!
Contract: arrays that a program keeps sorted by appending and sorting again.

Owns `sort()` on elements ordered by a rank, and the insertion that is skipped
where an element with the same key is there already. What an array holds after
any insertions is a matter of which elements were inserted: an array that is
strictly sorted by rank is determined by its members. Owns the position of an
element, too, and that one insertion into a sorted array moves no other element.
-/

set_option autoImplicit false

namespace Familog.Swift

variable {Element Key Rank : Type*} [LinearOrder Rank]

/-- `sort()` where `<` compares ranks; equal ranks keep their order. -/
def sort (rank : Element → Rank) (elements : List Element) : List Element :=
  elements.insertionSort fun left right => rank left ≤ rank right

/-- `contains` where `==` compares keys. -/
def containsKey [DecidableEq Key] (key : Element → Key) (elements : List Element)
    (element : Element) : Bool :=
  elements.any fun other => decide (key other = key element)

/-- Append and sort, unless an equal element is there. -/
def insertNew [DecidableEq Key] (key : Element → Key) (rank : Element → Rank)
    (elements : List Element) (element : Element) : List Element :=
  if containsKey key elements element then elements else sort rank (elements ++ [element])

/-! ## Sorted arrays -/

section Sorted

variable (rank : Element → Rank)

theorem sort_perm (elements : List Element) : (sort rank elements).Perm elements :=
  List.perm_insertionSort _ elements

theorem sort_pairwise (elements : List Element) :
    (sort rank elements).Pairwise fun left right => rank left ≤ rank right := by
  have total : Std.Total fun left right : Element => rank left ≤ rank right :=
    ⟨fun left right => le_total (rank left) (rank right)⟩
  have transitive : IsTrans Element fun left right => rank left ≤ rank right :=
    ⟨fun _ _ _ => le_trans⟩
  exact List.pairwise_insertionSort _ elements

variable {rank} {key : Element → Key} {elements : List Element}

/-- A sorted array with pairwise different ranks is strictly sorted. -/
theorem strictly_sorted (sorted : elements.Pairwise fun left right => rank left ≤ rank right)
    (distinct : (elements.map key).Nodup)
    (separates : ∀ left ∈ elements, ∀ right ∈ elements, rank left = rank right →
      key left = key right) :
    elements.Pairwise fun left right => rank left < rank right := by
  have apart : elements.Pairwise fun left right => key left ≠ key right :=
    List.pairwise_map.mp distinct
  have both := sorted.and apart
  refine List.Pairwise.imp_of_mem ?_ both
  intro left right inLeft inRight holds
  apply lt_of_le_of_ne holds.1
  intro equal
  exact holds.2 (separates left inLeft right inRight equal)

/-- Order independence: a strictly sorted array is determined by its members. -/
theorem eq_of_strictly_sorted {left right : List Element}
    (leftSorted : left.Pairwise fun first second => rank first < rank second)
    (rightSorted : right.Pairwise fun first second => rank first < rank second)
    (members : ∀ element, element ∈ left ↔ element ∈ right) : left = right := by
  have irreflexive : Std.Irrefl fun first second : Element => rank first < rank second :=
    ⟨fun first => lt_irrefl (rank first)⟩
  have asymmetric : Std.Antisymm fun first second : Element => rank first < rank second :=
    ⟨fun _ _ less more => absurd more (lt_asymm less)⟩
  exact leftSorted.eq_of_mem_iff rightSorted members

end Sorted

/-! ## Insertion -/

section InsertNew

variable [DecidableEq Key] {key : Element → Key} {rank : Element → Rank} {elements : List Element}
  {element : Element}

theorem containsKey_iff :
    containsKey key elements element = true ↔ ∃ other ∈ elements, key other = key element := by
  simp [containsKey]

theorem insertNew_of_contained (contained : containsKey key elements element = true) :
    insertNew key rank elements element = elements :=
  if_pos contained

/-- A skipped insertion keeps the array, and any other adds one element. -/
theorem mem_insertNew {other : Element} :
    other ∈ insertNew key rank elements element ↔
      other ∈ elements ∨ containsKey key elements element = false ∧ other = element := by
  unfold insertNew
  cases containsKey key elements element with
  | true => simp
  | false => simp [(sort_perm rank _).mem_iff]

/-- The key is there afterwards, whether or not the element went in. -/
theorem exists_mem_insertNew :
    ∃ other ∈ insertNew key rank elements element, key other = key element := by
  cases contained : containsKey key elements element with
  | true =>
      rw [insertNew_of_contained contained]
      exact containsKey_iff.mp contained
  | false => exact ⟨element, mem_insertNew.mpr (Or.inr ⟨contained, rfl⟩), rfl⟩

theorem insertNew_pairwise
    (sorted : elements.Pairwise fun left right => rank left ≤ rank right) :
    (insertNew key rank elements element).Pairwise fun left right => rank left ≤ rank right := by
  unfold insertNew
  split
  · exact sorted
  · exact sort_pairwise rank _

theorem insertNew_nodup (distinct : (elements.map key).Nodup) :
    ((insertNew key rank elements element).map key).Nodup := by
  unfold insertNew
  split
  · exact distinct
  · next absent =>
      have appended : ((elements ++ [element]).map key).Nodup := by
        rw [List.map_append, List.map_singleton, List.nodup_append]
        refine ⟨distinct, List.nodup_singleton _, ?_⟩
        intro first inElements second isNew equal
        obtain ⟨other, member, rfl⟩ := List.mem_map.mp inElements
        rw [List.mem_singleton.mp isNew] at equal
        exact absent (containsKey_iff.mpr ⟨other, member, equal⟩)
      exact ((sort_perm rank _).map key).nodup_iff.mpr appended

/-- Where equal keys mean equal elements, an insertion adds its element to the
members, and nothing else happens to them. -/
theorem mem_insertNew_of_agree {other : Element}
    (agree : ∀ present ∈ elements, key present = key element → present = element) :
    other ∈ insertNew key rank elements element ↔ other ∈ elements ∨ other = element := by
  rw [mem_insertNew]
  cases contained : containsKey key elements element with
  | false => simp
  | true =>
      obtain ⟨present, member, same⟩ := containsKey_iff.mp contained
      have here : present = element := agree present member same
      constructor
      · intro old
        exact Or.inl (by simpa using old)
      · rintro (old | new)
        · exact Or.inl old
        · exact Or.inl (by rwa [new, ← here])

end InsertNew

/-! ## Positions -/

section Positions

variable [DecidableEq Key] {key : Element → Key} {rank : Element → Rank} {elements : List Element}
  {element : Element}

/-- `firstIndex(of:)` where `==` compares keys. -/
def firstIndex (key : Element → Key) (elements : List Element) (element : Element) : Option ℕ :=
  elements.findIdx? fun other => decide (key other = key element)

theorem firstIndex_eq_none :
    firstIndex key elements element = none ↔ containsKey key elements element = false := by
  simp [firstIndex, containsKey]

/-- An element is found where it follows elements with other keys. -/
theorem firstIndex_of_append {before after : List Element} {present : Element}
    (here : key present = key element) (earlier : ∀ other ∈ before, key other ≠ key element) :
    firstIndex key (before ++ present :: after) element = some before.length := by
  induction before with
  | nil => simp [firstIndex, List.findIdx?_cons, here]
  | cons head rest ih =>
      have later := ih fun other member => earlier other (List.mem_cons_of_mem _ member)
      simp only [firstIndex] at later
      simp [firstIndex, List.findIdx?_cons, earlier head List.mem_cons_self, later]

/-- The parts into which a found position divides the array. -/
theorem append_of_firstIndex {index : ℕ} (found : firstIndex key elements element = some index) :
    ∃ before present after, elements = before ++ present :: after ∧ before.length = index ∧
      key present = key element := by
  induction elements generalizing index with
  | nil => simp [firstIndex] at found
  | cons head rest ih =>
      simp only [firstIndex, List.findIdx?_cons] at found
      split_ifs at found with here
      · exact ⟨[], head, rest, rfl, Option.some.inj found, by simpa using here⟩
      · obtain ⟨later, inRest, rfl⟩ := Option.map_eq_some_iff.mp found
        obtain ⟨before, present, after, rfl, length, same⟩ := ih inRest
        exact ⟨head :: before, present, after, rfl, by simp [length], same⟩

theorem firstIndex_lt {index : ℕ} (found : firstIndex key elements element = some index) :
    index < elements.length := by
  obtain ⟨before, present, after, rfl, rfl, _⟩ := append_of_firstIndex found
  simp

/-- One insertion into a sorted array moves no other element. -/
theorem sort_append_singleton (element : Element)
    (sorted : elements.Pairwise fun left right => rank left ≤ rank right) :
    ∃ before after, elements = before ++ after ∧
      sort rank (elements ++ [element]) = before ++ element :: after := by
  induction elements with
  | nil => exact ⟨[], [], rfl, rfl⟩
  | cons head rest ih =>
      obtain ⟨least, restSorted⟩ := List.pairwise_cons.mp sorted
      obtain ⟨before, after, parts, result⟩ := ih restSorted
      have unfolded : sort rank (head :: rest ++ [element]) =
          (before ++ element :: after).orderedInsert
            (fun left right => rank left ≤ rank right) head := by
        rw [← result]
        rfl
      cases before with
      | nil =>
          obtain rfl : rest = after := parts
          by_cases first : rank head ≤ rank element
          · refine ⟨[head], rest, rfl, ?_⟩
            rw [unfolded]
            simp [first]
          · refine ⟨[], head :: rest, rfl, ?_⟩
            have front : rest.orderedInsert (fun left right => rank left ≤ rank right) head =
                head :: rest := by
              cases rest with
              | nil => rfl
              | cons next others => simp [least next List.mem_cons_self]
            rw [unfolded]
            simp [first, front]
      | cons next others =>
          have front : rank head ≤ rank next := least next (by simp [parts])
          refine ⟨head :: next :: others, after, by simp [parts], ?_⟩
          rw [unfolded]
          simp [front]

end Positions

end Familog.Swift
