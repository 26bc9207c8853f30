import Mathlib.Data.Fintype.EquivFin
import Mathlib.Data.List.AList
import Familog.Firestore.Value

/-!
Contract: one collection of the store.

Owns single-document reads, writes and deletions and the listing of a collection. Each
operation is atomic. `update?` is `updateData`: it fails on a missing document
and otherwise merges field by field.

Does not own paths, queries with an order, or listeners.
-/

set_option autoImplicit false

namespace Familog.Firestore

variable {Key : Type*} [DecidableEq Key]

/-- The documents of a collection, by key. -/
abbrev Collection (Key : Type*) := AList fun _ : Key => Fields

namespace Collection

/-- `getDocument`: the data, if the document exists. -/
def get? (docs : Collection Key) (key : Key) : Option Fields := AList.lookup key docs

/-- `setData`: whatever was there is replaced. -/
def set (docs : Collection Key) (key : Key) (data : Fields) : Collection Key :=
  AList.insert key data docs

/-- `updateData`, or `none` where it fails because the document is missing. -/
def update? (docs : Collection Key) (key : Key) (entries : List (String × Value)) :
    Option (Collection Key) :=
  (docs.get? key).map fun data => docs.set key (data.merge entries)

/-- `delete`. -/
def erase (docs : Collection Key) (key : Key) : Collection Key := AList.erase key docs

/-- `getDocuments` on the whole collection. -/
def documents (docs : Collection Key) : List (Key × Fields) :=
  docs.entries.map fun entry => (entry.1, entry.2)

@[simp] theorem get?_empty (key : Key) : get? (∅ : Collection Key) key = none := rfl

@[simp] theorem get?_set_self (docs : Collection Key) (key : Key) (data : Fields) :
    (docs.set key data).get? key = some data :=
  AList.lookup_insert docs

theorem get?_set_of_ne (docs : Collection Key) {key other : Key} (data : Fields)
    (different : other ≠ key) : (docs.set key data).get? other = docs.get? other :=
  AList.lookup_insert_ne different

theorem get?_set (docs : Collection Key) (key other : Key) (data : Fields) :
    (docs.set key data).get? other = if other = key then some data else docs.get? other := by
  split_ifs with same
  · rw [same, get?_set_self]
  · exact get?_set_of_ne docs data same

/-- A write takes no document away. -/
theorem isSome_get?_set {docs : Collection Key} {key other : Key} {data : Fields}
    (found : (docs.get? other).isSome) : ((docs.set key data).get? other).isSome := by
  rw [get?_set]
  split_ifs
  · rfl
  · exact found

@[simp] theorem get?_erase_self (docs : Collection Key) (key : Key) :
    (docs.erase key).get? key = none :=
  AList.lookup_erase key docs

theorem get?_erase_of_ne (docs : Collection Key) {key other : Key} (different : other ≠ key) :
    (docs.erase key).get? other = docs.get? other :=
  AList.lookup_erase_ne different

theorem get?_of_get?_erase {docs : Collection Key} {key other : Key} {data : Fields}
    (found : (docs.erase key).get? other = some data) : docs.get? other = some data := by
  by_cases same : other = key
  · rw [same, get?_erase_self] at found
    simp at found
  · rwa [get?_erase_of_ne docs same] at found

/-- What an update that took effect did: it merged one existing document. -/
theorem update?_eq_some {docs updated : Collection Key} {key : Key}
    {entries : List (String × Value)} :
    docs.update? key entries = some updated ↔
      ∃ data, docs.get? key = some data ∧ updated = docs.set key (data.merge entries) := by
  simp only [update?, Option.map_eq_some_iff]
  constructor
  · rintro ⟨data, found, rfl⟩
    exact ⟨data, found, rfl⟩
  · rintro ⟨data, found, rfl⟩
    exact ⟨data, found, rfl⟩

theorem mem_documents {docs : Collection Key} {key : Key} {data : Fields} :
    (key, data) ∈ docs.documents ↔ docs.get? key = some data := by
  have entry : (key, data) ∈ docs.documents ↔ Sigma.mk key data ∈ docs.entries := by
    simp only [documents, List.mem_map]
    constructor
    · rintro ⟨⟨other, value⟩, member, equal⟩
      obtain ⟨rfl, rfl⟩ := Prod.mk.inj equal
      exact member
    · exact fun member => ⟨⟨key, data⟩, member, rfl⟩
  rw [entry, ← AList.mem_lookup_iff]
  exact Option.mem_def

omit [DecidableEq Key] in
/-- No two documents have one key. -/
theorem nodup_documents (docs : Collection Key) : docs.documents.Nodup := by
  refine List.Nodup.of_map Prod.fst ?_
  have keys : docs.documents.map Prod.fst = docs.entries.keys := by
    rw [documents, List.map_map]
    rfl
  rw [keys]
  exact docs.nodupKeys

/-- The documents under the keys that a query returns are the ones it has found. -/
theorem filterMap_get?_keys {docs : Collection Key} {selects : Key × Fields → Bool} :
    ((docs.documents.filter selects).map Prod.fst).filterMap docs.get? =
      (docs.documents.filter selects).map Prod.snd := by
  rw [List.filterMap_map, ← List.filterMap_eq_map]
  refine List.filterMap_congr fun document member => ?_
  exact mem_documents.mp (List.mem_of_mem_filter member)

/-- A query that can select the document of one key only finds that document or nothing. -/
theorem filter_documents {docs : Collection Key} {key : Key} {selects : Fields → Bool}
    (only : ∀ other data, docs.get? other = some data → selects data = true → other = key) :
    (docs.documents.map Prod.snd).filter selects = ((docs.get? key).filter selects).toList := by
  let found := docs.documents.filter fun document => selects document.2
  have nodup : found.Nodup := docs.nodup_documents.filter _
  have inFound : ∀ document, document ∈ found ↔
      docs.get? document.1 = some document.2 ∧ selects document.2 = true := fun document => by
    rw [List.mem_filter, mem_documents]
  have mapped : (docs.documents.map Prod.snd).filter selects = found.map Prod.snd :=
    List.filter_map
  rw [mapped]
  cases selected : (docs.get? key).filter selects with
  | none =>
      have empty : found = [] := by
        refine List.eq_nil_iff_forall_not_mem.mpr fun ⟨other, data⟩ member => ?_
        obtain ⟨stored, selects?⟩ := (inFound _).mp member
        obtain rfl := only other data stored selects?
        simp [stored, selects?] at selected
      rw [empty]
      rfl
  | some data =>
      obtain ⟨stored, selects?⟩ := Option.filter_eq_some_iff.mp selected
      have single : found.Perm [(key, data)] := by
        refine (List.perm_ext_iff_of_nodup nodup (List.nodup_singleton _)).mpr fun document => ?_
        rw [inFound, List.mem_singleton]
        constructor
        · rintro ⟨here, holds⟩
          obtain rfl := only document.1 document.2 here holds
          exact Prod.ext rfl (Option.some.inj (here.symm.trans stored))
        · rintro rfl
          exact ⟨stored, selects?⟩
      rw [List.perm_singleton.mp single]
      rfl

/-- There is always a key that no document has. -/
theorem exists_unused [Infinite Key] (docs : Collection Key) : ∃ key, docs.get? key = none := by
  obtain ⟨key, unused⟩ := Infinite.exists_notMem_finset docs.keys.toFinset
  refine ⟨key, AList.lookup_eq_none.mpr ?_⟩
  simpa [AList.mem_keys] using unused

end Collection

end Familog.Firestore
