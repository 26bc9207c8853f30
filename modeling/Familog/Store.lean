import Familog.Records
import Familog.Swift.Text

/-!
Contract: the shared store, and what every screen's callbacks have in common.

Owns the four collections, the answers the environment can give to a request,
the calls of ProgressHUD, and the result of running one callback. A failed
`as!` or `!` is the notice `trap`: the callback issues nothing more.

Does not own any screen.
-/

set_option autoImplicit false

namespace Familog

open Firestore

/-- The collections Users, Family, channels and Post. -/
structure Store where
  users : Collection Uid
  families : Collection DocumentPath
  channels : Collection String
  posts : Collection String

namespace Store

/-- No document anywhere. -/
def empty : Store := ⟨∅, ∅, ∅, ∅⟩

/-- `document.get("families") as? [String]` of a Users document. -/
def familiesOf (store : Store) (uid : Uid) : Option (List String) :=
  (store.users.get? uid).bind fun data => data.strings? "families"

/-- `document.get("familyId") as? String` of a Users document. -/
def familyIdOf (store : Store) (uid : Uid) : Option String :=
  (store.users.get? uid).bind fun data => data.string? "familyId"

/-- The store once a Users document has been written. -/
theorem familiesOf_setUser {store : Store} {uid other : Uid} {fields : Fields} :
    familiesOf { store with users := store.users.set uid fields } other =
      if other = uid then fields.strings? "families" else store.familiesOf other := by
  simp only [familiesOf, Collection.get?_set]
  split_ifs <;> rfl

/-- `document.documentID` for every document that `REF_FAMILY.getDocuments` lists. -/
def familyIDs (store : Store) : List String :=
  store.families.documents.filterMap fun document => document.1.directID?

/-- The Family document that an id names, if it is a path and the document exists. -/
def familyNamed (store : Store) (familyId : String) : Option Fields :=
  (document? familyId).bind store.families.get?

theorem mem_familyIDs {store : Store} {name : String} (listed : name ∈ store.familyIDs) :
    ∃ path data, store.families.get? path = some data ∧ path.segments = [name] := by
  obtain ⟨⟨path, data⟩, member, direct⟩ := List.mem_filterMap.mp listed
  refine ⟨path, data, Collection.mem_documents.mp member, ?_⟩
  simp only [DocumentPath.directID?] at direct
  split at direct
  · next segments => rw [segments, Option.some.inj direct]
  · simp at direct

/-- A listed document id names the document it is the id of. -/
theorem familyNamed_of_listed {store : Store} {name : String} (listed : name ∈ store.familyIDs) :
    ∃ path data, document? name = some path ∧ path.segments = [name] ∧
      store.families.get? path = some data := by
  obtain ⟨path, data, found, segments⟩ := mem_familyIDs listed
  obtain ⟨nonempty, slashFree⟩ := path.wellFormed name (by simp [segments])
  obtain ⟨key, named, keySegments⟩ := document?_slashFree nonempty slashFree
  obtain rfl : key = path := DocumentPath.ext_segments (keySegments.trans segments.symm)
  exact ⟨key, data, named, segments, found⟩

/-- What Swift's `contains` takes for a listed id is one path segment. -/
theorem slashFree_of_listed {form : Swift.CanonicalForm} {store : Store} {familyId : String}
    (listed : form.Contains store.familyIDs familyId) :
    familyId ≠ "" ∧ '/' ∉ familyId.toList := by
  obtain ⟨name, inList, same⟩ := listed
  obtain ⟨path, _, _, segments⟩ := mem_familyIDs inList
  obtain ⟨nonempty, slashFree⟩ := path.wellFormed name (by simp [segments])
  constructor
  · rintro rfl
    exact nonempty (Swift.CanonicalForm.same_empty.mp same)
  · exact fun slash => slashFree ((form.slash_iff name familyId same).mpr slash)

theorem familyNamed_eq_some {store : Store} {familyId : String} {data : Fields} :
    store.familyNamed familyId = some data ↔
      ∃ path, document? familyId = some path ∧ store.families.get? path = some data :=
  Option.bind_eq_some_iff

/-- A document that is named by one path segment is listed. -/
theorem listed_of_familyNamed {store : Store} {name : String} {data : Fields}
    (slashFree : '/' ∉ name.toList) (found : store.familyNamed name = some data) :
    name ∈ store.familyIDs := by
  obtain ⟨path, named, stored⟩ := familyNamed_eq_some.mp found
  have nonempty : name ≠ "" := by
    rintro rfl
    have thrown : document? "" = none := by decide
    simp [thrown] at named
  obtain ⟨key, keyed, segments⟩ := document?_slashFree nonempty slashFree
  obtain rfl : path = key := Option.some.inj (named.symm.trans keyed)
  refine List.mem_filterMap.mpr ⟨(path, data), Collection.mem_documents.mpr stored, ?_⟩
  simp [DocumentPath.directID?, segments]

end Store

/-- A device on which a user is signed in. -/
structure Session where
  user : Uid
  device : ℕ
deriving DecidableEq

/-- A call of ProgressHUD, or the end of the process at a failed cast or unwrap. -/
inductive Notice where
  | showing (status : String)
  | showError (status : String)
  | showSuccess (status : String)
  | trap
deriving DecidableEq

/-- How the environment answers a request: with an error, with nil where a value
was asked for, with success (a read then returns the current stored value), with
the order in which a set is listed, with an id it assigns, with a new account,
or with the parts of a post. -/
inductive Answer where
  | failed
  | empty
  | succeeded
  | listed (texts : List String)
  | assigned (id : String)
  | created (uid : Uid)
  | classified (draft : Draft) (id : String)

/-- What one callback leaves behind. -/
structure Outcome (Task : Type) where
  store : Store
  next : List Task
  notices : List Notice

namespace Outcome

variable {Task Other : Type}

/-- The callback only shows something. -/
def ends (store : Store) (notices : List Notice) : Outcome Task := ⟨store, [], notices⟩

/-- The callback only issues requests. -/
def issues (store : Store) (next : List Task) : Outcome Task := ⟨store, next, []⟩

/-- The same outcome, with its requests read as requests of a larger operation. -/
def lift (embed : Task → Other) (outcome : Outcome Task) : Outcome Other :=
  ⟨outcome.store, outcome.next.map embed, outcome.notices⟩

theorem lift_lift {Whole : Type} (outer : Other → Whole) (inner : Task → Other)
    (outcome : Outcome Task) :
    (outcome.lift inner).lift outer = outcome.lift fun task => outer (inner task) := by
  simp [lift, Function.comp_def]

end Outcome

end Familog
