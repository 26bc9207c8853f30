import Familog.Firestore.Collection

/-!
Contract: the document changes of a snapshot listener.

Owns the three kinds of change and the protocol of one listener: its view is
what it has delivered and not taken back, an added document is not in the view,
a modified or removed one is. An added or modified change carries the document
as it is stored, a removed one the document as it was delivered last. A sequence of
changes is consistent if each can be delivered after those before it.

Does not own the query: which documents a listener delivers, and when, is left
to the run.
-/

set_option autoImplicit false

namespace Familog.Firestore

variable {Key : Type*} [DecidableEq Key]

/-- `DocumentChangeType`. -/
inductive ChangeType where
  | added
  | modified
  | removed
deriving DecidableEq

/-- `QueryDocumentSnapshot`. -/
structure Document (Key : Type*) where
  documentID : Key
  data : Fields

/-- `DocumentChange`. -/
structure DocumentChange (Key : Type*) where
  type : ChangeType
  document : Document Key

/-- The change of the given type that a listener with this view can deliver for a
document of the collection. -/
def change? (docs view : Collection Key) (type : ChangeType) (key : Key) :
    Option (DocumentChange Key) :=
  match type with
  | .added =>
      if (view.get? key).isSome then none
      else (docs.get? key).map fun data => ⟨.added, ⟨key, data⟩⟩
  | .modified =>
      if (view.get? key).isSome then (docs.get? key).map fun data => ⟨.modified, ⟨key, data⟩⟩
      else none
  | .removed => (view.get? key).map fun data => ⟨.removed, ⟨key, data⟩⟩

/-- The view once the change has been delivered. -/
def DocumentChange.applied (change : DocumentChange Key) (view : Collection Key) :
    Collection Key :=
  match change.type with
  | .added => view.set change.document.documentID change.document.data
  | .modified => view.set change.document.documentID change.document.data
  | .removed => view.erase change.document.documentID

/-- The changes of a snapshot, one after the other; `none` where a listener with this view
cannot deliver them. -/
def documentChanges? (docs : Collection Key) :
    Collection Key → List (ChangeType × Key) → Option (List (DocumentChange Key))
  | _, [] => some []
  | view, (type, key) :: rest =>
      (change? docs view type key).bind fun change =>
        (documentChanges? docs (change.applied view) rest).map fun later => change :: later

/-- The view once the changes have been delivered. -/
def appliedAll (changes : List (DocumentChange Key)) (view : Collection Key) : Collection Key :=
  changes.foldl (fun view change => change.applied view) view

/-- A listener with this view can deliver the change, from some collection. -/
def DocumentChange.FollowsOn (change : DocumentChange Key) (view : Collection Key) : Prop :=
  match change.type with
  | .added => view.get? change.document.documentID = none
  | .modified => (view.get? change.document.documentID).isSome
  | .removed => view.get? change.document.documentID = some change.document.data

/-- The changes can be delivered one after the other. -/
def Consistent : Collection Key → List (DocumentChange Key) → Prop
  | _, [] => True
  | view, change :: rest => change.FollowsOn view ∧ Consistent (change.applied view) rest

/-- A modified document differs from what was delivered of it, and a removed one is gone
from the collection: the listener has no query that a document could leave. -/
def IsChange (docs view : Collection Key) : ChangeType → Key → Prop
  | .added, _ => True
  | .modified, key => view.get? key ≠ docs.get? key
  | .removed, key => docs.get? key = none

/-- The changes of a snapshot, one after the other, are changes of the collection. -/
def Faithful (docs : Collection Key) : Collection Key → List (ChangeType × Key) → Prop
  | _, [] => True
  | view, (type, key) :: rest =>
      IsChange docs view type key ∧
        ∀ change, change? docs view type key = some change →
          Faithful docs (change.applied view) rest

/-- What has been delivered is stored as it was delivered. -/
def UpToDate (docs view : Collection Key) : Prop :=
  ∀ key data, view.get? key = some data → docs.get? key = some data

variable {docs view : Collection Key} {type : ChangeType} {key : Key}
  {change : DocumentChange Key}

/-- A change that is delivered has the type asked for. -/
theorem change?_type (found : change? docs view type key = some change) : change.type = type := by
  cases type with
  | added =>
      simp only [change?] at found
      split_ifs at found
      obtain ⟨data, _, rfl⟩ := Option.map_eq_some_iff.mp found
      rfl
  | modified =>
      simp only [change?] at found
      split_ifs at found
      obtain ⟨data, _, rfl⟩ := Option.map_eq_some_iff.mp found
      rfl
  | removed =>
      obtain ⟨data, _, rfl⟩ := Option.map_eq_some_iff.mp found
      rfl

/-- Added and modified changes carry the stored document. -/
theorem change?_current (found : change? docs view type key = some change)
    (present : change.type ≠ .removed) :
    docs.get? change.document.documentID = some change.document.data := by
  cases type with
  | added =>
      simp only [change?] at found
      split_ifs at found
      obtain ⟨data, stored, rfl⟩ := Option.map_eq_some_iff.mp found
      exact stored
  | modified =>
      simp only [change?] at found
      split_ifs at found
      obtain ⟨data, stored, rfl⟩ := Option.map_eq_some_iff.mp found
      exact stored
  | removed => exact absurd (change?_type found) present

/-- Removed changes carry the document as it was delivered last. -/
theorem change?_delivered (found : change? docs view type key = some change)
    (gone : change.type = .removed) :
    view.get? change.document.documentID = some change.document.data := by
  have removed : type = .removed := (change?_type found).symm.trans gone
  subst removed
  obtain ⟨data, delivered, rfl⟩ := Option.map_eq_some_iff.mp found
  exact delivered

/-- What can follow on a view is what a listener delivers from some collection. -/
theorem followsOn_iff : change.FollowsOn view ↔
    ∃ docs, change? docs view change.type change.document.documentID = some change := by
  obtain ⟨type, key, data⟩ := change
  cases type with
  | added =>
      constructor
      · intro new
        have absent : view.get? key = none := new
        exact ⟨view.set key data, by simp [change?, absent]⟩
      · rintro ⟨docs, found⟩
        simp only [change?] at found
        split_ifs at found with present
        show view.get? key = none
        simpa using present
  | modified =>
      constructor
      · intro delivered
        have present : (view.get? key).isSome := delivered
        exact ⟨view.set key data, by simp [change?, present]⟩
      · rintro ⟨docs, found⟩
        simp only [change?] at found
        split_ifs at found with present
        exact present
  | removed =>
      constructor
      · intro delivered
        have present : view.get? key = some data := delivered
        exact ⟨view, by simp [change?, present]⟩
      · rintro ⟨docs, found⟩
        exact change?_delivered found rfl

/-- Where nothing that was delivered has changed since, documents are only added. -/
theorem added_of_upToDate (upToDate : UpToDate docs view) (isChange : IsChange docs view type key)
    (found : change? docs view type key = some change) : type = .added := by
  cases type with
  | added => rfl
  | modified =>
      simp only [change?] at found
      split_ifs at found with delivered
      obtain ⟨data, inView⟩ := Option.isSome_iff_exists.mp delivered
      exact absurd (inView.trans (upToDate key data inView).symm) isChange
  | removed =>
      obtain ⟨data, inView, _⟩ := Option.map_eq_some_iff.mp found
      exact absurd ((upToDate key data inView).symm.trans isChange) (by simp)

/-- Snapshots of added documents only are faithful. -/
theorem faithful_of_added : ∀ {changes : List (ChangeType × Key)} {view : Collection Key},
    (∀ change ∈ changes, change.1 = .added) → Faithful docs view changes
  | [], _, _ => trivial
  | (type, key) :: rest, view, all => by
      obtain rfl : type = .added := all (type, key) List.mem_cons_self
      exact ⟨trivial, fun _ _ => faithful_of_added fun change later =>
        all change (List.mem_cons_of_mem _ later)⟩

/-- What holds of the delivered documents and of the document of one more change
holds of the documents delivered after it. -/
theorem applied_induct {holds : Key → Fields → Prop}
    (before : ∀ key data, view.get? key = some data → holds key data)
    (here : holds change.document.documentID change.document.data) :
    ∀ key data, (change.applied view).get? key = some data → holds key data := by
  have written : ∀ key data,
      (view.set change.document.documentID change.document.data).get? key = some data →
        holds key data := by
    intro key data found
    rw [Collection.get?_set] at found
    split_ifs at found with same
    · rw [same, ← Option.some.inj found]
      exact here
    · exact before key data found
  intro key data found
  unfold DocumentChange.applied at found
  split at found
  · exact written key data found
  · exact written key data found
  · exact before key data (Collection.get?_of_get?_erase found)

end Familog.Firestore
