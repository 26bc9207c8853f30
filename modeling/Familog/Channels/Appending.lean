import Familog.Channels.Listing

/-!
Contract: the channel list of a collection to which documents are only added.

Owns the exactness of a list whose listener has delivered nothing but documents that are
stored as they were delivered: it lists the delivered channels of the user's families, every
row shows the channel it opens, and the next snapshot, whatever it delivers, keeps it so.

Does not own why nothing is modified or removed.
-/

set_option autoImplicit false

namespace Familog.Channels

open Async Firestore Swift UIKit

/-- The list refines what has been delivered, its rows show it, and its entries are stored. -/
structure Exact (form : CanonicalForm) (user : User) (docs : Collection String) (list : State) :
    Prop where
  refines : Refines form user list.delivered list.channels
  agrees : Agrees list
  entries : ∀ entry ∈ list.channels, Current list.delivered entry
  upToDate : UpToDate docs list.delivered

section Step

variable {form : CanonicalForm} {user : User} {docs more : Collection String} {list : State}
  {type : ChangeType} {key : String} {change : Change}

theorem Current.mono {view : Collection String} {channel : Channel}
    (current : Current view channel) (upToDate : UpToDate docs view) : Current docs channel := by
  obtain ⟨key, data, delivered, decoded⟩ := current
  exact ⟨key, data, upToDate key data delivered, decoded⟩

theorem exact_empty : Exact form user docs State.empty where
  refines :=
    { toAdmitted := (safe_empty form user).toAdmitted
      complete := by
        rintro channel ⟨key, data, stored, _⟩
        simp [State.empty] at stored
      current := by simp [State.empty]
      sorted := List.Pairwise.nil }
  agrees := rfl
  entries := by simp [State.empty]
  upToDate := by
    intro key data stored
    simp [State.empty] at stored

theorem Exact.safe (exact : Exact form user docs list) : Safe form user list where
  toAdmitted := exact.refines.toAdmitted
  counted := by
    rw [exact.agrees]
    exact List.length_map _

/-- More documents do not disturb what has been delivered. -/
theorem Exact.mono (exact : Exact form user docs list)
    (grows : ∀ key data, docs.get? key = some data → more.get? key = some data) :
    Exact form user more list :=
  ⟨exact.refines, exact.agrees, exact.entries, fun key data delivered =>
    grows key data (exact.upToDate key data delivered)⟩

/-- Where every document has been delivered, the list is that of the collection. -/
theorem Exact.refines_docs (exact : Exact form user docs list)
    (all : UpToDate list.delivered docs) : Refines form user docs list.channels where
  toAdmitted := exact.refines.toAdmitted
  complete channel current listed := exact.refines.complete channel (current.mono all) listed
  current entry member := by
    obtain ⟨channel, current, same⟩ := exact.refines.current entry member
    exact ⟨channel, current.mono exact.upToDate, same⟩
  sorted := exact.refines.sorted

/-- Every change that can be delivered is processed, and leaves the list exact. -/
theorem Exact.receive (exact : Exact form user docs list)
    (isChange : IsChange docs list.delivered type key)
    (found : change? docs list.delivered type key = some change) :
    ∃ next, receive form user list change = some next ∧ Exact form user docs next ∧
      next.delivered = change.applied list.delivered := by
  obtain ⟨next, received, _⟩ := exists_receive exact.safe change
  obtain ⟨delivered, update, handled, _⟩ := handled_of_receive received
  obtain rfl := added_of_upToDate exact.upToDate isChange found
  have added : change.type = .added := change?_type found
  have stored := change?_current found (by simp [added])
  have new : list.delivered.get? change.document.documentID = none := by
    simp only [Firestore.change?] at found
    split_ifs at found with known
    obtain ⟨data, _, rfl⟩ := Option.map_eq_some_iff.mp found
    simpa using known
  have applied : change.applied list.delivered =
      list.delivered.set change.document.documentID change.document.data := by
    simp [DocumentChange.applied, added]
  have kept : ∀ channel, Current list.delivered channel →
      Current (list.delivered.set change.document.documentID change.document.data) channel := by
    rintro channel ⟨other, data, inView, decoded⟩
    have different : other ≠ change.document.documentID := by
      rintro rfl
      simp [new] at inView
    exact ⟨other, data, (Collection.get?_set_of_ne _ _ different).trans inView, decoded⟩
  refine ⟨next, received, ⟨?_, ?_, ?_, ?_⟩, delivered⟩
  · rw [delivered, applied]
    exact refines_added exact.refines added handled new
  · exact (agrees_iff_inOrder exact.agrees received).mpr fun _ => exact.refines.sorted
  · rw [delivered, applied]
    intro entry member
    generalize next.channels = channels at handled member
    cases handled with
    | skipped _ => exact kept entry (exact.entries entry member)
    | inserted decoded _ _ _ _ =>
        rcases List.mem_append.mp ((sort_perm _ _).mem_iff.mp member) with old | here
        · exact kept entry (exact.entries entry old)
        · rw [List.mem_singleton.mp here]
          exact current_set_iff.mpr (Or.inl decoded)
    | reloaded _ modified _ => simp [added] at modified
    | deleted _ removed _ => simp [added] at removed
  · rw [delivered]
    exact applied_induct exact.upToDate stored

end Step

end Familog.Channels
