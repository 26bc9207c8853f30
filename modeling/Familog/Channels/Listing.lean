import Familog.Channels.Table

/-!
Contract: the channel list against the collection of channel documents.

Owns what the list is for: one entry for each id that is among the user's
families and occurs in a current well-formed document, under the current name of
such a document, in the order of the names. Owns the exact condition on a change
under which the list stays that: an added document always does, a modified or
removed one has three ways to leave the list behind.
-/

set_option autoImplicit false

namespace Familog.Channels

open Async Firestore Swift

/-! ## The collection as channels -/

/-- A document of the collection is well formed and decodes to the channel. -/
def Current (view : Collection String) (channel : Channel) : Prop :=
  ∃ documentID data, view.get? documentID = some data ∧
    Channel.ofDocument? data = some channel

/-- Another document than the given one does. -/
def Elsewhere (view : Collection String) (documentID : String) (channel : Channel) : Prop :=
  ∃ other data, other ≠ documentID ∧ view.get? other = some data ∧
    Channel.ofDocument? data = some channel

section Collections

variable {view : Collection String} {documentID : String} {data : Fields} {channel : Channel}

theorem current_of_elsewhere (elsewhere : Elsewhere view documentID channel) :
    Current view channel := by
  obtain ⟨other, data, _, stored, decoded⟩ := elsewhere
  exact ⟨other, data, stored, decoded⟩

theorem current_cases (documentID : String) (current : Current view channel) :
    (∃ data, view.get? documentID = some data ∧ Channel.ofDocument? data = some channel) ∨
      Elsewhere view documentID channel := by
  obtain ⟨other, data, stored, decoded⟩ := current
  by_cases same : other = documentID
  · rw [same] at stored
    exact Or.inl ⟨data, stored, decoded⟩
  · exact Or.inr ⟨other, data, same, stored, decoded⟩

/-- A stored document is the only one that changes. -/
theorem current_set_iff : Current (view.set documentID data) channel ↔
    Channel.ofDocument? data = some channel ∨ Elsewhere view documentID channel := by
  constructor
  · rintro ⟨other, found, stored, decoded⟩
    rw [Collection.get?_set] at stored
    split_ifs at stored with same
    · rw [Option.some.inj stored]
      exact Or.inl decoded
    · exact Or.inr ⟨other, found, same, stored, decoded⟩
  · rintro (decoded | ⟨other, found, different, stored, decoded⟩)
    · exact ⟨documentID, data, Collection.get?_set_self _ _ _, decoded⟩
    · refine ⟨other, found, ?_, decoded⟩
      rw [Collection.get?_set_of_ne _ _ different]
      exact stored

/-- A deleted document is the only one that goes. -/
theorem current_erase_iff :
    Current (view.erase documentID) channel ↔ Elsewhere view documentID channel := by
  constructor
  · rintro ⟨other, found, stored, decoded⟩
    have different : other ≠ documentID := by
      rintro rfl
      simp at stored
    rw [Collection.get?_erase_of_ne _ different] at stored
    exact ⟨other, found, different, stored, decoded⟩
  · rintro ⟨other, found, different, stored, decoded⟩
    refine ⟨other, found, ?_, decoded⟩
    rw [Collection.get?_erase_of_ne _ different]
    exact stored

end Collections

/-! ## The list and the condition -/

section Conditions

variable (form : CanonicalForm) (user : User)

/-- The array lists the collection. -/
structure Refines (view : Collection String) (channels : List Channel) : Prop
    extends Admitted form user channels where
  complete : ∀ channel, Current view channel → Listed form user channel →
    ∃ entry ∈ channels, key form entry = key form channel
  current : ∀ entry ∈ channels, ∃ channel, Current view channel ∧
    key form channel = key form entry ∧ channel.name = entry.name
  sorted : Sorted form channels

/-- The new name of a listed channel belongs where its old name stands. -/
def KeepsPlace (channels : List Channel) (channel : Channel) : Prop :=
  ∀ index ∈ firstIndex (key form) channels channel,
    (∀ left ∈ channels.take index, rank form left ≤ rank form channel) ∧
      ∀ right ∈ channels.drop (index + 1), rank form channel ≤ rank form right

/-- Another document than the given one has the id and the name of the entry. -/
def Vouched (view : Collection String) (documentID : String) (entry : Channel) : Prop :=
  ∃ other, Elsewhere view documentID other ∧ key form other = key form entry ∧
    other.name = entry.name

/-- A modified document that the list can follow: every entry with another id than its
new one has a document of its own, its new id is listed already if it is a family of
the user, and its new name keeps its place. -/
structure HarmlessModification (view : Collection String) (channels : List Channel)
    (document : Document String) : Prop where
  vouched : ∀ entry ∈ channels,
    (∀ channel ∈ Channel.ofDocument? document.data, key form channel ≠ key form entry) →
    Vouched form view document.documentID entry
  known : ∀ channel ∈ Channel.ofDocument? document.data, Listed form user channel →
    containsKey (key form) channels channel = true
  keepsPlace : ∀ channel ∈ Channel.ofDocument? document.data, KeepsPlace form channels channel

/-- A removed document that the list can follow: if its id is a family of the user, no
other document has it. -/
def HarmlessRemoval (view : Collection String) (document : Document String) : Prop :=
  ∀ channel ∈ Channel.ofDocument? document.data, Listed form user channel →
    ∀ other, Elsewhere view document.documentID other → key form other ≠ key form channel

/-- The change is one that the list can follow. -/
def Harmless (state : State) (change : Change) : Prop :=
  match change.type with
  | .added => True
  | .modified => HarmlessModification form user state.delivered state.channels change.document
  | .removed => HarmlessRemoval form user state.delivered change.document

end Conditions

/-! ## One change -/

section Step

variable {form : CanonicalForm} {user : User} {view : Collection String}
  {channels next : List Channel} {change : Change} {update : Option UIKit.RowUpdate}

/-- An added document is followed. -/
theorem refines_added (refines : Refines form user view channels) (added : change.type = .added)
    (handled : Handled form user channels change next update)
    (new : view.get? change.document.documentID = none) :
    Refines form user (view.set change.document.documentID change.document.data) next := by
  have kept : ∀ channel, Current view channel →
      Current (view.set change.document.documentID change.document.data) channel := by
    intro channel current
    rcases current_cases change.document.documentID current with
      ⟨data, stored, _⟩ | elsewhere
    · simp [new] at stored
    · exact current_set_iff.mpr (Or.inr elsewhere)
  have entries : ∀ entry ∈ channels, ∃ channel,
      Current (view.set change.document.documentID change.document.data) channel ∧
        key form channel = key form entry ∧ channel.name = entry.name := by
    intro entry member
    obtain ⟨channel, current, same⟩ := refines.current entry member
    exact ⟨channel, kept channel current, same⟩
  have admitted := admitted_of_handled refines.toAdmitted handled
  cases handled with
  | skipped skips =>
      refine ⟨admitted, ?_, entries, refines.sorted⟩
      intro channel current listed
      rcases current_set_iff.mp current with decoded | elsewhere
      · have reason := skips channel decoded
        rw [if_pos added] at reason
        rcases reason with known | foreign
        · exact containsKey_iff.mp known
        · exact absurd listed foreign
      · exact refines.complete channel (current_of_elsewhere elsewhere) listed
  | @inserted channel _ decoded _ _ _ _ =>
      have member : ∀ {entry}, entry ∈ sort (rank form) (channels ++ [channel]) ↔
          entry ∈ channels ∨ entry = channel := by
        intro entry
        rw [(sort_perm _ _).mem_iff, List.mem_append, List.mem_singleton]
      refine ⟨admitted, ?_, ?_, sort_pairwise _ _⟩
      · intro other current listed
        rcases current_set_iff.mp current with decoded' | elsewhere
        · obtain rfl := Option.some.inj (decoded.symm.trans decoded')
          exact ⟨channel, member.mpr (Or.inr rfl), rfl⟩
        · obtain ⟨entry, old, same⟩ :=
            refines.complete other (current_of_elsewhere elsewhere) listed
          exact ⟨entry, member.mpr (Or.inl old), same⟩
      · intro entry isEntry
        rcases member.mp isEntry with old | rfl
        · exact entries entry old
        · exact ⟨entry, current_set_iff.mpr (Or.inl decoded), rfl, rfl⟩
  | reloaded _ modified _ => simp [added] at modified
  | deleted _ removed _ => simp [added] at removed

/-- In an array of distinct channels, the parts around an entry have other keys. -/
theorem ne_key_of_parts {before after : List Channel} {present entry : Channel}
    (distinct : ((before ++ present :: after).map (key form)).Nodup)
    (member : entry ∈ before ++ after) : key form entry ≠ key form present := by
  rw [List.map_append, List.map_cons, List.nodup_middle, List.nodup_cons, ← List.map_append]
    at distinct
  exact fun same => distinct.1 (same ▸ List.mem_map_of_mem member)

/-- The array around a replaced entry, and whether it is still in order. -/
theorem sorted_set_iff {channel : Channel} {index : ℕ} (sorted : Sorted form channels)
    (found : firstIndex (key form) channels channel = some index) :
    Sorted form (channels.set index channel) ↔ KeepsPlace form channels channel := by
  have place : KeepsPlace form channels channel ↔
      (∀ left ∈ channels.take index, rank form left ≤ rank form channel) ∧
        ∀ right ∈ channels.drop (index + 1), rank form channel ≤ rank form right := by
    simp [KeepsPlace, found]
  obtain ⟨before, present, after, rfl, rfl, _⟩ := append_of_firstIndex found
  have parts := List.pairwise_append.mp sorted
  have rest := List.pairwise_cons.mp parts.2.1
  rw [place, List.set_append_right _ _ le_rfl, Nat.sub_self, List.set_cons_zero]
  simp only [List.take_left, List.drop_append, List.drop_of_length_le (Nat.le_succ _),
    List.nil_append, Nat.add_sub_cancel_left, List.drop_succ_cons, List.drop_zero]
  constructor
  · intro after
    obtain ⟨_, tail, across⟩ := List.pairwise_append.mp after
    exact ⟨fun left member => across left member channel List.mem_cons_self,
      (List.pairwise_cons.mp tail).1⟩
  · rintro ⟨least, greatest⟩
    refine List.pairwise_append.mpr ⟨parts.1, List.pairwise_cons.mpr ⟨greatest, rest.2⟩, ?_⟩
    intro left inLeft right inRight
    rcases List.mem_cons.mp inRight with rfl | inAfter
    · exact least left inLeft
    · exact parts.2.2 left inLeft right (List.mem_cons_of_mem _ inAfter)

/-- A modified document whose id is not listed is followed exactly if that is
harmless. -/
theorem refines_unlisted_iff (refines : Refines form user view channels)
    {document : Document String}
    (absent : ∀ channel ∈ Channel.ofDocument? document.data,
      containsKey (key form) channels channel = false) :
    Refines form user (view.set document.documentID document.data) channels ↔
      HarmlessModification form user view channels document := by
  constructor
  · intro after
    refine ⟨fun entry member apart => ?_, fun channel decoded listed => ?_,
      fun channel decoded index found => ?_⟩
    · obtain ⟨channel, current, same, name⟩ := after.current entry member
      rcases current_set_iff.mp current with decoded | elsewhere
      · exact absurd same (apart channel decoded)
      · exact ⟨channel, elsewhere, same, name⟩
    · exact containsKey_iff.mpr
        (after.complete channel (current_set_iff.mpr (Or.inl decoded)) listed)
    · rw [firstIndex_eq_none.mpr (absent channel decoded)] at found
      simp at found
  · intro harmless
    refine ⟨refines.toAdmitted, fun channel current listed => ?_, fun entry member => ?_,
      refines.sorted⟩
    · rcases current_set_iff.mp current with decoded | elsewhere
      · exact containsKey_iff.mp (harmless.known channel decoded listed)
      · exact refines.complete channel (current_of_elsewhere elsewhere) listed
    · have apart : ∀ channel ∈ Channel.ofDocument? document.data,
          key form channel ≠ key form entry := by
        intro channel decoded same
        have known := containsKey_iff.mpr ⟨entry, member, same.symm⟩
        simp [absent channel decoded] at known
      obtain ⟨other, elsewhere, same⟩ := harmless.vouched entry member apart
      exact ⟨other, current_set_iff.mpr (Or.inr elsewhere), same⟩

/-- A modified document whose id is listed takes the place of its entry, and is
followed exactly if that is harmless. -/
theorem refines_set_iff (refines : Refines form user view channels) {document : Document String}
    {channel : Channel} {index : ℕ}
    (decoded : Channel.ofDocument? document.data = some channel)
    (found : firstIndex (key form) channels channel = some index)
    (admitted : Admitted form user (channels.set index channel)) :
    Refines form user (view.set document.documentID document.data) (channels.set index channel) ↔
      HarmlessModification form user view channels document := by
  have only : ∀ {other}, other ∈ Channel.ofDocument? document.data ↔ other = channel := by
    intro other
    rw [Option.mem_def, decoded, Option.some.injEq, eq_comm]
  have place := sorted_set_iff refines.sorted found
  have known : containsKey (key form) channels channel = true := by
    rw [← Bool.not_eq_false, ← firstIndex_eq_none, found]
    simp
  obtain ⟨before, present, after, rfl, rfl, same⟩ := append_of_firstIndex found
  rw [List.set_append_right _ _ le_rfl, Nat.sub_self, List.set_cons_zero] at admitted place ⊢
  have member : ∀ {entry middle : Channel}, entry ∈ before ++ middle :: after ↔
      entry = middle ∨ entry ∈ before ++ after := by
    intro entry middle
    simp [or_left_comm]
  have apart : ∀ entry ∈ before ++ after, key form channel ≠ key form entry := by
    intro entry inRest
    rw [← same]
    exact (ne_key_of_parts refines.distinct inRest).symm
  constructor
  · intro later
    refine ⟨fun entry old different => ?_, fun other decoded' _ => ?_, fun other decoded' => ?_⟩
    · have away : key form channel ≠ key form entry := different channel decoded
      rcases member.mp old with rfl | inRest
      · exact absurd same.symm away
      · obtain ⟨other, current, equal, name⟩ := later.current entry (member.mpr (Or.inr inRest))
        rcases current_set_iff.mp current with decoded' | elsewhere
        · rw [only.mp decoded'] at equal
          exact absurd equal away
        · exact ⟨other, elsewhere, equal, name⟩
    · rw [only.mp decoded']
      exact known
    · rw [only.mp decoded']
      exact place.mp later.sorted
  · intro harmless
    refine ⟨admitted, fun other current listed => ?_, fun entry isEntry => ?_,
      place.mpr (harmless.keepsPlace channel decoded)⟩
    · rcases current_set_iff.mp current with decoded' | elsewhere
      · exact ⟨channel, member.mpr (Or.inl rfl), by rw [only.mp decoded']⟩
      · obtain ⟨entry, old, equal⟩ :=
          refines.complete other (current_of_elsewhere elsewhere) listed
        rcases member.mp old with rfl | inRest
        · exact ⟨channel, member.mpr (Or.inl rfl), same.symm.trans equal⟩
        · exact ⟨entry, member.mpr (Or.inr inRest), equal⟩
    · rcases member.mp isEntry with rfl | inRest
      · exact ⟨entry, current_set_iff.mpr (Or.inl decoded), rfl, rfl⟩
      · have different : ∀ other ∈ Channel.ofDocument? document.data,
            key form other ≠ key form entry := by
          intro other decoded'
          rw [only.mp decoded']
          exact apart entry inRest
        obtain ⟨other, elsewhere, equal⟩ :=
          harmless.vouched entry (member.mpr (Or.inr inRest)) different
        exact ⟨other, current_set_iff.mpr (Or.inr elsewhere), equal⟩

/-- A removed document whose id is not listed is followed, and is harmless. -/
theorem refines_erase_unlisted (refines : Refines form user view channels)
    {document : Document String} (delivered : view.get? document.documentID = some document.data)
    (absent : ∀ channel ∈ Channel.ofDocument? document.data,
      containsKey (key form) channels channel = false) :
    Refines form user (view.erase document.documentID) channels ∧
      HarmlessRemoval form user view document := by
  have apart : ∀ channel ∈ Channel.ofDocument? document.data, ∀ entry ∈ channels,
      key form entry ≠ key form channel := by
    intro channel decoded entry member same
    have known := containsKey_iff.mpr ⟨entry, member, same⟩
    simp [absent channel decoded] at known
  refine ⟨⟨refines.toAdmitted, fun channel current listed => ?_, fun entry member => ?_,
    refines.sorted⟩, fun channel decoded listed => ?_⟩
  · exact refines.complete channel (current_of_elsewhere (current_erase_iff.mp current)) listed
  · obtain ⟨channel, current, same, name⟩ := refines.current entry member
    rcases current_cases document.documentID current with
      ⟨data, stored, decoded⟩ | elsewhere
    · rw [delivered, Option.some.injEq] at stored
      rw [← stored] at decoded
      exact absurd same.symm (apart channel decoded entry member)
    · exact ⟨channel, current_erase_iff.mpr elsewhere, same, name⟩
  · obtain ⟨entry, member, same⟩ :=
      refines.complete channel ⟨_, _, delivered, decoded⟩ listed
    exact absurd same (apart channel decoded entry member)

/-- A removed document takes its entry along, and is followed exactly if no other
document has its id. -/
theorem refines_eraseIdx_iff (refines : Refines form user view channels)
    {document : Document String} (delivered : view.get? document.documentID = some document.data)
    {channel : Channel} {index : ℕ}
    (decoded : Channel.ofDocument? document.data = some channel)
    (found : firstIndex (key form) channels channel = some index)
    (admitted : Admitted form user (channels.eraseIdx index)) :
    Refines form user (view.erase document.documentID) (channels.eraseIdx index) ↔
      HarmlessRemoval form user view document := by
  have only : ∀ {other}, other ∈ Channel.ofDocument? document.data ↔ other = channel := by
    intro other
    rw [Option.mem_def, decoded, Option.some.injEq, eq_comm]
  have sorted : Sorted form (channels.eraseIdx index) :=
    refines.sorted.sublist (List.eraseIdx_sublist _ _)
  obtain ⟨before, present, after, rfl, rfl, same⟩ := append_of_firstIndex found
  rw [List.eraseIdx_append_of_length_le le_rfl, Nat.sub_self, List.eraseIdx_cons_zero]
    at admitted sorted ⊢
  have member : ∀ {entry}, entry ∈ before ++ present :: after ↔
      entry = present ∨ entry ∈ before ++ after := by
    intro entry
    simp [or_left_comm]
  have apart : ∀ entry ∈ before ++ after, key form entry ≠ key form channel := by
    intro entry inRest
    rw [← same]
    exact ne_key_of_parts refines.distinct inRest
  constructor
  · intro later other decoded' listed another elsewhere equal
    rw [only.mp decoded'] at listed equal
    obtain ⟨entry, inRest, entryKey⟩ := later.complete another
      (current_erase_iff.mpr elsewhere) (listed_of_key equal.symm listed)
    exact apart entry inRest (entryKey.trans equal)
  · intro harmless
    refine ⟨admitted, fun other current listed => ?_, fun entry inRest => ?_, sorted⟩
    · have elsewhere := current_erase_iff.mp current
      obtain ⟨entry, old, equal⟩ := refines.complete other (current_of_elsewhere elsewhere) listed
      rcases member.mp old with rfl | inRest
      · have here : key form other = key form channel := equal.symm.trans same
        exact absurd here (harmless channel decoded (listed_of_key here listed) other elsewhere)
      · exact ⟨entry, inRest, equal⟩
    · obtain ⟨other, current, equal, name⟩ := refines.current entry (member.mpr (Or.inr inRest))
      rcases current_cases document.documentID current with
        ⟨data, stored, decoded'⟩ | elsewhere
      · rw [delivered, Option.some.injEq] at stored
        rw [← stored] at decoded'
        rw [only.mp decoded'] at equal
        exact absurd equal.symm (apart entry inRest)
      · exact ⟨other, current_erase_iff.mpr elsewhere, equal, name⟩

/-- A change that can be delivered is followed exactly if it is harmless. -/
theorem refines_iff_harmless {state next : State}
    (refines : Refines form user state.delivered state.channels)
    (follows : change.FollowsOn state.delivered)
    (received : receive form user state change = some next) :
    Refines form user next.delivered next.channels ↔ Harmless form user state change := by
  obtain ⟨delivered, update, handled, _⟩ := handled_of_receive received
  have admitted := admitted_of_handled refines.toAdmitted handled
  have absent : ∀ {type}, change.type = type → type ≠ .added →
      Skipped form user state.channels change →
      ∀ channel ∈ Channel.ofDocument? change.document.data,
        containsKey (key form) state.channels channel = false := by
    intro type isType other skips channel decoded
    have reason := skips channel decoded
    rwa [if_neg (by rw [isType]; exact other)] at reason
  rw [delivered]
  simp only [DocumentChange.applied, DocumentChange.FollowsOn, Harmless] at follows ⊢
  cases type : change.type with
  | added =>
      rw [type] at follows
      exact iff_of_true (refines_added refines type handled follows) trivial
  | modified =>
      generalize next.channels = after at handled admitted ⊢
      cases handled with
      | skipped skips => exact refines_unlisted_iff refines (absent type (by simp) skips)
      | inserted _ added _ _ _ => simp [type] at added
      | reloaded decoded _ found => exact refines_set_iff refines decoded found admitted
      | deleted _ removed _ => simp [type] at removed
  | removed =>
      rw [type] at follows
      generalize next.channels = after at handled admitted ⊢
      cases handled with
      | skipped skips =>
          have both := refines_erase_unlisted refines follows (absent type (by simp) skips)
          exact iff_of_true both.1 both.2
      | inserted _ added _ _ _ => simp [type] at added
      | reloaded _ modified _ => simp [type] at modified
      | deleted decoded _ found => exact refines_eraseIdx_iff refines follows decoded found admitted

end Step

/-! ## All changes -/

section Run

variable {form : CanonicalForm} {user : User}

theorem refines_empty (form : CanonicalForm) (user : User) :
    Refines form user State.empty.delivered State.empty.channels where
  distinct := List.nodup_nil
  listed := by simp [State.empty]
  complete := by
    rintro channel ⟨documentID, data, stored, _⟩
    simp [State.empty] at stored
  current := by simp [State.empty]
  sorted := List.Pairwise.nil

/-- Changes that can be delivered one after the other are so in a run. -/
theorem obeys_followsOn : ∀ {changes : List Change} {config : Config State Empty},
    Consistent config.state.delivered changes →
    (program form user).Obeys (onState (fun state change => change.FollowsOn state.delivered)
      fun _ _ _ => True) config (received changes)
  | [], _, _ => trivial
  | change :: rest, config, consistent => by
      refine ⟨consistent.1, fun next taken => ?_⟩
      obtain ⟨_, same, received⟩ := step_receive taken
      obtain rfl := Label.event.inj same
      have delivered := (handled_of_receive received).1
      exact obeys_followsOn (delivered ▸ consistent.2)

/-- All along consistent changes the array lists the collection, exactly if every
change is harmless. -/
theorem listing_refines_iff (form : CanonicalForm) (user : User) (changes : List Change)
    (consistent : Consistent ∅ changes) :
    (program form user).Always
        (fun config => Refines form user config.state.delivered config.state.channels)
        (Program.start State.empty) (received changes) ↔
      (program form user).Obeys (onState (Harmless form user) fun _ _ _ => True)
        (Program.start State.empty) (received changes) := by
  obtain ⟨last, ran, _⟩ := exists_last form user (received changes)
  refine Program.always_iff_obeys ?_ (refines_empty form user) (obeys_followsOn consistent) ran
  intro config label next refines follows taken
  obtain ⟨change, rfl, received⟩ := step_receive taken
  exact refines_iff_harmless refines follows received

/-- Three added documents, two of them of one family, are listed as they should be. -/
theorem listing_refines_iff_added :
    (program CanonicalForm.scalars (memberOf ["a", "b"])).Always
      (fun config => Refines CanonicalForm.scalars (memberOf ["a", "b"]) config.state.delivered
        config.state.channels)
      (Program.start State.empty)
      (received [channelChange .added "1" "a" "Ash", channelChange .added "2" "b" "Birch",
        channelChange .added "3" "a" "Cedar"]) :=
  (listing_refines_iff CanonicalForm.scalars (memberOf ["a", "b"])
    [channelChange .added "1" "a" "Ash", channelChange .added "2" "b" "Birch",
      channelChange .added "3" "a" "Cedar"]
    (show _ ∧ _ ∧ _ ∧ True from ⟨rfl, rfl, rfl, trivial⟩)).mpr
    (show _ ∧ _ from ⟨trivial, fun _ _ => show _ ∧ _ from ⟨trivial, fun _ _ =>
      show _ ∧ _ from ⟨trivial, fun _ _ => trivial⟩⟩⟩)

/-- After a rename the array is no longer in the order of its names. -/
theorem listing_unsorted_after_rename :
    Consistent ∅ renamed ∧
      ∃ last, (program CanonicalForm.scalars (memberOf ["a", "b"])).run
          (Program.start State.empty) (received renamed) = some last ∧
        labels last.state.channels = ["Willow", "Birch"] ∧
        ¬ Refines CanonicalForm.scalars (memberOf ["a", "b"]) last.state.delivered
          last.state.channels := by
  refine ⟨show _ ∧ _ ∧ _ ∧ True from ⟨rfl, rfl, rfl, trivial⟩, ?_⟩
  have computed : ∃ last, (program CanonicalForm.scalars (memberOf ["a", "b"])).run
      (Program.start State.empty) (received renamed) = some last ∧
      (labels last.state.channels = ["Willow", "Birch"] ∧
        ¬ Sorted CanonicalForm.scalars last.state.channels) :=
    Program.exists_run (by decide)
  obtain ⟨last, ran, shown, unsorted⟩ := computed
  exact ⟨last, ran, shown, fun refines => unsorted refines.sorted⟩

end Run

end Familog.Channels
