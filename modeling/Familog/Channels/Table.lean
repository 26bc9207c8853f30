import Familog.Channels.Controller

/-!
Contract: what the table view of the channels is told, and what it shows.

Owns the safety of the table for any changes whatsoever: the ids stay distinct
and within the user's families, and every call passes UIKit's check. Owns the
exact condition under which the rows keep showing the channels they open: every
insertion finds the array in the order of its names.
-/

set_option autoImplicit false

namespace Familog.Channels

open Async Firestore Swift UIKit

/-! ## Safety -/

section Safety

variable {form : CanonicalForm} {user : User} {channels next : List Channel} {change : Change}
  {update : Option RowUpdate}

/-- Whether a channel is listed depends on its key only. -/
theorem listed_of_key {left right : Channel} (same : key form left = key form right)
    (listed : Listed form user left) : Listed form user right := by
  obtain ⟨userFamilies, families, id, hasId, other, member, equal⟩ := listed
  obtain ⟨id', hasId', canonical⟩ : ∃ id', right.id = some id' ∧
      form.normalize id' = form.normalize id := by
    rw [key, key, Option.mem_def.mp hasId] at same
    exact Option.map_eq_some_iff.mp same.symm
  exact ⟨userFamilies, families, id', hasId', other, member, Eq.trans equal canonical.symm⟩

/-- The array is a list of different families of the user. -/
structure Admitted (form : CanonicalForm) (user : User) (channels : List Channel) : Prop where
  distinct : (channels.map (key form)).Nodup
  listed : ∀ channel ∈ channels, Listed form user channel

/-- Every call passes UIKit's check. -/
theorem checked_of_handled {call : RowUpdate}
    (handled : Handled form user channels change next (some call)) :
    call.Checked channels.length next.length := by
  cases handled with
  | @inserted channel _ _ _ _ _ found =>
      have count : (sort (rank form) (channels ++ [channel])).length = channels.length + 1 := by
        rw [(sort_perm _ _).length_eq, List.length_append, List.length_singleton]
      exact ⟨firstIndex_lt found, count⟩
  | reloaded _ _ found => exact ⟨firstIndex_lt found, List.length_set⟩
  | deleted _ _ found =>
      have inRange := firstIndex_lt found
      refine ⟨inRange, ?_⟩
      rw [List.length_eraseIdx_of_lt inRange]
      omega

theorem admitted_of_handled (admitted : Admitted form user channels)
    (handled : Handled form user channels change next update) : Admitted form user next := by
  cases handled with
  | skipped _ => exact admitted
  | @inserted channel _ _ _ new listed _ =>
      have isInsertion : insertNew (key form) (rank form) channels channel =
          sort (rank form) (channels ++ [channel]) := by
        rw [insertNew, if_neg (by simp [new])]
      rw [← isInsertion]
      constructor
      · exact insertNew_nodup admitted.distinct
      · intro other member
        rcases mem_insertNew.mp member with old | ⟨_, isNew⟩
        · exact admitted.listed other old
        · rw [isNew]
          exact listed
  | reloaded _ _ found =>
      obtain ⟨before, present, after, rfl, rfl, same⟩ := append_of_firstIndex found
      rw [List.set_append_right _ _ le_rfl, Nat.sub_self, List.set_cons_zero]
      constructor
      · have distinct := admitted.distinct
        rw [List.map_append, List.map_cons, same] at distinct
        rw [List.map_append, List.map_cons]
        exact distinct
      · intro channel member
        rcases List.mem_append.mp member with earlier | later
        · exact admitted.listed channel (List.mem_append_left _ earlier)
        · rcases List.mem_cons.mp later with rfl | later
          · exact listed_of_key same (admitted.listed present (by simp))
          · exact admitted.listed channel (by simp [later])
  | deleted _ _ found =>
      constructor
      · exact admitted.distinct.sublist ((List.eraseIdx_sublist _ _).map _)
      · intro channel member
        exact admitted.listed channel ((List.eraseIdx_sublist _ _).mem member)

/-- The array is admitted, and UIKit tracks as many rows as it has entries. -/
structure Safe (form : CanonicalForm) (user : User) (state : State) : Prop
    extends Admitted form user state.channels where
  counted : state.rows.length = state.channels.length

/-- Every change is processed, and leaves the table safe. -/
theorem exists_receive {state : State} (safe : Safe form user state) (change : Change) :
    ∃ after, receive form user state change = some after ∧ Safe form user after := by
  obtain ⟨next, update, result, handled⟩ := exists_handled form user state.channels change
  have admitted := admitted_of_handled safe.toAdmitted handled
  cases update with
  | none =>
      cases handled with
      | skipped _ =>
          exact ⟨⟨state.channels, state.rows, change.applied state.delivered⟩,
            by simp [receive, result], ⟨admitted, safe.counted⟩⟩
  | some call =>
      have checked := checked_of_handled handled
      have performed : (perform (labels next) state.rows call).isSome := by
        rw [perform_isSome_iff, labels, List.length_map, safe.counted]
        exact checked
      obtain ⟨shown, performed⟩ := Option.isSome_iff_exists.mp performed
      refine ⟨_, by simp [receive, result, performed]; rfl, ⟨admitted, ?_⟩⟩
      show shown.length = next.length
      rw [length_of_perform performed, labels, List.length_map]

theorem safe_empty (form : CanonicalForm) (user : User) : Safe form user State.empty :=
  ⟨⟨List.nodup_nil, by simp [State.empty]⟩, rfl⟩

/-- Any changes at all are processed to the end. -/
theorem exists_last (form : CanonicalForm) (user : User) (changes : List (Label Change Empty)) :
    ∃ last, (program form user).run (Program.start State.empty) changes = some last ∧
      Safe form user last.state := by
  refine Program.exists_run_of_progress (fun config => Safe form user config.state) ?_ changes
    (Program.start State.empty) (safe_empty form user)
  intro config label safe
  cases label with
  | answer ticket answer => exact answer.elim
  | event change =>
      obtain ⟨after, received, kept⟩ := exists_receive safe change
      exact ⟨_, by simp [Program.step, program, received]; rfl, kept⟩

/-- The channel table is safe for any changes whatsoever: it lists different
families of the user and nothing else, and the next call on the table view, if
there is one, has a row in range, changes the number of channels by one, nothing
or minus one, and is consistent with the rows UIKit has counted. -/
theorem tableSafe_of_run (form : CanonicalForm) (user : User) (changes : List Change) :
    ∃ last, (program form user).run (Program.start State.empty) (received changes) = some last ∧
      Safe form user last.state ∧
      ∀ change, ∃ next update,
        handleDocumentChange form user last.state.channels change = some (next, update) ∧
        (update = none → next = last.state.channels) ∧
        ∀ call ∈ update, call.Checked last.state.channels.length next.length ∧
          (perform (labels next) last.state.rows call).isSome := by
  obtain ⟨last, ran, safe⟩ := exists_last form user (received changes)
  refine ⟨last, ran, safe, fun change => ?_⟩
  obtain ⟨next, update, result, handled⟩ := exists_handled form user last.state.channels change
  refine ⟨next, update, result, ?_, ?_⟩
  · rintro rfl
    cases handled with
    | skipped _ => rfl
  · rintro call rfl
    have checked := checked_of_handled handled
    refine ⟨checked, ?_⟩
    rw [perform_isSome_iff, labels, List.length_map, safe.counted]
    exact checked

end Safety

/-! ## Labels -/

section Labels

variable (form : CanonicalForm) (user : User)

/-- The array is in the order of its names. -/
def Sorted (channels : List Channel) : Prop :=
  channels.Pairwise fun left right => rank form left ≤ rank form right

instance (channels : List Channel) : Decidable (Sorted form channels) :=
  inferInstanceAs (Decidable (channels.Pairwise _))

/-- Every row shows the name of the channel it opens. -/
def Agrees (state : State) : Prop := state.rows = labels state.channels

instance (state : State) : Decidable (Agrees state) :=
  inferInstanceAs (Decidable (state.rows = _))

/-- The change puts a channel into the array: it adds a document with a new id of
the user's families. -/
def Inserts (channels : List Channel) (change : Change) : Prop :=
  change.type = .added ∧ ∃ channel ∈ Channel.ofDocument? change.document.data,
    containsKey (key form) channels channel = false ∧ Listed form user channel

/-- An insertion finds the array in order. -/
def InOrder (state : State) (change : Change) : Prop :=
  Inserts form user state.channels change → Sorted form state.channels

variable {form user} {channels : List Channel} {change : Change}

/-- A sorted insertion moves no other label exactly if the array was sorted. -/
theorem eraseIdx_sort_iff {channel : Channel} {index : ℕ}
    (new : containsKey (key form) channels channel = false)
    (found : firstIndex (key form) (sort (rank form) (channels ++ [channel])) channel =
      some index) :
    (labels (sort (rank form) (channels ++ [channel]))).eraseIdx index = labels channels ↔
      Sorted form channels := by
  constructor
  · intro same
    have sorted := (sort_pairwise (rank form) (channels ++ [channel])).sublist
      (List.eraseIdx_sublist _ index)
    have names : ((sort (rank form) (channels ++ [channel])).eraseIdx index).map Channel.name =
        channels.map Channel.name := by
      rw [← List.eraseIdx_map]
      exact same
    have byName : (((sort (rank form) (channels ++ [channel])).eraseIdx index).map
        Channel.name).Pairwise fun left right => form.normalize left ≤ form.normalize right :=
      List.pairwise_map.mpr sorted
    rw [names, List.pairwise_map] at byName
    exact byName
  · intro sorted
    obtain ⟨before, after, rfl, result⟩ := sort_append_singleton channel sorted
    have earlier : ∀ other ∈ before, key form other ≠ key form channel := by
      intro other member same
      have known := containsKey_iff.mpr ⟨other, List.mem_append_left after member, same⟩
      simp [new] at known
    rw [result, firstIndex_of_append rfl earlier] at found
    obtain rfl := Option.some.inj found
    rw [result, labels, labels, List.eraseIdx_map, List.eraseIdx_append_of_length_le le_rfl,
      Nat.sub_self, List.eraseIdx_cons_zero]

/-- A change keeps the rows in agreement exactly if it inserts into a sorted array or
inserts nothing. -/
theorem agrees_iff_inOrder {state next : State} (agrees : Agrees state)
    (received : receive form user state change = some next) :
    Agrees next ↔ InOrder form user state change := by
  obtain ⟨_, update, handled, shown⟩ := handled_of_receive received
  unfold Agrees at agrees ⊢
  have step : ∀ call, update = some call →
      (next.rows = labels next.channels ↔
        call.Elsewhere (labels state.channels) (labels next.channels)) := by
    rintro call rfl
    rw [← agrees]
    exact perform_eq_source_iff shown
  generalize next.channels = after at handled step shown ⊢
  cases handled with
  | skipped skips =>
      refine iff_of_true (shown.trans agrees) ?_
      rintro ⟨added, channel, decoded, new, listed⟩
      have reason := skips channel decoded
      rw [if_pos added, new] at reason
      exact (reason.elim Bool.false_ne_true fun foreign => foreign listed).elim
  | @inserted channel _ decoded added new listed found =>
      rw [step _ rfl]
      refine (eraseIdx_sort_iff new found).trans ⟨fun sorted _ => sorted, fun inOrder => ?_⟩
      exact inOrder ⟨added, channel, decoded, new, listed⟩
  | @reloaded channel index _ modified _ =>
      rw [step _ rfl]
      refine iff_of_true ?_ fun inserts => absurd inserts.1 (by simp [modified])
      show (labels (state.channels.set index channel)).eraseIdx index =
        (labels state.channels).eraseIdx index
      rw [labels, List.map_set, List.eraseIdx_set_eq, labels]
  | @deleted channel index _ removed _ =>
      rw [step _ rfl]
      refine iff_of_true ?_ fun inserts => absurd inserts.1 (by simp [removed])
      show labels (state.channels.eraseIdx index) = (labels state.channels).eraseIdx index
      rw [labels, labels, List.eraseIdx_map]

/-- All along the changes every row shows the name of the channel it opens, exactly
if every insertion finds the array in the order of its names. -/
theorem rows_agree_iff (form : CanonicalForm) (user : User) (changes : List Change) :
    (program form user).Always (fun config => Agrees config.state) (Program.start State.empty)
        (received changes) ↔
      (program form user).Obeys (onState (InOrder form user) fun _ _ _ => True)
        (Program.start State.empty) (received changes) := by
  obtain ⟨last, ran, _⟩ := exists_last form user (received changes)
  refine Program.always_iff_obeys ?_ rfl Program.obeys_true ran
  intro config label next agrees _ taken
  obtain ⟨change, rfl, received⟩ := step_receive taken
  exact agrees_iff_inOrder agrees received

end Labels

/-! ## A rename and an insertion -/

/-- A user with the given families. -/
def memberOf (families : List String) : User where
  email := none
  profileImageUrl := none
  firstname := none
  uid := none
  dob := "Unknow"
  bio := none
  familyId := none
  families := some families

/-- A change of the channel document that `createTapped` stores. -/
def channelChange (type : ChangeType) (documentID id name : String) : Change :=
  ⟨type, documentID, (Channel.mk (some id) name).representation⟩

/-- Two channels come in, the first is renamed to stand behind the second. -/
def renamed : List Change :=
  [channelChange .added "1" "a" "Ash", channelChange .added "2" "b" "Birch",
    channelChange .modified "1" "a" "Willow"]

/-- Then a third channel comes in. -/
def renamedThenAdded : List Change := renamed ++ [channelChange .added "3" "c" "Cedar"]

theorem consistent_renamedThenAdded : Consistent ∅ renamedThenAdded :=
  show _ ∧ _ ∧ _ ∧ _ ∧ True from ⟨rfl, rfl, rfl, rfl, trivial⟩

/-- The rows are then out of step with the channels: the first row reads Willow and
opens Birch. -/
theorem rows_disagree_after_rename :
    Consistent ∅ renamedThenAdded ∧
      ∃ last, (program CanonicalForm.scalars (memberOf ["a", "b", "c"])).run
          (Program.start State.empty) (received renamedThenAdded) = some last ∧
        ¬ Agrees last.state ∧ last.state.rows = ["Willow", "Cedar", "Birch"] ∧
        labels last.state.channels = ["Birch", "Cedar", "Willow"] :=
  ⟨consistent_renamedThenAdded, Program.exists_run (by decide)⟩

end Familog.Channels
