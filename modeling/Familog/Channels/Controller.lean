import Mathlib.Data.String.Basic
import Familog.Async.Program
import Familog.Firestore.Changes
import Familog.Records
import Familog.Swift.SortedArray
import Familog.Swift.Text
import Familog.UIKit.TableView

/-!
Contract: `ChannelsViewController` from the moment its user is loaded.

`fetchUser` registers one listener on the channels collection when the user
document has been read. Every change the listener delivers goes through
`handleDocumentChange`, which changes the array and tells the table view about
one row. Channels are equal if their ids are and ordered by their names.

Owns that loop body, its calls on the table view, and the cell of a row.

Does not own the chat a row opens. The user is read once, so its families stay
what they were.
-/

set_option autoImplicit false

namespace Familog.Channels

open Async Firestore Swift UIKit

/-- The change of one document. -/
abbrev Change := DocumentChange String

/-- The array and the labels of the rows. What the listener has delivered is not
stored by the source. -/
structure State where
  channels : List Channel
  rows : List String
  delivered : Collection String

/-- When the listener is registered. -/
def State.empty : State where
  channels := []
  rows := []
  delivered := ∅

section Controller

variable (form : CanonicalForm) (user : User)

/-- What `==` compares. -/
def key (channel : Channel) : Option String := channel.id.map form.normalize

/-- What `<` compares. -/
def rank (channel : Channel) : String := form.normalize channel.name

/-- `addChannelToTable`; nil where `channel.id!` fails. -/
def addChannelToTable (channels : List Channel) (channel : Channel) :
    Option (List Channel × Option RowUpdate) :=
  if containsKey (key form) channels channel then some (channels, none)
  else
    match user.families, channel.id with
    | none, _ => some (channels, none)
    | some _, none => none
    | some userFamilies, some id =>
        let added :=
          if form.Contains userFamilies id then sort (rank form) (channels ++ [channel])
          else channels
        match firstIndex (key form) added channel with
        | none => some (added, none)
        | some index => some (added, some (.insertRows index))

/-- `updateChannelInTable`; the array is not sorted again. -/
def updateChannelInTable (channels : List Channel) (channel : Channel) :
    List Channel × Option RowUpdate :=
  match firstIndex (key form) channels channel with
  | none => (channels, none)
  | some index => (channels.set index channel, some (.reloadRows index))

/-- `removeChannelFromTable`. -/
def removeChannelFromTable (channels : List Channel) (channel : Channel) :
    List Channel × Option RowUpdate :=
  match firstIndex (key form) channels channel with
  | none => (channels, none)
  | some index => (channels.eraseIdx index, some (.deleteRows index))

/-- `handleDocumentChange`: the array afterwards, and the call on the table view. -/
def handleDocumentChange (channels : List Channel) (change : Change) :
    Option (List Channel × Option RowUpdate) :=
  match Channel.ofDocument? change.document.data with
  | none => some (channels, none)
  | some channel =>
      match change.type with
      | .added => addChannelToTable form user channels channel
      | .modified => some (updateChannelInTable form channels channel)
      | .removed => some (removeChannelFromTable form channels channel)

/-- What `cellForRowAt` renders, row by row. -/
def labels (channels : List Channel) : List String := channels.map Channel.name

/-- One round of the loop over `documentChanges`; `none` where an unwrap fails or
UIKit raises an exception. -/
def receive (state : State) (change : Change) : Option State :=
  (handleDocumentChange form user state.channels change).bind fun result =>
    let shown :=
      match result.2 with
      | none => some state.rows
      | some update => perform (labels result.1) state.rows update
    shown.map fun rows =>
      { channels := result.1, rows := rows, delivered := change.applied state.delivered }

/-- The controller as a program: the changes reach it one by one, and it asks for
nothing. -/
def program : Program State Change Empty Empty where
  handle state change := (receive form user state change).map fun next => (next, [])
  resume _ task _ := nomatch task

/-- The id of the channel is one of the user's families. -/
def Listed (channel : Channel) : Prop :=
  ∃ userFamilies ∈ user.families, ∃ id ∈ channel.id, form.Contains userFamilies id

instance (channel : Channel) : Decidable (Listed form user channel) :=
  inferInstanceAs (Decidable (∃ userFamilies ∈ user.families, ∃ id ∈ channel.id, _))

/-- The changes as labels of a run. -/
def received (changes : List Change) : List (Label Change Empty) := changes.map .event

end Controller

/-! ## What a change can do -/

/-- A document that decodes has an id. -/
theorem id_of_document {data : Fields} {channel : Channel}
    (decoded : Channel.ofDocument? data = some channel) : ∃ id, channel.id = some id := by
  simp only [Channel.ofDocument?, Option.bind_eq_bind, Option.bind_eq_some_iff,
    Option.some.injEq] at decoded
  obtain ⟨name, _, id, _, rfl⟩ := decoded
  exact ⟨id, rfl⟩

section Handled

variable (form : CanonicalForm) (user : User)

/-- The change leaves the array alone. -/
def Skipped (channels : List Channel) (change : Change) : Prop :=
  ∀ channel, Channel.ofDocument? change.document.data = some channel →
    if change.type = .added then
      containsKey (key form) channels channel = true ∨ ¬ Listed form user channel
    else containsKey (key form) channels channel = false

/-- Everything a change can do to the array, with the call that goes with it. -/
inductive Handled (channels : List Channel) (change : Change) :
    List Channel → Option RowUpdate → Prop where
  | skipped : Skipped form user channels change → Handled channels change channels none
  | inserted {channel index} :
      Channel.ofDocument? change.document.data = some channel → change.type = .added →
      containsKey (key form) channels channel = false → Listed form user channel →
      firstIndex (key form) (sort (rank form) (channels ++ [channel])) channel = some index →
      Handled channels change (sort (rank form) (channels ++ [channel])) (some (.insertRows index))
  | reloaded {channel index} :
      Channel.ofDocument? change.document.data = some channel → change.type = .modified →
      firstIndex (key form) channels channel = some index →
      Handled channels change (channels.set index channel) (some (.reloadRows index))
  | deleted {channel index} :
      Channel.ofDocument? change.document.data = some channel → change.type = .removed →
      firstIndex (key form) channels channel = some index →
      Handled channels change (channels.eraseIdx index) (some (.deleteRows index))

variable {form user} {channels : List Channel} {change : Change}

/-- An appended channel is found again after the sort. -/
theorem exists_firstIndex_sort (form : CanonicalForm) (channels : List Channel)
    (channel : Channel) : ∃ index,
    firstIndex (key form) (sort (rank form) (channels ++ [channel])) channel = some index := by
  rw [← Option.isSome_iff_exists, Option.isSome_iff_ne_none, ne_eq, firstIndex_eq_none,
    Bool.not_eq_false, containsKey_iff]
  exact ⟨channel, (sort_perm _ _).mem_iff.mpr (by simp), rfl⟩

/-- Adding a channel that has an id. -/
theorem addChannelToTable_cases (form : CanonicalForm) (user : User) (channels : List Channel)
    {channel : Channel} {id : String} (hasId : channel.id = some id) :
    ((containsKey (key form) channels channel = true ∨ ¬ Listed form user channel) ∧
        addChannelToTable form user channels channel = some (channels, none)) ∨
      ∃ index, containsKey (key form) channels channel = false ∧ Listed form user channel ∧
        firstIndex (key form) (sort (rank form) (channels ++ [channel])) channel = some index ∧
        addChannelToTable form user channels channel =
          some (sort (rank form) (channels ++ [channel]), some (.insertRows index)) := by
  cases known : containsKey (key form) channels channel with
  | true => exact Or.inl ⟨Or.inl rfl, by simp [addChannelToTable, known]⟩
  | false =>
      cases families : user.families with
      | none =>
          refine Or.inl ⟨Or.inr ?_, by simp [addChannelToTable, known, families]⟩
          simp [Listed, families]
      | some userFamilies =>
          have listed : Listed form user channel ↔ form.Contains userFamilies id := by
            simp [Listed, families, hasId]
          by_cases contained : form.Contains userFamilies id
          · obtain ⟨index, found⟩ := exists_firstIndex_sort form channels channel
            refine Or.inr ⟨index, rfl, listed.mpr contained, found, ?_⟩
            simp [addChannelToTable, known, families, hasId, contained, found]
          · have absent := firstIndex_eq_none.mpr known
            refine Or.inl ⟨Or.inr fun isListed => contained (listed.mp isListed), ?_⟩
            simp [addChannelToTable, known, families, hasId, contained, absent]

/-- A change never makes an unwrap fail, and does one of the four things. -/
theorem exists_handled (form : CanonicalForm) (user : User) (channels : List Channel)
    (change : Change) : ∃ next update,
      handleDocumentChange form user channels change = some (next, update) ∧
        Handled form user channels change next update := by
  cases decoded : Channel.ofDocument? change.document.data with
  | none =>
      refine ⟨channels, none, by simp [handleDocumentChange, decoded], .skipped ?_⟩
      intro channel found
      simp [decoded] at found
  | some channel =>
      obtain ⟨id, hasId⟩ := id_of_document decoded
      have only : ∀ other, Channel.ofDocument? change.document.data = some other →
          channel = other := by
        intro other found
        exact Option.some.inj (decoded.symm.trans found)
      cases type : change.type with
      | added =>
          rcases addChannelToTable_cases form user channels hasId with
            ⟨skips, result⟩ | ⟨index, new, listed, found, result⟩
          · refine ⟨channels, none, by simp [handleDocumentChange, decoded, type, result],
              .skipped ?_⟩
            intro other found
            rw [if_pos type, ← only other found]
            exact skips
          · exact ⟨_, _, by simp [handleDocumentChange, decoded, type, result],
              .inserted decoded type new listed found⟩
      | modified =>
          cases position : firstIndex (key form) channels channel with
          | none =>
              refine ⟨channels, none, by
                simp [handleDocumentChange, decoded, type, updateChannelInTable, position],
                .skipped ?_⟩
              intro other found
              rw [if_neg (by simp [type]), ← only other found]
              exact firstIndex_eq_none.mp position
          | some index =>
              exact ⟨_, _, by
                simp [handleDocumentChange, decoded, type, updateChannelInTable, position],
                .reloaded decoded type position⟩
      | removed =>
          cases position : firstIndex (key form) channels channel with
          | none =>
              refine ⟨channels, none, by
                simp [handleDocumentChange, decoded, type, removeChannelFromTable, position],
                .skipped ?_⟩
              intro other found
              rw [if_neg (by simp [type]), ← only other found]
              exact firstIndex_eq_none.mp position
          | some index =>
              exact ⟨_, _, by
                simp [handleDocumentChange, decoded, type, removeChannelFromTable, position],
                .deleted decoded type position⟩

theorem handled_of_handleDocumentChange {next : List Channel} {update : Option RowUpdate}
    (result : handleDocumentChange form user channels change = some (next, update)) :
    Handled form user channels change next update := by
  obtain ⟨_, _, same, handled⟩ := exists_handled form user channels change
  obtain ⟨rfl, rfl⟩ := Prod.mk.inj (Option.some.inj (same.symm.trans result))
  exact handled

/-- Everything one round of the loop does to the state. -/
theorem handled_of_receive {state next : State}
    (received : receive form user state change = some next) :
    next.delivered = change.applied state.delivered ∧
      ∃ update, Handled form user state.channels change next.channels update ∧
        match update with
        | none => next.rows = state.rows
        | some call => perform (labels next.channels) state.rows call = some next.rows := by
  obtain ⟨⟨channels, update⟩, result, rest⟩ := Option.bind_eq_some_iff.mp received
  obtain ⟨rows, shown, rfl⟩ := Option.map_eq_some_iff.mp rest
  refine ⟨rfl, update, handled_of_handleDocumentChange result, ?_⟩
  cases update with
  | none => exact (Option.some.inj shown).symm
  | some call => exact shown

/-- A step of the program is one round of the loop. -/
theorem step_receive {config next : Config State Empty} {label : Label Change Empty}
    (taken : (program form user).step config label = some next) :
    ∃ change, label = .event change ∧
      receive form user config.state change = some next.state := by
  rcases Program.step_cases taken with
    ⟨change, new, rfl, handled, _⟩ | ⟨_, answer, _⟩
  · obtain ⟨state, received, same⟩ := Option.map_eq_some_iff.mp handled
    obtain ⟨rfl, rfl⟩ := Prod.mk.inj same
    exact ⟨change, rfl, received⟩
  · exact answer.elim

end Handled

end Familog.Channels
