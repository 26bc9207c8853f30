import Familog.Chat.Callback

/-!
Contract: a chat shows nothing but genuine messages.

Owns the rule that holds of any thread, also while it is edited and while documents leave the
windows of listeners: as long as only genuine documents are written, nothing traps, every
message has been read from a genuine document, none is shown twice, and they are in the order
of their dates. What makes a document genuine is a parameter.

Does not own which of the documents are shown.
-/

set_option autoImplicit false

namespace Familog.Chat

open Async Firestore

variable {Url Image : Type} {bucket : Bucket Url Image} {genuine genuine' : Document String → Prop}
  {state next : State Url Image} {change : DocumentChange String} {message : Message Url Image}
  {new : List (Task Url)}

/-- Only genuine documents are there, and only they are shown. -/
structure Authentic (bucket : Bucket Url Image) (genuine : Document String → Prop)
    (state : State Url Image) : Prop where
  running : state.trapped = false
  thread : ∀ documentID data, state.thread.get? documentID = some data →
    genuine ⟨documentID, data⟩
  messages : ∀ message ∈ state.messages, ∃ document, genuine document ∧
    message? bucket document = some message
  sorted : state.messages.Pairwise fun left right => left.sentDate ≤ right.sentDate
  distinct : (state.messages.map Message.id).Nodup

/-- A document that is written is genuine. -/
def Genuine (genuine : Document String → Prop) : Event → Prop
  | .write documentID data => genuine ⟨documentID, data⟩
  | _ => True

theorem authentic_unopened {thread : Collection String}
    (all : ∀ documentID data, thread.get? documentID = some data → genuine ⟨documentID, data⟩) :
    Authentic bucket genuine (State.unopened Url Image thread) :=
  ⟨rfl, all, by simp [State.unopened], by simp [State.unopened], by simp [State.unopened]⟩

theorem Authentic.mono (authentic : Authentic bucket genuine state)
    (more : ∀ document, genuine document → genuine' document) :
    Authentic bucket genuine' state where
  running := authentic.running
  thread documentID data stored := more _ (authentic.thread documentID data stored)
  messages message member := by
    obtain ⟨document, isGenuine, read⟩ := authentic.messages message member
    exact ⟨document, more document isGenuine, read⟩
  sorted := authentic.sorted
  distinct := authentic.distinct

/-- Inserting the message of a genuine document. -/
theorem Authentic.insert (authentic : Authentic bucket genuine state)
    (isGenuine : genuine change.document) (read : message? bucket change.document = some message) :
    Authentic bucket genuine (state.insert change message) where
  running := authentic.running
  thread := authentic.thread
  messages := by
    intro other member
    rcases Swift.mem_insertNew.mp member with old | ⟨_, rfl⟩
    · exact authentic.messages other old
    · exact ⟨change.document, isGenuine, read⟩
  sorted := Swift.insertNew_pairwise authentic.sorted
  distinct := Swift.insertNew_nodup authentic.distinct

/-- The document of a change is genuine, also when it is taken back. -/
theorem Authentic.of_change (authentic : Authentic bucket genuine state)
    (present : change.type ≠ .removed →
      state.thread.get? change.document.documentID = some change.document.data)
    (removed : change.type = .removed → genuine change.document) : genuine change.document := by
  by_cases gone : change.type = .removed
  · exact removed gone
  · exact authentic.thread _ _ (present gone)

/-- What the handling of a genuine change leaves, with what it asks for. -/
theorem Authentic.changed (authentic : Authentic bucket genuine state)
    (isMessage : ∀ document, genuine document → IsMessage bucket document.data)
    (isGenuine : genuine change.document) (handled : Handled bucket state change next new) :
    Authentic bucket genuine next ∧ ∀ task ∈ new, Pending genuine
      (fun url other => genuine other.document ∧
        demand? bucket other.document = some (.downloadImage url)) task := by
  cases handled with
  | trapped demand => exact absurd demand (demand?_ne_none (isMessage _ isGenuine))
  | asked demand =>
      exact ⟨⟨authentic.running, authentic.thread, authentic.messages, authentic.sorted,
        authentic.distinct⟩, List.forall_mem_singleton.mpr ⟨isGenuine, demand⟩⟩
  | inserted demand =>
      have before : Authentic bucket genuine (state.deliver [change]) :=
        ⟨authentic.running, authentic.thread, authentic.messages, authentic.sorted,
          authentic.distinct⟩
      exact ⟨before.insert isGenuine (message?_of_demand demand), by simp⟩

theorem Authentic.occurred {event : Event} (authentic : Authentic bucket genuine state)
    (isGenuine : Genuine genuine event) (occurred : Occurred state event next new) :
    Authentic bucket genuine next := by
  cases occurred with
  | fetched _ _ =>
      exact ⟨authentic.running, authentic.thread, authentic.messages, authentic.sorted,
        authentic.distinct⟩
  | @written documentID data =>
      refine ⟨authentic.running, fun other otherData found => ?_, authentic.messages,
        authentic.sorted, authentic.distinct⟩
      rw [Collection.get?_set] at found
      split_ifs at found with same
      · rw [same, ← Option.some.inj found]
        exact isGenuine
      · exact authentic.thread other otherData found
  | deleted =>
      exact ⟨authentic.running, fun _ _ found =>
        authentic.thread _ _ (Collection.get?_of_get?_erase found), authentic.messages,
        authentic.sorted, authentic.distinct⟩

theorem Authentic.answered {url : Url} {answer : Answer}
    (authentic : Authentic bucket genuine state)
    (isMessage : ∀ document, genuine document → IsMessage bucket document.data)
    (isGenuine : genuine change.document)
    (demand : demand? bucket change.document = some (.downloadImage url))
    (answered : Answered bucket state (.downloadImage url change) answer next new) :
    Authentic bucket genuine next ∧ new = [] := by
  cases answered with
  | downloadFailed _ =>
      exact ⟨⟨authentic.running, authentic.thread, authentic.messages, authentic.sorted,
        authentic.distinct⟩, rfl⟩
  | loadedFaulty _ faulty =>
      exact absurd faulty (completed?_ne_none (isMessage _ isGenuine) _)
  | loaded stored read =>
      have before : Authentic bucket genuine (state.succeed change) :=
        ⟨authentic.running, authentic.thread, authentic.messages, authentic.sorted,
          authentic.distinct⟩
      exact ⟨before.insert isGenuine (message?_of_completed demand stored read), rfl⟩

/-- While only genuine documents are written, only they are shown. -/
def authenticity (bucket : Bucket Url Image) (genuine : Document String → Prop)
    (isMessage : ∀ document, genuine document → IsMessage bucket document.data) :
    Rule bucket (fun _ => Genuine genuine) fun _ _ _ => True where
  inv := Authentic bucket genuine
  seen _ := genuine
  wanted _ url change := genuine change.document ∧
    demand? bucket change.document = some (.downloadImage url)
  seen_adds _ seen := seen
  wanted_adds _ wanted := wanted
  changed authentic present removed handled :=
    have isGenuine := authentic.of_change present removed
    have after := authentic.changed isMessage isGenuine handled
    ⟨after.1, isGenuine, after.2⟩
  occurred authentic isGenuine occurred := authentic.occurred isGenuine occurred
  answered authentic wanted _ answered :=
    authentic.answered isMessage wanted.1 wanted.2 answered

/-- With more genuine documents it still holds. -/
theorem authenticity_mono
    {isMessage : ∀ document, genuine document → IsMessage bucket document.data}
    (isMessage' : ∀ document, genuine' document → IsMessage bucket document.data)
    (more : ∀ document, genuine document → genuine' document) {channel : Channel}
    {config : Config (State Url Image) (Task Url)}
    (holds : ((authenticity bucket genuine isMessage).outline channel).Holds config) :
    ((authenticity bucket genuine' isMessage').outline channel).Holds config where
  inv := Authentic.mono holds.inv more
  need task member := by
    have needed := holds.need task member
    cases task with
    | listener limit view =>
        exact fun documentID data found => more _ (needed documentID data found)
    | downloadImage url change => exact ⟨more _ needed.1, needed.2⟩
  apart := holds.apart

end Familog.Chat
