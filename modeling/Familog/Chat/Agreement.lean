import Familog.Chat.Conversation

/-!
Contract: the chats of one thread agree.

Owns the condition that no two messages of the thread have one date, the state of a chat that
has caught up with the thread, and the result that such chats show every stored message once,
in the order of the dates, so that any two of them show the same.

Does not own when a chat catches up, and takes dates as they are set by the devices.
-/

set_option autoImplicit false

namespace Familog.Chat.Conversation

open Async Firestore

variable {Url Image : Type}

section Definitions

variable (bucket : Bucket Url Image)

/-- The message that is stored now has a date of its own. -/
def NewDate (state : State Url Image) : Task Url Image → Answer Url → Prop
  | .addDocument _ message, .assigned _ => ∀ document ∈ state.thread.documents,
      document.2.timestamp? "created" ≠ some message.sentDate
  | _, _ => True

instance (state : State Url Image) (task : Task Url Image) (answer : Answer Url) :
    Decidable (NewDate state task answer) := by
  unfold NewDate
  split <;> infer_instance

/-- Every chat is opened by a user with an id and a name. -/
def OpensNamed : Event Image → Prop := Opens fun profile => Named profile.user

instance : DecidablePred (OpensNamed : Event Image → Prop) := fun event => by
  unfold OpensNamed Opens
  split <;> infer_instance

/-- A chat records what the thread holds, and waits for the rest. -/
structure Synced (state : State Url Image)
    (copy : Copy Profile (Chat.State Url Image) (Chat.Task Url)) : Prop where
  thread : copy.config.state.thread = state.thread
  holds : ((recording bucket).outline copy.profile.channel).Holds copy.config
  awaited : Awaited bucket copy.config.state copy.config.pool.tasks
  registered : copy.profile.channel.id ≠ none → Registered copy.config

/-- Nothing is pending but the listeners, which have delivered what they ask for, no
download has failed, and the chat asks for at least as much as there is. -/
structure CaughtUp (state : State Url Image)
    (copy : Copy Profile (Chat.State Url Image) (Chat.Task Url)) : Prop where
  hasId : copy.profile.channel.id ≠ none
  quiet : Quiet copy.config
  windows : WindowsDelivered copy.config
  noFailure : copy.config.state.failed = []
  all : state.thread.documents.length ≤ copy.config.state.massageNumber

/-- The invariant of the conversation. -/
structure Tracked (state : State Url Image) : Prop where
  sound : Sound bucket (fun profile => Named profile.user) state
  dates : MessageThread bucket state.thread
  chats : ∀ copy ∈ state.chats, Synced bucket state copy

end Definitions

section Steps

variable {bucket : Bucket Url Image} {encodes : Image → Bool} {state next : State Url Image}
  {copy : Copy Profile (Chat.State Url Image) (Chat.Task Url)} {new : List (Task Url Image)}

theorem tracked_empty : Tracked bucket (State.empty Url Image) where
  sound := sound_empty
  dates := ⟨by simp [State.empty], by simp [State.empty]⟩
  chats := by simp [State.empty]

theorem Synced.opened (dates : MessageThread bucket state.thread) {profile : Profile}
    {config : Config (Chat.State Url Image) (Chat.Task Url)}
    (taken : (Chat.program bucket profile.channel).step
      (Program.start (State.unopened Url Image state.thread)) (.event .viewDidLoad) =
        some config) : Synced bucket state ⟨profile, config⟩ := by
  obtain ⟨thread, allowed⟩ := step_of_listens (Untouched bucket) (fun _ => ⟨trivial, trivial⟩)
    (Or.inr rfl) taken
  have start : ((recording bucket).outline profile.channel).Holds
      (Program.start (State.unopened Url Image state.thread)) :=
    Outline.start _ (recorded_unopened dates)
  refine ⟨thread, Outline.step _ start allowed taken, awaited_step ?_ start taken, fun hasId =>
    registered_step hasId taken (Or.inr rfl)⟩
  intro change member
  simp [Program.start, State.unopened] at member

theorem Synced.listened {config : Config (Chat.State Url Image) (Chat.Task Url)}
    {label : Label Chat.Event Chat.Answer} (synced : Synced bucket state copy)
    (listens : Listens label = true)
    (taken : (chat bucket copy.profile).step copy.config label = some config) :
    Synced bucket state { copy with config := config } := by
  obtain ⟨thread, allowed⟩ := step_of_listens (Untouched bucket) (fun _ => ⟨trivial, trivial⟩)
    (Or.inl listens) taken
  exact ⟨thread.trans synced.thread, Outline.step _ synced.holds allowed taken,
    awaited_step synced.awaited synced.holds taken,
    fun hasId => registered_step hasId taken (Or.inl (synced.registered hasId))⟩

/-- A document with a new id and a new date. -/
theorem untouched_write {thread : Collection String} {chatState : Chat.State Url Image}
    (same : chatState.thread = thread) {entry : Entry Url Image}
    (fresh : thread.get? entry.documentID = none)
    (newDate : ∀ document ∈ thread.documents,
      document.2.timestamp? "created" ≠ some entry.message.sentDate) :
    Untouched bucket chatState
      (.write entry.documentID (entry.message.representation bucket)) := by
  refine ⟨same ▸ fresh, isMessage_representation bucket entry.message, ?_⟩
  rw [same, representation_created]
  exact newDate

theorem Synced.told (synced : Synced bucket state copy) {entry : Entry Url Image}
    (fresh : state.thread.get? entry.documentID = none)
    (newDate : ∀ document ∈ state.thread.documents,
      document.2.timestamp? "created" ≠ some entry.message.sentDate) :
    ∃ config, (chat bucket copy.profile).step copy.config (.event
        (.write entry.documentID (entry.message.representation bucket))) = some config ∧
      Synced bucket (state.store bucket entry) { copy with config := config } := by
  obtain ⟨config, taken, thread⟩ := tell_write bucket copy.profile
    (Recorded.of_holds synced.holds).running entry.documentID (entry.message.representation bucket)
  refine ⟨config, taken, ?_, Outline.step _ synced.holds ?_ taken,
    awaited_step synced.awaited synced.holds taken,
    fun hasId => registered_step hasId taken (Or.inl (synced.registered hasId))⟩
  · show config.state.thread = state.thread.set _ _
    rw [thread, synced.thread]
  · show Untouched bucket copy.config.state
      (.write entry.documentID (entry.message.representation bucket))
    exact untouched_write synced.thread fresh newDate

/-- With the document the dates of the thread stay different. -/
theorem dates_of_store (dates : MessageThread bucket state.thread) {entry : Entry Url Image}
    (fresh : state.thread.get? entry.documentID = none)
    (newDate : ∀ document ∈ state.thread.documents,
      document.2.timestamp? "created" ≠ some entry.message.sentDate) :
    MessageThread bucket (state.store bucket entry).thread :=
  ((recorded_unopened dates).occurred (untouched_write rfl fresh newDate) .written).thread

theorem Tracked.acted (tracked : Tracked bucket state) {event : Event Image}
    (sound : Sound bucket (fun profile => Named profile.user) next)
    (acted : Acted bucket state event next new) : Tracked bucket next := by
  have lost : ∀ {index : ℕ} {attempt : Attempt Image}, Sent state index attempt next new →
      Tracked bucket next := by
    intro index attempt sent
    obtain ⟨⟨lost, rfl⟩, _⟩ := sent.carried_on tracked.sound.admitted
    exact ⟨sound, tracked.dates, fun copy member =>
      have synced := tracked.chats copy member
      ⟨synced.thread, synced.holds, synced.awaited, synced.registered⟩⟩
  cases acted with
  | opened taken =>
      refine ⟨sound, tracked.dates, fun copy member => ?_⟩
      have synced : Synced bucket state copy :=
        (List.mem_append.mp member).elim (tracked.chats copy) fun here =>
          List.mem_singleton.mp here ▸ .opened tracked.dates taken
      exact ⟨synced.thread, synced.holds, synced.awaited, synced.registered⟩
  | listened listens stepped =>
      refine ⟨sound, tracked.dates, fun copy member => ?_⟩
      have synced := Copy.forall_act tracked.chats stepped
        (fun synced taken => synced.listened listens taken) copy member
      exact ⟨synced.thread, synced.holds, synced.awaited, synced.registered⟩
  | text sent | photo sent => exact lost sent

theorem Tracked.answered (tracked : Tracked bucket state) {task : Task Url Image}
    {answer : Answer Url} (newDate : NewDate state task answer)
    (sound : Sound bucket (fun profile => Named profile.user) next)
    (answered : Answered bucket state task answer next new) : Tracked bucket next := by
  cases answered with
  | sent sent =>
      obtain ⟨⟨lost, rfl⟩, _⟩ := sent.carried_on tracked.sound.admitted
      exact ⟨sound, tracked.dates, fun copy member =>
        have synced := tracked.chats copy member
        ⟨synced.thread, synced.holds, synced.awaited, synced.registered⟩⟩
  | stored fresh =>
      exact ⟨sound, dates_of_store tracked.dates fresh newDate,
        Copy.forall_tell tracked.chats fun synced => synced.told fresh newDate⟩

/-- While every message has a date of its own, the chats keep track of the thread. -/
theorem tracked_relies (bucket : Bucket Url Image) (encodes : Image → Bool) :
    Relies (program bucket encodes) (fun _ => OpensNamed) NewDate (Tracked bucket) Need
      Joins where
  handled tracked opens handled :=
    have after := (sound_relies bucket encodes fun _ named => named).handled tracked.sound opens
      handled
    ⟨tracked.acted after.1 (acted_of_handle handled), after.2⟩
  resumed tracked need newDate resumed :=
    have after := (sound_relies bucket encodes fun _ named => named).resumed tracked.sound need
      trivial resumed
    ⟨tracked.answered newDate after.1 (answered_of_resume resumed), after.2⟩
  stable := (sound_relies bucket encodes fun _ named => named).stable

end Steps

/-! ## Chats that have caught up -/

section Runs

variable {bucket : Bucket Url Image} {encodes : Image → Bool} {state : State Url Image}
  {copy left right : Copy Profile (Chat.State Url Image) (Chat.Task Url)}

/-- A chat that has caught up shows what the documents of the thread stand for. -/
theorem mem_of_caughtUp (synced : Synced bucket state copy) (caughtUp : CaughtUp state copy)
    {documentID : String} {data : Fields} (stored : state.thread.get? documentID = some data) :
    ∃ message ∈ copy.config.state.messages,
      message? bucket ⟨documentID, data⟩ = some message := by
  obtain ⟨view, listener⟩ := synced.registered caughtUp.hasId
  have inWindow : (documentID, data) ∈
      newest copy.config.state.massageNumber copy.config.state.thread := by
    have long : (Swift.sort rank state.thread.documents).length ≤
        copy.config.state.massageNumber := by
      rw [(Swift.sort_perm _ _).length_eq]
      exact caughtUp.all
    rw [synced.thread, newest, List.take_of_length_le long, (Swift.sort_perm _ _).mem_iff]
    exact Collection.mem_documents.mpr stored
  obtain ⟨delivered, found⟩ := Option.isSome_iff_exists.mp
    (caughtUp.windows _ listener _ inWindow)
  obtain ⟨message, member, current⟩ := shown_of_view synced.holds synced.awaited
    caughtUp.quiet caughtUp.noFailure listener found
  rw [current?, synced.thread, stored] at current
  exact ⟨message, member, current⟩

/-- A chat that has caught up shows the same as any other. -/
theorem messages_eq_of_caughtUp (leftSynced : Synced bucket state left)
    (rightSynced : Synced bucket state right) (leftCaughtUp : CaughtUp state left)
    (rightCaughtUp : CaughtUp state right) :
    left.config.state.messages = right.config.state.messages := by
  have through : ∀ {first second : Copy Profile (Chat.State Url Image) (Chat.Task Url)},
      Synced bucket state first → Synced bucket state second → CaughtUp state second →
      ∀ message ∈ first.config.state.messages, message ∈ second.config.state.messages := by
    intro first second firstSynced secondSynced caughtUp message member
    obtain ⟨document, stored, read⟩ :=
      (Recorded.of_holds firstSynced.holds).exists_stored member
    rw [firstSynced.thread] at stored
    obtain ⟨other, inOther, otherRead⟩ := mem_of_caughtUp secondSynced caughtUp stored
    obtain rfl := Option.some.inj (read.symm.trans otherRead)
    exact inOther
  refine Swift.eq_of_strictly_sorted (Recorded.of_holds leftSynced.holds).increasing
    (Recorded.of_holds rightSynced.holds).increasing fun message => ⟨?_, ?_⟩
  · exact through leftSynced rightSynced rightCaughtUp message
  · exact through rightSynced leftSynced leftCaughtUp message

/-- The chats of a thread agree. In every run in which no two messages are stored with one
date, whatever fails and in whatever order the steps happen, a chat that has caught up shows
every stored message exactly once, as it was sent and in the order of the dates; any two chats
that have caught up show the same. -/
theorem caughtUp_agree_of_run {labels : List (Label (Event Image) (Answer Url))}
    {last : Config (State Url Image) (Task Url Image)}
    (obeys : (program bucket encodes).Obeys (onState (fun _ => OpensNamed) NewDate)
      (Program.start (State.empty Url Image)) labels)
    (ran : (program bucket encodes).run (Program.start (State.empty Url Image)) labels =
      some last) :
    (∀ copy ∈ last.state.chats, CaughtUp last.state copy →
      (copy.config.state.messages.Pairwise fun left right => left.sentDate < right.sentDate) ∧
      (copy.config.state.messages.map Message.id).Perm
        (last.state.archive.map fun entry => some entry.documentID) ∧
      ∀ entry ∈ last.state.archive, ∃ message ∈ copy.config.state.messages,
        entry.message.Survives message entry.documentID) ∧
    ∀ left ∈ last.state.chats, ∀ right ∈ last.state.chats, CaughtUp last.state left →
      CaughtUp last.state right → left.config.state.messages = right.config.state.messages := by
  have tracked := ((tracked_relies bucket encodes).run tracked_empty obeys ran).1
  refine ⟨fun copy member caughtUp => ?_, fun left inLeft right inRight leftUp rightUp =>
    messages_eq_of_caughtUp (tracked.chats left inLeft) (tracked.chats right inRight) leftUp
      rightUp⟩
  have synced := tracked.chats copy member
  have recorded := Recorded.of_holds synced.holds
  have shown : ∀ entry ∈ last.state.archive, ∃ message ∈ copy.config.state.messages,
      entry.message.Survives message entry.documentID := by
    intro entry stored
    obtain ⟨profile, _, sentBy⟩ := tracked.sound.sent entry stored
    obtain ⟨message, inChat, read⟩ := mem_of_caughtUp synced caughtUp
      ((tracked.sound.stored _ _).mpr ⟨entry, stored, rfl⟩)
    exact ⟨message, inChat, survives_of_read (saved_of_sentBy sentBy) read⟩
  refine ⟨recorded.increasing, ?_, shown⟩
  have distinct : (last.state.archive.map fun entry => some entry.documentID).Nodup := by
    have images := tracked.sound.distinct.map (Option.some_injective String)
    rwa [List.map_map] at images
  refine (List.perm_ext_iff_of_nodup recorded.distinct distinct).mpr fun id => ?_
  simp only [List.mem_map]
  constructor
  · rintro ⟨message, inChat, rfl⟩
    obtain ⟨document, stored, read⟩ := recorded.exists_stored inChat
    rw [synced.thread] at stored
    obtain ⟨entry, archived, isDocument⟩ := (tracked.sound.stored _ _).mp stored
    refine ⟨entry, archived, ?_⟩
    rw [(isOf_message read).id, ← (Document.mk.inj isDocument).1]
  · rintro ⟨entry, archived, rfl⟩
    obtain ⟨message, inChat, survives⟩ := shown entry archived
    exact ⟨message, inChat, survives.id⟩

end Runs

/-- After the exchange both chats have caught up, and show the same two messages. -/
theorem caughtUp_agree_of_exchange : ∃ last,
    (program fullBucket fun _ => true).run (Program.start (State.empty String Unit)) exchange =
        some last ∧
      last.state.chats.length = 2 ∧ last.state.archive.length = 2 ∧
      ∀ left ∈ last.state.chats, ∀ right ∈ last.state.chats,
        left.config.state.messages = right.config.state.messages ∧
        (left.config.state.messages.map Message.id).Perm
          (last.state.archive.map fun entry => some entry.documentID) := by
  obtain ⟨last, ran, two, stored, ready⟩ : ∃ last,
      (program fullBucket fun _ => true).run (Program.start (State.empty String Unit)) exchange =
          some last ∧
        last.state.chats.length = 2 ∧ last.state.archive.length = 2 ∧
        ∀ copy ∈ last.state.chats, copy.profile.channel.id ≠ none ∧ Quiet copy.config ∧
          WindowsDelivered copy.config ∧ copy.config.state.failed.isEmpty = true ∧
          last.state.thread.documents.length ≤ copy.config.state.massageNumber :=
    Program.exists_run (by decide)
  have caughtUp : ∀ copy ∈ last.state.chats, CaughtUp last.state copy := by
    intro copy member
    obtain ⟨hasId, quiet, windows, noFailure, all⟩ := ready copy member
    exact ⟨hasId, quiet, windows, List.isEmpty_iff.mp noFailure, all⟩
  have agree := caughtUp_agree_of_run (by decide) ran
  refine ⟨last, ran, two, stored, fun left inLeft right inRight => ⟨?_, ?_⟩⟩
  · exact agree.2 left inLeft right inRight (caughtUp left inLeft) (caughtUp right inRight)
  · exact (agree.1 left inLeft (caughtUp left inLeft)).2.1

end Familog.Chat.Conversation
