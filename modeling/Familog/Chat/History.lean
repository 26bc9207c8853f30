import Familog.Async.History
import Familog.Chat.Callback

/-!
Contract: the history a chat shows does not depend on the order of deliveries.

Owns threads whose documents are never edited or deleted and have different
dates, what has been delivered and downloaded according to the labels of a run,
the invariant that the messages are those of the documents that have arrived, and
the equality of the messages wherever the same documents have arrived.

Does not own in which order anything arrives, nor threads that are edited.
-/

set_option autoImplicit false

namespace Familog.Chat

open Async Firestore

section Definitions

variable {Url Image : Type} (bucket : Bucket Url Image)

/-- Every document of the thread is the document of a message, and different
documents have different dates. -/
structure MessageThread (thread : Collection String) : Prop where
  messages : ∀ documentID data, thread.get? documentID = some data → IsMessage bucket data
  dates : ∀ first second firstData secondData, thread.get? first = some firstData →
    thread.get? second = some secondData →
    firstData.timestamp? "created" = secondData.timestamp? "created" → first = second

/-- No document is edited or deleted; a new one is the document of a message and has
a new date. -/
def Untouched (state : State Url Image) : Event → Prop
  | .write documentID data =>
      state.thread.get? documentID = none ∧ IsMessage bucket data ∧
        ∀ document ∈ state.thread.documents,
          document.2.timestamp? "created" ≠ data.timestamp? "created"
  | .delete _ => False
  | _ => True

instance (state : State Url Image) (event : Event) :
    Decidable (Untouched bucket state event) :=
  match event with
  | .write documentID data =>
      inferInstanceAs (Decidable (state.thread.get? documentID = none ∧ IsMessage bucket data ∧
        ∀ document ∈ state.thread.documents,
          document.2.timestamp? "created" ≠ data.timestamp? "created"))
  | .delete _ => isFalse id
  | .viewDidLoad => isTrue trivial
  | .refresh => isTrue trivial

/-- The condition on the steps of a run on such a thread: answers are arbitrary. -/
def Growing : Config (State Url Image) (Task Url) → Label Event Answer → Prop :=
  onState (Untouched bucket) fun _ _ _ => True

/-- What a chat is given: a change by a listener that asks for so many documents, or the end
of a download, good or bad. -/
inductive Notice where
  | delivered (limit : Nat) (change : DocumentChange String)
  | downloaded (change : DocumentChange String)
  | lost (change : DocumentChange String)

/-- What an answer gives it: the changes of the snapshot, read in the thread and in what the
listener has delivered before, or the end of the download. -/
def noticed (state : State Url Image) : Task Url → Answer → List Notice
  | .listener limit view, .snapshot changes =>
      ((documentChanges? state.thread view changes).getD []).map (.delivered limit)
  | .downloadImage url change, .data =>
      if (bucket.image? url).isSome then [.downloaded change] else [.lost change]
  | .downloadImage _ change, .failed => [.lost change]
  | _, _ => []

/-- A listener has delivered the document. -/
def Delivered (past : List Notice) (document : Document String) : Prop :=
  ∃ limit change, .delivered limit change ∈ past ∧ change.document = document

/-- A download for the document has ended well. -/
def Downloaded (past : List Notice) (document : Document String) : Prop :=
  ∃ change, .downloaded change ∈ past ∧ change.document = document

/-- A download for the document has failed. -/
def Lost (past : List Notice) (document : Document String) : Prop :=
  ∃ change, .lost change ∈ past ∧ change.document = document

/-- The document of a text, which has no `url`, has been delivered, or that of a photo, with at
least one successful download. -/
def Arrived (past : List Notice) (document : Document String) : Prop :=
  Delivered past document ∧ (document.data "url" = none ∨ Downloaded past document)

/-- The messages are the arrived texts and photos, sorted by date. -/
structure History (past : List Notice) (messages : List (Message Url Image)) : Prop where
  increasing : messages.Pairwise fun left right => left.sentDate < right.sentDate
  distinct : (messages.map Message.id).Nodup
  members : ∀ message, message ∈ messages ↔
    ∃ document, Arrived past document ∧ message? bucket document = some message

/-- The same texts and photos have arrived. -/
def SameArrivals (left right : List Notice) : Prop :=
  ∀ document, Arrived left document ↔ Arrived right document

instance (config : Config (State Url Image) (Task Url)) (label : Label Event Answer) :
    Decidable (Growing bucket config label) :=
  inferInstanceAs (Decidable (onState _ _ config label))

end Definitions

/-! ## What a callback keeps -/

section Steps

variable {Url Image : Type} {bucket : Bucket Url Image} {channel : Channel}
  {before state : State Url Image} {change : DocumentChange String} {message : Message Url Image}

/-- What the proof carries: delivered changes carry the stored documents, and the
messages are those of the ready ones. -/
structure Recorded (bucket : Bucket Url Image) (state : State Url Image) : Prop where
  thread : MessageThread bucket state.thread
  running : state.trapped = false
  stored : ∀ change ∈ state.delivered,
    state.thread.get? change.document.documentID = some change.document.data
  arrived : ∀ change, Ready bucket state change → change ∈ state.delivered
  readable : ∀ change, Ready bucket state change →
    ∃ message, message? bucket change.document = some message
  sorted : state.messages.Pairwise fun left right => left.sentDate ≤ right.sentDate
  distinct : (state.messages.map Message.id).Nodup
  members : ∀ message, message ∈ state.messages ↔
    ∃ change, Ready bucket state change ∧ message? bucket change.document = some message

theorem document_eq {thread : Collection String} {first second : Document String}
    (firstStored : thread.get? first.documentID = some first.data)
    (secondStored : thread.get? second.documentID = some second.data)
    (same : first.documentID = second.documentID) : first = second := by
  cases first with
  | mk firstID firstData =>
      cases second with
      | mk secondID secondData =>
          obtain rfl : firstID = secondID := same
          obtain rfl : firstData = secondData :=
            Option.some.inj (firstStored.symm.trans secondStored)
          rfl

/-- What has been delivered is the document of a message. -/
theorem Recorded.isMessage (recorded : Recorded bucket state)
    (delivered : change ∈ state.delivered) : IsMessage bucket change.document.data :=
  recorded.thread.messages _ _ (recorded.stored change delivered)

/-- Every message is the one of a stored document. -/
theorem Recorded.exists_stored (recorded : Recorded bucket state)
    (member : message ∈ state.messages) :
    ∃ document : Document String,
      state.thread.get? document.documentID = some document.data ∧
        message? bucket document = some message := by
  obtain ⟨change, ready, read⟩ := (recorded.members message).mp member
  exact ⟨change.document, recorded.stored change (recorded.arrived change ready), read⟩

/-- The messages are strictly sorted. -/
theorem Recorded.increasing (recorded : Recorded bucket state) :
    state.messages.Pairwise fun left right => left.sentDate < right.sentDate := by
  refine Swift.strictly_sorted recorded.sorted recorded.distinct ?_
  intro left inLeft right inRight sameDate
  obtain ⟨leftDocument, leftStored, leftRead⟩ := recorded.exists_stored inLeft
  obtain ⟨rightDocument, rightStored, rightRead⟩ := recorded.exists_stored inRight
  have leftIsOf := isOf_message leftRead
  have rightIsOf := isOf_message rightRead
  have dates : leftDocument.data.timestamp? "created" =
      rightDocument.data.timestamp? "created" := by
    rw [leftIsOf.date, rightIsOf.date, sameDate]
  have same := recorded.thread.dates _ _ _ _ leftStored rightStored dates
  rw [leftIsOf.id, rightIsOf.id, same]

/-- Inserting the message of a stored document that has arrived now. -/
theorem Recorded.insert (recorded : Recorded bucket before) (grows : Grows before state)
    (running : state.trapped = before.trapped) (messages : state.messages = before.messages)
    (delivered : ∀ other ∈ state.delivered, other ∈ before.delivered ∨ other = change)
    (arrived : change ∈ state.delivered)
    (ready : ∀ other, Ready bucket state other ↔ Ready bucket before other ∨ other = change)
    (stored : before.thread.get? change.document.documentID = some change.document.data)
    (read : message? bucket change.document = some message) :
    Recorded bucket (state.insert change message) where
  thread := grows.thread ▸ recorded.thread
  running := running.trans recorded.running
  stored := by
    intro other member
    show state.thread.get? _ = _
    rw [grows.thread]
    rcases delivered other member with old | rfl
    · exact recorded.stored other old
    · exact stored
  arrived := by
    intro other isReady
    rcases (ready other).mp isReady with old | rfl
    · exact grows.delivered (recorded.arrived other old)
    · exact arrived
  readable := by
    intro other isReady
    rcases (ready other).mp isReady with old | rfl
    · exact recorded.readable other old
    · exact ⟨message, read⟩
  sorted := Swift.insertNew_pairwise (messages ▸ recorded.sorted)
  distinct := Swift.insertNew_nodup (messages ▸ recorded.distinct)
  members := by
    intro other
    have agree : ∀ present ∈ state.messages, present.id = message.id → present = message := by
      intro present member same
      rw [messages] at member
      obtain ⟨document, inThread, presentRead⟩ := recorded.exists_stored member
      have sameID : document.documentID = change.document.documentID := by
        rw [(isOf_message presentRead).id, (isOf_message read).id] at same
        exact Option.some.inj same
      rw [document_eq inThread stored sameID] at presentRead
      exact Option.some.inj (presentRead.symm.trans read)
    have inserted : other ∈ (state.insert change message).messages ↔
        other ∈ state.messages ∨ other = message := Swift.mem_insertNew_of_agree agree
    have isReady : ∀ arrivedChange, Ready bucket (state.insert change message) arrivedChange ↔
        Ready bucket before arrivedChange ∨ arrivedChange = change :=
      fun arrivedChange => ready_insert.trans (ready arrivedChange)
    rw [inserted, messages, recorded.members other]
    constructor
    · rintro (⟨old, oldReady, oldRead⟩ | rfl)
      · exact ⟨old, (isReady old).mpr (Or.inl oldReady), oldRead⟩
      · exact ⟨change, (isReady change).mpr (Or.inr rfl), read⟩
    · rintro ⟨arrivedChange, nowReady, arrivedRead⟩
      rcases (isReady arrivedChange).mp nowReady with old | rfl
      · exact Or.inl ⟨arrivedChange, old, arrivedRead⟩
      · exact Or.inr (Option.some.inj (arrivedRead.symm.trans read))

/-- A change whose download has only been asked for. -/
theorem Recorded.deliver (recorded : Recorded bucket state)
    (late : ¬ Immediate bucket change.document)
    (stored : state.thread.get? change.document.documentID = some change.document.data) :
    Recorded bucket (state.deliver [change]) := by
  have ready : ∀ other, Ready bucket (state.deliver [change]) other ↔ Ready bucket state other := by
    intro other
    rw [ready_deliver]
    exact ⟨fun either => either.elim id fun new => absurd new.2 late, Or.inl⟩
  refine ⟨recorded.thread, recorded.running, ?_, ?_, ?_, recorded.sorted, recorded.distinct, ?_⟩
  · intro other member
    rcases List.mem_append.mp member with old | new
    · exact recorded.stored other old
    · rw [List.mem_singleton.mp new]
      exact stored
  · intro other isReady
    exact List.mem_append_left _ (recorded.arrived other ((ready other).mp isReady))
  · intro other isReady
    exact recorded.readable other ((ready other).mp isReady)
  · intro other
    simp only [ready]
    exact recorded.members other

/-- The document has been delivered. -/
def Seen (state : State Url Image) (document : Document String) : Prop :=
  ∃ change ∈ state.delivered, change.document = document

/-- A download is the one a delivered change asks for. -/
def DeliveredDownload (bucket : Bucket Url Image) (state : State Url Image) (url : Url)
    (change : DocumentChange String) : Prop :=
  change ∈ state.delivered ∧ demand? bucket change.document = some (.downloadImage url)

/-- The document of a change is the stored one, also when it is taken back. -/
theorem Recorded.stored_of_change (recorded : Recorded bucket state)
    (present : change.type ≠ .removed →
      state.thread.get? change.document.documentID = some change.document.data)
    (removed : change.type = .removed → Seen state change.document) :
    state.thread.get? change.document.documentID = some change.document.data := by
  by_cases gone : change.type = .removed
  · obtain ⟨earlier, delivered, document⟩ := removed gone
    have stored := recorded.stored earlier delivered
    rwa [document] at stored
  · exact present gone

theorem Recorded.changed (recorded : Recorded bucket state) {next : State Url Image}
    {new : List (Task Url)}
    (present : change.type ≠ .removed →
      state.thread.get? change.document.documentID = some change.document.data)
    (removed : change.type = .removed → Seen state change.document)
    (handled : Handled bucket state change next new) :
    Recorded bucket next ∧ Seen next change.document ∧
      ∀ task ∈ new, Pending (Seen next) (DeliveredDownload bucket next) task := by
  have stored := recorded.stored_of_change present removed
  have here : change ∈ (state.deliver [change]).delivered :=
    List.mem_append_right _ (List.mem_singleton_self change)
  cases handled with
  | trapped demand =>
      exact absurd demand (demand?_ne_none (recorded.thread.messages _ _ stored))
  | asked demand =>
      refine ⟨recorded.deliver (not_immediate_of_download demand) stored, ⟨change, here, rfl⟩, ?_⟩
      intro task member
      rw [List.mem_singleton.mp member]
      exact ⟨here, demand⟩
  | inserted demand =>
      refine ⟨recorded.insert (grows_deliver state [change]) rfl rfl ?_ here ?_ stored
        (message?_of_demand demand), ⟨change, here, rfl⟩, by simp⟩
      · intro other member
        exact (List.mem_append.mp member).imp id List.mem_singleton.mp
      · intro other
        rw [ready_deliver]
        exact or_congr_right (and_iff_left ⟨_, demand⟩)

/-- The download of a stored document passes every cast. -/
theorem Recorded.not_faulty (recorded : Recorded bucket state) {url : Url} {image : Image}
    (wanted : DeliveredDownload bucket state url change) :
    completed? bucket change.document image ≠ none := by
  have stored := recorded.stored change wanted.1
  exact completed?_ne_none (recorded.thread.messages _ _ stored) image

theorem Recorded.answered (recorded : Recorded bucket state) {url : Url} {answer : Answer}
    {next : State Url Image} {new : List (Task Url)}
    (wanted : DeliveredDownload bucket state url change)
    (answered : Answered bucket state (.downloadImage url change) answer next new) :
    Recorded bucket next ∧ new = [] := by
  cases answered with
  | downloadFailed _ =>
      exact ⟨⟨recorded.thread, recorded.running, recorded.stored, recorded.arrived,
        recorded.readable, recorded.sorted, recorded.distinct, recorded.members⟩, rfl⟩
  | loadedFaulty _ faulty => exact absurd faulty (recorded.not_faulty wanted)
  | loaded stored read =>
      refine ⟨recorded.insert (grows_succeed state change) rfl rfl (fun _ => Or.inl) wanted.1 ?_
        (recorded.stored change wanted.1) (message?_of_completed wanted.2 stored read), rfl⟩
      intro other
      exact ready_succeed

/-- A thread that only grows keeps what has been recorded. -/
theorem Recorded.occurred (recorded : Recorded bucket state) {event : Event}
    {next : State Url Image} {new : List (Task Url)} (untouched : Untouched bucket state event)
    (occurred : Occurred state event next new) : Recorded bucket next := by
  cases occurred with
  | fetched _ _ =>
      exact ⟨recorded.thread, recorded.running, recorded.stored, recorded.arrived,
        recorded.readable, recorded.sorted, recorded.distinct, recorded.members⟩
  | @written documentID data =>
      obtain ⟨fresh, isMessage, newDate⟩ := untouched
      have newest : ∀ other otherData, state.thread.get? other = some otherData →
          otherData.timestamp? "created" ≠ data.timestamp? "created" :=
        fun other otherData stored =>
          newDate (other, otherData) (Collection.mem_documents.mpr stored)
      refine ⟨⟨?_, ?_⟩, recorded.running, ?_, recorded.arrived, recorded.readable,
        recorded.sorted, recorded.distinct, recorded.members⟩
      · intro other otherData found
        rw [Collection.get?_set] at found
        split_ifs at found
        · exact Option.some.inj found ▸ isMessage
        · exact recorded.thread.messages other otherData found
      · intro first second firstData secondData firstFound secondFound sameDate
        rw [Collection.get?_set] at firstFound secondFound
        split_ifs at firstFound secondFound with firstNew secondNew secondNew
        · rw [firstNew, secondNew]
        · rw [← Option.some.inj firstFound] at sameDate
          exact absurd sameDate.symm (newest second secondData secondFound)
        · rw [← Option.some.inj secondFound] at sameDate
          exact absurd sameDate (newest first firstData firstFound)
        · exact recorded.thread.dates first second firstData secondData firstFound secondFound
            sameDate
      · intro change delivered
        have stored := recorded.stored change delivered
        have old : change.document.documentID ≠ documentID := by
          intro same
          rw [same, fresh] at stored
          simp at stored
        exact (Collection.get?_set_of_ne _ _ old).trans stored
  | deleted => exact untouched.elim

end Steps

/-! ## Whole runs -/

section Runs

variable {Url Image : Type} (bucket : Bucket Url Image) (channel : Channel)

/-- On a growing thread the messages stay recorded. -/
def recording : Rule bucket (Untouched bucket) fun _ _ _ => True where
  inv := Recorded bucket
  seen := Seen
  wanted := DeliveredDownload bucket
  seen_adds adds seen := by
    obtain ⟨change, delivered, document⟩ := seen
    exact ⟨change, adds.delivered delivered, document⟩
  wanted_adds adds wanted := ⟨adds.delivered wanted.1, wanted.2⟩
  changed recorded present removed handled := recorded.changed present removed handled
  occurred recorded untouched occurred := recorded.occurred untouched occurred
  answered recorded wanted _ := recorded.answered wanted

variable {bucket} {channel}

theorem Recorded.of_holds {config : Config (State Url Image) (Task Url)}
    (holds : ((recording bucket).outline channel).Holds config) : Recorded bucket config.state :=
  holds.inv

theorem recorded_unopened {thread : Collection String}
    (messageThread : MessageThread bucket thread) :
    Recorded bucket (State.unopened Url Image thread) := by
  refine ⟨messageThread, rfl, by simp [State.unopened], ?_, ?_, by simp [State.unopened],
    by simp [State.unopened], ?_⟩
  · intro change ready
    simp [Ready, State.unopened] at ready
  · intro change ready
    simp [Ready, State.unopened] at ready
  · simp [Ready, State.unopened]

/-! ### What the labels say has arrived -/

/-- What the state has recorded is what the labels say. -/
structure Noted (past : List Notice) (state : State Url Image) : Prop where
  delivered : ∀ change, change ∈ state.delivered ↔ ∃ limit, Notice.delivered limit change ∈ past
  succeeded : ∀ change, change ∈ state.succeeded ↔ Notice.downloaded change ∈ past
  failed : ∀ change, change ∈ state.failed ↔ Notice.lost change ∈ past

variable (bucket) in
/-- The loop over the changes records nothing. -/
theorem forEach_records (state : State Url Image) (changes : List (DocumentChange String)) :
    (forEach bucket state changes).1.delivered = state.delivered ∧
      (forEach bucket state changes).1.succeeded = state.succeeded ∧
      (forEach bucket state changes).1.failed = state.failed := by
  induction changes generalizing state with
  | nil => exact ⟨rfl, rfl, rfl⟩
  | cons change rest inductionHypothesis =>
      have here : (handleDocumentChange bucket state change).1.delivered = state.delivered ∧
          (handleDocumentChange bucket state change).1.succeeded = state.succeeded ∧
          (handleDocumentChange bucket state change).1.failed = state.failed := by
        unfold handleDocumentChange
        cases demand? bucket change.document with
        | none => exact ⟨rfl, rfl, rfl⟩
        | some demand => cases demand <;> exact ⟨rfl, rfl, rfl⟩
      unfold forEach
      dsimp only
      split_ifs
      · exact here
      · obtain ⟨delivered, succeeded, failed⟩ :=
          inductionHypothesis (handleDocumentChange bucket state change).1
        exact ⟨delivered.trans here.1, succeeded.trans here.2.1, failed.trans here.2.2⟩

/-- A process that goes on has survived every change. -/
theorem survived_eq {state : State Url Image} {changes : List (DocumentChange String)}
    (running : (forEach bucket state changes).1.trapped = false) :
    survived bucket changes = changes := by
  induction changes generalizing state with
  | nil => rfl
  | cons change rest inductionHypothesis =>
      unfold forEach at running
      cases demand : demand? bucket change.document with
      | none => simp [handleDocumentChange, demand, State.trap] at running
      | some asked =>
          have onward : ∃ next : State Url Image,
              (forEach bucket next rest).1.trapped = false := by
            dsimp only at running
            split_ifs at running with trapped
            · simp [trapped] at running
            · exact ⟨_, running⟩
          obtain ⟨next, still⟩ := onward
          have later := inductionHypothesis still
          rw [survived] at later ⊢
          rw [List.takeWhile_cons_of_pos (by simp [demand]), later]

/-- An answer is recorded as the labels say, as long as the process goes on. -/
theorem Noted.answered {past : List Notice} {state next : State Url Image} {task : Task Url}
    {answer : Answer} {new : List (Task Url)} (noted : Noted past state)
    (answered : Answered bucket state task answer next new) (running : next.trapped = false) :
    Noted (past ++ noticed bucket state task answer) next := by
  cases answered with
  | listenerFailed => simpa [noticed] using noted
  | @delivered limit view changes documentChanges _ found =>
      have still : (forEach bucket state documentChanges).1.trapped = false := running
      have all := survived_eq still
      obtain ⟨delivered, succeeded, failed⟩ := forEach_records bucket state documentChanges
      rw [noticed, found, Option.getD_some]
      refine ⟨fun change => ?_, fun change => ?_, fun change => ?_⟩
      · have recorded : (snapshotReceived bucket state limit view documentChanges).1.delivered =
            state.delivered ++ documentChanges := by
          have appended : (snapshotReceived bucket state limit view documentChanges).1.delivered =
              (forEach bucket state documentChanges).1.delivered ++
                survived bucket documentChanges := rfl
          rw [appended, delivered, all]
        simp [recorded, noted.delivered, exists_or]
      · have recorded : (snapshotReceived bucket state limit view documentChanges).1.succeeded =
            state.succeeded := succeeded
        simp [recorded, noted.succeeded]
      · have recorded : (snapshotReceived bucket state limit view documentChanges).1.failed =
            state.failed := failed
        simp [recorded, noted.failed]
  | @downloadFailed url change answer how =>
      have lost : noticed bucket state (.downloadImage url change) answer = [.lost change] := by
        rcases how with rfl | ⟨rfl, missing⟩
        · rfl
        · simp [noticed, missing]
      rw [lost]
      exact ⟨by simpa [State.fail] using noted.delivered,
        by simpa [State.fail] using noted.succeeded, by simp [State.fail, noted.failed]⟩
  | loadedFaulty _ _ => simp [State.trap] at running
  | @loaded url change image message stored _ =>
      have downloaded : noticed bucket state (.downloadImage url change) .data =
          [.downloaded change] := by simp [noticed, stored]
      rw [downloaded]
      exact ⟨by simpa [State.succeed, State.insert] using noted.delivered,
        by simp [State.succeed, State.insert, noted.succeeded],
        by simpa [State.succeed, State.insert] using noted.failed⟩

/-- A message goes in at once exactly if its document has no `url`. -/
theorem immediate_iff {document : Document String} (isMessage : IsMessage bucket document.data) :
    Immediate bucket document ↔ document.data "url" = none := by
  obtain ⟨sentDate, created⟩ := Option.isSome_iff_exists.mp isMessage.created
  obtain ⟨senderID, sender⟩ := Option.isSome_iff_exists.mp isMessage.senderID
  obtain ⟨senderName, name⟩ := Option.isSome_iff_exists.mp isMessage.senderName
  have body := isMessage.body
  cases url : document.data "url" with
  | none =>
      rw [if_neg (by simp [url])] at body
      obtain ⟨content, hasContent⟩ := Option.isSome_iff_exists.mp body
      refine iff_of_true ⟨Message.ofText document.documentID content senderID sentDate senderName,
        ?_⟩ rfl
      simp [demand?, textMessage?, url, created, hasContent, sender, name, Message.ofText]
  | some value =>
      refine iff_of_false ?_ (by simp)
      rintro ⟨message, asked⟩
      simp [demand?, url, Option.bind_eq_some_iff] at asked

/-- What is ready has arrived, and the other way round. -/
theorem Recorded.history {past : List Notice} {state : State Url Image}
    (recorded : Recorded bucket state) (noted : Noted past state) :
    History bucket past state.messages := by
  refine ⟨recorded.increasing, recorded.distinct, fun message => ?_⟩
  rw [recorded.members]
  constructor
  · rintro ⟨change, ready, read⟩
    obtain ⟨limit, delivered⟩ := (noted.delivered change).mp (recorded.arrived change ready)
    refine ⟨change.document, ⟨⟨limit, change, delivered, rfl⟩, ?_⟩, read⟩
    rcases ready with ⟨isDelivered, immediate⟩ | arrived
    · exact Or.inl ((immediate_iff (recorded.isMessage isDelivered)).mp immediate)
    · exact Or.inr ⟨change, (noted.succeeded change).mp arrived, rfl⟩
  · rintro ⟨_, ⟨⟨limit, change, delivered, rfl⟩, text | ⟨other, downloaded, same⟩⟩, read⟩
    · have isDelivered := (noted.delivered change).mpr ⟨limit, delivered⟩
      exact ⟨change, Or.inl ⟨isDelivered,
        (immediate_iff (recorded.isMessage isDelivered)).mpr text⟩, read⟩
    · exact ⟨other, Or.inr ((noted.succeeded other).mpr downloaded), same ▸ read⟩

/-- Order independence: where the same documents have arrived, the messages are the
same. -/
theorem History.eq_of_sameArrivals {left right : List Notice}
    {leftMessages rightMessages : List (Message Url Image)}
    (leftHistory : History bucket left leftMessages)
    (rightHistory : History bucket right rightMessages) (same : SameArrivals left right) :
    leftMessages = rightMessages := by
  apply Swift.eq_of_strictly_sorted leftHistory.increasing rightHistory.increasing
  intro message
  rw [leftHistory.members, rightHistory.members]
  exact exists_congr fun document => and_congr_left fun _ => same document

end Runs

end Familog.Chat
