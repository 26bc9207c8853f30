import Familog.Chat.Callback

/-!
Contract: when the displayed messages follow the thread.

Owns the meaning of "follows" (every message is what its document stands for now,
at the position of its date; what was ready is shown; a removed change has added
nothing), the condition `Undisturbed` on single steps, and the theorem that the
messages follow the thread in every state of a run whose steps all meet it. Owns
also that a step that breaks the condition breaks the property, and runs in which
a deleted, an edited and a removed document are shown wrongly for good.

Does not own which documents a listener delivers.
-/

set_option autoImplicit false

namespace Familog.Chat

open Async Firestore

section Definitions

variable {Url Image : Type} (bucket : Bucket Url Image)

/-- The message is what its document stands for now; there is such a document. -/
def Current (thread : Collection String) (message : Message Url Image) : Prop :=
  message.id.bind (current? bucket thread) = some message

/-- The messages follow the thread. -/
structure Follows (state : State Url Image) : Prop where
  current : ∀ message ∈ state.messages, Current bucket state.thread message
  sorted : state.messages.Pairwise fun left right => left.sentDate ≤ right.sentDate
  distinct : (state.messages.map Message.id).Nodup
  shown : ∀ change, Ready bucket state change →
    ∃ message ∈ state.messages,
      current? bucket state.thread change.document.documentID = some message
  unremoved : ∀ change ∈ state.additions, change.type ≠ .removed

/-- No displayed message is edited, unless it stays the same, and none is deleted. -/
def KeepsDisplayed (state : State Url Image) : Event → Prop
  | .write documentID data =>
      ∀ message ∈ state.messages, message.id = some documentID →
        message? bucket ⟨documentID, data⟩ = some message
  | .delete documentID => ∀ message ∈ state.messages, message.id ≠ some documentID
  | _ => True

/-- A download that adds a message adds what the document stands for now, and was
not started by a removed change. -/
def AddsCurrent (state : State Url Image) : Task Url → Answer → Prop
  | .downloadImage url change, .data =>
      ∀ image ∈ bucket.image? url, ∀ message ∈ completed? bucket change.document image,
        (∀ other ∈ state.messages, other.id ≠ message.id) →
          change.type ≠ .removed ∧
            current? bucket state.thread change.document.documentID = some message
  | _, _ => True

/-- The condition on one step. -/
def Undisturbed : Config (State Url Image) (Task Url) → Label Event Answer → Prop :=
  onState (KeepsDisplayed bucket) (AddsCurrent bucket)

section Decidability

variable [DecidableEq Url] [DecidableEq Image]

instance (thread : Collection String) (message : Message Url Image) :
    Decidable (Current bucket thread message) :=
  inferInstanceAs (Decidable (_ = _))

instance (state : State Url Image) (event : Event) :
    Decidable (KeepsDisplayed bucket state event) :=
  match event with
  | .write documentID data =>
      inferInstanceAs (Decidable (∀ message ∈ state.messages, message.id = some documentID →
        message? bucket ⟨documentID, data⟩ = some message))
  | .delete documentID =>
      inferInstanceAs (Decidable (∀ message ∈ state.messages, message.id ≠ some documentID))
  | .viewDidLoad => isTrue trivial
  | .refresh => isTrue trivial

instance (state : State Url Image) (task : Task Url) (answer : Answer) :
    Decidable (AddsCurrent bucket state task answer) :=
  match task, answer with
  | .downloadImage url change, .data =>
      inferInstanceAs (Decidable (∀ image ∈ bucket.image? url,
        ∀ message ∈ completed? bucket change.document image,
          (∀ other ∈ state.messages, other.id ≠ message.id) →
            change.type ≠ .removed ∧
              current? bucket state.thread change.document.documentID = some message))
  | .downloadImage _ _, .failed => isTrue trivial
  | .downloadImage _ _, .snapshot _ => isTrue trivial
  | .listener _ _, _ => isTrue trivial

instance (config : Config (State Url Image) (Task Url)) (label : Label Event Answer) :
    Decidable (Undisturbed bucket config label) :=
  inferInstanceAs (Decidable (onState _ _ config label))

end Decidability

end Definitions

/-! ## What a callback keeps -/

section Steps

variable {Url Image : Type} {bucket : Bucket Url Image} {channel : Channel}
  {state : State Url Image} {change : DocumentChange String} {message : Message Url Image}

/-- What the proof carries in place of `shown`. -/
structure Tracks (bucket : Bucket Url Image) (state : State Url Image) : Prop where
  current : ∀ message ∈ state.messages, Current bucket state.thread message
  sorted : state.messages.Pairwise fun left right => left.sentDate ≤ right.sentDate
  distinct : (state.messages.map Message.id).Nodup
  listed : ∀ change, Ready bucket state change → Listed state change.document.documentID
  unremoved : ∀ change ∈ state.additions, change.type ≠ .removed

/-- A listed id belongs to the message that its document stands for. -/
theorem exists_current_of_listed {documentID : String}
    (current : ∀ message ∈ state.messages, Current bucket state.thread message)
    (listed : Listed state documentID) :
    ∃ message ∈ state.messages, current? bucket state.thread documentID = some message := by
  obtain ⟨message, member, isIt⟩ := listed
  have now := current message member
  rw [Current, isIt, Option.bind_some] at now
  exact ⟨message, member, now⟩

theorem Tracks.follows (tracks : Tracks bucket state) : Follows bucket state where
  current := tracks.current
  sorted := tracks.sorted
  distinct := tracks.distinct
  shown := fun change ready => exists_current_of_listed tracks.current (tracks.listed change ready)
  unremoved := tracks.unremoved

/-- Inserting the message of a change that was ready keeps the messages on track,
where the id is listed or the message is current and not from a removed change. -/
theorem Tracks.insert {before : State Url Image} (tracks : Tracks bucket before)
    (grows : Grows before state) (messages : state.messages = before.messages)
    (additions : state.additions = before.additions) (isOf : message.IsOf change.document)
    (ready : ∀ other, Ready bucket state other → Ready bucket before other ∨ other = change)
    (fresh : ¬ Listed before change.document.documentID → change.type ≠ .removed ∧
      current? bucket before.thread change.document.documentID = some message) :
    Tracks bucket (state.insert change message) where
  current := by
    intro other member
    show Current bucket state.thread other
    rw [grows.thread]
    rcases (mem_insert isOf.id).mp member with old | ⟨unlisted, rfl⟩
    · exact tracks.current other (messages ▸ old)
    · have unlistedBefore : ¬ Listed before change.document.documentID :=
        fun listed => unlisted (grows.listed listed)
      rw [Current, isOf.id, Option.bind_some]
      exact (fresh unlistedBefore).2
  sorted := Swift.insertNew_pairwise (messages ▸ tracks.sorted)
  distinct := Swift.insertNew_nodup (messages ▸ tracks.distinct)
  listed := by
    intro other isReady
    rcases ready other isReady with old | rfl
    · exact grows_insert.listed (grows.listed (tracks.listed other old))
    · exact listed_insert isOf.id
  unremoved := by
    intro other member
    by_cases listed : Listed state change.document.documentID
    · rw [insert_of_listed isOf.id listed, additions] at member
      exact tracks.unremoved other member
    · have unlistedBefore : ¬ Listed before change.document.documentID :=
        fun before => listed (grows.listed before)
      have added : other ∈ state.additions ++ [change] := additions_insert isOf.id listed ▸ member
      rcases List.mem_append.mp added with old | new
      · exact tracks.unremoved other (additions ▸ old)
      · rw [List.mem_singleton.mp new]
        exact (fresh unlistedBefore).1

theorem Tracks.of_same {before : State Url Image} (tracks : Tracks bucket before)
    (grows : Grows before state) (messages : state.messages = before.messages)
    (additions : state.additions = before.additions)
    (ready : ∀ other, Ready bucket state other → Ready bucket before other) :
    Tracks bucket state where
  current := by
    rw [messages, grows.thread]
    exact tracks.current
  sorted := messages ▸ tracks.sorted
  distinct := messages ▸ tracks.distinct
  listed := fun other isReady => grows.listed (tracks.listed other (ready other isReady))
  unremoved := additions ▸ tracks.unremoved

/-- A text is listed once its document has been delivered. -/
def SeenListed (bucket : Bucket Url Image) (state : State Url Image) (document : Document String) :
    Prop :=
  Immediate bucket document → Listed state document.documentID

/-- A download is the one its document asks for. -/
def AskedFor (bucket : Bucket Url Image) (url : Url) (change : DocumentChange String) : Prop :=
  demand? bucket change.document = some (.downloadImage url)

/-- Handling a change keeps the messages on track if the change carries the stored
document, or one that was delivered before. -/
theorem Tracks.changed (tracks : Tracks bucket state) {next : State Url Image}
    {new : List (Task Url)}
    (present : change.type ≠ .removed →
      state.thread.get? change.document.documentID = some change.document.data)
    (removed : change.type = .removed → SeenListed bucket state change.document)
    (handled : Handled bucket state change next new) :
    Tracks bucket next ∧ SeenListed bucket next change.document ∧
      ∀ task ∈ new, Pending (SeenListed bucket next) (AskedFor bucket) task := by
  cases handled with
  | trapped demand =>
      refine ⟨tracks.of_same (grows_trap state) rfl rfl fun _ ready => ready, ?_, by simp⟩
      rintro ⟨message, immediate⟩
      rw [demand] at immediate
      simp at immediate
  | asked demand =>
      have late := not_immediate_of_download demand
      refine ⟨tracks.of_same (grows_deliver state [change]) rfl rfl ?_,
        fun now => absurd now late, ?_⟩
      · intro other ready
        exact (ready_deliver.mp ready).elim id fun new => absurd new.2 late
      · intro task member
        rw [List.mem_singleton.mp member]
        exact demand
  | inserted demand =>
      have isOf := isOf_textMessage (textMessage_of_demand demand)
      refine ⟨tracks.insert (grows_deliver state [change]) rfl rfl isOf ?_ ?_,
        fun _ => listed_insert isOf.id, by simp⟩
      · intro other ready
        exact (ready_deliver.mp ready).imp id And.left
      · intro unlisted
        have stays : change.type ≠ .removed :=
          fun gone => unlisted (removed gone ⟨_, demand⟩)
        refine ⟨stays, ?_⟩
        rw [current?, present stays, Option.bind_some]
        exact message?_of_demand demand

/-- An allowed answer to a download keeps the messages on track. -/
theorem Tracks.answered (tracks : Tracks bucket state) {url : Url} {answer : Answer}
    {next : State Url Image} {new : List (Task Url)}
    (allowed : AddsCurrent bucket state (.downloadImage url change) answer)
    (answered : Answered bucket state (.downloadImage url change) answer next new) :
    Tracks bucket next ∧ new = [] := by
  cases answered with
  | downloadFailed _ =>
      exact ⟨tracks.of_same (grows_fail state change) rfl rfl fun _ ready => ready, rfl⟩
  | loadedFaulty _ _ =>
      exact ⟨tracks.of_same (grows_trap state) rfl rfl fun _ ready => ready, rfl⟩
  | loaded stored read =>
      have isOf := isOf_completed read
      refine ⟨tracks.insert (grows_succeed state change) rfl rfl isOf ?_ ?_, rfl⟩
      · intro other ready
        exact ready_succeed.mp ready
      · intro unlisted
        apply allowed _ stored _ read
        intro other member same
        exact unlisted ⟨other, member, same.trans isOf.id⟩

/-- An allowed event keeps the messages on track. -/
theorem Tracks.occurred (tracks : Tracks bucket state) {event : Event} {next : State Url Image}
    {new : List (Task Url)} (allowed : KeepsDisplayed bucket state event)
    (occurred : Occurred state event next new) : Tracks bucket next := by
  have elsewhere : ∀ {thread : Collection String},
      (∀ message ∈ state.messages, Current bucket thread message) →
      Tracks bucket { state with thread := thread } :=
    fun current => ⟨current, tracks.sorted, tracks.distinct, tracks.listed, tracks.unremoved⟩
  cases occurred with
  | fetched _ _ =>
      exact ⟨tracks.current, tracks.sorted, tracks.distinct, tracks.listed, tracks.unremoved⟩
  | @written documentID data =>
      apply elsewhere
      intro message member
      have now := tracks.current message member
      obtain ⟨own, isIt, isCurrent⟩ := Option.bind_eq_some_iff.mp now
      rw [Current, isIt, Option.bind_some, current?, Collection.get?_set]
      split_ifs with same
      · rw [Option.bind_some, same]
        exact allowed message member (same ▸ isIt)
      · exact isCurrent
  | @deleted documentID =>
      apply elsewhere
      intro message member
      have now := tracks.current message member
      obtain ⟨own, isIt, isCurrent⟩ := Option.bind_eq_some_iff.mp now
      have different : own ≠ documentID := fun same => allowed message member (same ▸ isIt)
      rw [Current, isIt, Option.bind_some, current?, Collection.get?_erase_of_ne _ different]
      exact isCurrent

end Steps

/-! ## Whole runs -/

section Runs

variable {Url Image : Type} (bucket : Bucket Url Image) (channel : Channel)

/-- The messages stay on track under undisturbed steps. -/
def tracking : Rule bucket (KeepsDisplayed bucket) (AddsCurrent bucket) where
  inv := Tracks bucket
  seen := SeenListed bucket
  wanted _ := AskedFor bucket
  seen_adds adds seen := fun immediate => adds.listed (seen immediate)
  wanted_adds _ wanted := wanted
  changed tracks present removed handled := tracks.changed present removed handled
  occurred tracks allowed occurred := tracks.occurred allowed occurred
  answered tracks _ allowed answered := tracks.answered allowed answered

variable {bucket} {channel}

theorem tracks_unopened (thread : Collection String) :
    Tracks bucket (State.unopened Url Image thread) := by
  refine ⟨by simp [State.unopened], by simp [State.unopened], by simp [State.unopened], ?_,
    by simp [State.unopened]⟩
  intro change ready
  simp [Ready, State.unopened] at ready

theorem not_follows_of_stale {state : State Url Image}
    (stale : ∃ message ∈ state.messages, ¬ Current bucket state.thread message) :
    ¬ Follows bucket state := by
  intro follows
  obtain ⟨message, member, notCurrent⟩ := stale
  exact notCurrent (follows.current message member)

/-- The condition is exact: after a step that breaks it the messages do not follow
the thread. -/
theorem not_follows_of_disturbed {config next : Config (State Url Image) (Task Url)}
    {label : Label Event Answer} (taken : (program bucket channel).step config label = some next)
    (disturbed : ¬ Undisturbed bucket config label) : ¬ Follows bucket next.state := by
  intro follows
  apply disturbed
  rcases Program.step_cases taken with
    ⟨event, new, rfl, handled, _⟩ | ⟨ticket, answer, task, new, rfl, found, resumed, _⟩
  · show KeepsDisplayed bucket config.state event
    have occurred := occurred_of_handle handled
    generalize next.state = after at occurred follows
    cases occurred with
    | fetched opens _ => rcases opens with rfl | rfl <;> trivial
    | @written documentID data =>
        intro message member isIt
        have now := follows.current message member
        simpa [Current, current?, isIt] using now
    | @deleted documentID =>
        intro message member isIt
        have now := follows.current message member
        simp [Current, current?, isIt] at now
  · intro other same
    obtain rfl : task = other := Option.some.inj (found.symm.trans same)
    have answered := answered_of_resume resumed
    generalize next.state = after at answered follows
    cases answered with
    | listenerFailed => trivial
    | delivered _ _ => trivial
    | @downloadFailed url change answer missing =>
        rcases missing with rfl | ⟨rfl, missing⟩
        · trivial
        · intro image stored
          rw [missing] at stored
          simp at stored
    | @loadedFaulty url change image stored faulty =>
        intro other otherStored message read
        obtain rfl : image = other := Option.some.inj (stored.symm.trans otherStored)
        rw [faulty] at read
        simp at read
    | @loaded url change image message stored read =>
        intro other otherStored another otherRead absent
        obtain rfl : image = other := Option.some.inj (stored.symm.trans otherStored)
        obtain rfl : message = another := Option.some.inj (read.symm.trans otherRead)
        have isOf := isOf_completed read
        have unlisted : ¬ Listed (config.state.succeed change) change.document.documentID := by
          rintro ⟨present, member, isIt⟩
          exact absent present member (isIt.trans isOf.id.symm)
        have added := added_insert change isOf.id unlisted
        refine ⟨follows.unremoved change added.2, ?_⟩
        have now := follows.current message added.1
        rwa [Current, isOf.id, Option.bind_some] at now

/-- On any thread, the messages follow the thread in every state of a run whose
steps are all undisturbed. -/
theorem follows_of_run {thread : Collection String} {labels : List (Label Event Answer)}
    {last : Config (State Url Image) (Task Url)}
    (undisturbed : (program bucket channel).Obeys (Undisturbed bucket)
      (Program.start (State.unopened Url Image thread)) labels)
    (ran : (program bucket channel).run (Program.start (State.unopened Url Image thread)) labels =
      some last) : Follows bucket last.state :=
  (Outline.run _ (Outline.start ((tracking bucket).outline channel) (tracks_unopened thread))
    undisturbed ran).inv.follows

end Runs

/-! ## A deleted, an edited and a removed document -/

section Disturbed

/-- A chat is opened on one document. -/
def opened (data : Fields) : List (Label Event Answer) := [
  .event (.write "document" data), .event .viewDidLoad,
  .answer 0 (.snapshot [(.added, "document")])]

/-- A text is deleted. -/
def deletedText : List (Label Event Answer) :=
  opened (textData "hello" 1) ++ [
    .event (.delete "document"), .answer 1 (.snapshot [(.removed, "document")])]

/-- A text is edited. -/
def editedText : List (Label Event Answer) :=
  opened (textData "hello" 1) ++ [
    .event (.write "document" (textData "good night" 1)),
    .answer 1 (.snapshot [(.modified, "document")])]

/-- A photo is deleted before its download is done. -/
def latePhoto : List (Label Event Answer) :=
  opened (photoData "photo" 2) ++ [.event (.delete "document"), .answer 2 .data]

/-- A photo is deleted after its download has failed. -/
def removedPhoto : List (Label Event Answer) :=
  opened (photoData "photo" 2) ++ [
    .answer 2 .failed, .event (.delete "document"),
    .answer 1 (.snapshot [(.removed, "document")]), .answer 4 .data]

/-- The run ends with nothing pending and a list that does not follow the thread. -/
def EndsAstray (labels : List (Label Event Answer)) : Prop :=
  ∃ last, (program fullBucket familyChannel).run
      (Program.start (State.unopened String Unit ∅)) labels = some last ∧
    Quiet last ∧ ¬ Follows fullBucket last.state

theorem endsAstray_of_stale {labels : List (Label Event Answer)}
    (stale : ∃ last, (program fullBucket familyChannel).run
        (Program.start (State.unopened String Unit ∅)) labels = some last ∧
      Quiet last ∧ ∃ message ∈ last.state.messages,
        ¬ Current fullBucket last.state.thread message) : EndsAstray labels := by
  obtain ⟨last, ran, quiet, shown⟩ := stale
  exact ⟨last, ran, quiet, not_follows_of_stale shown⟩

/-- The deleted text and photo stay or become displayed, the edited text is
displayed as it was, and a removed change adds its photo. -/
theorem changes_ignored :
    EndsAstray deletedText ∧ EndsAstray editedText ∧ EndsAstray latePhoto ∧
      EndsAstray removedPhoto := by
  refine ⟨endsAstray_of_stale (Program.exists_run (by decide)),
    endsAstray_of_stale (Program.exists_run (by decide)),
    endsAstray_of_stale (Program.exists_run (by decide)), ?_⟩
  obtain ⟨last, ran, quiet, change, added, removed⟩ : ∃ last,
      (program fullBucket familyChannel).run
        (Program.start (State.unopened String Unit ∅)) removedPhoto = some last ∧
      Quiet last ∧ ∃ change ∈ last.state.additions, change.type = .removed :=
    Program.exists_run (by decide)
  exact ⟨last, ran, quiet, fun follows => follows.unremoved change added removed⟩

/-- A text and a photo; the photo is edited while its first download is pending,
and the document of another photo that never arrived is deleted. -/
def undisturbedRun : List (Label Event Answer) := [
  .event (.write "text" (textData "hello" 1)), .event (.write "photo" (photoData "draft" 2)),
  .event (.write "lost" (photoData "lost" 2)), .event .viewDidLoad,
  .answer 0 (.snapshot [(.added, "text"), (.added, "photo"), (.added, "lost")]),
  .answer 3 .failed, .event (.delete "lost"),
  .event (.write "photo" (photoData "final" 2)),
  .answer 1 (.snapshot [(.modified, "photo"), (.removed, "lost")]),
  .answer 2 .failed, .answer 5 .data, .answer 6 .failed]

/-- The theorem on that run: both messages are shown and current. -/
theorem undisturbed_run_follows : ∃ last : Config (State String Unit) (Task String),
    Quiet last ∧ last.state.messages.length = 2 ∧ Follows fullBucket last.state := by
  obtain ⟨last, ran, quiet, both⟩ : ∃ last, (program fullBucket familyChannel).run
        (Program.start (State.unopened String Unit ∅)) undisturbedRun = some last ∧
      Quiet last ∧ last.state.messages.length = 2 := Program.exists_run (by decide)
  exact ⟨last, quiet, both, follows_of_run (by decide) ran⟩

end Disturbed

end Familog.Chat
