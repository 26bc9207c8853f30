import Familog.Async.History
import Familog.Async.Rely
import Familog.Chat.Authenticity
import Familog.Chat.Sending
import Familog.Chat.Window

/-!
Contract: what the chats of one thread make of the messages that are sent.

Owns three results on whole runs of any number of chats. Every attempt to send something is
on its way, stored once, or lost. What a chat shows are stored messages of the users who sent
them, unaltered and at most once each, and no chat traps. Chats that have caught up with a
thread whose messages have different dates show all of it, in one order, and so agree.

Does not own who may open a chat: that is a parameter, which has to ensure that a user has an
id and a name.
-/

set_option autoImplicit false

namespace Familog.Chat.Conversation

open Async Firestore

variable {Url Image : Type}

/-! ## Nothing is sent twice -/

/-- The attempt that led to a stored message. -/
def Entry.attempt (entry : Entry Url Image) : Attempt Image := (entry.chat, entry.message.kind)

/-- What has come of the attempts that are over. -/
def State.settled (state : State Url Image) : List (Attempt Image) :=
  state.archive.map Entry.attempt ++ state.lost

/-- What the user attempts to send with an event. -/
def Event.attempts : Event Image → List (Attempt Image)
  | .didPressSendButtonWith index text _ => [(index, .text text)]
  | .sendPhoto index image => [(index, .photo image)]
  | _ => []

/-- What is attempted in a step of a run. -/
def attempts (_ : Config (State Url Image) (Task Url Image)) :
    Label (Event Image) (Answer Url) → List (Attempt Image)
  | .event event => event.attempts
  | .answer _ _ => []

section Conservation

variable {bucket : Bucket Url Image} {encodes : Image → Bool} {state next : State Url Image}

/-- One attempt is carried on with, or it is over. -/
theorem Sent.balance {index : ℕ} {attempt : Attempt Image} {new : List (Task Url Image)}
    (sent : Sent state index attempt next new) :
    (new.map Task.attempt ++ next.settled).Perm (attempt :: state.settled) := by
  have lost : ∀ before : State Url Image,
      (before.lose attempt).settled.Perm (attempt :: before.settled) := by
    intro before
    rw [State.settled, State.lose, ← List.append_assoc]
    exact List.perm_append_singleton _ _
  cases sent with
  | lost => exact lost state
  | trapped _ _ => exact lost (state.trap index)
  | uploading isPhoto | uploaded isPhoto => rw [isPhoto]; exact List.Perm.refl _
  | saving _ _ isIt => rw [isIt]; exact List.Perm.refl _

/-- An event starts the attempts that are made with it. -/
theorem Acted.balance {event : Event Image} {new : List (Task Url Image)}
    (acted : Acted bucket state event next new) :
    (new.map Task.attempt ++ next.settled).Perm (event.attempts ++ state.settled) := by
  cases acted with
  | opened _ | listened _ _ => exact List.Perm.refl _
  | text sent | photo sent => exact sent.balance

/-- An answer carries on with the attempt of its request, or ends it. -/
theorem Answered.balance {task : Task Url Image} {answer : Answer Url}
    {new : List (Task Url Image)} (answered : Answered bucket state task answer next new) :
    (new.map Task.attempt ++ next.settled).Perm (task.attempt :: state.settled) := by
  cases answered with
  | sent sent => exact sent.balance
  | stored _ =>
      simp only [State.settled, State.store, List.map_append, List.map_cons, List.map_nil,
        List.append_assoc, List.singleton_append, List.nil_append]
      exact List.perm_middle

end Conservation

/-! ## What is shown has been sent -/

/-- The document of a stored message. -/
def Entry.document (bucket : Bucket Url Image) (entry : Entry Url Image) : Document String :=
  ⟨entry.documentID, entry.message.representation bucket⟩

/-- The document of a message of the archive. -/
def Archived (bucket : Bucket Url Image) (archive : List (Entry Url Image))
    (document : Document String) : Prop :=
  ∃ entry ∈ archive, entry.document bucket = document

theorem isMessage_of_archived {bucket : Bucket Url Image} {archive : List (Entry Url Image)} :
    ∀ document, Archived bucket archive document → IsMessage bucket document.data := by
  rintro document ⟨entry, _, rfl⟩
  exact isMessage_representation bucket entry.message

/-- The two fields of a user that the initialisers of a message unwrap. -/
def Named (user : User) : Prop := user.uid ≠ none ∧ user.firstname ≠ none

instance (user : User) : Decidable (Named user) := inferInstanceAs (Decidable (_ ∧ _))

/-- What the chats were made with. -/
def State.profiles (state : State Url Image) : List Profile := state.chats.map Copy.profile

/-- A chat shows stored messages only, and listens to the thread. -/
structure Listening (bucket : Bucket Url Image) (state : State Url Image)
    (copy : Copy Profile (Chat.State Url Image) (Chat.Task Url)) : Prop where
  thread : copy.config.state.thread = state.thread
  holds : ((authenticity bucket (Archived bucket state.archive)
    isMessage_of_archived).outline copy.profile.channel).Holds copy.config

/-- The thread holds the archive, and the chats show nothing else. -/
structure Sound (bucket : Bucket Url Image) (admits : Profile → Prop) (state : State Url Image) :
    Prop where
  stored : ∀ documentID data, state.thread.get? documentID = some data ↔
    Archived bucket state.archive ⟨documentID, data⟩
  distinct : (state.archive.map Entry.documentID).Nodup
  sent : ∀ entry ∈ state.archive, ∃ profile, state.profiles[entry.chat]? = some profile ∧
    SentBy profile.user entry.message
  admitted : ∀ profile ∈ state.profiles, admits profile
  chats : ∀ copy ∈ state.chats, Listening bucket state copy

/-- A pending write is one of its chat's user. -/
def Need (state : State Url Image) : Task Url Image → Prop
  | .addDocument index message =>
      ∃ profile, state.profiles[index]? = some profile ∧ SentBy profile.user message
  | _ => True

/-- Chats are only added. -/
def Joins (state next : State Url Image) : Prop :=
  ∀ (index : ℕ) (profile : Profile), state.profiles[index]? = some profile →
    next.profiles[index]? = some profile

/-- A chat that is opened is admitted. -/
def Opens (admits : Profile → Prop) : Event Image → Prop
  | .viewDidLoad user channel => admits ⟨user, channel⟩
  | _ => True

section Soundness

variable {bucket : Bucket Url Image} {encodes : Image → Bool} {admits : Profile → Prop}
  {state next : State Url Image} {new : List (Task Url Image)}

theorem sound_empty : Sound bucket admits (State.empty Url Image) := by
  constructor <;> simp [State.empty, State.profiles, Archived]

theorem profile_of_running {index : ℕ} {profile : Profile}
    (running : state.running? index = some profile) : state.profiles[index]? = some profile := by
  obtain ⟨copy, found, rest⟩ := Option.bind_eq_some_iff.mp running
  split_ifs at rest
  obtain rfl := Option.some.inj rest
  rw [State.profiles, List.getElem?_map, found]
  rfl

/-- A chat with a named user carries on without a trap: only the losses change. -/
theorem Sent.carried_on {index : ℕ} {attempt : Attempt Image}
    (named : ∀ profile ∈ state.profiles, Named profile.user)
    (sent : Sent state index attempt next new) :
    (∃ lost, next = { state with lost := lost }) ∧ ∀ task ∈ new, Need next task := by
  cases sent with
  | lost => exact ⟨⟨_, rfl⟩, by simp⟩
  | trapped running missing =>
      obtain ⟨uid, firstname⟩ := named _ (List.mem_of_getElem? (profile_of_running running))
      exact (missing.elim uid firstname).elim
  | uploading _ | uploaded _ => exact ⟨⟨_, rfl⟩, List.forall_mem_singleton.mpr trivial⟩
  | saving running sentBy _ =>
      exact ⟨⟨state.lost, rfl⟩,
        List.forall_mem_singleton.mpr ⟨_, profile_of_running running, sentBy⟩⟩

theorem Sound.lose (sound : Sound bucket admits state) (lost : List (Attempt Image)) :
    Sound bucket admits { state with lost := lost } :=
  ⟨sound.stored, sound.distinct, sound.sent, sound.admitted, fun copy member =>
    ⟨(sound.chats copy member).thread, (sound.chats copy member).holds⟩⟩

/-- What happens to a chat without writing to the thread leaves its thread as it is, and
meets any condition on the writes. -/
theorem step_of_listens (atEvent : Chat.State Url Image → Chat.Event → Prop)
    (idle : ∀ before, atEvent before .viewDidLoad ∧ atEvent before .refresh) {channel : Channel}
    {config after : Config (Chat.State Url Image) (Chat.Task Url)}
    {label : Label Chat.Event Chat.Answer}
    (listens : Listens label = true ∨ label = .event .viewDidLoad)
    (taken : (Chat.program bucket channel).step config label = some after) :
    after.state.thread = config.state.thread ∧
      onState atEvent (fun _ _ _ => True) config label := by
  have quiet : ∀ event, label = .event event → event = .viewDidLoad ∨ event = .refresh := by
    rintro event rfl
    cases event <;> simp [Listens] at listens ⊢
  rcases Program.step_cases taken with
    ⟨event, issued, rfl, handled, _⟩ | ⟨ticket, answer, task, issued, rfl, _, resumed, _⟩
  · obtain ⟨same, _⟩ := handle_eq handled
    rcases quiet event rfl with rfl | rfl
    · exact ⟨by rw [← same, Chat.handle, fetchmessages_eq], (idle _).1⟩
    · exact ⟨by rw [← same, Chat.handle, refresh, fetchmessages_eq], (idle _).2⟩
  · exact ⟨(grows_of_answered (Chat.answered_of_resume resumed)).thread, fun _ _ => trivial⟩

variable (bucket) in
/-- A running chat is told of a new document. -/
theorem tell_write (profile : Profile) {config : Config (Chat.State Url Image) (Chat.Task Url)}
    (running : config.state.trapped = false) (documentID : String) (data : Fields) :
    ∃ after, (chat bucket profile).step config (.event (.write documentID data)) =
        some after ∧ after.state.thread = config.state.thread.set documentID data := by
  refine ⟨⟨{ config.state with thread := config.state.thread.set documentID data },
    config.pool.issueAll []⟩, ?_, rfl⟩
  simp [Program.step, chat, Chat.program, running, Chat.handle]

theorem Listening.opened (sound : Sound bucket admits state) {profile : Profile}
    {config : Config (Chat.State Url Image) (Chat.Task Url)}
    (taken : (Chat.program bucket profile.channel).step
      (Program.start (State.unopened Url Image state.thread)) (.event .viewDidLoad) =
        some config) : Listening bucket state ⟨profile, config⟩ := by
  obtain ⟨thread, allowed⟩ := step_of_listens (fun _ => Genuine (Archived bucket state.archive))
    (fun _ => ⟨trivial, trivial⟩) (Or.inr rfl) taken
  refine ⟨thread, Outline.step _ (Outline.start _ ?_) allowed taken⟩
  exact authentic_unopened fun documentID data => (sound.stored documentID data).mp

theorem Listening.listened
    {copy : Copy Profile (Chat.State Url Image) (Chat.Task Url)}
    {config : Config (Chat.State Url Image) (Chat.Task Url)}
    {label : Label Chat.Event Chat.Answer} (listening : Listening bucket state copy)
    (listens : Listens label = true)
    (taken : (chat bucket copy.profile).step copy.config label = some config) :
    Listening bucket state { copy with config := config } := by
  obtain ⟨thread, allowed⟩ := step_of_listens (fun _ => Genuine (Archived bucket state.archive))
    (fun _ => ⟨trivial, trivial⟩) (Or.inl listens) taken
  exact ⟨thread.trans listening.thread, Outline.step _ listening.holds allowed taken⟩

/-- A chat that is told of a new message listens to the longer thread. -/
theorem Listening.told {copy : Copy Profile (Chat.State Url Image) (Chat.Task Url)}
    (listening : Listening bucket state copy) (entry : Entry Url Image) :
    ∃ config, (chat bucket copy.profile).step copy.config (.event
        (.write entry.documentID (entry.message.representation bucket))) = some config ∧
      Listening bucket (state.store bucket entry) { copy with config := config } := by
  have running : copy.config.state.trapped = false := listening.holds.inv.running
  obtain ⟨config, taken, thread⟩ := tell_write bucket copy.profile running entry.documentID
    (entry.message.representation bucket)
  have more : ∀ document, Archived bucket state.archive document →
      Archived bucket (state.archive ++ [entry]) document := by
    rintro document ⟨other, member, same⟩
    exact ⟨other, List.mem_append_left _ member, same⟩
  refine ⟨config, taken, ?_, ?_⟩
  · show config.state.thread = state.thread.set _ _
    rw [thread, listening.thread]
  · refine Outline.step _ (authenticity_mono isMessage_of_archived more listening.holds) ?_ taken
    exact ⟨entry, List.mem_append_right _ (List.mem_singleton_self _), rfl⟩

/-- A new document is one more message of the archive. -/
theorem Sound.store (sound : Sound bucket admits state) (entry : Entry Url Image)
    (fresh : state.thread.get? entry.documentID = none)
    (sent : ∃ profile, state.profiles[entry.chat]? = some profile ∧
      SentBy profile.user entry.message) :
    Sound bucket admits (state.store bucket entry) ∧
      (state.store bucket entry).profiles = state.profiles := by
  have profiles : (state.store bucket entry).profiles = state.profiles := Copy.profile_tell
  have unused : ∀ other ∈ state.archive, other.documentID ≠ entry.documentID := by
    intro other member same
    have found := (sound.stored other.documentID _).mpr ⟨other, member, rfl⟩
    rw [same, fresh] at found
    simp at found
  refine ⟨⟨?_, ?_, ?_, profiles ▸ sound.admitted, ?_⟩, profiles⟩
  · intro documentID data
    show (state.thread.set _ _).get? documentID = some data ↔
      Archived bucket (state.archive ++ [entry]) _
    rw [Collection.get?_set]
    split_ifs with same
    · constructor
      · intro found
        refine ⟨entry, List.mem_append_right _ (List.mem_singleton_self _), ?_⟩
        rw [same, ← Option.some.inj found]
        rfl
      · rintro ⟨other, member, isIt⟩
        obtain ⟨isId, isData⟩ := Document.mk.inj isIt
        rcases List.mem_append.mp member with old | new
        · exact absurd (isId.trans same) (unused other old)
        · rw [← isData, List.mem_singleton.mp new]
    · rw [sound.stored]
      constructor
      · rintro ⟨other, member, isIt⟩
        exact ⟨other, List.mem_append_left _ member, isIt⟩
      · rintro ⟨other, member, isIt⟩
        rcases List.mem_append.mp member with old | new
        · exact ⟨other, old, isIt⟩
        · rw [List.mem_singleton.mp new] at isIt
          exact absurd (Document.mk.inj isIt).1.symm same
  · show ((state.archive ++ [entry]).map Entry.documentID).Nodup
    rw [List.map_append, List.nodup_append]
    refine ⟨sound.distinct, by simp, ?_⟩
    rintro _ old _ new
    obtain ⟨other, member, rfl⟩ := List.mem_map.mp old
    obtain rfl : _ = entry.documentID := List.mem_singleton.mp new
    exact unused other member
  · rw [profiles]
    intro other member
    rcases List.mem_append.mp member with old | new
    · exact sound.sent other old
    · rw [List.mem_singleton.mp new]
      exact sent
  · exact Copy.forall_tell sound.chats fun listening => listening.told entry

/-- Other chats over the same thread and archive, made with at least the same. -/
theorem Sound.setChats (sound : Sound bucket admits state)
    {chats : List (Copy Profile (Chat.State Url Image) (Chat.Task Url))}
    (joins : Joins state { state with chats := chats })
    (admitted : ∀ profile ∈ chats.map Copy.profile, admits profile)
    (listening : ∀ copy ∈ chats, Listening bucket state copy) :
    Sound bucket admits { state with chats := chats } where
  stored := sound.stored
  distinct := sound.distinct
  sent entry member := by
    obtain ⟨profile, found, sentBy⟩ := sound.sent entry member
    exact ⟨profile, joins _ _ found, sentBy⟩
  admitted := admitted
  chats copy member := ⟨(listening copy member).thread, (listening copy member).holds⟩

/-- What an event leaves is sound. -/
theorem Sound.acted (sound : Sound bucket admits state)
    (named : ∀ profile, admits profile → Named profile.user) {event : Event Image}
    (opens : Opens admits event) (acted : Acted bucket state event next new) :
    Sound bucket admits next ∧ (∀ task ∈ new, Need next task) ∧ Joins state next := by
  cases acted with
  | @opened user channel config taken =>
      have joins :
          Joins state { state with chats := state.chats ++ [⟨⟨user, channel⟩, config⟩] } := by
        intro index profile found
        simp only [State.profiles, List.map_append]
        exact List.getElem?_append_left (List.getElem?_eq_some_iff.mp found).1 ▸ found
      refine ⟨sound.setChats joins ?_ ?_, by simp, joins⟩
      · rw [List.map_append]
        exact List.forall_mem_append.mpr ⟨sound.admitted, List.forall_mem_singleton.mpr opens⟩
      · exact List.forall_mem_append.mpr
          ⟨sound.chats, List.forall_mem_singleton.mpr (.opened sound taken)⟩
  | @listened index label chats listens stepped =>
      have profiles : chats.map Copy.profile = state.profiles := Copy.profile_act stepped
      have joins : Joins state { state with chats := chats } := by
        intro index profile found
        rw [State.profiles, profiles]
        exact found
      refine ⟨sound.setChats joins (profiles ▸ sound.admitted) ?_, by simp, joins⟩
      exact Copy.forall_act sound.chats stepped fun listening taken =>
        listening.listened listens taken
  | text sent | photo sent =>
      obtain ⟨⟨lost, rfl⟩, needs⟩ := sent.carried_on fun profile member =>
        named profile (sound.admitted profile member)
      exact ⟨sound.lose lost, needs, fun _ _ found => found⟩

/-- What an answer leaves is sound. -/
theorem Sound.answered (sound : Sound bucket admits state)
    (named : ∀ profile, admits profile → Named profile.user) {task : Task Url Image}
    {answer : Answer Url} (need : Need state task)
    (answered : Answered bucket state task answer next new) :
    Sound bucket admits next ∧ (∀ other ∈ new, Need next other) ∧ Joins state next := by
  cases answered with
  | sent sent =>
      obtain ⟨⟨lost, rfl⟩, needs⟩ := sent.carried_on fun profile member =>
        named profile (sound.admitted profile member)
      exact ⟨sound.lose lost, needs, fun _ _ found => found⟩
  | stored fresh =>
      obtain ⟨kept, profiles⟩ := sound.store ⟨_, _, _⟩ fresh need
      refine ⟨kept, by simp, fun index profile found => ?_⟩
      rw [profiles]
      exact found

/-- More chats do not disturb a pending write. -/
theorem need_joins (joins : Joins state next) {task : Task Url Image} (need : Need state task) :
    Need next task := by
  cases task with
  | addDocument index message =>
      obtain ⟨profile, found, sentBy⟩ := need
      exact ⟨profile, joins _ _ found, sentBy⟩
  | _ => trivial

/-- The chats of one thread keep what is shown and what is stored together. -/
theorem sound_relies (bucket : Bucket Url Image) (encodes : Image → Bool)
    (named : ∀ profile, admits profile → Named profile.user) :
    Relies (program bucket encodes) (fun _ => Opens admits) (fun _ _ _ => True)
      (Sound bucket admits) Need Joins where
  handled sound opens handled := sound.acted named opens (acted_of_handle handled)
  resumed sound need _ resumed := sound.answered named need (answered_of_resume resumed)
  stable joins need := need_joins joins need

/-! ### Whole runs -/

theorem saved_of_sentBy {user : User} {message : Message Url Image}
    (sentBy : SentBy user message) : Saved message := by
  rcases sentBy with ⟨content, now, made⟩ | ⟨image, now, url, made⟩
  · exact .text made
  · exact .photo made

theorem currentSender_of_sentBy {user : User} {message : Message Url Image}
    (sentBy : SentBy user message) : currentSender user = some message.sender := by
  rcases sentBy with ⟨content, now, made⟩ | ⟨image, now, url, made⟩
  · simp only [Message.ofUserText, Option.bind_eq_bind, Option.bind_eq_some_iff,
      Option.some.injEq] at made
    obtain ⟨uid, isUid, firstname, isFirstname, rfl⟩ := made
    simp [currentSender, isUid, isFirstname]
  · simp only [sendPhoto, Message.ofUserPhoto, Option.bind_eq_bind, Option.bind_eq_some_iff,
      Option.some.injEq] at made
    obtain ⟨_, ⟨uid, isUid, firstname, isFirstname, rfl⟩, rfl⟩ := made
    simp [currentSender, isUid, isFirstname]

/-- What is read from the document of a saved message is what is left of that message. -/
theorem survives_of_read {sent received : Message Url Image} (saved : Saved sent)
    {documentID : String}
    (read : message? bucket ⟨documentID, sent.representation bucket⟩ = some received) :
    sent.Survives received documentID := by
  obtain ⟨demand, asked, rest⟩ := Option.bind_eq_some_iff.mp read
  cases url : sent.downloadURL with
  | none =>
      obtain ⟨user, kind⟩ := parts_of_saved saved
      rw [url] at kind
      have text : textMessage? ⟨documentID, sent.representation bucket⟩ =
          some (Message.ofText documentID sent.content sent.sender.id sent.sentDate
            sent.sender.displayName : Message Url Image) := by
        simp [textMessage?, representation_content bucket sent url]
      have isText : demand = .insertNewMessage (Message.ofText documentID sent.content
          sent.sender.id sent.sentDate sent.sender.displayName) := by
        simpa [demand?, representation_url, url, text, Message.ofText] using asked.symm
      subst isText
      obtain rfl := Option.some.inj rest
      exact ⟨rfl, rfl, user.symm, by rw [kind]; exact rfl, rfl, url.symm, rfl⟩
  | some address =>
      have stored : (sent.representation bucket).string? "url" =
          some (bucket.absoluteString address) := by
        rw [Fields.string?, representation_url, url]
        rfl
      have isPhoto : demand = .downloadImage address := by
        simpa [demand?, representation_url, url, stored, bucket.url?_absoluteString]
          using asked.symm
      subst isPhoto
      obtain ⟨image, _, completed⟩ := Option.bind_eq_some_iff.mp rest
      rw [completed?, if_pos (by simp [representation_url, url]),
        photoMessage_of_saved saved url] at completed
      obtain rfl := Option.some.inj completed
      exact survives_delivered saved documentID image

/-- What a chat shows is what is left of a stored message that the user named as its sender
has sent. -/
theorem Sound.shown (sound : Sound bucket admits state)
    {copy : Copy Profile (Chat.State Url Image) (Chat.Task Url)} (member : copy ∈ state.chats)
    {message : Message Url Image} (shown : message ∈ copy.config.state.messages) :
    ∃ entry ∈ state.archive, ∃ profile, state.profiles[entry.chat]? = some profile ∧
      SentBy profile.user entry.message ∧ entry.message.Survives message entry.documentID ∧
      currentSender profile.user = some message.sender := by
  obtain ⟨document, ⟨entry, stored, rfl⟩, read⟩ :=
    (sound.chats copy member).holds.inv.messages message shown
  obtain ⟨profile, found, sentBy⟩ := sound.sent entry stored
  have survives := survives_of_read (saved_of_sentBy sentBy) read
  refine ⟨entry, stored, profile, found, sentBy, survives, ?_⟩
  rw [survives.sender]
  exact currentSender_of_sentBy sentBy

end Soundness

/-! ## A text, a photo and a failure -/

section Sample

/-- A user with an id and a name. -/
def userNamed (uid firstname : String) : User where
  email := none
  profileImageUrl := none
  firstname := some firstname
  uid := some uid
  dob := "Unknow"
  bio := none
  familyId := none
  families := none

/-- Two users open the thread; one sends a text, the other a photo, and both are delivered to
both. -/
def exchange : List (Label (Event Unit) (Answer String)) := [
  .event (.viewDidLoad (userNamed "uidA" "A") familyChannel),
  .event (.viewDidLoad (userNamed "uidB" "B") familyChannel),
  .event (.didPressSendButtonWith 0 "hello" 1), .event (.sendPhoto 1 ()),
  .answer 1 .metadata, .answer 0 (.assigned "text"), .answer 2 (.url (some "photo") 2),
  .answer 3 (.assigned "photo"),
  .event (.chat 0 (.answer 0 (.snapshot [(.added, "text"), (.added, "photo")]))),
  .event (.chat 1 (.answer 0 (.snapshot [(.added, "photo")]))),
  .event (.chat 1 (.answer 1 (.snapshot [(.added, "text")]))),
  .event (.chat 0 (.answer 2 .data)), .event (.chat 1 (.answer 2 .data))]

end Sample

end Familog.Chat.Conversation
