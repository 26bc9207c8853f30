import Familog.Async.Copies
import Familog.Chat.RoundTrip

/-!
Contract: the chats of one thread, with what they send.

Owns the send button, `sendPhoto` with `uploadImage`, and `save` of `ChatViewController`, and
the program of any number of chats that show and extend one thread. A stored message is
written to the thread that every chat listens to. The listeners and downloads of a chat are
requests of its own, so they are part of its state here.

Does not own the cache in which Firestore keeps writes that have not been acknowledged. The
closures of the listeners hold the controller, so `[weak self]` never finds it gone, and
`isSendingPhoto` is never read.
-/

set_option autoImplicit false

namespace Familog.Chat.Conversation

open Async Firestore

/-- What a `ChatViewController` is made with. -/
structure Profile where
  user : User
  channel : Channel

/-- A message that has been stored, with the chat that sent it. -/
structure Entry (Url Image : Type) where
  documentID : String
  chat : ℕ
  message : Message Url Image

/-- What a user sends from a chat: a text or a photo. -/
abbrev Attempt (Image : Type) := ℕ × MessageKind Image

/-- The thread and its chats. Which messages have been stored for which chat, and what has
been lost on the way, is not stored by the source. -/
structure State (Url Image : Type) where
  thread : Collection String
  chats : List (Copy Profile (Chat.State Url Image) (Chat.Task Url))
  archive : List (Entry Url Image)
  lost : List (Attempt Image)

/-- A request of `uploadImage`, or the write of `save`. -/
inductive Task (Url Image : Type) where
  | putData (chat : ℕ) (image : Image)
  | downloadURL (chat : ℕ) (image : Image)
  | addDocument (chat : ℕ) (message : Message Url Image)

/-- A chat is pushed; something happens to one chat that has nothing to do with sending; the
send button is pressed; a photo has been picked. -/
inductive Event (Image : Type) where
  | viewDidLoad (user : User) (channel : Channel)
  | chat (index : ℕ) (label : Label Chat.Event Chat.Answer)
  | didPressSendButtonWith (index : ℕ) (text : String) (now : Int)
  | sendPhoto (index : ℕ) (image : Image)

/-- An error, the metadata of an upload, the URL of the object if there is one, or the id of
the new document. -/
inductive Answer (Url : Type) where
  | failed
  | metadata
  | url (url : Option Url) (now : Int)
  | assigned (documentID : String)

/-- Before anything has been sent. -/
def State.empty (Url Image : Type) : State Url Image := ⟨∅, [], [], []⟩

section Program

variable {Url Image : Type} (bucket : Bucket Url Image) (encodes : Image → Bool)

/-- The program of a chat. -/
def chat (profile : Profile) :
    Program (Chat.State Url Image) Chat.Event (Chat.Task Url) Chat.Answer :=
  Chat.program bucket profile.channel

/-- A pull-to-refresh or an answer to the chat; documents are written by `save` alone, and a
chat is loaded once. -/
def Listens : Label Chat.Event Chat.Answer → Bool
  | .event .refresh => true
  | .event _ => false
  | .answer _ _ => true

/-- The chat has lost what it was about to send. -/
def State.lose (state : State Url Image) (attempt : Attempt Image) : State Url Image :=
  { state with lost := state.lost ++ [attempt] }

/-- An unwrap fails in the chat. -/
def State.trap (state : State Url Image) (index : ℕ) : State Url Image :=
  { state with
    chats := state.chats.modify index fun copy =>
      { copy with config := ⟨copy.config.state.trap, copy.config.pool⟩ } }

/-- What the chat was made with, unless its process has trapped. -/
def State.running? (state : State Url Image) (index : ℕ) : Option Profile :=
  state.chats[index]?.bind fun copy =>
    if copy.config.state.trapped then none else some copy.profile

/-- The chat of the request. -/
def Task.chat : Task Url Image → ℕ
  | .putData index _ => index
  | .downloadURL index _ => index
  | .addDocument index _ => index

/-- What the request is about to send. -/
def Task.attempt : Task Url Image → Attempt Image
  | .putData index image => (index, .photo image)
  | .downloadURL index image => (index, .photo image)
  | .addDocument index message => (index, message.kind)

/-- `save`; without a `reference` there is nowhere to store the message. -/
def save (state : State Url Image) (profile : Profile) (index : ℕ) (message : Message Url Image) :
    State Url Image × List (Task Url Image) :=
  match profile.channel.id with
  | none => (state.lose (index, message.kind), [])
  | some _ => (state, [.addDocument index message])

/-- `sendPhoto` up to the first request of `uploadImage`. -/
def uploadImage (state : State Url Image) (profile : Profile) (index : ℕ) (image : Image) :
    State Url Image × List (Task Url Image) :=
  match profile.channel.id with
  | none => (state.lose (index, .photo image), [])
  | some _ =>
      if encodes image then (state, [.putData index image])
      else (state.lose (index, .photo image), [])

/-- The new document, which every chat can listen to from now on. -/
def State.store (state : State Url Image) (entry : Entry Url Image) : State Url Image :=
  { state with
    thread := state.thread.set entry.documentID (entry.message.representation bucket)
    chats := state.chats.map (Copy.tell (chat bucket)
      (.write entry.documentID (entry.message.representation bucket)))
    archive := state.archive ++ [entry] }

/-- Run the handler of one event. -/
def handle (state : State Url Image) :
    Event Image → Option (State Url Image × List (Task Url Image))
  | .viewDidLoad user channel =>
      ((Chat.program bucket channel).step
        (Program.start (State.unopened Url Image state.thread)) (.event .viewDidLoad)).map
          fun config => ({ state with chats := state.chats ++ [⟨⟨user, channel⟩, config⟩] }, [])
  | .chat index label =>
      if Listens label then
        (Copy.act (chat bucket) state.chats index label).map fun chats =>
          ({ state with chats := chats }, [])
      else none
  | .didPressSendButtonWith index text now =>
      (state.running? index).map fun profile =>
        match Message.ofUserText profile.user text now with
        | none => ((state.trap index).lose (index, .text text), [])
        | some message => save state profile index message
  | .sendPhoto index image =>
      (state.running? index).map fun profile => uploadImage encodes state profile index image

/-- Run the callback of one answer. The id of a new document is new. -/
def resume (state : State Url Image) (task : Task Url Image) (answer : Answer Url) :
    Option (State Url Image × List (Task Url Image)) :=
  (state.running? task.chat).bind fun profile =>
    match task, answer with
    | .putData _ _, .failed => some (state.lose task.attempt, [])
    | .putData index image, .metadata => some (state, [.downloadURL index image])
    | .downloadURL _ _, .url none _ => some (state.lose task.attempt, [])
    | .downloadURL index image, .url (some url) now =>
        match sendPhoto profile.user image now url with
        | none => some ((state.trap index).lose task.attempt, [])
        | some message => some (save state profile index message)
    | .addDocument _ _, .failed => some (state.lose task.attempt, [])
    | .addDocument index message, .assigned documentID =>
        match state.thread.get? documentID with
        | some _ => none
        | none => some (state.store bucket ⟨documentID, index, message⟩, [])
    | _, _ => none

/-- The chats of one thread. -/
def program : Program (State Url Image) (Event Image) (Task Url Image) (Answer Url) where
  handle := handle bucket encodes
  resume := resume bucket

end Program

/-! ## What a callback can do -/

section Callbacks

variable {Url Image : Type} {bucket : Bucket Url Image} {encodes : Image → Bool}
  {state next : State Url Image}

/-- A message that the user sends: `init(user:content:)`, or `init(user:image:)` with the URL
that `sendPhoto` adds. -/
def SentBy (user : User) (message : Message Url Image) : Prop :=
  (∃ content now, Message.ofUserText user content now = some message) ∨
    ∃ image now url, sendPhoto user image now url = some message

/-- Everything that can start or carry on with an attempt to send something. -/
inductive Sent (state : State Url Image) (index : ℕ) (attempt : Attempt Image) :
    State Url Image → List (Task Url Image) → Prop where
  | lost : Sent state index attempt (state.lose attempt) []
  | trapped {profile} : state.running? index = some profile →
      (profile.user.uid = none ∨ profile.user.firstname = none) →
      Sent state index attempt ((state.trap index).lose attempt) []
  | uploading {image} : attempt = (index, .photo image) →
      Sent state index attempt state [.putData index image]
  | uploaded {image} : attempt = (index, .photo image) →
      Sent state index attempt state [.downloadURL index image]
  | saving {profile message} : state.running? index = some profile →
      SentBy profile.user message → attempt = (index, message.kind) →
      Sent state index attempt state [.addDocument index message]

/-- Everything an event can do. -/
inductive Acted (bucket : Bucket Url Image) (state : State Url Image) :
    Event Image → State Url Image → List (Task Url Image) → Prop where
  | opened {user channel config} :
      (Chat.program bucket channel).step (Program.start (State.unopened Url Image state.thread))
        (.event .viewDidLoad) = some config →
      Acted bucket state (.viewDidLoad user channel)
        { state with chats := state.chats ++ [⟨⟨user, channel⟩, config⟩] } []
  | listened {index label chats} : Listens label = true →
      Copy.act (chat bucket) state.chats index label = some chats →
      Acted bucket state (.chat index label) { state with chats := chats } []
  | text {index text now next new} : Sent state index (index, .text text) next new →
      Acted bucket state (.didPressSendButtonWith index text now) next new
  | photo {index image next new} : Sent state index (index, .photo image) next new →
      Acted bucket state (.sendPhoto index image) next new

/-- Everything an answered request can do. -/
inductive Answered (bucket : Bucket Url Image) (state : State Url Image) :
    Task Url Image → Answer Url → State Url Image → List (Task Url Image) → Prop where
  | sent {task answer next new} : Sent state task.chat task.attempt next new →
      Answered bucket state task answer next new
  | stored {index message documentID} : state.thread.get? documentID = none →
      Answered bucket state (.addDocument index message) (.assigned documentID)
        (state.store bucket ⟨documentID, index, message⟩) []

/-- The two fields of the user that the initialisers of a message unwrap. -/
theorem named_or_missing (user : User) :
    (∃ uid firstname, user.uid = some uid ∧ user.firstname = some firstname) ∨
      (user.uid = none ∨ user.firstname = none) := by
  cases user.uid <;> cases user.firstname <;> simp

theorem missing_of_photo {user : User} {image : Image} {now : Int} {url : Url}
    (unmade : sendPhoto user image now url = none) : user.uid = none ∨ user.firstname = none := by
  refine (named_or_missing user).resolve_left ?_
  rintro ⟨uid, firstname, isUid, isFirstname⟩
  simp [sendPhoto, Message.ofUserPhoto, isUid, isFirstname] at unmade

theorem missing_of_text {user : User} {content : String} {now : Int}
    (unmade : (Message.ofUserText user content now : Option (Message Url Image)) = none) :
    user.uid = none ∨ user.firstname = none := by
  refine (named_or_missing user).resolve_left ?_
  rintro ⟨uid, firstname, isUid, isFirstname⟩
  simp [Message.ofUserText, isUid, isFirstname] at unmade

theorem kind_of_text {user : User} {content : String} {now : Int} {message : Message Url Image}
    (made : Message.ofUserText user content now = some message) :
    message.kind = .text content := by
  simp only [Message.ofUserText, Option.bind_eq_bind, Option.bind_eq_some_iff,
    Option.some.injEq] at made
  obtain ⟨uid, _, firstname, _, rfl⟩ := made
  rfl

theorem kind_of_photo {user : User} {image : Image} {now : Int} {url : Url}
    {message : Message Url Image} (made : sendPhoto user image now url = some message) :
    message.kind = .photo image := by
  simp only [sendPhoto, Message.ofUserPhoto, Option.bind_eq_bind, Option.bind_eq_some_iff,
    Option.some.injEq] at made
  obtain ⟨_, ⟨uid, _, firstname, _, rfl⟩, rfl⟩ := made
  rfl

theorem sent_of_save {profile : Profile} {index : ℕ} {message : Message Url Image}
    (running : state.running? index = some profile) (sentBy : SentBy profile.user message) :
    Sent state index (index, message.kind) (save state profile index message).1
      (save state profile index message).2 := by
  unfold save
  split
  · exact .lost
  · exact .saving running sentBy rfl

theorem acted_of_handle {event : Event Image} {new : List (Task Url Image)}
    (handled : handle bucket encodes state event = some (next, new)) :
    Acted bucket state event next new := by
  cases event with
  | viewDidLoad user channel =>
      simp only [handle, Option.map_eq_some_iff] at handled
      obtain ⟨config, taken, same⟩ := handled
      obtain ⟨rfl, rfl⟩ := Prod.mk.inj same
      exact .opened taken
  | chat index label =>
      simp only [handle] at handled
      split_ifs at handled with listens
      obtain ⟨chats, acted, same⟩ := Option.map_eq_some_iff.mp handled
      obtain ⟨rfl, rfl⟩ := Prod.mk.inj same
      exact .listened listens acted
  | didPressSendButtonWith index text now =>
      obtain ⟨profile, running, same⟩ := Option.map_eq_some_iff.mp handled
      cases made : (Message.ofUserText profile.user text now : Option (Message Url Image)) with
      | none =>
          rw [made] at same
          obtain ⟨rfl, rfl⟩ := Prod.mk.inj same
          exact .text (.trapped running (missing_of_text made))
      | some message =>
          rw [made] at same
          obtain ⟨rfl, rfl⟩ := Prod.ext_iff.mp same
          refine .text ?_
          rw [← kind_of_text made]
          exact sent_of_save running (Or.inl ⟨text, now, made⟩)
  | sendPhoto index image =>
      obtain ⟨profile, running, same⟩ := Option.map_eq_some_iff.mp handled
      obtain ⟨rfl, rfl⟩ := Prod.ext_iff.mp same
      refine .photo ?_
      unfold uploadImage
      split
      · exact .lost
      · split_ifs
        · exact .uploading rfl
        · exact .lost

theorem answered_of_resume {task : Task Url Image} {answer : Answer Url}
    {new : List (Task Url Image)} (resumed : resume bucket state task answer = some (next, new)) :
    Answered bucket state task answer next new := by
  obtain ⟨profile, running, rest⟩ := Option.bind_eq_some_iff.mp resumed
  cases task with
  | putData index image =>
      cases answer with
      | failed =>
          obtain ⟨rfl, rfl⟩ := Prod.mk.inj (Option.some.inj rest)
          exact .sent .lost
      | metadata =>
          obtain ⟨rfl, rfl⟩ := Prod.mk.inj (Option.some.inj rest)
          exact .sent (.uploaded rfl)
      | _ => simp at rest
  | downloadURL index image =>
      cases answer with
      | url url now =>
          cases url with
          | none =>
              obtain ⟨rfl, rfl⟩ := Prod.mk.inj (Option.some.inj rest)
              exact .sent .lost
          | some url =>
              cases made : sendPhoto profile.user image now url with
              | none =>
                  simp only [made] at rest
                  obtain ⟨rfl, rfl⟩ := Prod.mk.inj (Option.some.inj rest)
                  exact .sent (.trapped running (missing_of_photo made))
              | some message =>
                  simp only [made] at rest
                  obtain ⟨rfl, rfl⟩ := Prod.ext_iff.mp (Option.some.inj rest)
                  refine .sent ?_
                  rw [Task.attempt, ← kind_of_photo made]
                  exact sent_of_save running (Or.inr ⟨image, now, url, made⟩)
      | _ => simp at rest
  | addDocument index message =>
      cases answer with
      | failed =>
          obtain ⟨rfl, rfl⟩ := Prod.mk.inj (Option.some.inj rest)
          exact .sent .lost
      | assigned documentID =>
          simp only at rest
          split at rest
          · simp at rest
          · next fresh =>
              obtain ⟨rfl, rfl⟩ := Prod.mk.inj (Option.some.inj rest)
              exact .stored fresh
      | _ => simp at rest

end Callbacks

end Familog.Chat.Conversation
