import Familog.App.Screens
import Familog.Async.Rely
import Familog.Channels.Controller
import Familog.Chat.Sending

/-!
Contract: the app together with the notification pages.

Owns the program of the channel lists and of the chats they open, for any number of sessions
over the store of the app, and its composition with the program of the app, the log-in and
the profile editor. A list reads the document of its user once and then listens to the
channels; the chat of a row shows the thread below the document that the id of its channel
names.

Does not own the log-out. A list that has been left may be answered as before, because the
closure of its listener holds it.
-/

set_option autoImplicit false

namespace Familog.App.Notification

open Async Firestore Swift Chat

/-- A `ChannelsViewController`. Whether its process has trapped is not stored by it. -/
structure ListScreen where
  session : Session
  currentUser : Option User
  list : Channels.State
  trapped : Bool

/-- The lists, and the chats of every thread. -/
structure Board (Url Image : Type) where
  lists : List ListScreen
  threads : DocumentPath → Conversation.State Url Image

/-- A listener stays pending. -/
inductive Task (Url Image : Type) where
  | observeCurrentUser (index : ℕ)
  | listener (index : ℕ)
  | thread (path : DocumentPath) (task : Conversation.Task Url Image)

/-- A list appears; a row of a list is tapped; something happens to the chats of a thread. -/
inductive Event (Image : Type) where
  | viewDidLoad (session : Session)
  | didSelectRowAt (index row : ℕ)
  | thread (path : DocumentPath) (event : Conversation.Event Image)

/-- An error, the current document, the changes of a snapshot, or an answer to a chat. -/
inductive Answer (Url : Type) where
  | failed
  | succeeded
  | snapshot (changes : List (ChangeType × String))
  | thread (answer : Conversation.Answer Url)

/-- The state of the app and its further screens, and what the notification pages work on. -/
abbrev State (Url Image : Type) := Screens.State × Board Url Image

/-- No list has appeared and nothing has been sent. -/
def Board.empty (Url Image : Type) : Board Url Image := ⟨[], fun _ => .empty Url Image⟩

section Program

variable {Url Image : Type} (form : CanonicalForm) (bucket : Bucket Url Image)
  (encodes : Image → Bool)

/-- The list is shown in this way from now on. -/
def Board.setList (board : Board Url Image) (index : ℕ) (screen : ListScreen) :
    Board Url Image :=
  { board with lists := board.lists.set index screen }

/-- The thread and its chats from now on. -/
def Board.setThread (board : Board Url Image) (path : DocumentPath)
    (conversation : Conversation.State Url Image) : Board Url Image :=
  { board with threads := Function.update board.threads path conversation }

/-- An unwrap fails in the list, or UIKit or Firestore raises an exception. -/
def ListScreen.trap (screen : ListScreen) : ListScreen := { screen with trapped := true }

/-- The list of an index, unless its process has trapped. -/
def Board.running? (board : Board Url Image) (index : ℕ) : Option ListScreen :=
  board.lists[index]?.filter fun screen => !screen.trapped

/-- What a callback of a thread does, on the whole board. -/
def Board.onThread (board : Board Url Image) (path : DocumentPath)
    (result : Option (Conversation.State Url Image × List (Conversation.Task Url Image))) :
    Option (Board Url Image × List (Task Url Image)) :=
  result.map fun after => (board.setThread path after.1, after.2.map (.thread path))

/-- The list once its listener has delivered these documents. -/
def ListScreen.deliver (screen : ListScreen) (view : Collection String) : ListScreen :=
  { screen with list := { screen.list with delivered := view } }

/-- The loop over `documentChanges`. -/
def forEach (user : User) : ListScreen → List Channels.Change → ListScreen
  | screen, [] => screen
  | screen, change :: rest =>
      match Channels.receive form user screen.list change with
      | none => screen.trap
      | some list => forEach user { screen with list := list } rest

/-- `didSelectRowAt`: the chat of the channel in the row is pushed and loads its thread. UIKit
asks for rows it has counted only. -/
def didSelectRowAt (board : Board Url Image) (index : ℕ) (screen : ListScreen) (row : ℕ) :
    Option (Board Url Image × List (Task Url Image)) :=
  if row < screen.list.rows.length then
    match screen.list.channels[row]?, screen.currentUser with
    | some channel, some user =>
        match channel.id with
        | none => some (board, [])
        | some id =>
            match document? id with
            | none => some (board.setList index screen.trap, [])
            | some path =>
                board.onThread path
                  (Conversation.handle bucket encodes (board.threads path)
                    (.viewDidLoad user channel))
    | _, _ => some (board.setList index screen.trap, [])
  else none

/-- Run the handler of one event; a chat is opened from a row only. -/
def handle (state : State Url Image) :
    Event Image → Option (State Url Image × List (Task Url Image))
  | .viewDidLoad session =>
      if session.user ∈ state.1.1.accounts then
        some ((state.1, { state.2 with
            lists := state.2.lists ++ [⟨session, none, .empty, false⟩] }),
          [.observeCurrentUser state.2.lists.length])
      else none
  | .didSelectRowAt index row =>
      ((state.2.running? index).bind fun screen =>
        didSelectRowAt bucket encodes state.2 index screen row).map fun result =>
          ((state.1, result.1), result.2)
  | .thread _ (.viewDidLoad _ _) => none
  | .thread path event =>
      (state.2.onThread path (Conversation.handle bucket encodes (state.2.threads path) event)).map
        fun result => ((state.1, result.1), result.2)

/-- `observeCurrentUser` with the document there is. -/
def userObserved (store : Store) (index : ℕ) (screen : ListScreen) :
    ListScreen × List (Task Url Image) :=
  match store.users.get? screen.session.user with
  | none => (screen, [])
  | some data =>
      match transformUser data with
      | none => (screen.trap, [])
      | some user => ({ screen with currentUser := some user }, [.listener index])

/-- What a snapshot makes of a list; `currentUser` is unwrapped. Whatever the loop does, the
listener has delivered the changes of the snapshot. -/
def channelsObserved (store : Store) (screen : ListScreen) (changes : List (ChangeType × String)) :
    Option ListScreen :=
  match screen.currentUser with
  | none => some screen.trap
  | some user =>
      (documentChanges? store.channels screen.list.delivered changes).map fun documentChanges =>
        (forEach form user screen documentChanges).deliver
          (appliedAll documentChanges screen.list.delivered)

/-- Run the callback of one answer. A list asks for its user once. -/
def resume (state : State Url Image) :
    Task Url Image → Answer Url → Option (State Url Image × List (Task Url Image))
  | .observeCurrentUser index, .failed =>
      (state.2.running? index).map fun _ => (state, [])
  | .observeCurrentUser index, .succeeded =>
      ((state.2.running? index).filter fun screen => screen.currentUser.isNone).map fun screen =>
        let result := userObserved state.1.1.store index screen
        ((state.1, state.2.setList index result.1), result.2)
  | .listener index, .failed =>
      (state.2.running? index).map fun _ => (state, [.listener index])
  | .listener index, .snapshot changes =>
      ((state.2.running? index).bind fun screen =>
        channelsObserved form state.1.1.store screen changes).map fun screen =>
          ((state.1, state.2.setList index screen), [.listener index])
  | .thread path task, .thread answer =>
      (state.2.onThread path (Conversation.resume bucket (state.2.threads path) task answer)).map
        fun result => ((state.1, result.1), result.2)
  | _, _ => none

/-- The notification pages. -/
def program : Program (State Url Image) (Event Image) (Task Url Image) (Answer Url) where
  handle := handle bucket encodes
  resume := resume form bucket

/-- The app, its further screens and the notification pages over one store. -/
def whole (count : String → ℕ) (localizedDescription : String) :
    Program (State Url Image) ((App.Event ⊕ Screens.Event) ⊕ Event Image)
      ((App.Task ⊕ Screens.Task) ⊕ Task Url Image) (Familog.Answer ⊕ Answer Url) :=
  (((Screens.whole count localizedDescription form).within (Board Url Image)).answering
      Sum.getLeft?).beside ((program form bucket encodes).answering Sum.getRight?)

end Program

/-- Before the first account. -/
def State.empty (Url Image : Type) : State Url Image := (Screens.State.empty, .empty Url Image)

end Familog.App.Notification
