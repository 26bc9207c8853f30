import Familog.Async.Program
import Familog.Chat.Message
import Familog.Records

/-!
Contract: `ChatViewController` as a program.

`viewDidLoad` and every pull-to-refresh register one more listener on the newest
documents of the thread; none is ever removed. Each change a listener delivers
goes through `handleDocumentChange`, which inserts a text at once and a photo
when its download is done.

Owns that program together with the thread: any client writes and deletes
documents at any time. A listener delivers any changes that its view and the
thread allow, so the limit of its query restricts nothing here. Which changes a
snapshot has, what the listener has delivered with it and how a download ended is
recorded where the answer arrives, and not by the code that handles it.

Does not own sending, avatars or layout. The controller is not deallocated during
a run.
-/

set_option autoImplicit false

namespace Familog.Chat

open Async Firestore

/-- The messages and the number of documents a listener asks for. The other fields
are not stored by the controller: whether the process has trapped, the thread,
the changes that have been delivered, the ones whose download has ended well or
badly, and the ones that have added a message. -/
structure State (Url Image : Type) where
  messages : List (Message Url Image)
  massageNumber : Nat
  trapped : Bool
  thread : Collection String
  delivered : List (DocumentChange String)
  succeeded : List (DocumentChange String)
  failed : List (DocumentChange String)
  additions : List (DocumentChange String)

/-- A listener stays pending. -/
inductive Task (Url : Type) where
  | listener (limit : Nat) (view : Collection String)
  | downloadImage (url : Url) (change : DocumentChange String)

/-- The screen appears or is pulled down; a client writes or deletes a document of
the thread. -/
inductive Event where
  | viewDidLoad
  | refresh
  | write (documentID : String) (data : Fields)
  | delete (documentID : String)

/-- An error, the changes of a snapshot, or the data of an image. -/
inductive Answer where
  | failed
  | snapshot (changes : List (ChangeType × String))
  | data

/-- A chat that has not been opened yet. -/
def State.unopened (Url Image : Type) (thread : Collection String) : State Url Image where
  messages := []
  massageNumber := 15
  trapped := false
  thread := thread
  delivered := []
  succeeded := []
  failed := []
  additions := []

section Program

variable {Url Image : Type} (bucket : Bucket Url Image) (channel : Channel)

/-- `fetchmessages`; a channel without an id closes the screen. -/
def fetchmessages (state : State Url Image) : State Url Image × List (Task Url) :=
  match channel.id with
  | none => (state, [])
  | some _ => (state, [.listener state.massageNumber ∅])

/-- `refresh`. -/
def refresh (state : State Url Image) : State Url Image × List (Task Url) :=
  fetchmessages channel { state with massageNumber := state.massageNumber + 15 }

/-- `insertNewMessage`, on behalf of a change. -/
def State.insert (state : State Url Image) (change : DocumentChange String)
    (message : Message Url Image) : State Url Image :=
  { state with
    messages := insertNewMessage state.messages message
    additions :=
      if Swift.containsKey Message.id state.messages message then state.additions
      else state.additions ++ [change] }

/-- A force-cast or an unwrap fails. -/
def State.trap (state : State Url Image) : State Url Image := { state with trapped := true }

/-- The changes have been delivered. -/
def State.deliver (state : State Url Image) (changes : List (DocumentChange String)) :
    State Url Image :=
  { state with delivered := state.delivered ++ changes }

/-- The download of the change has ended well. -/
def State.succeed (state : State Url Image) (change : DocumentChange String) :
    State Url Image :=
  { state with succeeded := state.succeeded ++ [change] }

/-- The download of the change has ended badly. -/
def State.fail (state : State Url Image) (change : DocumentChange String) : State Url Image :=
  { state with failed := state.failed ++ [change] }

/-- The completion handler of `downloadImage(at:completion:)` with an image. -/
def imageLoaded (state : State Url Image) (change : DocumentChange String) (image : Image) :
    State Url Image :=
  match completed? bucket change.document image with
  | none => state.trap
  | some message => state.insert change message

/-- `handleDocumentChange`. The type of the change plays no part in it. -/
def handleDocumentChange (state : State Url Image) (change : DocumentChange String) :
    State Url Image × List (Task Url) :=
  match demand? bucket change.document with
  | none => (state.trap, [])
  | some (.downloadImage url) => (state, [.downloadImage url change])
  | some (.insertNewMessage message) => (state.insert change message, [])

/-- `documentChanges.forEach`; nothing happens after a trap. -/
def forEach : State Url Image → List (DocumentChange String) → State Url Image × List (Task Url)
  | state, [] => (state, [])
  | state, change :: rest =>
      let result := handleDocumentChange bucket state change
      if result.1.trapped then result
      else
        let later := forEach result.1 rest
        (later.1, result.2 ++ later.2)

/-- The changes of a snapshot before the first one at which the process ends. -/
def survived (documentChanges : List (DocumentChange String)) : List (DocumentChange String) :=
  documentChanges.takeWhile fun change => (demand? bucket change.document).isSome

/-- The callback of a listener with the changes of a snapshot. -/
def snapshotReceived (state : State Url Image) (limit : Nat) (view : Collection String)
    (documentChanges : List (DocumentChange String)) : State Url Image × List (Task Url) :=
  let result := forEach bucket state documentChanges
  (result.1.deliver (survived bucket documentChanges),
    .listener limit (appliedAll (survived bucket documentChanges) view) :: result.2)

/-- Run the callback of one answer. -/
def resume (state : State Url Image) :
    Task Url → Answer → Option (State Url Image × List (Task Url))
  | .listener limit view, .failed => some (state, [.listener limit view])
  | .listener limit view, .snapshot changes =>
      (documentChanges? state.thread view changes).map fun documentChanges =>
        snapshotReceived bucket state limit view documentChanges
  | .downloadImage _ change, .failed => some (state.fail change, [])
  | .downloadImage url change, .data =>
      match bucket.image? url with
      | none => some (state.fail change, [])
      | some image =>
          let next := imageLoaded bucket state change image
          some (if next.trapped then next else next.succeed change, [])
  | _, _ => none

/-- Run the handler of one event. -/
def handle (state : State Url Image) : Event → State Url Image × List (Task Url)
  | .viewDidLoad => fetchmessages channel state
  | .refresh => refresh channel state
  | .write documentID data => ({ state with thread := state.thread.set documentID data }, [])
  | .delete documentID => ({ state with thread := state.thread.erase documentID }, [])

/-- The controller of a channel as a program; after a trap nothing happens. -/
def program : Program (State Url Image) Event (Task Url) Answer where
  handle state event := if state.trapped then none else some (handle channel state event)
  resume state task answer := if state.trapped then none else resume bucket state task answer

/-- The request is a download. -/
def Task.isDownload : Task Url → Bool
  | .listener _ _ => false
  | .downloadImage _ _ => true

/-- No download is pending. -/
def Quiet (config : Config (State Url Image) (Task Url)) : Prop :=
  ∀ task ∈ config.pool.tasks, task.isDownload = false

instance (config : Config (State Url Image) (Task Url)) : Decidable (Quiet config) :=
  inferInstanceAs (Decidable (∀ task ∈ _, _))

end Program

/-- The channel of a family. -/
def familyChannel : Channel := ⟨some "abc", "Family"⟩

end Familog.Chat
