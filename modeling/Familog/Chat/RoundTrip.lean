import Familog.Chat.Controller

/-!
Contract: the messages the app sends, and what comes back of them.

Owns the two initialisers that make a message of the current user, the URL that
`sendPhoto` adds, and the round trip: the document of such a message passes every
cast and unwrap of `handleDocumentChange`, and is inserted as the message that was
sent, under the id the store has assigned. For a photo the insertion happens when
its download has delivered an image.

Does not own uploads, and takes the date at which a message is made as given.
-/

set_option autoImplicit false

namespace Familog.Chat

open Firestore

/-- `currentSender`; `none` where `uid!` or `firstname!` fails. -/
def currentSender (user : User) : Option Sender := do
  let uid ← user.uid
  let firstname ← user.firstname
  some ⟨uid, firstname⟩

section Sending

variable {Url Image : Type}

/-- `init(user:content:)`; `none` where `uid!` or `firstname!` fails. -/
def Message.ofUserText (user : User) (content : String) (now : Int) :
    Option (Message Url Image) := do
  let uid ← user.uid
  let firstname ← user.firstname
  some
    { sender := ⟨uid, firstname⟩
      user := ⟨uid, firstname⟩
      kind := .text content
      id := none
      content := content
      sentDate := now
      image := none
      downloadURL := none }

/-- `init(user:image:)`; `none` where `uid!` or `firstname!` fails. -/
def Message.ofUserPhoto (user : User) (image : Image) (now : Int) :
    Option (Message Url Image) := do
  let uid ← user.uid
  let firstname ← user.firstname
  some
    { sender := ⟨uid, firstname⟩
      user := ⟨uid, firstname⟩
      kind := .photo image
      id := none
      content := ""
      sentDate := now
      image := some image
      downloadURL := none }

/-- The completion handler of `sendPhoto` with the URL of the upload. -/
def sendPhoto (user : User) (image : Image) (now : Int) (url : Url) :
    Option (Message Url Image) := do
  let message : Message Url Image ← Message.ofUserPhoto user image now
  some { message with downloadURL := some url }

/-- A message that reaches `save`. -/
inductive Saved : Message Url Image → Prop where
  | text {user : User} {content : String} {now : Int} {message : Message Url Image} :
      Message.ofUserText user content now = some message → Saved message
  | photo {user : User} {image : Image} {now : Int} {url : Url} {message : Message Url Image} :
      sendPhoto user image now url = some message → Saved message

/-- Text stays text, and a photo stays a photo. -/
def MessageKind.Matches : MessageKind Image → MessageKind Image → Prop
  | .text sent, .text received => received = sent
  | .photo _, .photo _ => True
  | _, _ => False

/-- What is left of a message on the other side, under the id of its document. -/
structure Message.Survives (sent received : Message Url Image) (documentID : String) : Prop where
  id : received.id = some documentID
  sender : received.sender = sent.sender
  user : received.user = sent.user
  kind : sent.kind.Matches received.kind
  content : received.content = sent.content
  downloadURL : received.downloadURL = sent.downloadURL
  sentDate : received.sentDate = sent.sentDate

/-- The message as the receiving side builds it. -/
def Message.delivered (sent : Message Url Image) (documentID : String) (image : Image) :
    Message Url Image :=
  { sent with
    kind := match sent.downloadURL with
      | none => .text sent.content
      | some _ => .photo image
    id := some documentID
    image := sent.downloadURL.map fun _ => image }

variable {bucket : Bucket Url Image} {sent : Message Url Image}

/-- Sender and user of a saved message are the same person, and its URL tells its
kind. -/
theorem parts_of_saved (saved : Saved sent) :
    sent.user = ⟨sent.sender.id, sent.sender.displayName⟩ ∧
      match sent.downloadURL with
      | none => sent.kind = .text sent.content
      | some _ => (∃ image, sent.kind = .photo image) ∧ sent.content = "" := by
  cases saved with
  | text made =>
      simp only [Message.ofUserText, Option.bind_eq_bind, Option.bind_eq_some_iff,
        Option.some.injEq] at made
      obtain ⟨uid, _, firstname, _, rfl⟩ := made
      exact ⟨rfl, rfl⟩
  | photo made =>
      simp only [sendPhoto, Message.ofUserPhoto, Option.bind_eq_bind, Option.bind_eq_some_iff,
        Option.some.injEq] at made
      obtain ⟨_, ⟨uid, _, firstname, _, rfl⟩, rfl⟩ := made
      exact ⟨rfl, ⟨_, rfl⟩, rfl⟩

theorem survives_delivered (saved : Saved sent) (documentID : String) (image : Image) :
    sent.Survives (sent.delivered documentID image) documentID := by
  have parts := (parts_of_saved saved).2
  refine ⟨rfl, rfl, rfl, ?_, rfl, rfl, rfl⟩
  unfold Message.delivered
  cases url : sent.downloadURL with
  | none =>
      rw [url] at parts
      rw [parts]
      exact rfl
  | some _ =>
      rw [url] at parts
      obtain ⟨⟨photo, isPhoto⟩, _⟩ := parts
      rw [isPhoto]
      exact trivial

/-! ## The document of a message -/

section Documents

variable (bucket) (sent : Message Url Image)

@[simp] theorem representation_created :
    (sent.representation bucket).timestamp? "created" = some sent.sentDate := by
  unfold Message.representation
  cases sent.downloadURL <;> rfl

@[simp] theorem representation_senderID :
    (sent.representation bucket).string? "senderID" = some sent.sender.id := by
  unfold Message.representation
  cases sent.downloadURL <;> rfl

@[simp] theorem representation_senderName :
    (sent.representation bucket).string? "senderName" = some sent.sender.displayName := by
  unfold Message.representation
  cases sent.downloadURL <;> rfl

/-- The URL is stored if there is one. -/
theorem representation_url : (sent.representation bucket) "url" =
    sent.downloadURL.map fun url => .string (bucket.absoluteString url) := by
  unfold Message.representation
  cases sent.downloadURL <;> rfl

/-- The text is stored if there is no URL. -/
theorem representation_content (text : sent.downloadURL = none) :
    (sent.representation bucket).string? "content" = some sent.content := by
  unfold Message.representation
  rw [text]
  rfl

end Documents

/-- The document of a text is read as the text that was sent. -/
theorem textMessage_of_saved (bucket : Bucket Url Image) (saved : Saved sent)
    (text : sent.downloadURL = none) (documentID : String) (image : Image) :
    textMessage? ⟨documentID, sent.representation bucket⟩ =
      some (sent.delivered documentID image) := by
  obtain ⟨user, kind⟩ := parts_of_saved saved
  simp [textMessage?, representation_content bucket sent text, Message.ofText, Message.delivered,
    text, user]

/-- The document of a photo is read as the photo that was sent, with the image of the
download. -/
theorem photoMessage_of_saved (saved : Saved sent) {url : Url}
    (photo : sent.downloadURL = some url) (documentID : String) (image : Image) :
    photoMessage? bucket ⟨documentID, sent.representation bucket⟩ image =
      some (sent.delivered documentID image) := by
  obtain ⟨user, parts⟩ := parts_of_saved saved
  rw [photo] at parts
  have stored : (sent.representation bucket).string? "url" =
      some (bucket.absoluteString url) := by
    rw [Fields.string?, representation_url, photo]
    rfl
  simp [photoMessage?, stored, Message.ofPhoto, bucket.url?_absoluteString, Message.delivered,
    photo, user, parts.2]

/-- A message whose id is not listed yet is listed once it has been inserted. -/
theorem mem_insert_delivered (state : State Url Image) {documentID : String}
    (fresh : ∀ message ∈ state.messages, message.id ≠ some documentID)
    (change : DocumentChange String) (image : Image) :
    sent.delivered documentID image ∈
      (state.insert change (sent.delivered documentID image)).messages := by
  refine Swift.mem_insertNew.mpr (Or.inr ⟨?_, rfl⟩)
  by_contra contained
  obtain ⟨other, member, same⟩ := Swift.containsKey_iff.mp (Bool.not_eq_false _ ▸ contained)
  exact fresh other member same

/-- Every message the app saves survives the round trip. The change that delivers its
document, of whatever type and in whatever state of the chat, passes every cast and
unwrap. A text is inserted at once. A photo starts the download of its URL, and
whenever that ends with an image the casts after it pass, too, and the photo is
inserted. -/
theorem roundTrip_of_saved (bucket : Bucket Url Image) {sent : Message Url Image}
    (saved : Saved sent) (type : ChangeType) (documentID : String) (image : Image)
    (state : State Url Image) (fresh : ∀ message ∈ state.messages, message.id ≠ some documentID) :
    let change : DocumentChange String := ⟨type, documentID, sent.representation bucket⟩
    let handled := handleDocumentChange bucket state change
    ∃ received, sent.Survives received documentID ∧ handled.1.trapped = state.trapped ∧
      match sent.downloadURL with
      | none => received ∈ handled.1.messages
      | some url => handled.2 = [.downloadImage url change] ∧
          ∀ later : State Url Image,
            (∀ message ∈ later.messages, message.id ≠ some documentID) →
            (imageLoaded bucket later change image).trapped = later.trapped ∧
              received ∈ (imageLoaded bucket later change image).messages := by
  intro change handled
  refine ⟨sent.delivered documentID image, survives_delivered saved documentID image, ?_⟩
  cases url : sent.downloadURL with
  | none =>
      have read := textMessage_of_saved bucket saved url documentID image
      have noUrl : (sent.delivered documentID image).downloadURL = none := url
      have demand : demand? bucket change.document =
          some (.insertNewMessage (sent.delivered documentID image)) := by
        simp [demand?, change, representation_url, url, read, noUrl]
      have result : handled =
          (state.insert change (sent.delivered documentID image), []) := by
        simp only [handled, handleDocumentChange, demand]
      rw [result]
      exact ⟨rfl, mem_insert_delivered state fresh change image⟩
  | some url' =>
      have stored : (sent.representation bucket).string? "url" =
          some (bucket.absoluteString url') := by
        rw [Fields.string?, representation_url, url]
        rfl
      have demand : demand? bucket change.document =
          some (.downloadImage url' : Demand Url Image) := by
        simp [demand?, change, representation_url, url, stored, bucket.url?_absoluteString]
      have result : handled = (state, [.downloadImage url' change]) := by
        simp only [handled, handleDocumentChange, demand]
      have completed : completed? bucket change.document image =
          some (sent.delivered documentID image) := by
        rw [completed?, if_pos (by simp [change, representation_url, url])]
        exact photoMessage_of_saved saved url documentID image
      rw [result]
      refine ⟨rfl, rfl, fun later fresh => ?_⟩
      have loaded : imageLoaded bucket later change image =
          later.insert change (sent.delivered documentID image) := by
        simp only [imageLoaded, completed]
      rw [loaded]
      exact ⟨rfl, mem_insert_delivered later fresh change image⟩

end Sending

/-- A photo of a user, as `sendPhoto` saves it. -/
def sentPhoto : Message String Unit where
  sender := ⟨"uidA", "userA"⟩
  user := ⟨"uidA", "userA"⟩
  kind := .photo ()
  id := none
  content := ""
  sentDate := 7
  image := some ()
  downloadURL := some "https://host/photo"

theorem saved_sentPhoto : Saved sentPhoto := by
  have made : sendPhoto ⟨none, none, some "userA", some "uidA", "Unknow", none, none, none⟩ ()
      7 "https://host/photo" = some sentPhoto := rfl
  exact .photo made

/-- The photo is listed in an empty chat once it has been downloaded. -/
theorem roundTrip_of_saved_photo :
    ∃ received : Message String Unit, sentPhoto.Survives received "m1" ∧
      received ∈ (imageLoaded fullBucket (State.unopened String Unit ∅)
        ⟨.added, "m1", sentPhoto.representation fullBucket⟩ ()).messages := by
  obtain ⟨received, survives, _, _, inserted⟩ :=
    roundTrip_of_saved fullBucket saved_sentPhoto .added "m1" () (State.unopened String Unit ∅)
      (by simp [State.unopened])
  exact ⟨received, survives, (inserted (State.unopened String Unit ∅)
    (by simp [State.unopened])).2⟩

end Familog.Chat
