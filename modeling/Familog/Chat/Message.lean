import Familog.Firestore.Changes
import Familog.Swift.SortedArray

/-!
Contract: the messages of a chat and their documents.

Owns `Message` with the two initialisers that read a document of a thread, the
dictionary that is stored for a message, `==` by id and `<` by date, and the
first half of `handleDocumentChange`: what a document asks for when it is
delivered. A failed cast or unwrap is `none`.

Does not own layout, and takes URLs and the storage bucket as given.
-/

set_option autoImplicit false

namespace Familog.Chat

open Firestore

/-- URLs and the stored images. `url?` is `URL.init(string:)` on the texts that
name an object of the bucket; at any other text `trueurl!` or
`reference(forURL:)` traps. `image?` is what `UIImage(data:)` makes of the
object. -/
structure Bucket (Url Image : Type) where
  url? : String → Option Url
  absoluteString : Url → String
  url?_absoluteString : ∀ url, url? (absoluteString url) = some url
  image? : Url → Option Image

/-- `Sender`. -/
structure Sender where
  id : String
  displayName : String
deriving DecidableEq

/-- `ChatUser`. -/
structure ChatUser where
  senderId : String
  displayName : String
deriving DecidableEq

/-- `MessageKind`; a photo is an `ImageMediaItem` around its image. -/
inductive MessageKind (Image : Type) where
  | text (content : String)
  | photo (image : Image)
deriving DecidableEq

/-- `Message`. Dates count microseconds. -/
structure Message (Url Image : Type) where
  sender : Sender
  user : ChatUser
  kind : MessageKind Image
  id : Option String
  content : String
  sentDate : Int
  image : Option Image
  downloadURL : Option Url
deriving DecidableEq

section Messages

variable {Url Image : Type} (bucket : Bucket Url Image)

/-- `init?(id:urlString:image:senderID:sentDate:senderName:)`. -/
def Message.ofPhoto (id urlString : String) (image : Image) (senderID : String) (sentDate : Int)
    (senderName : String) : Option (Message Url Image) :=
  (bucket.url? urlString).map fun url =>
    { sender := ⟨senderID, senderName⟩
      user := ⟨senderID, senderName⟩
      kind := .photo image
      id := some id
      content := ""
      sentDate := sentDate
      image := none
      downloadURL := some url }

/-- `init?(id:content:senderID:sentDate:senderName:)`, which never fails. -/
def Message.ofText (id content senderID : String) (sentDate : Int) (senderName : String) :
    Message Url Image where
  sender := ⟨senderID, senderName⟩
  user := ⟨senderID, senderName⟩
  kind := .text content
  id := some id
  content := content
  sentDate := sentDate
  image := none
  downloadURL := none

/-- `Message.representation`. -/
def Message.representation (message : Message Url Image) : Fields :=
  Fields.merge
    (Fields.ofList [
      ("created", .timestamp message.sentDate),
      ("senderID", .string message.sender.id),
      ("senderName", .string message.sender.displayName)])
    [match message.downloadURL with
      | some url => ("url", .string (bucket.absoluteString url))
      | none => ("content", .string message.content)]

/-- `insertNewMessage` on the array: `contains` compares ids, `sort` dates. -/
def insertNewMessage (messages : List (Message Url Image)) (message : Message Url Image) :
    List (Message Url Image) :=
  Swift.insertNew Message.id Message.sentDate messages message

end Messages

/-! ## Reading a document -/

section Reading

variable {Url Image : Type} (bucket : Bucket Url Image)

/-- What the document of a change asks for: a download, or a message at once. -/
inductive Demand (Url Image : Type) where
  | downloadImage (url : Url)
  | insertNewMessage (message : Message Url Image)

/-- The message of a document without `url`. -/
def textMessage? (document : Document String) : Option (Message Url Image) := do
  let sentDate ← document.data.timestamp? "created"
  let content ← document.data.string? "content"
  let senderID ← document.data.string? "senderID"
  let senderName ← document.data.string? "senderName"
  some (Message.ofText document.documentID content senderID sentDate senderName)

/-- The message of a document with `url`, once its image is there. -/
def photoMessage? (document : Document String) (image : Image) :
    Option (Message Url Image) := do
  let sentDate ← document.data.timestamp? "created"
  let urlString ← document.data.string? "url"
  let senderID ← document.data.string? "senderID"
  let senderName ← document.data.string? "senderName"
  let message ← Message.ofPhoto bucket document.documentID urlString image senderID sentDate
    senderName
  some { message with image := some image }

/-- `handleDocumentChange` up to the download or the insertion. -/
def demand? (document : Document String) : Option (Demand Url Image) := do
  let _ ← document.data.timestamp? "created"
  if (document.data "url").isSome then
    let url ← document.data.string? "url"
    let trueurl ← bucket.url? url
    some (.downloadImage trueurl)
  else
    let message ← textMessage? document
    match message.downloadURL with
    | some url => some (.downloadImage url)
    | none => some (.insertNewMessage message)

/-- What the completion handler of the download inserts for an image. Its
`else return` is never taken: the URL was read when the download began. -/
def completed? (document : Document String) (image : Image) : Option (Message Url Image) :=
  if (document.data "url").isSome then photoMessage? bucket document image
  else (textMessage? document).map fun message => { message with image := some image }

/-- The message a document stands for, its photo being what the bucket holds. -/
def message? (document : Document String) : Option (Message Url Image) :=
  (demand? bucket document).bind fun demand =>
    match demand with
    | .downloadImage url => (bucket.image? url).bind (completed? bucket document)
    | .insertNewMessage message => some message

/-- The message that the document with the id stands for. -/
def current? (thread : Collection String) (documentID : String) :
    Option (Message Url Image) :=
  (thread.get? documentID).bind fun data => message? bucket ⟨documentID, data⟩

variable {bucket} {document : Document String} {message : Message Url Image} {image : Image}

/-- A message read from a document has its id and its date. -/
structure Message.IsOf (message : Message Url Image) (document : Document String) : Prop where
  id : message.id = some document.documentID
  date : document.data.timestamp? "created" = some message.sentDate

theorem isOf_textMessage (read : textMessage? document = some message) :
    message.IsOf document := by
  simp only [textMessage?, Option.bind_eq_bind, Option.bind_eq_some_iff, Option.some.injEq] at read
  obtain ⟨sentDate, dated, content, _, senderID, _, senderName, _, rfl⟩ := read
  exact ⟨rfl, dated⟩

theorem isOf_photoMessage (read : photoMessage? bucket document image = some message) :
    message.IsOf document := by
  simp only [photoMessage?, Message.ofPhoto, Option.bind_eq_bind, Option.bind_eq_some_iff,
    Option.map_eq_some_iff, Option.some.injEq] at read
  obtain ⟨sentDate, dated, _, _, _, _, _, _, _, ⟨url, _, rfl⟩, rfl⟩ := read
  exact ⟨rfl, dated⟩

theorem isOf_completed (read : completed? bucket document image = some message) :
    message.IsOf document := by
  unfold completed? at read
  split at read
  · exact isOf_photoMessage read
  · obtain ⟨text, textRead, rfl⟩ := Option.map_eq_some_iff.mp read
    have isOf := isOf_textMessage textRead
    exact ⟨isOf.id, isOf.date⟩

/-- A message that goes in at once is the document's text message. -/
theorem textMessage_of_demand
    (demand : demand? bucket document = some (.insertNewMessage message)) :
    textMessage? document = some message := by
  simp only [demand?, Option.bind_eq_bind, Option.bind_eq_some_iff] at demand
  obtain ⟨_, _, demand⟩ := demand
  split at demand
  · simp [Option.bind_eq_some_iff] at demand
  · obtain ⟨text, read, demand⟩ := Option.bind_eq_some_iff.mp demand
    cases url : text.downloadURL with
    | some url => simp [url] at demand
    | none =>
        simp only [url, Option.some.injEq, Demand.insertNewMessage.injEq] at demand
        rw [← demand]
        exact read

theorem message?_of_demand (demand : demand? bucket document = some (.insertNewMessage message)) :
    message? bucket document = some message := by
  simp [message?, demand]

theorem message?_of_completed {url : Url}
    (demand : demand? bucket document = some (.downloadImage url))
    (stored : bucket.image? url = some image)
    (read : completed? bucket document image = some message) :
    message? bucket document = some message := by
  simp [message?, demand, stored, read]

theorem isOf_message (read : message? bucket document = some message) :
    message.IsOf document := by
  obtain ⟨demand, asked, rest⟩ := Option.bind_eq_some_iff.mp read
  cases demand with
  | downloadImage url =>
      obtain ⟨image, _, done⟩ := Option.bind_eq_some_iff.mp rest
      exact isOf_completed done
  | insertNewMessage text =>
      rw [← Option.some.inj rest]
      exact isOf_textMessage (textMessage_of_demand asked)

end Reading

/-! ## Documents the app writes -/

section Written

variable {Url Image : Type} (bucket : Bucket Url Image)

/-- The document of a message: a date, a sender, and a URL or a text. -/
structure IsMessage (data : Fields) : Prop where
  created : (data.timestamp? "created").isSome
  senderID : (data.string? "senderID").isSome
  senderName : (data.string? "senderName").isSome
  body : if (data "url").isSome then ((data.string? "url").bind bucket.url?).isSome
    else (data.string? "content").isSome

instance (data : Fields) : Decidable (IsMessage bucket data) :=
  decidable_of_iff ((data.timestamp? "created").isSome ∧ (data.string? "senderID").isSome ∧
      (data.string? "senderName").isSome ∧
      if (data "url").isSome then ((data.string? "url").bind bucket.url?).isSome = true
      else (data.string? "content").isSome = true)
    ⟨fun parts => ⟨parts.1, parts.2.1, parts.2.2.1, parts.2.2.2⟩,
      fun isMessage =>
        ⟨isMessage.created, isMessage.senderID, isMessage.senderName, isMessage.body⟩⟩

/-- Every dictionary the app stores is the document of a message. -/
theorem isMessage_representation (message : Message Url Image) :
    IsMessage bucket (message.representation bucket) := by
  have url : ∀ downloadURL : Option Url, message.downloadURL = downloadURL →
      IsMessage bucket (message.representation bucket) := by
    intro downloadURL isUrl
    cases downloadURL with
    | none =>
        unfold Message.representation
        rw [isUrl]
        exact ⟨rfl, rfl, rfl, rfl⟩
    | some url =>
        unfold Message.representation
        rw [isUrl]
        refine ⟨rfl, rfl, rfl, ?_⟩
        show (bucket.url? (bucket.absoluteString url)).isSome
        rw [bucket.url?_absoluteString]
        rfl
  exact url _ rfl

variable {bucket} {document : Document String}

/-- The document of a message passes every cast until its download. -/
theorem demand?_ne_none (isMessage : IsMessage bucket document.data) :
    demand? bucket document ≠ none := by
  obtain ⟨sentDate, created⟩ := Option.isSome_iff_exists.mp isMessage.created
  obtain ⟨senderID, sender⟩ := Option.isSome_iff_exists.mp isMessage.senderID
  obtain ⟨senderName, name⟩ := Option.isSome_iff_exists.mp isMessage.senderName
  have body := isMessage.body
  unfold demand?
  split_ifs at body ⊢ with photo
  · obtain ⟨url, isUrl⟩ := Option.isSome_iff_exists.mp body
    obtain ⟨text, hasText, parsed⟩ := Option.bind_eq_some_iff.mp isUrl
    simp [created, hasText, parsed]
  · obtain ⟨content, hasContent⟩ := Option.isSome_iff_exists.mp body
    simp [created, textMessage?, hasContent, sender, name, Message.ofText]

/-- The document of a message passes every cast after its download. -/
theorem completed?_ne_none (isMessage : IsMessage bucket document.data) (image : Image) :
    completed? bucket document image ≠ none := by
  obtain ⟨sentDate, created⟩ := Option.isSome_iff_exists.mp isMessage.created
  obtain ⟨senderID, sender⟩ := Option.isSome_iff_exists.mp isMessage.senderID
  obtain ⟨senderName, name⟩ := Option.isSome_iff_exists.mp isMessage.senderName
  have body := isMessage.body
  unfold completed?
  split_ifs at body ⊢ with photo
  · obtain ⟨url, isUrl⟩ := Option.isSome_iff_exists.mp body
    obtain ⟨text, hasText, parsed⟩ := Option.bind_eq_some_iff.mp isUrl
    simp [photoMessage?, Message.ofPhoto, created, hasText, sender, name, parsed]
  · obtain ⟨content, hasContent⟩ := Option.isSome_iff_exists.mp body
    simp [textMessage?, created, hasContent, sender, name]

end Written

/-! ## Sample documents -/

/-- A bucket that holds every object. -/
def fullBucket : Bucket String Unit where
  url? := some
  absoluteString := id
  url?_absoluteString := fun _ => rfl
  image? := fun _ => some ()

/-- The document of a text. -/
def textData (content : String) (sentDate : Int) : Fields :=
  (Message.ofText "" content "uidA" sentDate "userA" : Message String Unit).representation
    fullBucket

/-- The document of a photo. -/
def photoData (url : String) (sentDate : Int) : Fields :=
  Message.representation fullBucket
    { (Message.ofText "" "" "uidA" sentDate "userA" : Message String Unit) with
      downloadURL := some url }

end Familog.Chat
