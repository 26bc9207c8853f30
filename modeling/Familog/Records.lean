import Familog.Firestore.Path
import Familog.Firestore.Collection

/-!
Contract: the documents of the app and the records it reads from them.

Owns the dictionary every writer stores (`signUpTapped` for Users,
`createTapped` for Family and channels, `visionRequestDidComplete` for Post,
`sendComment` for Comment) and the decoder every reader applies (`transformUser`,
`transformFamily`, `transformPostPhoto`, `transformComment`,
`Channel.init?(document:)`), under the keys the source uses. A decoder that traps
returns `none`.

Does not own when documents are written or read.
-/

set_option autoImplicit false

namespace Familog

open Firestore

/-- The id of an account. Auth issues ids that are one path segment, so
`document(uid)` is the direct document of that name. -/
structure Uid where
  value : String
  nonempty : value ≠ ""
  slashFree : '/' ∉ value.toList
deriving DecidableEq

theorem Uid.document?_value (uid : Uid) :
    ∃ key, document? uid.value = some key ∧ key.segments = [uid.value] :=
  document?_slashFree uid.nonempty uid.slashFree

/-! ## Users -/

/-- `User`. -/
structure User where
  email : Option String
  profileImageUrl : Option String
  firstname : Option String
  uid : Option String
  dob : String
  bio : Option String
  familyId : Option String
  families : Option (List String)
deriving DecidableEq

/-- The dictionary of `signUpTapped`. -/
def userData (email firstName : String) (uid : Uid) : Fields :=
  Fields.ofList [
    ("email", .string email),
    ("profileImageUrl",
      .string "gs://monologue-10303.appspot.com/DefulatData/Head_Icon.png"),
    ("firstname", .string firstName),
    ("uid", .string uid.value),
    ("dob", .string "Unknow"),
    ("bio", .string "Write you first personalized signature"),
    ("postNumber", .int 0),
    ("familyId", .string ""),
    ("families", .strings [])]

/-- `User.transformUser`; `dob` is force-cast. -/
def transformUser (dict : Fields) : Option User :=
  (dict.string? "dob").map fun dob =>
    { email := dict.string? "email"
      profileImageUrl := dict.string? "profileImageUrl"
      firstname := dict.string? "firstname"
      uid := dict.string? "uid"
      dob := dob
      bio := dict.string? "bio"
      familyId := dict.string? "familyId"
      families := dict.strings? "families" }

/-! ## Families and their channels -/

/-- `Family`. -/
structure Family where
  familyName : Option String
  uid : Option String
deriving DecidableEq

/-- The dictionary of `createTapped`. -/
def familyData (familyName familyId : String) : Fields :=
  Fields.ofList [
    ("profileImageUrl", .string ""),
    ("familyName", .string familyName),
    ("uid", .string familyId),
    ("introduce", .string ""),
    ("userNumber", .int 1)]

/-- `Family.transformFamily`. -/
def transformFamily (dict : Fields) : Family where
  familyName := dict.string? "familyName"
  uid := dict.string? "uid"

/-- `Channel`. -/
structure Channel where
  id : Option String
  name : String
deriving DecidableEq

/-- `Channel.representation`. -/
def Channel.representation (channel : Channel) : Fields :=
  match channel.id with
  | some id => Fields.ofList [("name", .string channel.name), ("id", .string id)]
  | none => Fields.ofList [("name", .string channel.name)]

/-- `Channel.init?(document:)`. -/
def Channel.ofDocument? (data : Fields) : Option Channel := do
  let name ← data.string? "name"
  let id ← data.string? "id"
  some ⟨some id, name⟩

/-! ## Posts -/

/-- `Post`. -/
structure Post where
  discription : Option String
  url : Option String
  uid : Option String
  userId : Option String
  familyId : Option String
  timestamp : Option Int
  predictItem : Option String
  predictAcc : Option String
deriving DecidableEq

/-- What `visionRequestDidComplete` has at hand besides the two ids. -/
structure Draft where
  description : String
  url : String
  timestamp : Int
  topLabel : String
  confidence : String

/-- The dictionary of `visionRequestDidComplete`. -/
def postData (draft : Draft) (uid : String) (userId : Uid) (familyId : String) : Fields :=
  Fields.ofList [
    ("description", .string draft.description),
    ("url", .string draft.url),
    ("uid", .string uid),
    ("userId", .string userId.value),
    ("familyId", .string familyId),
    ("timestamp", .int draft.timestamp),
    ("comment", .array []),
    ("predictType", .string draft.topLabel),
    ("predictAcc", .string draft.confidence)]

/-- `Post.transformPostPhoto`; it leaves `familyId` at nil. -/
def transformPostPhoto (dict : Fields) : Post where
  discription := dict.string? "description"
  url := dict.string? "url"
  uid := dict.string? "uid"
  userId := dict.string? "userId"
  familyId := none
  timestamp := dict.int? "timestamp"
  predictItem := dict.string? "predictType"
  predictAcc := dict.string? "predictAcc"

/-! ## Comments -/

/-- `Comment`. -/
structure Comment where
  commentText : Option String
  uid : Option String
  timestamp : Option Int
deriving DecidableEq

/-- The dictionary of `sendComment`. -/
def commentData (text : String) (timestamp : Int) (uid : Uid) (postId : String) : Fields :=
  Fields.ofList [
    ("commentText", .string text),
    ("timestamp", .int timestamp),
    ("uid", .string uid.value),
    ("postId", .string postId)]

/-- `Comment.transformComment`. -/
def transformComment (dict : Fields) : Comment where
  commentText := dict.string? "commentText"
  uid := dict.string? "uid"
  timestamp := dict.int? "timestamp"

/-! ## What the stored dictionaries hold -/

section Dictionaries

variable (email firstName familyName familyId : String) (uid : Uid)

@[simp] theorem userData_families : (userData email firstName uid).strings? "families" = some [] :=
  rfl

@[simp] theorem userData_familyId : (userData email firstName uid).string? "familyId" = some "" :=
  rfl

@[simp] theorem familyData_uid :
    (familyData familyName familyId).string? "uid" = some familyId :=
  rfl

@[simp] theorem representation_id (channel : Channel) :
    channel.representation.string? "id" = channel.id := by
  cases channel with
  | mk id name => cases id <;> rfl

@[simp] theorem postData_familyId (draft : Draft) (post : String) :
    (postData draft post uid familyId).string? "familyId" = some familyId :=
  rfl

@[simp] theorem postData_userId (draft : Draft) (post : String) :
    (postData draft post uid familyId).string? "userId" = some uid.value :=
  rfl

end Dictionaries

end Familog
