import Familog.Records

/-!
Contract: what the readers make of the documents the writers store.

Owns the five writers as one type of documents with their content, the record
each document is meant as, and the decoder that goes with it. Every decoder
succeeds on what its writer stored, and gives back every field of the record but
one: `transformPostPhoto` does not read `familyId`.

Does not own documents that no writer of the app has stored.
-/

set_option autoImplicit false

namespace Familog

open Firestore

/-- A document as `visionRequestDidComplete`, `signUpTapped`, `sendComment` or
`createTapped` stores it, with its content. -/
inductive Written where
  | post (draft : Draft) (uid : String) (userId : Uid) (familyId : String)
  | user (email firstName : String) (uid : Uid)
  | comment (text : String) (timestamp : Int) (uid : Uid) (postId : String)
  | family (familyName familyId : String)
  | channel (familyName familyId : String)

/-- A value of one of the model types. -/
inductive Record where
  | post (post : Post)
  | user (user : User)
  | comment (comment : Comment)
  | family (family : Family)
  | channel (channel : Channel)

namespace Written

/-- The stored dictionary. -/
def data : Written → Fields
  | .post draft uid userId familyId => postData draft uid userId familyId
  | .user email firstName uid => userData email firstName uid
  | .comment text timestamp uid postId => commentData text timestamp uid postId
  | .family familyName familyId => familyData familyName familyId
  | .channel familyName familyId => (Channel.mk (some familyId) familyName).representation

/-- The matching decoder on a dictionary. -/
def decode : Written → Fields → Option Record
  | .post _ _ _ _, dict => some (.post (transformPostPhoto dict))
  | .user _ _ _, dict => (transformUser dict).map .user
  | .comment _ _ _ _, dict => some (.comment (transformComment dict))
  | .family _ _, dict => some (.family (transformFamily dict))
  | .channel _ _, dict => (Channel.ofDocument? dict).map .channel

/-- The value in which every field is the stored one. -/
def record : Written → Record
  | .post draft uid userId familyId => .post
      { discription := some draft.description
        url := some draft.url
        uid := some uid
        userId := some userId.value
        familyId := some familyId
        timestamp := some draft.timestamp
        predictItem := some draft.topLabel
        predictAcc := some draft.confidence }
  | .user email firstName uid => .user
      { email := some email
        profileImageUrl := some "gs://monologue-10303.appspot.com/DefulatData/Head_Icon.png"
        firstname := some firstName
        uid := some uid.value
        dob := "Unknow"
        bio := some "Write you first personalized signature"
        familyId := some ""
        families := some [] }
  | .comment text timestamp uid _ => .comment
      { commentText := some text
        uid := some uid.value
        timestamp := some timestamp }
  | .family familyName familyId => .family
      { familyName := some familyName
        uid := some familyId }
  | .channel familyName familyId => .channel
      { id := some familyId
        name := familyName }

/-- The document is a post. -/
def IsPost : Written → Prop
  | .post _ _ _ _ => True
  | _ => False

/-- The value without the field that the decoder of posts leaves out. -/
def readable : Record → Record
  | .post stored => .post { stored with familyId := none }
  | other => other

/-! ## Writer by writer -/

section Writers

variable (draft : Draft) (email firstName text uid postId familyName familyId : String)
  (userId : Uid) (timestamp : Int)

theorem transformPostPhoto_postData :
    transformPostPhoto (postData draft uid userId familyId) =
      { discription := some draft.description
        url := some draft.url
        uid := some uid
        userId := some userId.value
        familyId := none
        timestamp := some draft.timestamp
        predictItem := some draft.topLabel
        predictAcc := some draft.confidence } :=
  rfl

theorem transformUser_userData :
    (transformUser (userData email firstName userId)).map Record.user =
      some (Written.user email firstName userId).record :=
  rfl

theorem transformComment_commentData :
    Record.comment (transformComment (commentData text timestamp userId postId)) =
      (Written.comment text timestamp userId postId).record :=
  rfl

theorem transformFamily_familyData :
    Record.family (transformFamily (familyData familyName familyId)) =
      (Written.family familyName familyId).record :=
  rfl

theorem ofDocument?_representation :
    Channel.ofDocument? (Channel.mk (some familyId) familyName).representation =
      some ⟨some familyId, familyName⟩ :=
  rfl

end Writers

/-- Every decoder succeeds on what its writer stored. A post comes back without its
family, everything else comes back as it was stored. -/
theorem decode_data (written : Written) :
    written.decode written.data = some (readable written.record) := by
  cases written with
  | post draft uid userId familyId =>
      simp only [decode, data, transformPostPhoto_postData]
      rfl
  | user email firstName uid => exact transformUser_userData email firstName uid
  | comment text timestamp uid postId =>
      exact congrArg some (transformComment_commentData text postId uid timestamp)
  | family familyName familyId =>
      exact congrArg some (transformFamily_familyData familyName familyId)
  | channel familyName familyId =>
      simp only [decode, data, ofDocument?_representation]
      rfl

/-- A record comes back in full exactly if it is no post. -/
theorem readable_record_iff (written : Written) :
    readable written.record = written.record ↔ ¬ written.IsPost := by
  cases written with
  | post draft uid userId familyId => simp [readable, record, IsPost]
  | _ => simp [readable, record, IsPost]

/-- A stored document always decodes, and decodes to what was written exactly if it is
no post. -/
theorem decodes_iff (written : Written) :
    written.decode written.data = some (readable written.record) ∧
      (written.decode written.data = some written.record ↔ ¬ written.IsPost) := by
  refine ⟨decode_data written, ?_⟩
  rw [decode_data, Option.some.injEq, readable_record_iff]

/-- The post of a family has no family once it has been read. -/
theorem post_loses_family :
    ∃ uid : Uid,
      let written := Written.post ⟨"Vase", "https://host/a", 3, "vase", "97.00%"⟩ "p" uid "abc"
      written.decode written.data ≠ some written.record ∧
        (transformPostPhoto written.data).familyId = none ∧
        written.data.string? "familyId" = some "abc" := by
  refine ⟨⟨"uidA", by decide, by decide⟩, ?_, rfl, rfl⟩
  simp [decode_data, readable, record]

end Written

end Familog
