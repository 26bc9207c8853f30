import Familog.Records

/-!
Contract: what the profile screens unwrap of a decoded user.

Owns `updateInfo`, which `ProfileViewController` and `OthersProfileViewController` run
word for word on the user they have fetched, the look-up of the family's name that
follows, and their `showLightbox`. A failed unwrap and an exception are `none`.

Does not own URLs that cannot be parsed.
-/

set_option autoImplicit false

namespace Familog.MainPage.Profile

open Firestore

/-- What `updateInfo` puts on the labels, and the id whose family name it looks up. -/
structure Info where
  profileImageUrl : Option String
  bio : Option String
  dob : String
  firstname : String
  familyIdText : Option String
  familyId : String

/-- `updateInfo`, with `firstname!` and `familyId!`. -/
def updateInfo (user : User) : Option Info := do
  let firstname ← user.firstname
  let familyId ← user.familyId
  some
    { profileImageUrl := user.profileImageUrl
      bio := user.bio
      dob := user.dob
      firstname := firstname
      familyIdText := user.familyId
      familyId := familyId }

/-- `getFamilyNameById`: the document that is read, unless `document` throws. -/
def getFamilyNameById (familyId : String) : Option DocumentPath := document? familyId

/-- What `getFamilyNameById` passes on of an existing document. -/
def familyNameText (data : Fields) : String :=
  match data "familyName" with
  | none => "nil"
  | some dataDescription => dataDescription.asString?.getD "Family"

/-- The callback of `fetchUser` on an existing document: it is decoded, `updateInfo` runs,
and the family's name is looked up. -/
def userFetched (data : Fields) : Option (Info × DocumentPath) := do
  let user ← transformUser data
  let info ← updateInfo user
  let family ← getFamilyNameById info.familyId
  some (info, family)

/-- `showLightbox`: the URL and the text of the image, if there is one; with `bio!`. -/
def showLightbox (user : User) : Option (Option (String × String)) :=
  match user.profileImageUrl with
  | none => some none
  | some avatar => user.bio.map fun bio => some (avatar, bio)

end Familog.MainPage.Profile
