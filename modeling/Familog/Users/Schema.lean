import Familog.Firestore.Path
import Familog.LogInPage.AppendFamily
import Familog.MainPage.EditProfile

/-!
Contract: the schema of a user document.

Owns the fields that every user document has, each with the type its readers cast it
to, and the rule that a merge of fitting entries keeps them; every update of the app
has fitting entries.

The families of a document are document paths, too: `document(familyId)` does not
throw at any of them.
-/

set_option autoImplicit false

namespace Familog.Users

open Firestore Swift LogInPage MainPage

/-- The fields that hold a text. -/
def stringFields : List String :=
  ["email", "profileImageUrl", "firstname", "uid", "dob", "bio", "familyId"]

/-- The data has a text under each of the text fields and an array of texts under
`families`. -/
structure Schema (data : Fields) : Prop where
  strings : ∀ field ∈ stringFields, (data.string? field).isSome
  families : (data.strings? "families").isSome

/-- The value is an array of document paths. -/
def IsFamilies (value : Option Value) : Prop :=
  ∃ families, value.bind Value.asStrings? = some families ∧
    ∀ familyId ∈ families, (document? familyId).isSome

/-- The data of a user document as the writers leave it. -/
structure Document (data : Fields) : Prop where
  strings : ∀ field ∈ stringFields, (data.string? field).isSome
  families : IsFamilies (data "families")

/-- An entry that an update may write. -/
structure Fits (entry : String × Value) : Prop where
  string : entry.1 ∈ stringFields → entry.2.asString?.isSome
  families : entry.1 = "families" → IsFamilies (some entry.2)

section Documents

variable {data : Fields}

theorem Document.schema (document : Document data) : Schema data where
  strings := document.strings
  families := by
    obtain ⟨families, found, _⟩ := document.families
    exact Option.isSome_iff_exists.mpr ⟨families, found⟩

theorem isFamilies_strings {families : List String}
    (named : ∀ familyId ∈ families, (document? familyId).isSome) :
    IsFamilies (some (.strings families)) :=
  ⟨families, Value.asStrings?_strings families, named⟩

/-- What `signUpTapped` writes. -/
theorem document_userData (email firstName : String) (uid : Uid) :
    Document (userData email firstName uid) where
  strings field member := by
    simp only [stringFields, List.mem_cons, List.not_mem_nil, or_false] at member
    rcases member with rfl | rfl | rfl | rfl | rfl | rfl | rfl <;> rfl
  families := isFamilies_strings (by simp)

/-- An update with fitting entries keeps a user document one. -/
theorem Document.merge {entries : List (String × Value)} (document : Document data)
    (fits : ∀ entry ∈ entries, Fits entry) : Document (data.merge entries) where
  strings field member :=
    Fields.merge_field (fun value => (value.bind Value.asString?).isSome)
      (document.strings field member) fun entry inEntries same =>
        (fits entry inEntries).string (same ▸ member)
  families :=
    Fields.merge_field IsFamilies document.families fun entry inEntries same =>
      (fits entry inEntries).families same

/-- A text fits everywhere but under `families`. -/
theorem fits_string {field value : String} (other : field ≠ "families") :
    Fits (field, .string value) where
  string _ := rfl
  families same := absurd same other

theorem fits_families {families : List String}
    (named : ∀ familyId ∈ families, (document? familyId).isSome) :
    Fits ("families", .strings families) where
  string member := absurd member (by decide : "families" ∉ stringFields)
  families _ := isFamilies_strings named

/-! ## The updates of the app -/

/-- What `joinTapped` and `createTapped` write. -/
theorem Document.updated {familyId : String} {newFamilies : List String}
    (document : Document data) (named : ∀ other ∈ newFamilies, (document? other).isSome) :
    Document (AppendFamily.updated data familyId newFamilies) := by
  apply document.merge
  intro entry member
  rcases List.mem_pair.mp member with rfl | rfl
  · exact fits_string (by decide)
  · exact fits_families named

/-- What the profile editor and `famliyTapped` write. -/
theorem Document.set {field value : String} (document : Document data)
    (other : field ≠ "families") : Document (data.merge [(field, .string value)]) := by
  apply document.merge
  intro entry member
  rw [List.mem_singleton.mp member]
  exact fits_string other

/-- The profile editor never writes `families`. -/
theorem ne_families_of_fieldName {field : String} (written : field ∈ EditProfile.fieldNames) :
    field ≠ "families" := by
  rintro rfl
  exact absurd written (by decide)

/-! ## What the readers find -/

/-- Every field of a decoded user is there. -/
structure Decoded (user : User) : Prop where
  email : user.email.isSome
  profileImageUrl : user.profileImageUrl.isSome
  firstname : user.firstname.isSome
  uid : user.uid.isSome
  bio : user.bio.isSome
  familyId : user.familyId.isSome
  families : user.families.isSome

/-- A document of the schema is decoded, and nothing is missing. -/
theorem Schema.decoded (schema : Schema data) :
    ∃ user, transformUser data = some user ∧ Decoded user := by
  have string : ∀ field ∈ stringFields, (data.string? field).isSome := schema.strings
  obtain ⟨dob, found⟩ := Option.isSome_iff_exists.mp (string "dob" (by decide))
  refine ⟨_, by rw [transformUser, found]; rfl, ?_⟩
  exact
    { email := string "email" (by decide)
      profileImageUrl := string "profileImageUrl" (by decide)
      firstname := string "firstname" (by decide)
      uid := string "uid" (by decide)
      bio := string "bio" (by decide)
      familyId := string "familyId" (by decide)
      families := schema.families }

end Documents

end Familog.Users
