import Familog.Detail.Controller

/-!
Contract: the delete button of the detail screen deletes the user's own post.

Owns the pairing that every state keeps: the user of the controller, and the user of
the row, is the empty one or the author of the post beside it. From it follows that a
row that shows the button holds the opened post, written by the user that is signed in,
and that a tap deletes this post.

Assumes that post documents are as `uploadToFirebase` writes them and that the `uid` of
a user document is its id, now and after every later write.
-/

set_option autoImplicit false

namespace Familog.Detail

open Async Firestore Swift

/-! ## What is assumed of the documents -/

/-- The data of a post document as `uploadToFirebase` writes it: its `uid` is the id of
the document, and its author is an account. -/
def WrittenPost (path : DocumentPath) (data : Fields) : Prop :=
  ∃ uid : String, ∃ userId : Uid, path.segments = [uid] ∧ data.string? "uid" = some uid ∧
    data.string? "userId" = some userId.value

/-- The data of a user document whose `uid` is its id. -/
def WrittenUser (path : DocumentPath) (data : Fields) : Prop :=
  ∃ uid : String, path.segments = [uid] ∧ data.string? "uid" = some uid

theorem writtenPost_postData {path : DocumentPath} {uid : String} (isId : path.segments = [uid])
    (draft : Draft) (userId : Uid) (familyId : String) :
    WrittenPost path (postData draft uid userId familyId) :=
  ⟨uid, userId, isId, rfl, rfl⟩

theorem writtenUser_userData {path : DocumentPath} {uid : Uid} (isId : path.segments = [uid.value])
    (email firstName : String) : WrittenUser path (userData email firstName uid) :=
  ⟨uid.value, isId, rfl⟩

/-- Every document of the collection is as assumed. -/
def AllWritten (written : DocumentPath → Fields → Prop) (documents : Collection DocumentPath) :
    Prop :=
  ∀ path data, documents.get? path = some data → written path data

/-- Clients write documents as assumed only. -/
def Event.Written : Event → Prop
  | .storePost path (some data) => WrittenPost path data
  | .storeUser path (some data) => WrittenUser path data
  | _ => True

theorem allWritten_empty (written : DocumentPath → Fields → Prop) : AllWritten written ∅ := by
  intro path data found
  simp at found

theorem allWritten_stored {written : DocumentPath → Fields → Prop}
    {documents : Collection DocumentPath} (all : AllWritten written documents)
    (path : DocumentPath) (data : Option Fields) (valid : ∀ fields ∈ data, written path fields) :
    AllWritten written (stored documents path data) := by
  intro other fields found
  cases data with
  | none => exact all other fields (Collection.get?_of_get?_erase found)
  | some data =>
      rw [stored, Collection.get?_set] at found
      split_ifs at found with same
      · obtain rfl := Option.some.inj found
        exact same ▸ valid data rfl
      · exact all other fields found

/-! ## The pairing -/

/-- The post is the opened one, with an author. -/
def Opened (postId : String) (post : Post) : Prop :=
  post.uid = some postId ∧ post.userId.isSome

/-- The user is the empty one, or the author of the opened post. -/
def Paired (postId : String) (post : Post) (user : User) : Prop :=
  user.uid = none ∨ Opened postId post ∧ user.uid = post.userId

/-- The controller and its row hold a pair, the row was rendered from the pair it holds,
and the documents are as assumed. -/
structure Inv (form : CanonicalForm) (me : Uid) (postId : String) (state : State) : Prop where
  paired : Paired postId state.post state.user
  rendered : ∀ row ∈ state.row,
    row = cell form me row.post row.user ∧ Paired postId row.post row.user
  posts : AllWritten WrittenPost state.posts
  users : AllWritten WrittenUser state.users

/-- What a pending request relies on: it is about the opened post, and the listener is
registered on its author. -/
def Need (postId : String) (path : DocumentPath) : Task → Prop
  | .observePost other => other = path
  | .userListener author post => Opened postId post ∧
      ∀ userId ∈ post.userId, author.segments = [userId]
  | .delete other => other = path

section Steps

variable {form : CanonicalForm} {me : Uid} {postId : String} {path : DocumentPath}
  {state next : State}

/-- A row that shows the button was rendered for the opened post of the user signed in. -/
theorem own_of_shown {row : Row} (rendered : row = cell form me row.post row.user)
    (paired : Paired postId row.post row.user) (shown : row.isHidden = false) :
    row.post.uid = some postId ∧ ∃ userId ∈ row.post.userId, form.Same userId me.value := by
  have sameUid : row.user.uid.map form.normalize = some (form.normalize me.value) := by
    rw [rendered] at shown
    simpa [cell] using shown
  obtain ⟨uid, isUid, same⟩ := Option.map_eq_some_iff.mp sameUid
  rcases paired with noUid | ⟨⟨isPost, _⟩, isAuthor⟩
  · simp [noUid] at isUid
  · exact ⟨isPost, uid, isAuthor.symm.trans isUid, same⟩

/-- The id of a document names it. -/
theorem document?_of_isId (isId : path.segments = [postId]) : document? postId = some path := by
  obtain ⟨nonempty, slashFree⟩ := path.wellFormed postId (by simp [isId])
  obtain ⟨key, named, segments⟩ := document?_slashFree nonempty slashFree
  rw [named, DocumentPath.ext_segments (segments.trans isId.symm)]

/-- A tap on a button that is shown deletes the opened post. -/
theorem handle_tapped (inv : Inv form me postId state) (isId : path.segments = [postId])
    {new : List Task}
    (handled : handle form me state .deletePostButtonTapped = some (next, new)) :
    next = state ∧ new = [.delete path] := by
  simp only [handle] at handled
  split at handled
  · simp at handled
  · next row isRow =>
      obtain ⟨rendered, paired⟩ := inv.rendered row isRow
      split_ifs at handled with hidden
      have own := own_of_shown rendered paired (by simpa using hidden)
      have deleted : row.deleted? = some path := by
        rw [Row.deleted?, own.1, Option.bind_some, document?_of_isId isId]
      simp only [deleted] at handled
      obtain ⟨rfl, rfl⟩ := Prod.mk.inj (Option.some.inj handled)
      exact ⟨rfl, rfl⟩

/-- What an event keeps, and the requests it issues. -/
theorem inv_handle {event : Event} {new : List Task} (inv : Inv form me postId state)
    (isId : path.segments = [postId]) (written : event.Written)
    (handled : handle form me state event = some (next, new)) :
    Inv form me postId next ∧ ∀ task ∈ new, Need postId path task := by
  cases event with
  | cellForRowAt =>
      obtain ⟨rfl, rfl⟩ := Prod.mk.inj (Option.some.inj handled)
      refine ⟨⟨inv.paired, ?_, inv.posts, inv.users⟩, by simp⟩
      intro row isRow
      obtain rfl := Option.some.inj isRow
      exact ⟨rfl, inv.paired⟩
  | deletePostButtonTapped =>
      obtain ⟨rfl, rfl⟩ := handle_tapped inv isId handled
      exact ⟨inv, by simp [Need]⟩
  | storePost other data =>
      obtain ⟨rfl, rfl⟩ := Prod.mk.inj (Option.some.inj handled)
      refine ⟨⟨inv.paired, inv.rendered, ?_, inv.users⟩, by simp⟩
      apply allWritten_stored inv.posts
      rintro fields rfl
      exact written
  | storeUser other data =>
      obtain ⟨rfl, rfl⟩ := Prod.mk.inj (Option.some.inj handled)
      refine ⟨⟨inv.paired, inv.rendered, inv.posts, ?_⟩, by simp⟩
      apply allWritten_stored inv.users
      rintro fields rfl
      exact written

/-- What an answer keeps, and the requests it issues. -/
theorem inv_resume {task : Task} {new : List Task} (inv : Inv form me postId state)
    (isId : path.segments = [postId]) (need : Need postId path task)
    (answered : Answered state task next new) :
    Inv form me postId next ∧ ∀ other ∈ new, Need postId path other := by
  cases answered with
  | silent => exact ⟨inv, by simp⟩
  | trapped => exact ⟨⟨inv.paired, inv.rendered, inv.posts, inv.users⟩, by simp⟩
  | @authorFound other data author found named =>
      refine ⟨inv, fun waiting member => ?_⟩
      obtain rfl := List.mem_singleton.mp member
      obtain ⟨uid, userId, isUid, hasUid, hasUser⟩ := inv.posts other data found
      obtain rfl : other = path := need
      obtain rfl : uid = postId := by simpa [isId] using isUid.symm
      refine ⟨⟨hasUid, ?_⟩, fun text isText => ?_⟩
      · show (data.string? "userId").isSome
        rw [hasUser]
        rfl
      · -- The author is an account, so its id is the one segment of the path.
        obtain rfl : text = userId.value := Option.some.inj (isText.symm.trans hasUser)
        obtain ⟨key, isPath, segments⟩ := userId.document?_value
        have isAuthor : document? userId.value = some author := by
          rw [← named]
          show _ = (data.string? "userId").bind document?
          rw [hasUser, Option.bind_some]
        rwa [← Option.some.inj (isPath.symm.trans isAuthor)]
  | userMissing => exact ⟨inv, by simpa using need⟩
  | @userFetched author post data user found decoded =>
      refine ⟨⟨Or.inr ⟨need.1, ?_⟩, inv.rendered, inv.posts, inv.users⟩, by simpa using need⟩
      obtain ⟨userId, isUserId⟩ := Option.isSome_iff_exists.mp need.1.2
      obtain ⟨uid, isUid, hasUid⟩ := inv.users author data found
      have sameId : uid = userId := by
        have segments := need.2 userId isUserId
        rw [isUid] at segments
        exact (List.cons.inj segments).1
      obtain ⟨dob, _, rfl⟩ := Option.map_eq_some_iff.mp decoded
      show data.string? "uid" = post.userId
      rw [hasUid, isUserId, sameId]
  | deleted =>
      refine ⟨⟨inv.paired, inv.rendered, fun other data found => ?_, inv.users⟩, by simp⟩
      exact inv.posts other data (Collection.get?_of_get?_erase found)

end Steps

/-! ## All runs -/

/-- The pairing as an outline. -/
def pairing (form : CanonicalForm) (me : Uid) {postId : String} {path : DocumentPath}
    (isId : path.segments = [postId]) :
    Outline (program form me) (onState (fun _ event => event.Written) fun _ _ _ => True) where
  inv := Inv form me postId
  need _ := Need postId path
  apart _ _ := True
  symmetric _ := trivial
  handled := by
    intro config event state new inv written handled
    simp only [program] at handled
    split_ifs at handled
    have after := inv_handle inv isId written handled
    exact .of_free (fun _ _ => trivial) after.1 after.2 fun _ waiting => waiting.2
  resumed := by
    intro config ticket answer task state new inv need _ _ resumed
    simp only [program] at resumed
    split_ifs at resumed
    have answered := resume_answered config.state task answer
    rw [Option.some.inj resumed] at answered
    have after := inv_resume inv isId need answered
    exact .of_free (fun _ _ => trivial) after.1 after.2 fun _ waiting => waiting.1

/-- The button is shown for the opened post of the user signed in only, a tap on it does
not trap, and no post but this one is deleted. -/
structure DeletesOwn (form : CanonicalForm) (me : Uid) (postId : String) (path : DocumentPath)
    (config : Config State Task) : Prop where
  own : ∀ row ∈ config.state.row, row.isHidden = false →
    row.post.uid = some postId ∧ ∃ userId ∈ row.post.userId, form.Same userId me.value
  tapped : ∀ next new, handle form me config.state .deletePostButtonTapped = some (next, new) →
    next = config.state ∧ new = [.delete path]
  deletes : ∀ other, .delete other ∈ config.pool.tasks → other = path

/-- In every run of the screen opened on any post document, in whatever order the look-up,
the snapshots of the author, the rendering of the row and the writes of other clients
happen, the button deletes the user's own, opened post and nothing else. -/
theorem deletes_own_post (form : CanonicalForm) (me : Uid) {postId : String}
    {path : DocumentPath} (isId : path.segments = [postId]) {posts users : Collection DocumentPath}
    (postsWritten : AllWritten WrittenPost posts) (usersWritten : AllWritten WrittenUser users)
    {labels : List (Label Event Answer)}
    (written : (program form me).Obeys
      (onState (fun _ event => event.Written) fun _ _ _ => True) (opened path posts users) labels) :
    (program form me).Always (DeletesOwn form me postId path) (opened path posts users) labels := by
  apply (pairing form me isId).always ?_ ?_ written
  · intro config holds
    have inv : Inv form me postId config.state := holds.inv
    refine ⟨fun row isRow shown => ?_, fun next new handled => ?_, fun other pending => ?_⟩
    · obtain ⟨rendered, paired⟩ := inv.rendered row isRow
      exact own_of_shown rendered paired shown
    · exact handle_tapped inv isId handled
    · exact holds.need _ pending
  · refine ⟨⟨Or.inl rfl, by simp [opened], postsWritten, usersWritten⟩, ?_, by simp [opened]⟩
    intro task member
    obtain rfl : task = .observePost path := by simpa [opened] using member
    exact rfl

/-! ## The own post -/

/-- The user that is signed in. -/
def owner : Uid := ⟨"uidOwner", by decide, by decide⟩

/-- The opened post. -/
def ownPath : DocumentPath := ⟨["ownPost"], by decide, by decide⟩

/-- The user document of the owner. -/
def ownerPath : DocumentPath := ⟨["uidOwner"], by decide, by decide⟩

/-- The one post, written by the owner. -/
def ownPosts : Collection DocumentPath :=
  stored ∅ ownPath
    (some (postData ⟨"A vase", "https://host/vase", 1, "vase", "0.9"⟩ "ownPost" owner "abc"))

/-- The one user. -/
def ownUsers : Collection DocumentPath :=
  stored ∅ ownerPath (some (userData "owner@host" "Owner" owner))

/-- The post and its author arrive, the row is rendered, and the button is tapped. -/
def deletion : List (Label Event Answer) :=
  [.event .cellForRowAt, .answer 0 .succeeded, .answer 1 .succeeded, .event .cellForRowAt,
    .event .deletePostButtonTapped, .answer 3 .succeeded]

/-- The button is shown for the owner, and the post is gone after the tap. -/
theorem deletes_own_post_owner :
    (∃ last, (program CanonicalForm.scalars owner).run (opened ownPath ownPosts ownUsers)
        deletion = some last ∧
      last.state.row.map Row.isHidden = some false ∧
        (last.state.posts.get? ownPath).isNone = true) ∧
      (program CanonicalForm.scalars owner).Always
        (DeletesOwn CanonicalForm.scalars owner "ownPost" ownPath)
        (opened ownPath ownPosts ownUsers) deletion := by
  refine ⟨Program.exists_run (by decide), deletes_own_post _ _ rfl ?_ ?_ ?_⟩
  · refine allWritten_stored (allWritten_empty _) _ _ ?_
    intro fields isData
    exact Option.some.inj isData ▸ writtenPost_postData rfl _ _ _
  · refine allWritten_stored (allWritten_empty _) _ _ ?_
    intro fields isData
    exact Option.some.inj isData ▸ writtenUser_userData rfl _ _
  · simp [deletion, Program.Obeys, onState, Event.Written]

end Familog.Detail
