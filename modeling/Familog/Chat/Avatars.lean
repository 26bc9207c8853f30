import Familog.Async.Program
import Familog.Records

/-!
Contract: the avatars of `ChatViewController`.

`configureAvatarView` looks up the sender of the message that a view begins to
show. The look-up is a snapshot listener on the sender's document that is never
removed: every snapshot goes through the one image view of the controller and is
set on the view that was captured, whatever that view shows by then.

Owns this program, with `sd_setImage` leaving no image or the image of the URL,
and the exact condition under which every view shows its own sender: a photo
reaches a view only while the view shows a message of the user looked up, or of
one whose document has held the same photo.

Does not own cells, and takes the views to be recycled in any way.
-/

set_option autoImplicit false

namespace Familog.Chat.Avatars

open Async Firestore

/-- What an image view shows. -/
inductive Picture (Url : Type) where
  | initImage
  | photo (url : Url)
deriving DecidableEq

/-- `Avatar(image:initials:)`; without an image the initials are shown. -/
abbrev Avatar (Url : Type) := Option (Picture Url)

/-- A view that shows a message: its sender, and the avatar last set since. -/
structure Shown (Url : Type) where
  sender : String
  avatar : Option (Avatar Url)
deriving DecidableEq

/-- `avatarView.image` of the controller. The avatar views, the documents of Users with
their former versions, the newest first, and whether the process has trapped are
not stored by it. -/
structure State (Url : Type) where
  image : Option (Picture Url)
  views : ℕ → Option (Shown Url)
  versions : DocumentPath → List (Option Fields)
  trapped : Bool

/-- The pending listeners, each with the view it has captured. -/
inductive Task where
  | userListener (path : DocumentPath) (view : ℕ)

/-- A view begins to show a message of a sender; a client writes or deletes a
document. -/
inductive Event where
  | configureAvatarView (view : ℕ) (senderId : String)
  | write (path : DocumentPath) (data : Fields)
  | delete (path : DocumentPath)

/-- An error, or a snapshot; if it comes to `sd_setImage`, this tells whether the image
is there on return. -/
inductive Answer where
  | failed
  | snapshot (loads : Bool)

/-- A chat in which no view shows anything, over any documents. -/
def State.opened (Url : Type) (versions : DocumentPath → List (Option Fields)) : State Url where
  image := none
  views := fun _ => none
  versions := versions
  trapped := false

section Program

variable {Url : Type} (url? : String → Option Url)

/-- The document as it is now. -/
def State.current? (state : State Url) (path : DocumentPath) : Option Fields :=
  (state.versions path).head?.join

/-- A force-cast or an unwrap fails. -/
def State.trap (state : State Url) : State Url := { state with trapped := true }

/-- The document has a new version. -/
def State.store (state : State Url) (path : DocumentPath) (data : Option Fields) : State Url :=
  { state with versions := Function.update state.versions path (data :: state.versions path) }

/-- A view begins to show a message of the sender. -/
def State.show (state : State Url) (view : ℕ) (senderId : String) : State Url :=
  { state with views := Function.update state.views view (some ⟨senderId, none⟩) }

/-- `configureAvatarView` with the listener of `fetchUser`. A sender that is no document
path makes `document` throw. -/
def configureAvatarView (state : State Url) (view : ℕ) (senderId : String) :
    State Url × List Task :=
  match document? senderId with
  | none => (state.trap, [])
  | some path => (state.show view senderId, [.userListener path view])

/-- The image of `fetchUser` for a decoded user, `none` where `photoUrlString!` fails. -/
def image? (user : User) (loads : Bool) : Option (Option (Picture Url)) :=
  user.profileImageUrl.map fun photoUrlString =>
    if photoUrlString = "" then some .initImage
    else if loads then (url? photoUrlString).map .photo
    else none

/-- The image goes into the image view, and from there to the captured view. -/
def State.set (state : State Url) (view : ℕ) (image : Option (Picture Url)) : State Url :=
  { state with
    image := image
    views := Function.update state.views view
      ((state.views view).map fun shown => { shown with avatar := some image }) }

/-- Run the callback of one answer. -/
def resume (state : State Url) : Task → Answer → State Url × List Task
  | .userListener _ _, .failed => (state, [])
  | .userListener path view, .snapshot loads =>
      match state.current? path with
      | none => (state, [.userListener path view])
      | some data =>
          match (transformUser data).bind fun user => image? url? user loads with
          | none => (state.trap, [])
          | some image => (state.set view image, [.userListener path view])

/-- Run the handler of one event. -/
def handle (state : State Url) : Event → State Url × List Task
  | .configureAvatarView view senderId => configureAvatarView state view senderId
  | .write path data => (state.store path (some data), [])
  | .delete path => (state.store path none, [])

/-- The controller as a program; after a trap nothing happens. -/
def program : Program (State Url) Event Task Answer where
  handle state event := if state.trapped then none else some (handle state event)
  resume state task answer := if state.trapped then none else some (resume url? state task answer)

/-! ## Whose avatar it is -/

/-- The photo of a user document. -/
def photo? (data : Fields) : Option Url := do
  let user ← transformUser data
  let image ← image? url? user true
  match image with
  | some (.photo url) => some url
  | _ => none

/-- A version of the sender's document has the photo. -/
def Held (state : State Url) (senderId : String) (url : Url) : Prop :=
  ∃ path ∈ document? senderId, ∃ version ∈ state.versions path,
    version.bind (photo? url?) = some url

instance [DecidableEq Url] (state : State Url) (senderId : String) (url : Url) :
    Decidable (Held url? state senderId url) :=
  inferInstanceAs (Decidable (∃ path ∈ document? senderId, _))

/-- Every photo that a view shows is one of the sender of its message. -/
def Belongs (state : State Url) : Prop :=
  ∀ view shown url, state.views view = some shown → shown.avatar = some (some (.photo url)) →
    Held url? state shown.sender url

/-- A photo is delivered to a view that shows a message of the user looked up, or of one
whose document has held the photo. -/
def InPlace (state : State Url) : Task → Answer → Prop
  | .userListener path view, .snapshot true =>
      ∀ url ∈ (state.current? path).bind (photo? url?), ∀ shown ∈ state.views view,
        document? shown.sender = some path ∨ Held url? state shown.sender url
  | _, _ => True

instance [DecidableEq Url] (state : State Url) (task : Task) (answer : Answer) :
    Decidable (InPlace url? state task answer) :=
  match task, answer with
  | .userListener path _, .snapshot true =>
      inferInstanceAs (Decidable (∀ url ∈ (state.current? path).bind _, _))
  | .userListener _ _, .snapshot false => isTrue trivial
  | .userListener _ _, .failed => isTrue trivial

end Program

section Step

variable {Url : Type} {url? : String → Option Url} {state next : State Url}

/-- What a document has held it has held for ever. -/
theorem held_store {senderId : String} {url : Url} (path : DocumentPath) (data : Option Fields)
    (held : Held url? state senderId url) : Held url? (state.store path data) senderId url := by
  obtain ⟨own, named, version, member, photo⟩ := held
  refine ⟨own, named, version, ?_, photo⟩
  show version ∈ Function.update state.versions path (data :: state.versions path) own
  by_cases same : own = path
  · subst same
    rw [Function.update_self]
    exact List.mem_cons_of_mem _ member
  · rwa [Function.update_of_ne same]

/-- The photo of the document as it is now has been held. -/
theorem held_of_current {senderId : String} {url : Url} {path : DocumentPath}
    (named : document? senderId = some path)
    (photo : (state.current? path).bind (photo? url?) = some url) :
    Held url? state senderId url := by
  obtain ⟨data, current, isPhoto⟩ := Option.bind_eq_some_iff.mp photo
  refine ⟨path, named, some data, ?_, isPhoto⟩
  rw [State.current?, Option.join_eq_some_iff] at current
  exact List.mem_of_head? current

/-- Of what can happen outside, nothing puts a wrong photo on a view. -/
theorem belongs_handle (event : Event) (belongs : Belongs url? state) :
    Belongs url? (handle state event).1 := by
  cases event with
  | configureAvatarView view senderId =>
      simp only [handle, configureAvatarView]
      split
      · exact belongs
      · intro other shown url isShown avatar
        by_cases same : other = view
        · subst same
          simp only [State.show, Function.update_self, Option.some.injEq] at isShown
          simp [← isShown] at avatar
        · simp only [State.show, Function.update_of_ne same] at isShown
          exact belongs other shown url isShown avatar
  | write path data =>
      intro view shown url isShown avatar
      exact held_store path (some data) (belongs view shown url isShown avatar)
  | delete path =>
      intro view shown url isShown avatar
      exact held_store path none (belongs view shown url isShown avatar)

/-- An image set on a view belongs there exactly if it is no photo, or one of the
sender. -/
theorem belongs_set_iff {view : ℕ} {image : Option (Picture Url)} (belongs : Belongs url? state) :
    Belongs url? (state.set view image) ↔
      ∀ url shown, image = some (.photo url) → state.views view = some shown →
        Held url? state shown.sender url := by
  constructor
  · intro after url shown isPhoto isShown
    refine after view { shown with avatar := some image } url ?_ (congrArg some isPhoto)
    simp [State.set, isShown]
  · intro right other shown url isShown avatar
    by_cases same : other = view
    · subst same
      simp only [State.set, Function.update_self, Option.map_eq_some_iff] at isShown
      obtain ⟨before, wasShown, rfl⟩ := isShown
      exact right url before (Option.some.inj avatar) wasShown
    · simp only [State.set, Function.update_of_ne same] at isShown
      exact belongs other shown url isShown avatar

/-- The photo of a loading snapshot is the one of the document. -/
theorem photo?_eq_some {data : Fields} {url : Url} : photo? url? data = some url ↔
    ((transformUser data).bind fun user => image? url? user true) = some (some (.photo url)) := by
  simp only [photo?, Option.bind_eq_bind, Option.bind_eq_some_iff]
  constructor
  · rintro ⟨user, decoded, image, found, isPhoto⟩
    refine ⟨user, decoded, ?_⟩
    split at isPhoto
    · rw [found, ← Option.some.inj isPhoto]
    · simp at isPhoto
  · rintro ⟨user, decoded, found⟩
    exact ⟨user, decoded, _, found, rfl⟩

/-- Without the image a snapshot sets no photo. -/
theorem image?_ne_photo {user : User} {url : Url} :
    image? url? user false ≠ some (some (.photo url)) := by
  intro found
  obtain ⟨text, _, isPhoto⟩ := Option.map_eq_some_iff.mp found
  simp only [Bool.false_eq_true, if_false] at isPhoto
  split at isPhoto
  · simp at isPhoto
  · simp at isPhoto

/-- The photo of the document as it is now is the one of a loading snapshot of it. -/
theorem photo?_current {path : DocumentPath} {data : Fields} {url : Url}
    (current : state.current? path = some data) :
    (state.current? path).bind (photo? url?) = some url ↔
      ((transformUser data).bind fun user => image? url? user true) = some (some (.photo url)) := by
  rw [current, Option.bind_some, photo?_eq_some]

/-- A snapshot that sets no photo leaves every view with its own sender. -/
theorem belongs_unloaded (belongs : Belongs url? state) (path : DocumentPath) (view : ℕ) :
    Belongs url? (resume url? state (.userListener path view) (.snapshot false)).1 := by
  simp only [resume]
  cases state.current? path with
  | none => exact belongs
  | some data =>
      cases image : (transformUser data).bind fun user => image? url? user false with
      | none =>
          simp only [image]
          exact belongs
      | some picture =>
          simp only [image]
          refine (belongs_set_iff belongs).mpr ?_
          rintro url shown rfl
          obtain ⟨user, _, found⟩ := Option.bind_eq_some_iff.mp image
          exact absurd found image?_ne_photo

/-- A loading snapshot leaves every view with its own sender exactly if it is in place. -/
theorem belongs_loaded_iff (belongs : Belongs url? state) (path : DocumentPath) (view : ℕ) :
    Belongs url? (resume url? state (.userListener path view) (.snapshot true)).1 ↔
      InPlace url? state (.userListener path view) (.snapshot true) := by
  cases current : state.current? path with
  | none =>
      simp only [resume, current]
      refine iff_of_true belongs fun url photo => ?_
      simp [current] at photo
  | some data =>
      cases image : (transformUser data).bind fun user => image? url? user true with
      | none =>
          simp only [resume, current, image]
          refine iff_of_true belongs fun url photo => ?_
          rw [Option.mem_def, photo?_current current, image] at photo
          simp at photo
      | some picture =>
          simp only [resume, current, image]
          rw [belongs_set_iff belongs]
          have isPhoto : ∀ url, picture = some (.photo url) ↔
              (state.current? path).bind (photo? url?) = some url := by
            intro url
            rw [photo?_current current, image, Option.some.injEq]
          constructor
          · intro right url photo shown isShown
            exact Or.inr (right url shown ((isPhoto url).mpr photo) isShown)
          · intro inPlace url shown photo isShown
            have currentPhoto := (isPhoto url).mp photo
            rcases inPlace url currentPhoto shown isShown with named | held
            · exact held_of_current named currentPhoto
            · exact held

/-- An answered listener leaves every view with its own sender exactly if it is in
place. -/
theorem belongs_resume_iff (belongs : Belongs url? state) (task : Task) (answer : Answer) :
    Belongs url? (resume url? state task answer).1 ↔ InPlace url? state task answer := by
  obtain ⟨path, view⟩ := task
  match answer with
  | .failed => exact iff_of_true belongs trivial
  | .snapshot false => exact iff_of_true (belongs_unloaded belongs path view) trivial
  | .snapshot true => exact belongs_loaded_iff belongs path view

/-- In every run, whatever is recycled and whenever listeners deliver, every view shows
photos of the sender of its message only, exactly if every photo is delivered in
place. -/
theorem avatars_belong_iff (url? : String → Option Url)
    (versions : DocumentPath → List (Option Fields)) {labels : List (Label Event Answer)}
    {last : Config (State Url) Task}
    (ran : (program url?).run (Program.start (State.opened Url versions)) labels = some last) :
    (program url?).Always (fun config => Belongs url? config.state)
        (Program.start (State.opened Url versions)) labels ↔
      (program url?).Obeys (onState (fun _ _ => True) (InPlace url?))
        (Program.start (State.opened Url versions)) labels := by
  have start : Belongs url? (State.opened Url versions) := by
    intro view shown url isShown
    simp [State.opened] at isShown
  refine Program.always_iff_obeys ?_ start Program.obeys_true ran
  intro config label next belongs _ taken
  rcases Program.step_cases taken with
    ⟨event, new, rfl, handled, _⟩ | ⟨ticket, answer, task, new, rfl, found, resumed, _⟩
  · simp only [program] at handled
    split_ifs at handled
    have result : (handle config.state event).1 = next.state :=
      congrArg Prod.fst (Option.some.inj handled)
    refine iff_of_true ?_ trivial
    rw [← result]
    exact belongs_handle event belongs
  · simp only [program] at resumed
    split_ifs at resumed
    have result : (resume url? config.state task answer).1 = next.state :=
      congrArg Prod.fst (Option.some.inj resumed)
    rw [← result, belongs_resume_iff belongs]
    constructor
    · intro inPlace other isFound
      rw [← Option.some.inj (found.symm.trans isFound)]
      exact inPlace
    · exact fun inPlace => inPlace task found

end Step

/-! ## A recycled view -/

/-- The document of a user with the photo. -/
def userWith (photo : String) : Fields :=
  Fields.ofList [("dob", .string "Unknow"), ("profileImageUrl", .string photo)]

/-- The documents of two users. -/
def twoUsers (path : DocumentPath) : List (Option Fields) :=
  if path.segments = ["uidA"] then [some (userWith "https://host/a")]
  else if path.segments = ["uidB"] then [some (userWith "https://host/b")]
  else []

/-- A view that is not recycled shows the photo of its sender. -/
theorem avatars_belong_iff_unrecycled :
    (program some).Always (fun config => Belongs some config.state)
      (Program.start (State.opened String twoUsers))
      [.event (.configureAvatarView 0 "uidA"), .answer 0 (.snapshot true)] := by
  have ran : ∃ last, (program some).run (Program.start (State.opened String twoUsers))
      [.event (.configureAvatarView 0 "uidA"), .answer 0 (.snapshot true)] = some last ∧ True :=
    Program.exists_run (by decide)
  obtain ⟨last, ran, _⟩ := ran
  exact (avatars_belong_iff some twoUsers ran).mpr (by decide)

/-- A view is recycled before the look-up for its first message has been answered. -/
def recycled : List (Label Event Answer) :=
  [.event (.configureAvatarView 0 "uidA"), .event (.configureAvatarView 0 "uidB"),
    .answer 1 (.snapshot true), .answer 0 (.snapshot true)]

/-- It then shows the photo of one user beside the message of another. -/
theorem avatar_misplaced_when_recycled :
    ∃ last, (program some).run (Program.start (State.opened String twoUsers)) recycled =
        some last ∧
      last.state.views 0 = some ⟨"uidB", some (some (.photo "https://host/a"))⟩ ∧
      ¬ Belongs some last.state := by
  have computed : ∃ last, (program some).run (Program.start (State.opened String twoUsers))
      recycled = some last ∧
      (last.state.views 0 = some ⟨"uidB", some (some (.photo "https://host/a"))⟩ ∧
        ¬ Held some last.state "uidB" "https://host/a") :=
    Program.exists_run (by decide)
  obtain ⟨last, ran, shown, foreign⟩ := computed
  exact ⟨last, ran, shown, fun belongs => foreign (belongs 0 _ _ shown rfl)⟩

end Familog.Chat.Avatars
