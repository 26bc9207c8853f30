import Familog.App.Effect
import Familog.App.Saving

/-!
Contract: the screens that choose a family do not notice an edit of the profile.

Owns when two user documents are alike: they have the same fields but for the four that
the editor writes. Owns that joining, creating and switching do alike things over alike
stores, callback by callback, and that the editor keeps a store alike to what it was.

Does not own what the four fields hold.
-/

set_option autoImplicit false

namespace Familog.Users

open App Async Firestore Swift LogInPage MainPage

/-! ## Alike documents and stores -/

/-- The same fields, but for those of the profile editor. -/
def Alike (left right : Fields) : Prop :=
  ∀ field, field ∉ EditProfile.fieldNames → right field = left field

namespace Alike

variable {left right : Fields}

theorem refl (data : Fields) : Alike data data := fun _ _ => rfl

/-- The same entries written to alike documents. -/
theorem merge (alike : Alike left right) (entries : List (String × Value)) :
    Alike (left.merge entries) (right.merge entries) := by
  induction entries generalizing left right with
  | nil => exact alike
  | cons entry rest inductionHypothesis =>
      rw [Fields.merge_cons, Fields.merge_cons]
      refine inductionHypothesis fun field other => ?_
      by_cases same : field = entry.1
      · rw [same, Function.update_self, Function.update_self]
      · rw [Function.update_of_ne same, Function.update_of_ne same, alike field other]

/-- A field of the editor written on one side. -/
theorem edited (alike : Alike left right) {field : String} {value : Value}
    (own : field ∈ EditProfile.fieldNames) : Alike (left.merge [(field, value)]) right := by
  intro name other
  have different : name ≠ field := fun same => other (same ▸ own)
  rw [alike name other, Fields.merge_other fun entry member => by
    rw [List.mem_singleton.mp member]
    exact different.symm]

theorem strings? (alike : Alike left right) {field : String}
    (other : field ∉ EditProfile.fieldNames) : right.strings? field = left.strings? field := by
  rw [Fields.strings?, alike field other, Fields.strings?]

end Alike

/-- The same documents, alike one by one. -/
def AlikeUsers (left right : Collection Uid) : Prop :=
  ∀ uid, Option.Rel Alike (left.get? uid) (right.get? uid)

/-- Stores that differ in alike user documents only. -/
structure AlikeStore (left right : Store) : Prop where
  users : AlikeUsers left.users right.users
  rest : right = { left with users := right.users }

namespace AlikeUsers

variable {left right : Collection Uid} {uid : Uid}

theorem refl (users : Collection Uid) : AlikeUsers users users := by
  intro uid
  cases users.get? uid with
  | none => exact .none
  | some data => exact .some (.refl data)

theorem set (alike : AlikeUsers left right) {data other : Fields} (document : Alike data other) :
    AlikeUsers (left.set uid data) (right.set uid other) := by
  intro key
  rw [Collection.get?_set, Collection.get?_set]
  split_ifs
  · exact .some document
  · exact alike key

/-- A document that is there on one side is there on the other. -/
theorem get? (alike : AlikeUsers left right) {data : Fields} (found : left.get? uid = some data) :
    ∃ other, right.get? uid = some other ∧ Alike data other := by
  have here := alike uid
  rw [found] at here
  generalize right.get? uid = reached at here
  cases here with
  | some document => exact ⟨_, rfl, document⟩

theorem get?_none (alike : AlikeUsers left right) (missing : left.get? uid = none) :
    right.get? uid = none := by
  have here := alike uid
  rw [missing] at here
  generalize right.get? uid = reached at here
  cases here with
  | none => rfl

/-- An update takes effect on both sides. -/
theorem update? (alike : AlikeUsers left right) {entries : List (String × Value)}
    {users : Collection Uid} (written : left.update? uid entries = some users) :
    ∃ others, right.update? uid entries = some others ∧ AlikeUsers users others := by
  obtain ⟨data, found, rfl⟩ := Collection.update?_eq_some.mp written
  obtain ⟨other, there, document⟩ := alike.get? found
  exact ⟨_, Collection.update?_eq_some.mpr ⟨other, there, rfl⟩, alike.set (document.merge entries)⟩

end AlikeUsers

theorem AlikeStore.familiesOf {left right : Store} (alike : AlikeStore left right) (uid : Uid) :
    right.familiesOf uid = left.familiesOf uid := by
  rw [Store.familiesOf, Store.familiesOf]
  cases found : left.users.get? uid with
  | none => rw [alike.users.get?_none found]
  | some data =>
      obtain ⟨other, there, document⟩ := alike.users.get? found
      rw [there]
      exact document.strings? (by decide)

theorem AlikeStore.familyIDs {left right : Store} (alike : AlikeStore left right) :
    right.familyIDs = left.familyIDs := by
  rw [alike.rest]
  rfl

theorem AlikeStore.familyNamed {left right : Store} (alike : AlikeStore left right)
    (familyId : String) : right.familyNamed familyId = left.familyNamed familyId := by
  rw [alike.rest]
  rfl

/-! ## Alike callbacks -/

/-- Callbacks that leave alike stores and requests and show the same. -/
structure AlikeOutcome {Request : Type} (likeTask : Request → Request → Prop)
    (left right : Outcome Request) : Prop where
  store : AlikeStore left.store right.store
  next : List.Forall₂ likeTask left.next right.next
  notices : right.notices = left.notices

theorem AlikeOutcome.lift {Request Whole : Type} {likeTask : Request → Request → Prop}
    {likeWhole : Whole → Whole → Prop} {left right : Outcome Request} {embed : Request → Whole}
    (alike : AlikeOutcome likeTask left right)
    (embeds : ∀ task other, likeTask task other → likeWhole (embed task) (embed other)) :
    AlikeOutcome likeWhole (left.lift embed) (right.lift embed) where
  store := alike.store
  next := List.forall₂_map_left_iff.mpr (List.forall₂_map_right_iff.mpr
    (alike.next.imp embeds))
  notices := alike.notices

/-- A callback that only shows something, on both sides. -/
theorem AlikeOutcome.ends {Request : Type} {likeTask : Request → Request → Prop}
    {left right : Store} (alike : AlikeStore left right) (notices : List Notice) :
    AlikeOutcome likeTask (.ends left notices) (.ends right notices) :=
  ⟨alike, List.Forall₂.nil, rfl⟩

/-- A callback that only goes on, on both sides. -/
theorem AlikeOutcome.issues {Request : Type} {likeTask : Request → Request → Prop}
    {left right : Store} (alike : AlikeStore left right) {next others : List Request}
    (like : List.Forall₂ likeTask next others) :
    AlikeOutcome likeTask (.issues left next) (.issues right others) :=
  ⟨alike, like, rfl⟩

/-- The steps of the read-modify-write that may wait for one another's answers. -/
inductive AlikeStep : AppendFamily.Task → AppendFamily.Task → Prop where
  | getDocument : AlikeStep .getDocument .getDocument
  | received {data other} : Alike data other → AlikeStep (.received data) (.received other)
  | updateData {families newFamilies} :
      AlikeStep (.updateData families newFamilies) (.updateData families newFamilies)

section Callbacks

variable {form : CanonicalForm} {left right : Store} {uid : Uid} {answer : Answer}

/-- The shared read-modify-write. -/
theorem append_alike {texts : AppendFamily.Texts} {familyId : String}
    {step other : AppendFamily.Task} {outcome : Outcome AppendFamily.Task}
    (alike : AlikeStore left right) (steps : AlikeStep step other)
    (resumed : AppendFamily.resume form texts left uid familyId step answer = some outcome) :
    ∃ outcome', AppendFamily.resume form texts right uid familyId other answer = some outcome' ∧
      AlikeOutcome AlikeStep outcome outcome' := by
  cases AppendFamily.resume_eq_some.mp resumed with
  | unread =>
      cases steps
      exact ⟨_, AppendFamily.resume_eq_some.mpr .unread, .ends alike _⟩
  | missing absent =>
      cases steps
      exact ⟨_, AppendFamily.resume_eq_some.mpr (.missing (alike.users.get?_none absent)),
        .ends alike _⟩
  | read found =>
      cases steps
      obtain ⟨data', there, document⟩ := alike.users.get? found
      exact ⟨_, AppendFamily.resume_eq_some.mpr (.read there),
        .issues alike (.cons (.received document) .nil)⟩
  | trapped unreadable =>
      cases steps with
      | received document =>
          rw [← document.strings? (by decide)] at unreadable
          exact ⟨_, AppendFamily.resume_eq_some.mpr (.trapped unreadable), .ends alike _⟩
  | arrayMade found array =>
      cases steps with
      | received document =>
          rw [← document.strings? (by decide)] at found
          exact ⟨_, AppendFamily.resume_eq_some.mpr (.arrayMade found array),
            .issues alike (.cons .updateData .nil)⟩
  | unwritten =>
      cases steps
      exact ⟨_, AppendFamily.resume_eq_some.mpr .unwritten, .ends alike _⟩
  | written found =>
      cases steps
      obtain ⟨data', there, document⟩ := alike.users.get? found
      refine ⟨_, AppendFamily.resume_eq_some.mpr (.written there),
        ⟨alike.users.set (document.merge _), ?_⟩, List.Forall₂.nil, rfl⟩
      rw [alike.rest]
      rfl

/-- The requests of a join, and of a creation. -/
inductive AlikeJoin : JoinFamily.Task → JoinFamily.Task → Prop where
  | getDocuments {familyId} : AlikeJoin (.getDocuments familyId) (.getDocuments familyId)
  | append {familyId step other} : AlikeStep step other →
      AlikeJoin (.append familyId step) (.append familyId other)

inductive AlikeCreate : CreateFamily.Task → CreateFamily.Task → Prop where
  | setData {familyName familyId} :
      AlikeCreate (.setData familyName familyId) (.setData familyName familyId)
  | addDocument {familyName familyId} :
      AlikeCreate (.addDocument familyName familyId) (.addDocument familyName familyId)
  | append {familyId step other} : AlikeStep step other →
      AlikeCreate (.append familyId step) (.append familyId other)

theorem join_alike {task other : JoinFamily.Task} {outcome : Outcome JoinFamily.Task}
    (alike : AlikeStore left right) (tasks : AlikeJoin task other)
    (resumed : JoinFamily.resume form left uid task answer = some outcome) :
    ∃ outcome', JoinFamily.resume form right uid other answer = some outcome' ∧
      AlikeOutcome AlikeJoin outcome outcome' := by
  cases JoinFamily.resume_eq_some.mp resumed with
  | unread =>
      cases tasks
      exact ⟨_, JoinFamily.resume_eq_some.mpr .unread, .ends alike _⟩
  | listed inList =>
      cases tasks
      rw [← alike.familyIDs] at inList
      exact ⟨_, JoinFamily.resume_eq_some.mpr (.listed inList),
        .issues alike (.cons (.append .getDocument) .nil)⟩
  | unlisted absent =>
      cases tasks
      rw [← alike.familyIDs] at absent
      exact ⟨_, JoinFamily.resume_eq_some.mpr (.unlisted absent), .ends alike _⟩
  | appended ran =>
      cases tasks with
      | append steps =>
          obtain ⟨result', ranThere, outcomes⟩ := append_alike alike steps ran
          exact ⟨_, JoinFamily.resume_eq_some.mpr (.appended ranThere),
            outcomes.lift fun _ _ like => .append like⟩

theorem create_alike {task other : CreateFamily.Task} {outcome : Outcome CreateFamily.Task}
    (alike : AlikeStore left right) (tasks : AlikeCreate task other)
    (resumed : CreateFamily.resume form left uid task answer = some outcome) :
    ∃ outcome', CreateFamily.resume form right uid other answer = some outcome' ∧
      AlikeOutcome AlikeCreate outcome outcome' := by
  cases CreateFamily.resume_eq_some.mp resumed with
  | unsaved =>
      cases tasks
      exact ⟨_, CreateFamily.resume_eq_some.mpr .unsaved, .ends alike _⟩
  | saved named =>
      cases tasks
      refine ⟨_, CreateFamily.resume_eq_some.mpr (.saved named), ⟨alike.users, ?_⟩,
        List.Forall₂.cons .addDocument (.cons (.append .getDocument) .nil), rfl⟩
      rw [alike.rest]
      rfl
  | channelUnsaved =>
      cases tasks
      exact ⟨_, CreateFamily.resume_eq_some.mpr .channelUnsaved, .ends alike _⟩
  | channelAdded free =>
      cases tasks
      have channels : right.channels = left.channels := by rw [alike.rest]
      rw [← channels] at free
      refine ⟨_, CreateFamily.resume_eq_some.mpr (.channelAdded free), ⟨alike.users, ?_⟩,
        List.Forall₂.nil, rfl⟩
      rw [alike.rest]
      rfl
  | appended ran =>
      cases tasks with
      | append steps =>
          obtain ⟨result', ranThere, outcomes⟩ := append_alike alike steps ran
          exact ⟨_, CreateFamily.resume_eq_some.mpr (.appended ranThere),
            outcomes.lift fun _ _ like => .append like⟩

/-- The listeners of the switch screen, and the write of a tapped row. -/
theorem switch_alike {task : SwitchFamily.Task} {listing : SwitchFamily.Listing}
    (alike : AlikeStore left right)
    (resumed : SwitchFamily.resume left uid task answer = some listing) :
    ∃ listing', SwitchFamily.resume right uid task answer = some listing' ∧
      listing'.rows = listing.rows ∧ AlikeOutcome Eq listing.outcome listing'.outcome := by
  cases SwitchFamily.resume_eq_some.mp resumed with
  | userUnread =>
      exact ⟨_, SwitchFamily.resume_eq_some.mpr .userUnread, rfl, .ends alike _⟩
  | userTrapped unnamed =>
      rw [← alike.familiesOf] at unnamed
      exact ⟨_, SwitchFamily.resume_eq_some.mpr (.userTrapped unnamed), rfl, .ends alike _⟩
  | userListened found named =>
      rw [← alike.familiesOf] at found
      exact ⟨_, SwitchFamily.resume_eq_some.mpr (.userListened found named), rfl,
        .issues alike (List.forall₂_same.mpr fun _ _ => rfl)⟩
  | familyUnread =>
      exact ⟨_, SwitchFamily.resume_eq_some.mpr .familyUnread, rfl, .ends alike _⟩
  | familyTrapped absent =>
      rw [← alike.familyNamed] at absent
      exact ⟨_, SwitchFamily.resume_eq_some.mpr (.familyTrapped absent), rfl, .ends alike _⟩
  | familyListened found =>
      rw [← alike.familyNamed] at found
      exact ⟨_, SwitchFamily.resume_eq_some.mpr (.familyListened found), rfl,
        .issues alike (List.forall₂_same.mpr fun _ _ => rfl)⟩
  | unswitched =>
      exact ⟨_, SwitchFamily.resume_eq_some.mpr .unswitched, rfl, .ends alike _⟩
  | switched found =>
      obtain ⟨other, there, document⟩ := alike.users.get? found
      refine ⟨_, SwitchFamily.resume_eq_some.mpr (.switched there), rfl,
        ⟨alike.users.set (document.merge _), ?_⟩, List.Forall₂.nil, rfl⟩
      rw [alike.rest]
      rfl

end Callbacks

/-! ## Alike steps of the app -/

/-- The requests of the screens that choose a family. -/
inductive AlikeTask : App.Task → App.Task → Prop where
  | join {session task other} : AlikeJoin task other →
      AlikeTask (.join session task) (.join session other)
  | create {session task other} : AlikeCreate task other →
      AlikeTask (.create session task) (.create session other)
  | switch {session task} : AlikeTask (.switch session task) (.switch session task)

/-- The same but for alike user documents and what has been shown. -/
def AlikeState (left right : AppState) : Prop :=
  ∃ store shown, AlikeStore left.store store ∧
    right = { left with store := store, shown := shown }

theorem AlikeState.refl (state : AppState) : AlikeState state state :=
  ⟨state.store, state.shown, ⟨.refl _, rfl⟩, rfl⟩

theorem AlikeStep.refl (step : AppendFamily.Task) : AlikeStep step step := by
  cases step with
  | getDocument => exact .getDocument
  | received data => exact .received (.refl data)
  | updateData families newFamilies => exact .updateData

theorem AlikeTask.refl {task : App.Task} (chooses : Saving.ChoosesFor task) :
    AlikeTask task task := by
  cases task with
  | join session request =>
      cases request with
      | getDocuments familyId => exact .join .getDocuments
      | append familyId step => exact .join (.append (.refl step))
  | create session request =>
      cases request with
      | setData familyName familyId => exact .create .setData
      | addDocument familyName familyId => exact .create .addDocument
      | append familyId step => exact .create (.append (.refl step))
  | switch session request => exact .switch
  | _ => exact chooses.elim

theorem forall₂_alikeTask_map {Request : Type} {requests : List Request}
    {embed : Request → App.Task} (chooses : ∀ request, Saving.ChoosesFor (embed request)) :
    List.Forall₂ AlikeTask (requests.map embed) (requests.map embed) :=
  List.forall₂_same.mpr (List.forall_mem_map.mpr fun request _ => .refl (chooses request))

section Steps

variable {form : CanonicalForm} {left right next : AppState} {new : List App.Task}

/-- A tap on one of the screens. -/
theorem handle_alike {event : App.Event} (alike : AlikeState left right)
    (chooses : Saving.Chooses event) (handled : App.handle form left event = some (next, new)) :
    ∃ next' new', App.handle form right event = some (next', new') ∧ AlikeState next next' ∧
      List.Forall₂ AlikeTask new new' := by
  obtain ⟨store, shown, stores, rfl⟩ := alike
  cases event with
  | joinTapped session familyIdText =>
      obtain ⟨account, acted⟩ := signedIn_eq_some handled
      obtain ⟨rfl, rfl⟩ := Prod.mk.inj acted
      exact ⟨_, _, if_pos account, ⟨_, _, stores, rfl⟩, forall₂_alikeTask_map fun _ => trivial⟩
  | createTapped session familyNameText familyIdText =>
      obtain ⟨account, acted⟩ := signedIn_eq_some handled
      obtain ⟨rfl, rfl⟩ := Prod.mk.inj acted
      exact ⟨_, _, if_pos account, ⟨_, _, stores, rfl⟩, forall₂_alikeTask_map fun _ => trivial⟩
  | getFamilies session =>
      obtain ⟨account, acted⟩ := signedIn_eq_some handled
      obtain ⟨rfl, rfl⟩ := Prod.mk.inj acted
      exact ⟨_, _, if_pos account, ⟨_, _, stores, rfl⟩, List.Forall₂.cons .switch .nil⟩
  | famliyTapped session familyId =>
      simp only [App.handle] at handled ⊢
      split_ifs at handled ⊢ with listed
      obtain ⟨account, acted⟩ := signedIn_eq_some handled
      obtain ⟨rfl, rfl⟩ := Prod.mk.inj acted
      exact ⟨_, _, if_pos account, ⟨_, _, stores, rfl⟩, List.Forall₂.cons .switch .nil⟩
  | _ => exact chooses.elim

/-- An answer to one of their requests. -/
theorem resume_alike {task other : App.Task} {answer : Answer} (alike : AlikeState left right)
    (tasks : AlikeTask task other)
    (resumed : App.resume form left task answer = some (next, new)) :
    ∃ next' new', App.resume form right other answer = some (next', new') ∧
      AlikeState next next' ∧ List.Forall₂ AlikeTask new new' := by
  obtain ⟨store, shown, stores, rfl⟩ := alike
  cases tasks with
  | join requests =>
      obtain ⟨outcome, ran, same⟩ := Option.map_eq_some_iff.mp resumed
      obtain ⟨rfl, rfl⟩ := Prod.mk.inj same
      obtain ⟨outcome', ranThere, outcomes⟩ := join_alike stores requests ran
      exact ⟨_, _, Option.map_eq_some_iff.mpr ⟨outcome', ranThere, rfl⟩,
        ⟨_, _, outcomes.store, rfl⟩, (outcomes.lift fun _ _ like => .join like).next⟩
  | create requests =>
      obtain ⟨outcome, ran, same⟩ := Option.map_eq_some_iff.mp resumed
      obtain ⟨rfl, rfl⟩ := Prod.mk.inj same
      obtain ⟨outcome', ranThere, outcomes⟩ := create_alike stores requests ran
      exact ⟨_, _, Option.map_eq_some_iff.mpr ⟨outcome', ranThere, rfl⟩,
        ⟨_, _, outcomes.store, rfl⟩, (outcomes.lift fun _ _ like => .create like).next⟩
  | switch =>
      obtain ⟨listing, ran, same⟩ := Option.map_eq_some_iff.mp resumed
      obtain ⟨rfl, rfl⟩ := Prod.mk.inj same
      obtain ⟨⟨rows', outcome'⟩, ranThere, rows, outcomes⟩ := switch_alike stores ran
      obtain rfl := rows
      exact ⟨_, _, Option.map_eq_some_iff.mpr ⟨_, ranThere, rfl⟩, ⟨_, _, outcomes.store, rfl⟩,
        (outcomes.lift fun task other same => (same ▸ .switch :
          AlikeTask (.switch _ task) (.switch _ other))).next⟩

/-- The editor keeps the state alike to what it was. -/
theorem editor_alike {uid : Uid} {task : EditProfile.Task} {answer : Answer}
    {issued : List EditProfile.Task} (alike : AlikeState left right) (writes : task.WritesField)
    (resumed : (Saving.editor uid).resume left task answer = some (next, issued)) :
    AlikeState next right ∧ ∀ other ∈ issued, other.WritesField := by
  obtain ⟨store, shown, stores, rfl⟩ := alike
  obtain ⟨outcome, ran, same⟩ := Option.map_eq_some_iff.mp resumed
  obtain ⟨rfl, rfl⟩ := Prod.mk.inj same
  obtain ⟨fresh, kept | ⟨field, value, data, rfl, stored, written⟩⟩ := EditProfile.resume_cases ran
  · refine ⟨⟨store, shown, ?_, rfl⟩, fresh⟩
    rw [kept]
    exact stores
  · refine ⟨⟨store, shown, ⟨fun key => ?_, ?_⟩, rfl⟩, fresh⟩
    · show Option.Rel Alike (outcome.store.users.get? key) (store.users.get? key)
      rw [written, Collection.get?_set]
      split_ifs with here
      · obtain ⟨other, there, document⟩ := stores.users.get? stored
        rw [here, there]
        exact .some (document.edited writes)
      · exact stores.users key
    · show store = { outcome.store with users := store.users }
      rw [written]
      exact stores.rest

end Steps

/-- The screens that choose a family do not notice the editor. -/
theorem editor_unnoticed (form : CanonicalForm) (uid : Uid) :
    Unnoticed (App.program form) (Saving.editor uid) AlikeState AlikeTask Saving.Chooses
      EditProfile.Task.WritesField where
  handled := handle_alike
  resumed := resume_alike
  foreignHandled {_ _ _ event _} _ _ := event.elim
  foreignResumed := editor_alike

end Familog.Users
