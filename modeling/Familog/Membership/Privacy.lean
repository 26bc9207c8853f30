import Familog.App.Notification
import Familog.Channels.Appending
import Familog.Chat.Conversation
import Familog.Membership.Consent

/-!
Contract: the notification pages of a store to which only the app writes.

Owns the invariant of the whole program: every channel list shows exactly the channels of
its user's families that have been delivered, under the names its rows show, and only a user
who has asked for a family has a chat open on the thread of its channel. Owns what follows
for whole runs: the lists are exact and never trap, and every message of a thread was sent by
a user who has asked for that family.

Does not own what the chats of one thread show, nor other writers of the store.
-/

set_option autoImplicit false

namespace Familog.App.Notification

open Async Firestore Swift Chat

open Consent (Picked OwnDocument AppSound AsksWhole)

section Definitions

variable (chosen : Uid → String → Prop) (form : CanonicalForm)

/-- The user of a list, as it was read: a user with a name, in families it has asked for. -/
structure Loaded (session : Session) (user : User) : Prop where
  uid : user.uid = some session.user.value
  firstname : user.firstname ≠ none
  families : ∀ families, user.families = some families →
    ∀ familyId ∈ families, Picked chosen session.user familyId

/-- A list over the channels of the store. -/
structure ListSound (docs : Collection String) (screen : ListScreen) : Prop where
  running : screen.trapped = false
  unloaded : screen.currentUser = none → screen.list = .empty
  loaded : ∀ user, screen.currentUser = some user →
    Loaded chosen screen.session user ∧ Channels.Exact form user docs screen.list

/-- The user has asked for a family by an id that Swift takes for the id of a channel, and
that id names the document above the thread. -/
structure MayChat (path : DocumentPath) (uid : Uid) (id : String) : Prop where
  asked : ∃ familyId, Picked chosen uid familyId ∧ form.Same familyId id
  names : document? id = some path

/-- The chat belongs to such a user, and to such a channel. -/
def Admits (path : DocumentPath) (profile : Conversation.Profile) : Prop :=
  Conversation.Named profile.user ∧ ∃ (uid : Uid) (id : String),
    profile.user.uid = some uid.value ∧ profile.channel.id = some id ∧
      MayChat chosen form path uid id

/-- What the notification pages keep. -/
structure BoardSound {Url Image : Type} (bucket : Bucket Url Image) (state : State Url Image) :
    Prop where
  lists : ∀ screen ∈ state.2.lists, ListSound chosen form state.1.1.store.channels screen
  threads : ∀ path, Conversation.Sound bucket (Admits chosen form path) (state.2.threads path)

end Definitions

/-- What a pending request relies on. -/
def Need {Url Image : Type} (board : Board Url Image) : Task Url Image → Prop
  | .observeCurrentUser _ => True
  | .listener index => ∃ screen, board.lists[index]? = some screen ∧ screen.currentUser.isSome
  | .thread path task => Conversation.Need (board.threads path) task

/-- Lists and chats are only added, and a user that has been read stays. -/
structure Extends {Url Image : Type} (board next : Board Url Image) : Prop where
  lists : ∀ (index : ℕ) (screen : ListScreen), board.lists[index]? = some screen →
    screen.currentUser.isSome → ∃ later, next.lists[index]? = some later ∧
      later.currentUser.isSome
  threads : ∀ path, Conversation.Joins (board.threads path) (next.threads path)

/-- A snapshot of the channels is one of the collection as it is stored. -/
def Delivers {Url Image : Type} (state : State Url Image) : Task Url Image → Answer Url → Prop
  | .listener index, .snapshot changes => ∀ screen, state.2.lists[index]? = some screen →
      Faithful state.1.1.store.channels screen.list.delivered changes
  | _, _ => True

section Steps

variable {Url Image : Type} {chosen : Uid → String → Prop} {form : CanonicalForm}
  {bucket : Bucket Url Image} {encodes : Image → Bool} {state next : State Url Image}
  {board after : Board Url Image} {docs : Collection String} {screen : ListScreen}
  {index : ℕ} {new : List (Task Url Image)}

theorem Extends.refl (board : Board Url Image) : Extends board board :=
  ⟨fun _ screen found loaded => ⟨screen, found, loaded⟩, fun _ _ _ found => found⟩

theorem need_extends (extends' : Extends board after) {task : Task Url Image}
    (need : Need board task) : Need after task := by
  cases task with
  | observeCurrentUser index => trivial
  | listener index =>
      obtain ⟨screen, found, loaded⟩ := need
      exact extends'.lists index screen found loaded
  | thread path task => exact Conversation.need_joins (extends'.threads path) need

/-! ### The lists -/

/-- The document of a user is read as a user who has what the lists and the chats unwrap. -/
theorem loaded_of_document {session : Session} {data : Fields} {user : User}
    (own : OwnDocument chosen session.user data) (document : Users.Document data)
    (decoded : transformUser data = some user) : Loaded chosen session user := by
  obtain ⟨other, isOther, complete⟩ := document.schema.decoded
  obtain rfl := Option.some.inj (decoded.symm.trans isOther)
  obtain ⟨dob, _, rfl⟩ := Option.map_eq_some_iff.mp decoded
  exact ⟨own.uid, Option.ne_none_iff_isSome.mpr complete.firstname, own.families⟩

theorem listSound_of_exact {user : User} (isUser : screen.currentUser = some user)
    (loaded : Loaded chosen screen.session user) (running : screen.trapped = false)
    (exact : Channels.Exact form user docs screen.list) : ListSound chosen form docs screen where
  running := running
  unloaded missing := by simp [isUser] at missing
  loaded other found := by
    obtain rfl := Option.some.inj (isUser.symm.trans found)
    exact ⟨loaded, exact⟩

/-- A faithful snapshot is processed to its end, and all of it is delivered. -/
theorem forEach_exact {user : User} :
    ∀ {changes : List (ChangeType × String)} {screen : ListScreen}
      {documentChanges : List Channels.Change},
      screen.currentUser = some user → Loaded chosen screen.session user →
      screen.trapped = false → Channels.Exact form user docs screen.list →
      Faithful docs screen.list.delivered changes →
      documentChanges? docs screen.list.delivered changes = some documentChanges →
      ListSound chosen form docs (forEach form user screen documentChanges) ∧
        (forEach form user screen documentChanges).currentUser = some user ∧
        (forEach form user screen documentChanges).list.delivered =
          appliedAll documentChanges screen.list.delivered
  | [], screen, documentChanges, isUser, loaded, running, exact, _, found => by
      obtain rfl : [] = documentChanges := Option.some.inj found
      exact ⟨listSound_of_exact isUser loaded running exact, isUser, rfl⟩
  | (type, key) :: rest, screen, documentChanges, isUser, loaded, running, exact, faithful,
      found => by
      obtain ⟨change, here, mapped⟩ := Option.bind_eq_some_iff.mp found
      obtain ⟨later, foundLater, rfl⟩ := Option.map_eq_some_iff.mp mapped
      obtain ⟨list, received, kept, delivered⟩ := exact.receive faithful.1 here
      have onward : Faithful docs list.delivered rest := delivered ▸ faithful.2 change here
      have sameUser : ({ screen with list := list } : ListScreen).currentUser = some user := isUser
      have ended := forEach_exact sameUser loaded running kept onward
        ((congrArg (documentChanges? docs · rest) delivered).trans foundLater)
      simp only [forEach, received]
      exact ⟨ended.1, ended.2.1, ended.2.2.trans (congrArg (appliedAll later) delivered)⟩

/-- More channels do not disturb a list. -/
theorem ListSound.mono {more : Collection String} (sound : ListSound chosen form docs screen)
    (grows : ∀ key data, docs.get? key = some data → more.get? key = some data) :
    ListSound chosen form more screen where
  running := sound.running
  unloaded := sound.unloaded
  loaded user isUser := ⟨(sound.loaded user isUser).1, (sound.loaded user isUser).2.mono grows⟩

/-- The user is read and the listener registered. -/
theorem userObserved_sound {store : Store} (sound : ListSound chosen form docs screen)
    (respects : ∀ uid data, store.users.get? uid = some data → OwnDocument chosen uid data)
    (documents : ∀ uid data, store.users.get? uid = some data → Users.Document data)
    (missing : screen.currentUser = none) {result : ListScreen × List (Task Url Image)}
    (observed : userObserved store index screen = result) :
    ListSound chosen form docs result.1 ∧ result.1.session = screen.session ∧
      ∀ task ∈ result.2, task = .listener index ∧ result.1.currentUser.isSome := by
  subst observed
  unfold userObserved
  split
  · exact ⟨sound, rfl, by simp⟩
  · next data found =>
      obtain ⟨user, decoded, _⟩ := (documents _ _ found).schema.decoded
      rw [decoded]
      have loaded := loaded_of_document (respects _ _ found) (documents _ _ found) decoded
      refine ⟨listSound_of_exact rfl loaded sound.running ?_, rfl, by simp⟩
      show Channels.Exact form user docs screen.list
      rw [sound.unloaded missing]
      exact Channels.exact_empty

/-! ### The board -/

theorem found_of_running {board : Board Url Image} (running : board.running? index = some screen) :
    board.lists[index]? = some screen :=
  (Option.filter_eq_some_iff.mp running).1

theorem BoardSound.setList (sound : BoardSound chosen form bucket state)
    (changed : ListSound chosen form state.1.1.store.channels screen) :
    BoardSound chosen form bucket (state.1, state.2.setList index screen) where
  lists other member :=
    (List.mem_or_eq_of_mem_set member).elim (sound.lists other) fun same => same ▸ changed
  threads := sound.threads

theorem extends_setList {before : ListScreen} (found : board.lists[index]? = some before)
    (kept : before.currentUser.isSome → screen.currentUser.isSome) :
    Extends board (board.setList index screen) where
  lists other shown isShown loaded := by
    by_cases same : other = index
    · subst same
      obtain rfl := Option.some.inj (found.symm.trans isShown)
      have inRange := (List.getElem?_eq_some_iff.mp found).1
      exact ⟨screen, List.getElem?_set_self inRange, kept loaded⟩
    · exact ⟨shown, (List.getElem?_set_ne (Ne.symm same)).trans isShown, loaded⟩
  threads _ _ _ found := found

/-- A callback of one thread, on the whole board. -/
theorem BoardSound.onThread (sound : BoardSound chosen form bucket state) {path : DocumentPath}
    {result : Option (Conversation.State Url Image × List (Conversation.Task Url Image))}
    (kept : ∀ conversation tasks, result = some (conversation, tasks) →
      Conversation.Sound bucket (Admits chosen form path) conversation ∧
        (∀ task ∈ tasks, Conversation.Need conversation task) ∧
        Conversation.Joins (state.2.threads path) conversation)
    (ran : state.2.onThread path result = some (after, new)) :
    BoardSound chosen form bucket (state.1, after) ∧ (∀ task ∈ new, Need after task) ∧
      Extends state.2 after := by
  obtain ⟨⟨conversation, tasks⟩, isResult, same⟩ := Option.map_eq_some_iff.mp ran
  obtain ⟨rfl, rfl⟩ := Prod.mk.inj same
  obtain ⟨here, needs, joins⟩ := kept conversation tasks isResult
  have threads : ∀ other, (state.2.setThread path conversation).threads other =
      if other = path then conversation else state.2.threads other := by
    intro other
    show Function.update state.2.threads path conversation other = _
    rw [Function.update_apply]
  refine ⟨⟨sound.lists, fun other => ?_⟩, List.forall_mem_map.mpr fun task issued => ?_,
    fun _ shown found loaded => ⟨shown, found, loaded⟩, fun other => ?_⟩
  · show Conversation.Sound bucket _ ((state.2.setThread path conversation).threads other)
    rw [threads]
    split_ifs with same
    · exact same ▸ here
    · exact sound.threads other
  · show Conversation.Need ((state.2.setThread path conversation).threads path) task
    rw [threads, if_pos rfl]
    exact needs task issued
  · rw [threads]
    split_ifs with same
    · exact same ▸ joins
    · exact fun _ _ found => found

/-- The channel of a row names a document, and the user of the list has asked for its
family. -/
theorem mayChat_of_row {user : User} {channel : Channel} {row : ℕ}
    (channels : ∀ key fields, docs.get? key = some fields → Consent.OwnChannel chosen fields)
    (loaded : Loaded chosen screen.session user)
    (exact : Channels.Exact form user docs screen.list)
    (isRow : screen.list.channels[row]? = some channel) :
    ∃ id path, channel.id = some id ∧ document? id = some path ∧
      Admits chosen form path ⟨user, channel⟩ := by
  have member := List.mem_of_getElem? isRow
  obtain ⟨key, data, delivered, decoded⟩ := exact.entries channel member
  obtain ⟨creator, familyName, id, picked, rfl⟩ :=
    channels key data (exact.upToDate key data delivered)
  obtain rfl : channel = ⟨some id, familyName⟩ := (Option.some.inj decoded).symm
  obtain ⟨path, named⟩ := Option.isSome_iff_exists.mp picked.named
  obtain ⟨families, isFamilies, other, isId, familyId, inFamilies, same⟩ :=
    exact.refines.listed _ member
  obtain rfl : id = other := Option.some.inj isId
  refine ⟨id, path, rfl, named, ⟨?_, loaded.firstname⟩, screen.session.user, id, loaded.uid, rfl,
    ⟨familyId, loaded.families families isFamilies familyId inFamilies, same⟩, named⟩
  rw [loaded.uid]
  simp

/-- A tap on a row opens a chat that the user of the list may have. -/
theorem BoardSound.tapped (sound : BoardSound chosen form bucket state)
    (channels : ∀ key fields, state.1.1.store.channels.get? key = some fields →
      Consent.OwnChannel chosen fields)
    (running : state.2.running? index = some screen) {row : ℕ}
    (tapped : didSelectRowAt bucket encodes state.2 index screen row = some (after, new)) :
    BoardSound chosen form bucket (state.1, after) ∧ (∀ task ∈ new, Need after task) ∧
      Extends state.2 after := by
  have listSound := sound.lists screen (List.mem_of_getElem? (found_of_running running))
  unfold didSelectRowAt at tapped
  split_ifs at tapped with counted
  cases isUser : screen.currentUser with
  | none =>
      rw [listSound.unloaded isUser] at counted
      simp [Channels.State.empty] at counted
  | some user =>
      obtain ⟨loaded, exact⟩ := listSound.loaded user isUser
      have inRange : row < screen.list.channels.length := by
        rwa [exact.safe.counted] at counted
      have isRow := List.getElem?_eq_getElem inRange
      obtain ⟨id, path, isId, named, admits⟩ := mayChat_of_row channels loaded exact isRow
      simp only [isRow, isUser, isId, named] at tapped
      have opens : Conversation.Opens (Admits chosen form path)
          (.viewDidLoad user screen.list.channels[row] : Conversation.Event Image) := admits
      refine sound.onThread (fun conversation tasks opened => ?_) tapped
      exact (sound.threads path).acted (fun _ admitted => admitted.1) opens
        (Conversation.acted_of_handle opened)

/-- What a snapshot makes of a list. -/
theorem channelsObserved_sound {store : Store} (sound : ListSound chosen form store.channels screen)
    {user : User} (isUser : screen.currentUser = some user)
    {changes : List (ChangeType × String)}
    (faithful : Faithful store.channels screen.list.delivered changes) {last : ListScreen}
    (observed : channelsObserved form store screen changes = some last) :
    ListSound chosen form store.channels last ∧ last.currentUser = some user := by
  simp only [channelsObserved, isUser] at observed
  obtain ⟨documentChanges, found, rfl⟩ := Option.map_eq_some_iff.mp observed
  obtain ⟨loaded, exact⟩ := sound.loaded user isUser
  obtain ⟨kept, sameUser, delivered⟩ :=
    forEach_exact isUser loaded sound.running exact faithful found
  rw [← delivered]
  exact ⟨kept, sameUser⟩

/-! ### The programs -/

/-- What an event of the notification pages leaves. -/
theorem BoardSound.handled (sound : BoardSound chosen form bucket state)
    (channels : ∀ key fields, state.1.1.store.channels.get? key = some fields →
      Consent.OwnChannel chosen fields) {event : Event Image}
    (handled : handle bucket encodes state event = some (next, new)) :
    next.1 = state.1 ∧ BoardSound chosen form bucket (state.1, next.2) ∧
      (∀ task ∈ new, Need next.2 task) ∧ Extends state.2 next.2 := by
  cases event with
  | viewDidLoad session =>
      simp only [handle] at handled
      split_ifs at handled
      obtain ⟨rfl, rfl⟩ := Prod.mk.inj (Option.some.inj handled)
      refine ⟨rfl, ⟨fun screen member => ?_, sound.threads⟩, by simp [Need],
        ⟨fun index screen found loaded => ?_, fun _ _ _ found => found⟩⟩
      · rcases List.mem_append.mp member with old | appeared
        · exact sound.lists screen old
        · obtain rfl := List.mem_singleton.mp appeared
          exact ⟨rfl, fun _ => rfl, by simp⟩
      · have inRange := (List.getElem?_eq_some_iff.mp found).1
        exact ⟨screen, (List.getElem?_append_left inRange).trans found, loaded⟩
  | didSelectRowAt index row =>
      obtain ⟨⟨after, tasks⟩, selected, same⟩ := Option.map_eq_some_iff.mp handled
      obtain ⟨rfl, rfl⟩ := Prod.mk.inj same
      obtain ⟨screen, running, tapped⟩ := Option.bind_eq_some_iff.mp selected
      exact ⟨rfl, sound.tapped channels running tapped⟩
  | thread path event =>
      cases event with
      | viewDidLoad user channel => simp [handle] at handled
      | _ =>
          obtain ⟨⟨after, tasks⟩, selected, same⟩ := Option.map_eq_some_iff.mp handled
          obtain ⟨rfl, rfl⟩ := Prod.mk.inj same
          refine ⟨rfl, sound.onThread (fun conversation tasks acted => ?_) selected⟩
          exact (sound.threads path).acted (fun _ admitted => admitted.1) (by trivial)
            (Conversation.acted_of_handle acted)

/-- What an answer to the notification pages leaves. -/
theorem BoardSound.resumed (sound : BoardSound chosen form bucket state)
    (respects : ∀ uid data, state.1.1.store.users.get? uid = some data →
      OwnDocument chosen uid data)
    (documents : Users.Documents state.1.1) {task : Task Url Image} {answer : Answer Url}
    (need : Need state.2 task) (delivers : Delivers state task answer)
    (resumed : resume form bucket state task answer = some (next, new)) :
    next.1 = state.1 ∧ BoardSound chosen form bucket (state.1, next.2) ∧
      (∀ other ∈ new, Need next.2 other) ∧ Extends state.2 next.2 := by
  cases task with
  | observeCurrentUser index =>
      cases answer with
      | failed =>
          obtain ⟨screen, running, same⟩ := Option.map_eq_some_iff.mp resumed
          obtain ⟨rfl, rfl⟩ := Prod.mk.inj same
          exact ⟨rfl, sound, by simp, .refl _⟩
      | succeeded =>
          obtain ⟨screen, asking, same⟩ := Option.map_eq_some_iff.mp resumed
          obtain ⟨rfl, rfl⟩ := Prod.mk.inj same
          obtain ⟨running, unread⟩ := Option.filter_eq_some_iff.mp asking
          have found := found_of_running running
          have missing : screen.currentUser = none := Option.isNone_iff_eq_none.mp unread
          have observed : userObserved state.1.1.store index screen =
            ((_, _) : ListScreen × List (Task Url Image)) := rfl
          obtain ⟨kept, _, needs⟩ := userObserved_sound
            (sound.lists screen (List.mem_of_getElem? found)) respects documents missing observed
          have inRange := (List.getElem?_eq_some_iff.mp found).1
          refine ⟨rfl, sound.setList kept, fun task issued => ?_,
            extends_setList found (by simp [missing])⟩
          obtain ⟨rfl, loaded⟩ := needs task issued
          exact ⟨_, List.getElem?_set_self inRange, loaded⟩
      | _ => simp [resume] at resumed
  | listener index =>
      cases answer with
      | failed =>
          obtain ⟨screen, running, same⟩ := Option.map_eq_some_iff.mp resumed
          obtain ⟨rfl, rfl⟩ := Prod.mk.inj same
          exact ⟨rfl, sound, List.forall_mem_singleton.mpr need, .refl _⟩
      | snapshot changes =>
          obtain ⟨last, received, same⟩ := Option.map_eq_some_iff.mp resumed
          obtain ⟨rfl, rfl⟩ := Prod.mk.inj same
          obtain ⟨screen, running, observed⟩ := Option.bind_eq_some_iff.mp received
          have found := found_of_running running
          obtain ⟨other, isOther, loaded⟩ := need
          obtain rfl : screen = other := Option.some.inj (found.symm.trans isOther)
          obtain ⟨user, isUser⟩ := Option.isSome_iff_exists.mp loaded
          obtain ⟨kept, later⟩ := channelsObserved_sound
            (sound.lists screen (List.mem_of_getElem? found)) isUser (delivers screen found)
            observed
          have inRange := (List.getElem?_eq_some_iff.mp found).1
          have remains : last.currentUser.isSome := Option.isSome_iff_exists.mpr ⟨user, later⟩
          exact ⟨rfl, sound.setList kept,
            List.forall_mem_singleton.mpr ⟨last, List.getElem?_set_self inRange, remains⟩,
            extends_setList found fun _ => remains⟩
      | _ => simp [resume] at resumed
  | thread path task =>
      cases answer with
      | thread answer =>
          obtain ⟨⟨after, tasks⟩, selected, same⟩ := Option.map_eq_some_iff.mp resumed
          obtain ⟨rfl, rfl⟩ := Prod.mk.inj same
          refine ⟨rfl, sound.onThread (fun conversation tasks acted => ?_) selected⟩
          exact (sound.threads path).answered (fun _ admitted => admitted.1) need
            (Conversation.answered_of_resume acted)
      | _ => simp [resume] at resumed

/-- The notification pages leave the app alone and keep their lists and chats. -/
theorem program_relies : Async.Relies (program form bucket encodes) (fun _ _ => True) Delivers
    (fun state => AppSound chosen state.1 ∧ BoardSound chosen form bucket state)
    (fun state => Need state.2) (fun state next => next.1 = state.1 ∧ Extends state.2 next.2) where
  handled {before after event issued} sound _ handled := by
    obtain ⟨same, kept, needs, extends'⟩ := sound.2.handled sound.1.1.channels handled
    rw [← same] at kept
    exact ⟨⟨same ▸ sound.1, kept⟩, needs, same, extends'⟩
  resumed {before after task answer issued} sound need delivers resumed := by
    obtain ⟨same, kept, needs, extends'⟩ :=
      sound.2.resumed sound.1.1.users sound.1.2 need delivers resumed
    rw [← same] at kept
    exact ⟨⟨same ▸ sound.1, kept⟩, needs, same, extends'⟩
  stable moved need := need_extends moved.2 need

/-- A step of the app keeps what the pages show: channels are only added. -/
theorem BoardSound.grows (sound : BoardSound chosen form bucket state)
    (grows : Consent.Grows state.1.1.toData next.1.1.toData) (same : next.2 = state.2) :
    BoardSound chosen form bucket next where
  lists := by
    rw [same]
    exact fun screen member => (sound.lists screen member).mono grows.channels
  threads := by
    rw [same]
    exact sound.threads

end Steps

section Whole

variable {Url Image : Type} (chosen : Uid → String → Prop) (form : CanonicalForm)
  (bucket : Bucket Url Image) (encodes : Image → Bool) (count : String → ℕ)
  (localizedDescription : String)

/-- What a pending request of the whole program relies on. -/
def NeedOfWhole (state : State Url Image) :
    (App.Task ⊕ Screens.Task) ⊕ Task Url Image → Prop :=
  Sum.elim (Consent.NeedOfWhole chosen) (Need state.2)

/-- The snapshots of the channels are those of the collection. -/
def DeliversWhole (state : State Url Image) :
    (App.Task ⊕ Screens.Task) ⊕ Task Url Image → Familog.Answer ⊕ Answer Url → Prop :=
  Sum.elim (fun _ _ => True) fun task reply =>
    ∀ answer ∈ reply.getRight?, Delivers state task answer

/-- The app and its further screens keep what the pages show, and what they rely on. -/
theorem app_relies :
    Async.Relies ((Screens.whole count localizedDescription form).within (Board Url Image))
      (fun _ => AsksWhole chosen) (fun _ _ _ => True)
      (fun state => AppSound chosen state.1 ∧ BoardSound chosen form bucket state)
      (fun _ => Consent.NeedOfWhole chosen)
      (fun state next => Consent.Grows state.1.1.toData next.1.1.toData ∧ next.2 = state.2) :=
  (Consent.sound_relies chosen form count localizedDescription).within.frame
    fun _ sound moved => sound.grows moved.1 moved.2

/-- The app and the notification pages bear each other. -/
theorem whole_relies :
    Async.Relies (whole form bucket encodes count localizedDescription)
      (fun _ => Sum.elim (AsksWhole chosen) fun _ => True) DeliversWhole
      (fun state => AppSound chosen state.1 ∧ BoardSound chosen form bucket state)
      (NeedOfWhole chosen)
      (fun state next => (Consent.Grows state.1.1.toData next.1.1.toData ∧ next.2 = state.2) ∨
        (next.1 = state.1 ∧ Extends state.2 next.2)) := by
  have app := (app_relies chosen form bucket count localizedDescription).answering
    (Sum.getLeft? : Familog.Answer ⊕ Answer Url → Option Familog.Answer)
  have pages := (program_relies : Async.Relies (program form bucket encodes) _ _
    (fun state => AppSound chosen state.1 ∧ BoardSound chosen form bucket state) _ _).answering
    (Sum.getRight? : Familog.Answer ⊕ Answer Url → Option (Answer Url))
  refine (app.beside pages (fun _ need => need) ?_).assuming ?_ ?_
  · rintro state next task ⟨_, same⟩ need
    exact same ▸ need
  · rintro state (event | event) asks
    · exact asks
    · trivial
  · rintro state (task | task) reply delivers
    · exact fun _ _ => trivial
    · exact delivers

theorem boardSound_empty : BoardSound chosen form bucket (State.empty Url Image) where
  lists := by simp [State.empty, Board.empty]
  threads _ := Conversation.sound_empty

end Whole

/-! ## Whole runs -/

/-- Along the labels, the user asks for a family by this id. -/
def Tapped {Url Image : Type}
    (labels : List (Label ((App.Event ⊕ Screens.Event) ⊕ Event Image)
      (Familog.Answer ⊕ Answer Url)))
    (uid : Uid) (familyId : String) : Prop :=
  ∃ event, .event (.inl (.inl event)) ∈ labels ∧ Consent.asked? event = some (uid, familyId)

section Runs

variable {Url Image : Type} {form : CanonicalForm} {bucket : Bucket Url Image}
  {encodes : Image → Bool} {count : String → ℕ} {localizedDescription : String}
  {labels : List (Label ((App.Event ⊕ Screens.Event) ⊕ Event Image) (Familog.Answer ⊕ Answer Url))}
  {last : Config (State Url Image) ((App.Task ⊕ Screens.Task) ⊕ Task Url Image)}

/-- Every run keeps the invariant for what is tapped in it. -/
theorem sound_of_run
    (delivers : (whole form bucket encodes count localizedDescription).Obeys
      (onState (fun _ _ => True) DeliversWhole) (Program.start (State.empty Url Image)) labels)
    (ran : (whole form bucket encodes count localizedDescription).run
      (Program.start (State.empty Url Image)) labels = some last) :
    AppSound (Tapped labels) last.state.1 ∧ BoardSound (Tapped labels) form bucket last.state := by
  refine ((whole_relies (Tapped labels) form bucket encodes count localizedDescription).run
    ⟨Consent.appSound_empty _, boardSound_empty _ _ _⟩
    (Program.obeys_of_answers ?_ delivers) ran).1
  rintro ((event | event) | event) member
  · exact fun operation asks => ⟨event, member, asks⟩
  · trivial
  · trivial

/-- The channel lists are exact. In every run of the app, its screens and its notification
pages, in any order of their steps and with any failures, no list traps; a list that has read
its user shows exactly the channels of the user's families among those that were delivered,
with the name of each in its row, and every row has a thread to open. What was delivered is
stored; once everything stored has been delivered, the list is that of the store. -/
theorem lists_exact_of_run
    (delivers : (whole form bucket encodes count localizedDescription).Obeys
      (onState (fun _ _ => True) DeliversWhole) (Program.start (State.empty Url Image)) labels)
    (ran : (whole form bucket encodes count localizedDescription).run
      (Program.start (State.empty Url Image)) labels = some last) :
    ∀ screen ∈ last.state.2.lists, screen.trapped = false ∧
      ∀ user, screen.currentUser = some user →
        Channels.Refines form user screen.list.delivered screen.list.channels ∧
        Channels.Agrees screen.list ∧
        (∀ channel ∈ screen.list.channels, ∃ id path, channel.id = some id ∧
          document? id = some path) ∧
        UpToDate last.state.1.1.store.channels screen.list.delivered ∧
        (UpToDate screen.list.delivered last.state.1.1.store.channels →
          Channels.Refines form user last.state.1.1.store.channels screen.list.channels) := by
  obtain ⟨app, board⟩ := sound_of_run delivers ran
  intro screen member
  have sound := board.lists screen member
  refine ⟨sound.running, fun user isUser => ?_⟩
  obtain ⟨loaded, exact⟩ := sound.loaded user isUser
  refine ⟨exact.refines, exact.agrees, fun channel listed => ?_, exact.upToDate,
    exact.refines_docs⟩
  obtain ⟨row, inRange, rfl⟩ := List.getElem_of_mem listed
  obtain ⟨id, path, isId, named, _⟩ :=
    mayChat_of_row app.1.channels loaded exact (List.getElem?_eq_getElem inRange)
  exact ⟨id, path, isId, named⟩

/-- Whoever is in a chat of a thread may be so. -/
theorem BoardSound.sender {chosen : Uid → String → Prop} {state : State Url Image}
    (sound : BoardSound chosen form bucket state) {path : DocumentPath} {index : ℕ}
    {profile : Conversation.Profile}
    (found : (state.2.threads path).profiles[index]? = some profile) {sender : Sender}
    (isSender : currentSender profile.user = some sender) :
    ∃ (uid : Uid) (id : String), sender.id = uid.value ∧ MayChat chosen form path uid id := by
  obtain ⟨_, uid, id, isUid, _, mayChat⟩ :=
    (sound.threads path).admitted profile (List.mem_of_getElem? found)
  obtain ⟨other, isOther, firstname, _, same⟩ : ∃ other, profile.user.uid = some other ∧
      ∃ firstname, profile.user.firstname = some firstname ∧ ⟨other, firstname⟩ = sender := by
    simpa [currentSender, Option.bind_eq_some_iff] using isSender
  subst same
  exact ⟨uid, id, Option.some.inj (isOther.symm.trans isUid), mayChat⟩

/-- A chat is a matter of its family. In every such run, whoever has a chat open on a thread,
whoever has sent a message that is stored in it, and whoever is named as the sender of a
message that is shown there, is a user who asked in this run, by a join or a creation, for a
family by the id of a channel that leads to this thread, up to canonical equivalence. -/
theorem chats_private_of_run
    (delivers : (whole form bucket encodes count localizedDescription).Obeys
      (onState (fun _ _ => True) DeliversWhole) (Program.start (State.empty Url Image)) labels)
    (ran : (whole form bucket encodes count localizedDescription).run
      (Program.start (State.empty Url Image)) labels = some last) :
    ∀ path,
      (∀ entry ∈ (last.state.2.threads path).archive, ∃ (uid : Uid) (id : String),
        entry.message.sender.id = uid.value ∧ MayChat (Tapped labels) form path uid id) ∧
      ∀ copy ∈ (last.state.2.threads path).chats,
        (∃ (uid : Uid) (id : String), copy.profile.user.uid = some uid.value ∧
          MayChat (Tapped labels) form path uid id) ∧
        ∀ message ∈ copy.config.state.messages, ∃ (uid : Uid) (id : String),
          message.sender.id = uid.value ∧ MayChat (Tapped labels) form path uid id := by
  have board := (sound_of_run delivers ran).2
  intro path
  have sound := board.threads path
  refine ⟨fun entry stored => ?_, fun copy member => ⟨?_, fun message shown => ?_⟩⟩
  · obtain ⟨profile, found, sentBy⟩ := sound.sent entry stored
    exact board.sender found (Conversation.currentSender_of_sentBy sentBy)
  · obtain ⟨_, uid, id, isUid, _, mayChat⟩ :=
      sound.admitted copy.profile (List.mem_map.mpr ⟨copy, member, rfl⟩)
    exact ⟨uid, id, isUid, mayChat⟩
  · obtain ⟨_, _, profile, found, _, _, isSender⟩ := sound.shown member shown
    exact board.sender found isSender

end Runs

/-! ## A family that talks -/

section Sample

/-- A label of the app and its further screens. -/
def ofScreens {Url Image : Type} : Label (App.Event ⊕ Screens.Event) Familog.Answer →
    Label ((App.Event ⊕ Screens.Event) ⊕ Event Image) (Familog.Answer ⊕ Answer Url)
  | .event event => .event (.inl event)
  | .answer ticket answer => .answer ticket (.inl answer)

/-- The thread of the channel with the id "abc". -/
def abc : DocumentPath := ⟨["abc"], rfl, by simp⟩

/-- The first user creates a family and the second one joins it. Both open its chat from their
lists, the first one sends a text and it is delivered to the second one. -/
def talking : List (Label ((App.Event ⊕ Screens.Event) ⊕ Event Unit)
    (Familog.Answer ⊕ Answer String)) :=
  ((signUps ++ creation "abc" ++ joining "abc").map Consent.ofApp).map ofScreens ++ [
    .event (.inr (.viewDidLoad ⟨userA, 0⟩)), .event (.inr (.viewDidLoad ⟨userB, 0⟩)),
    .answer 13 (.inr .succeeded), .answer 14 (.inr .succeeded),
    .answer 15 (.inr (.snapshot [(.added, "channel")])),
    .answer 16 (.inr (.snapshot [(.added, "channel")])),
    .event (.inr (.didSelectRowAt 0 0)), .event (.inr (.didSelectRowAt 1 0)),
    .event (.inr (.thread abc (.didPressSendButtonWith 0 "hello" 1))),
    .answer 19 (.inr (.thread (.assigned "text"))),
    .event (.inr (.thread abc (.chat 1 (.answer 0 (.snapshot [(.added, "text")])))))]

/-- A snapshot of the label adds documents only. -/
def AddsOnly : Label ((App.Event ⊕ Screens.Event) ⊕ Event Unit)
    (Familog.Answer ⊕ Answer String) → Bool
  | .answer _ (.inr (.snapshot changes)) => changes.all fun change => decide (change.1 = .added)
  | _ => true

theorem delivers_of_addsOnly
    {program : Program (State String Unit) ((App.Event ⊕ Screens.Event) ⊕ Event Unit)
      ((App.Task ⊕ Screens.Task) ⊕ Task String Unit) (Familog.Answer ⊕ Answer String)}
    {labels : List (Label ((App.Event ⊕ Screens.Event) ⊕ Event Unit)
      (Familog.Answer ⊕ Answer String))}
    {config : Config (State String Unit) ((App.Task ⊕ Screens.Task) ⊕ Task String Unit)}
    (added : ∀ label ∈ labels, AddsOnly label = true) :
    program.Obeys (onState (fun _ _ => True) DeliversWhole) config labels := by
  refine Program.obeys_of_invariant (fun _ => True) ?_ (fun _ _ _ => trivial) trivial
    (Program.obeys_of_forall_mem added)
  rintro config (event | ⟨ticket, reply⟩) _ adds
  · trivial
  · rintro (task | task) _
    · trivial
    · intro answer read
      obtain rfl : reply = .inr answer := Sum.getRight?_eq_some_iff.mp read
      cases task with
      | listener index =>
          cases answer with
          | snapshot changes =>
              intro screen _
              exact faithful_of_added fun change member =>
                of_decide_eq_true (List.all_eq_true.mp adds change member)
          | _ => trivial
      | _ => trivial

/-- Both lists show the channel of the family, which is the only one there is. -/
theorem lists_exact_of_talking : ∃ last,
    (whole .scalars fullBucket (fun _ => true) String.length "The password is invalid.").run
        (Program.start (State.empty String Unit)) talking = some last ∧
      last.state.2.lists.map (fun screen => screen.list.rows) = [["First"], ["First"]] ∧
      ∀ screen ∈ last.state.2.lists, screen.trapped = false := by
  obtain ⟨last, ran, rows⟩ : ∃ last,
      (whole .scalars fullBucket (fun _ => true) String.length "The password is invalid.").run
          (Program.start (State.empty String Unit)) talking = some last ∧
        last.state.2.lists.map (fun screen => screen.list.rows) = [["First"], ["First"]] :=
    Program.exists_run (by decide)
  exact ⟨last, ran, rows, fun screen member =>
    (lists_exact_of_run (delivers_of_addsOnly (by decide)) ran screen member).1⟩

/-- The text is stored and shown, and its sender has asked for the family. -/
theorem chats_private_of_talking : ∃ last,
    (whole .scalars fullBucket (fun _ => true) String.length "The password is invalid.").run
        (Program.start (State.empty String Unit)) talking = some last ∧
      (last.state.2.threads abc).archive.length = 1 ∧
      (last.state.2.threads abc).chats.map (fun copy => copy.config.state.messages.length) =
        [0, 1] ∧
      ∀ entry ∈ (last.state.2.threads abc).archive, ∃ (uid : Uid) (id : String),
        entry.message.sender.id = uid.value ∧ MayChat (Tapped talking) .scalars abc uid id := by
  obtain ⟨last, ran, one, shown⟩ : ∃ last,
      (whole .scalars fullBucket (fun _ => true) String.length "The password is invalid.").run
          (Program.start (State.empty String Unit)) talking = some last ∧
        (last.state.2.threads abc).archive.length = 1 ∧
        (last.state.2.threads abc).chats.map (fun copy => copy.config.state.messages.length) =
          [0, 1] :=
    Program.exists_run (by decide)
  exact ⟨last, ran, one, shown,
    (chats_private_of_run (delivers_of_addsOnly (by decide)) ran abc).1⟩

end Sample

end Familog.App.Notification
