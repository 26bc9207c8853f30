import Familog.Async.Program
import Familog.Editing.APTextView
import Familog.LogInPage.AppendFamily
import Familog.MainPage.Upload

/-!
Contract: the description of a post, from the field of the upload screen to the stored
document.

Owns the upload screen as one program: the callbacks of its text view, the picker, the
Share button and the upload, in any order. Owns the property that a post is described by
what the user had entered when the button was tapped, and the exact condition under which
it holds. The button compares the text of the field with the placeholder and never looks
whether it is empty; the upload reads the field again, long after the tap.

Does not own the photo.
-/

set_option autoImplicit false

namespace Familog.Editing.Description

open Async Firestore Swift LogInPage MainPage

/-- The text that the storyboard gives the view and that `shareTapped` compares with. -/
def placeholder : String := "Describe your artifacts..."

/-- One tap of the Share button: whether a photo was picked, what the user had entered, and
whether the upload was started. -/
structure Tap where
  picked : Bool
  entered : String
  wentOn : Bool
deriving DecidableEq

/-- The upload screen and the store. The taps so far, and whether a text that was typed has
been lost when editing began, are not stored by the source. -/
structure State where
  descriptionField : APTextView
  selectedImage : Bool
  taps : List Tap
  lost : Bool
  store : Store

/-- The screen as it is opened. -/
def State.opened (store : Store) : State := ⟨.opened, false, [], false, store⟩

inductive Event where
  | managePlaceholder
  | textViewDidBeginEditing
  | edit (location length : ℕ) (new : String)
  | textViewDidEndEditing
  | didFinishPicking
  | shareTapped

/-- A pending request of an upload, with the tap that started it. -/
abbrev Pending := Tap × Upload.Task

section Program

variable (form : CanonicalForm)

/-- What `shareTapped` does about the field as it stands. -/
def State.shared (state : State) : List Upload.Task :=
  (Upload.shareTapped form state.selectedImage state.descriptionField.text).1

/-- The tap that it is. -/
def State.tap (state : State) : Tap :=
  ⟨state.selectedImage, state.descriptionField.entered, ! (state.shared form).isEmpty⟩

/-- `managePlaceholder` runs once, editing begins and ends in turn, and only while it lasts
can the user change the text. -/
def handle (state : State) : Event → Option (State × List Pending)
  | .managePlaceholder =>
      if state.descriptionField.isDelegate then none
      else some ({ state with
        descriptionField := state.descriptionField.managePlaceholder placeholder }, [])
  | .textViewDidBeginEditing =>
      let after := state.descriptionField.textViewDidBeginEditing form placeholder
      if state.descriptionField.editing then none
      else some ({ state with
        descriptionField := after
        lost := state.lost || decide (after.entered ≠ state.descriptionField.entered) }, [])
  | .edit location length new =>
      if state.descriptionField.editing then
        some ({ state with
          descriptionField := state.descriptionField.edit location length new }, [])
      else none
  | .textViewDidEndEditing =>
      if state.descriptionField.editing then
        some ({ state with
          descriptionField := state.descriptionField.textViewDidEndEditing placeholder }, [])
      else none
  | .didFinishPicking => some ({ state with selectedImage := true }, [])
  | .shareTapped =>
      some ({ state with taps := state.taps ++ [state.tap form] },
        (state.shared form).map fun task => (state.tap form, task))

/-- `visionRequestDidComplete` reads the description from the field. -/
def State.read (state : State) : Answer → Answer
  | .classified draft id =>
      .classified { draft with description := state.descriptionField.text } id
  | answer => answer

def resume (uid : Uid) (state : State) (pending : Pending) (answer : Answer) :
    Option (State × List Pending) :=
  (Upload.resume state.store uid pending.2 (state.read answer)).map fun outcome =>
    ({ state with store := outcome.store }, outcome.next.map fun task => (pending.1, task))

/-- The upload screen of one user. -/
def screen (uid : Uid) : Program State Event Pending Answer where
  handle := handle form
  resume := resume uid

end Program

/-! ## What an event can do -/

/-- Everything an event can do, with the requests it issues. -/
inductive Acted (form : CanonicalForm) (state : State) : Event → State → List Pending → Prop where
  | managed : Acted form state .managePlaceholder
      { state with descriptionField := state.descriptionField.managePlaceholder placeholder } []
  | begun {after} : after = state.descriptionField.textViewDidBeginEditing form placeholder →
      Acted form state .textViewDidBeginEditing
        { state with
          descriptionField := after
          lost := state.lost || decide (after.entered ≠ state.descriptionField.entered) } []
  | edited {location length new} : state.descriptionField.editing = true →
      Acted form state (.edit location length new)
        { state with descriptionField := state.descriptionField.edit location length new } []
  | ended : Acted form state .textViewDidEndEditing
      { state with descriptionField := state.descriptionField.textViewDidEndEditing placeholder } []
  | picked : Acted form state .didFinishPicking { state with selectedImage := true } []
  | tapped : Acted form state .shareTapped { state with taps := state.taps ++ [state.tap form] }
      ((state.shared form).map fun task => (state.tap form, task))

theorem handle_acted {form : CanonicalForm} {state next : State} {event : Event}
    {new : List Pending} (handled : handle form state event = some (next, new)) :
    Acted form state event next new := by
  cases event with
  | managePlaceholder =>
      simp only [handle] at handled
      split_ifs at handled
      obtain ⟨rfl, rfl⟩ := Prod.mk.inj (Option.some.inj handled)
      exact .managed
  | textViewDidBeginEditing =>
      simp only [handle] at handled
      split_ifs at handled
      obtain ⟨rfl, rfl⟩ := Prod.mk.inj (Option.some.inj handled)
      exact .begun rfl
  | edit location length text =>
      simp only [handle] at handled
      split_ifs at handled with editing
      obtain ⟨rfl, rfl⟩ := Prod.mk.inj (Option.some.inj handled)
      exact .edited editing
  | textViewDidEndEditing =>
      simp only [handle] at handled
      split_ifs at handled
      obtain ⟨rfl, rfl⟩ := Prod.mk.inj (Option.some.inj handled)
      exact .ended
  | didFinishPicking =>
      obtain ⟨rfl, rfl⟩ := Prod.mk.inj (Option.some.inj handled)
      exact .picked
  | shareTapped =>
      obtain ⟨rfl, rfl⟩ := Prod.mk.inj (Option.some.inj handled)
      exact .tapped

/-! ## The property -/

/-- The post is described by this text, trimmed. -/
def Describes (post : Fields) (text : String) : Prop :=
  post.string? "description" = some (trimmingCharacters text)

/-- The tap started an upload exactly if there were a photo and a text, and then not with the
placeholder. -/
structure Tap.Fair (form : CanonicalForm) (tap : Tap) : Prop where
  goesOn : tap.wentOn = true ↔ tap.picked = true ∧ trimmingCharacters tap.entered ≠ ""
  own : tap.wentOn = true → ¬ form.Same (trimmingCharacters tap.entered) placeholder

/-- The request comes from a tap that went on, and a post that it is to write is described by
what had been entered at that tap. -/
def Due (taps : List Tap) (pending : Pending) : Prop :=
  pending.1 ∈ taps ∧ pending.1.wentOn = true ∧
    ∀ id post, pending.2 = .setData id post → Describes post pending.1.entered

/-- The post is described by what had been entered at a tap that went on. -/
def FromTap (taps : List Tap) (post : Fields) : Prop :=
  ∃ tap ∈ taps, tap.wentOn = true ∧ Describes post tap.entered

/-- Descriptions are what the user has typed: every tap goes on as it should, every post that
was not there before is described by what had been entered at a tap that went on, and no
text is lost when editing begins. -/
structure Faithful (form : CanonicalForm) (before : Store) (config : Config State Pending) :
    Prop where
  fair : ∀ tap ∈ config.state.taps, tap.Fair form
  due : ∀ pending ∈ config.pool.tasks, Due config.state.taps pending
  stored : ∀ id post, config.state.store.posts.get? id = some post →
    before.posts.get? id = some post ∨ FromTap config.state.taps post
  kept : config.state.lost = false

/-! ## The condition -/

/-- `managePlaceholder` does not find an empty field that is being edited. -/
def Aside (state : State) : Event → Prop
  | .managePlaceholder => state.descriptionField.ManagedAside
  | _ => True

instance (state : State) (event : Event) : Decidable (Aside state event) := by
  cases event <;> unfold Aside <;> infer_instance

/-- Editing does not begin with typed text that is the placeholder's, and with a photo the
button is tapped while the field shows the placeholder, or holds a text that is neither
blank nor the placeholder's. -/
def Told (form : CanonicalForm) (state : State) : Event → Prop
  | .textViewDidBeginEditing =>
      state.descriptionField.isDelegate = true ∧
        form.Same state.descriptionField.text placeholder → state.descriptionField.entered = ""
  | .shareTapped => state.selectedImage = true →
      state.descriptionField.Shows placeholder ∨
        trimmingCharacters state.descriptionField.text ≠ "" ∧
          ¬ form.Same (trimmingCharacters state.descriptionField.text) placeholder
  | _ => True

instance (form : CanonicalForm) (state : State) (event : Event) :
    Decidable (Told form state event) := by
  cases event <;> unfold Told <;> infer_instance

/-- When the photo has been classified, the field says what had been entered at the tap. -/
def Unchanged (state : State) : Pending → Answer → Prop
  | (tap, .visionRequest _), .classified _ _ =>
      trimmingCharacters state.descriptionField.text = trimmingCharacters tap.entered
  | _, _ => True

instance (state : State) (pending : Pending) (answer : Answer) :
    Decidable (Unchanged state pending answer) := by
  unfold Unchanged
  split <;> infer_instance

/-! ## The field -/

section Field

variable {form : CanonicalForm} {state next : State} {event : Event} {new : List Pending}

/-- The field keeps holding what the user has typed, or showing the placeholder. -/
theorem sound_acted (sound : state.descriptionField.Sound placeholder)
    (aside : Aside state event) (acted : Acted form state event next new) :
    next.descriptionField.Sound placeholder := by
  cases acted with
  | managed => exact APTextView.sound_managePlaceholder sound aside
  | begun after => exact after ▸ APTextView.sound_textViewDidBeginEditing sound
  | edited editing => exact APTextView.sound_edit sound editing
  | ended => exact APTextView.sound_textViewDidEndEditing sound
  | picked | tapped => exact sound

/-- The field stays sound in every step in which the placeholder is set aside. -/
theorem sound_step {uid : Uid} {config last : Config State Pending} {label : Label Event Answer}
    (sound : config.state.descriptionField.Sound placeholder)
    (aside : onState Aside (fun _ _ _ => True) config label)
    (taken : (screen form uid).step config label = some last) :
    last.state.descriptionField.Sound placeholder := by
  rcases Program.step_cases taken with
    ⟨event, new, rfl, handled, _⟩ | ⟨_, _, _, _, _, _, resumed, _⟩
  · exact sound_acted sound aside (handle_acted handled)
  · obtain ⟨outcome, _, same⟩ := Option.map_eq_some_iff.mp resumed
    rw [← (Prod.mk.inj same).1]
    exact sound

/-- A tap starts an upload exactly if there is a photo and the text is not the placeholder. -/
theorem wentOn_iff : (state.tap form).wentOn = true ↔ state.selectedImage = true ∧
    ¬ form.Same (trimmingCharacters state.descriptionField.text) placeholder := by
  simp only [State.tap, State.shared, Upload.shareTapped, placeholder]
  split_ifs <;> simp_all

/-- A tap starts an upload with its first request only. -/
theorem mem_shared {task : Upload.Task} (member : task ∈ state.shared form) :
    task = .getFamilyId ∧ (state.tap form).wentOn = true := by
  have went : (state.tap form).wentOn = true := by
    simp [State.tap, List.ne_nil_of_mem member]
  refine ⟨?_, went⟩
  simp only [State.shared, Upload.shareTapped] at member
  split_ifs at member <;> simp_all

/-- The placeholder is neither empty nor changed by trimming. -/
theorem trimmingCharacters_placeholder : trimmingCharacters placeholder = placeholder := by
  decide

theorem placeholder_ne_empty : placeholder ≠ "" := by decide

/-- A tap is fair exactly if it meets the condition. -/
theorem fair_tap_iff (sound : state.descriptionField.Sound placeholder) :
    (state.tap form).Fair form ↔ Told form state .shareTapped := by
  have goesOn : (state.tap form).wentOn = true ↔ state.selectedImage = true ∧
      ¬ form.Same (trimmingCharacters state.descriptionField.text) placeholder := wentOn_iff
  by_cases picked : state.selectedImage = true
  · by_cases shows : state.descriptionField.Shows placeholder
    · -- The placeholder is refused, and nothing has been entered.
      have refused : ¬ (state.tap form).wentOn = true := by
        rw [goesOn, APTextView.text_of_shows shows, trimmingCharacters_placeholder]
        exact fun both => both.2 (CanonicalForm.Same.refl _)
      have nothing : (state.tap form).entered = "" := APTextView.entered_of_shows shows
      refine iff_of_true ⟨iff_of_false refused ?_, fun went => absurd went refused⟩
        fun _ => Or.inl shows
      rintro ⟨_, filled⟩
      rw [nothing] at filled
      exact filled (by decide)
    · -- Otherwise the field holds what has been entered.
      have typed : state.descriptionField.AllTyped :=
        sound.resolve_right fun both => shows both.1
      have entered : (state.tap form).entered = state.descriptionField.text :=
        APTextView.entered_of_allTyped typed
      constructor
      · intro fair _
        have started := goesOn.symm.trans fair.goesOn
        rw [entered] at started
        by_cases same : form.Same (trimmingCharacters state.descriptionField.text) placeholder
        · have filled : trimmingCharacters state.descriptionField.text ≠ "" := by
            intro blank
            rw [blank] at same
            exact placeholder_ne_empty (CanonicalForm.same_empty.mp same.symm)
          exact absurd same (started.mpr ⟨picked, filled⟩).2
        · exact Or.inr ⟨(started.mp ⟨picked, same⟩).2, same⟩
      · intro told
        obtain ⟨filled, other⟩ := (told picked).resolve_left shows
        rw [← entered] at filled
        refine ⟨goesOn.trans (iff_of_true ⟨picked, other⟩ ⟨picked, filled⟩), fun _ => ?_⟩
        rwa [entered]
  · have refused : ¬ (state.tap form).wentOn = true := fun went => picked (goesOn.mp went).1
    refine iff_of_true ⟨iff_of_false refused ?_, fun went => absurd went refused⟩
      fun isPicked => absurd isPicked picked
    exact fun both => picked both.1

end Field

/-! ## One step -/

section Steps

variable {form : CanonicalForm} {uid : Uid} {before : Store} {config next : Config State Pending}

/-- What is due stays due with more taps. -/
theorem Due.mono {taps : List Tap} {pending : Pending} {tap : Tap} (due : Due taps pending) :
    Due (taps ++ [tap]) pending :=
  ⟨List.mem_append_left _ due.1, due.2⟩

theorem FromTap.mono {taps : List Tap} {post : Fields} {tap : Tap} (fromTap : FromTap taps post) :
    FromTap (taps ++ [tap]) post := by
  obtain ⟨earlier, member, described⟩ := fromTap
  exact ⟨earlier, List.mem_append_left _ member, described⟩

/-- Where no tap is made and no post is written, what is due decides. -/
theorem faithful_of_same (faithful : Faithful form before config)
    (taps : next.state.taps = config.state.taps) (store : next.state.store = config.state.store)
    (lost : next.state.lost = config.state.lost)
    (due : ∀ pending ∈ next.pool.tasks, Due config.state.taps pending) :
    Faithful form before next where
  fair := taps ▸ faithful.fair
  due := taps ▸ due
  stored := by
    rw [store, taps]
    exact faithful.stored
  kept := lost ▸ faithful.kept

/-- A beginning edit keeps descriptions faithful exactly if it loses no text. -/
theorem faithful_begun_iff {after : APTextView} (faithful : Faithful form before config)
    (begun : next.state = { config.state with
      descriptionField := after
      lost := config.state.lost ||
        decide (after.entered ≠ config.state.descriptionField.entered) })
    (tasks : next.pool.tasks = config.pool.tasks) :
    Faithful form before next ↔ after.entered = config.state.descriptionField.entered := by
  constructor
  · intro kept
    have lost := kept.kept
    rw [begun] at lost
    simpa [faithful.kept] using lost
  · intro same
    refine faithful_of_same faithful (by rw [begun]) (by rw [begun]) ?_ ?_
    · rw [begun]
      simp [same]
    · rw [tasks]
      exact faithful.due

/-- A tap keeps descriptions faithful exactly if it is fair. -/
theorem faithful_tapped_iff (faithful : Faithful form before config)
    (tapped : next.state = { config.state with
      taps := config.state.taps ++ [config.state.tap form] })
    (tasks : next.pool.tasks = config.pool.tasks ++
      (config.state.shared form).map fun task => (config.state.tap form, task)) :
    Faithful form before next ↔ (config.state.tap form).Fair form := by
  have taps : next.state.taps = config.state.taps ++ [config.state.tap form] := by rw [tapped]
  constructor
  · intro kept
    exact kept.fair (config.state.tap form) (by rw [taps]; simp)
  · intro fair
    refine ⟨?_, ?_, ?_, by rw [tapped]; exact faithful.kept⟩
    · intro tap member
      rw [taps, List.mem_append, List.mem_singleton] at member
      exact member.elim (faithful.fair tap) fun new => new ▸ fair
    · intro pending member
      rw [tasks, List.mem_append] at member
      rw [taps]
      rcases member with waiting | issued
      · exact (faithful.due pending waiting).mono
      · obtain ⟨task, isShared, rfl⟩ := List.mem_map.mp issued
        obtain ⟨rfl, went⟩ := mem_shared isShared
        exact ⟨by simp, went, fun id post isWrite => by simp at isWrite⟩
    · intro id post found
      rw [tapped] at found
      rw [taps]
      exact (faithful.stored id post found).imp_right FromTap.mono

/-- An event keeps descriptions faithful exactly if it meets the condition. -/
theorem faithful_acted_iff {event : Event} {new : List Pending}
    (faithful : Faithful form before config)
    (sound : config.state.descriptionField.Sound placeholder)
    (acted : Acted form config.state event next.state new)
    (tasks : next.pool.tasks = config.pool.tasks ++ new) :
    Faithful form before next ↔ Told form config.state event := by
  generalize same : next.state = state at acted
  cases acted with
  | managed | edited | ended | picked =>
      refine iff_of_true ?_ trivial
      refine faithful_of_same faithful (by rw [same]) (by rw [same]) (by rw [same]) ?_
      rw [tasks, List.append_nil]
      exact faithful.due
  | begun after =>
      rw [List.append_nil] at tasks
      rw [faithful_begun_iff faithful same tasks, after]
      exact APTextView.entered_textViewDidBeginEditing_iff
  | tapped => rw [faithful_tapped_iff faithful same tasks, fair_tap_iff sound]

/-- An answer that writes no post keeps descriptions faithful exactly if what it issues is
due. -/
theorem faithful_issued_iff {ticket : ℕ} {new : List Pending}
    (faithful : Faithful form before config) (taps : next.state.taps = config.state.taps)
    (store : next.state.store = config.state.store) (lost : next.state.lost = config.state.lost)
    (tasks : next.pool.tasks = (config.pool.remove ticket).tasks ++ new) :
    Faithful form before next ↔ ∀ pending ∈ new, Due config.state.taps pending := by
  constructor
  · intro kept pending issued
    rw [← taps]
    exact kept.due pending (tasks ▸ List.mem_append_right _ issued)
  · intro due
    refine faithful_of_same faithful taps store lost fun other member => ?_
    rw [tasks, List.mem_append] at member
    rcases member with remains | issued
    · exact faithful.due other (Pool.mem_tasks_of_mem_remove remains)
    · exact due other issued

/-- The write of a due post keeps descriptions faithful. -/
theorem faithful_saved {ticket : ℕ} {tap : Tap} {id : String} {post : Fields}
    (faithful : Faithful form before config)
    (due : Due config.state.taps (tap, .setData id post))
    (taps : next.state.taps = config.state.taps) (lost : next.state.lost = config.state.lost)
    (store : next.state.store =
      { config.state.store with posts := config.state.store.posts.set id post })
    (tasks : next.pool.tasks = (config.pool.remove ticket).tasks) :
    Faithful form before next := by
  refine ⟨taps ▸ faithful.fair, ?_, ?_, lost ▸ faithful.kept⟩
  · rw [tasks, taps]
    exact fun other remains => faithful.due other (Pool.mem_tasks_of_mem_remove remains)
  · intro other fields isStored
    rw [store, Collection.get?_set] at isStored
    rw [taps]
    split_ifs at isStored
    · right
      rw [← Option.some.inj isStored]
      exact ⟨tap, due.1, due.2.1, due.2.2 id post rfl⟩
    · exact faithful.stored other fields isStored

/-- The write that follows a due request is due itself exactly if it writes the description
of the tap. -/
theorem due_setData_iff {taps : List Tap} {tap : Tap} {task : Upload.Task} {id : String}
    {post : Fields} (due : Due taps (tap, task)) :
    Due taps (tap, .setData id post) ↔ Describes post tap.entered := by
  constructor
  · intro isDue
    exact isDue.2.2 id post rfl
  · intro described
    refine ⟨due.1, due.2.1, fun other fields isWrite => ?_⟩
    obtain ⟨rfl, rfl⟩ := Upload.Task.setData.inj isWrite
    exact described

/-- An answer keeps descriptions faithful exactly if the field says the same as at the tap
when the photo is classified. -/
theorem faithful_resume_iff {ticket : ℕ} {pending : Pending} {answer : Answer}
    {new : List Pending} (faithful : Faithful form before config)
    (found : config.pool.find? ticket = some pending)
    (resumed : resume uid config.state pending answer = some (next.state, new))
    (tasks : next.pool.tasks = (config.pool.remove ticket).tasks ++ new) :
    Faithful form before next ↔ Unchanged config.state pending answer := by
  obtain ⟨tap, task⟩ := pending
  have mine : Due config.state.taps (tap, task) :=
    faithful.due _ (Pool.mem_tasks_of_find? found)
  obtain ⟨outcome, ran, same⟩ := Option.map_eq_some_iff.mp resumed
  obtain ⟨after, rfl⟩ := Prod.mk.inj same
  have taps : next.state.taps = config.state.taps := by rw [← after]
  have lost : next.state.lost = config.state.lost := by rw [← after]
  have isStore : next.state.store = outcome.store := by rw [← after]
  rcases Upload.resume_cases ran with
    ⟨store, quiet, unread⟩ | ⟨familyId, read, id, rfl, isRead, store, issued⟩ |
      ⟨id, post, rfl, answered, store, issued⟩
  · have unchanged : Unchanged config.state (tap, task) answer := by
      unfold Unchanged
      split
      · exact absurd rfl (unread _ _)
      · trivial
    rw [faithful_issued_iff faithful taps (isStore.trans store) lost tasks]
    refine iff_of_true (fun other member => ?_) unchanged
    obtain ⟨request, isNext, rfl⟩ := List.mem_map.mp member
    refine ⟨mine.1, mine.2.1, fun id post isWrite => ?_⟩
    obtain rfl : request = .setData id post := isWrite
    exact absurd isNext (quiet id post)
  · obtain ⟨draft, rfl, rfl⟩ : ∃ draft : Draft, answer = .classified draft id ∧
        read = { draft with description := config.state.descriptionField.text } := by
      cases answer <;> simp_all [State.read]
    rw [faithful_issued_iff faithful taps (isStore.trans store) lost tasks, issued,
      List.map_singleton, List.forall_mem_singleton, due_setData_iff mine]
    -- the post is described by the field as it is now
    constructor
    · intro described
      exact Option.some.inj described
    · intro unchanged
      exact congrArg some unchanged
  · refine iff_of_true ?_ ?_
    · rw [issued, List.map_nil, List.append_nil] at tasks
      refine faithful_saved faithful mine taps lost ?_ tasks
      rw [isStore, store]
    · cases answer <;> trivial

end Steps

/-! ## All runs -/

/-- In every run of the upload screen, with any edits, taps and answers in any order, in
which `managePlaceholder` does not find an empty field that is being edited, descriptions
are what the user has typed exactly if with a photo the button is tapped on the placeholder
or on a text that is neither blank nor the placeholder's, the field says the same when the
photo has been classified, and editing does not begin with typed text that is the
placeholder's. -/
theorem description_faithful_iff (form : CanonicalForm) (uid : Uid) (before : Store)
    {labels : List (Label Event Answer)} {last : Config State Pending}
    (ran : (screen form uid).run (Program.start (.opened before)) labels = some last)
    (aside : (screen form uid).Obeys (onState Aside fun _ _ _ => True)
      (Program.start (.opened before)) labels) :
    (screen form uid).Always (Faithful form before) (Program.start (.opened before)) labels ↔
      (screen form uid).Obeys (onState (Told form) Unchanged)
        (Program.start (.opened before)) labels := by
  have start : Faithful form before (Program.start (.opened before)) :=
    ⟨fun tap member => by simp [Program.start, State.opened] at member,
      fun pending member => by simp [Program.start] at member,
      fun id post found => Or.inl found, rfl⟩
  have sound : (screen form uid).Obeys
      (fun config _ => config.state.descriptionField.Sound placeholder)
      (Program.start (.opened before)) labels :=
    Program.obeys_of_invariant (fun config => config.state.descriptionField.Sound placeholder)
      (fun held _ => held) sound_step APTextView.sound_opened aside
  refine Program.always_iff_obeys ?_ start sound ran
  intro config label next faithful held taken
  rcases Program.step_cases taken with
    ⟨event, new, rfl, handled, tasks⟩ | ⟨ticket, answer, pending, new, rfl, found, resumed, tasks⟩
  · exact faithful_acted_iff faithful held (handle_acted handled) tasks
  · rw [faithful_resume_iff faithful found resumed tasks]
    simp [onState, found]

/-! ## A tap while the field is being edited -/

/-- The user who shares. -/
def sharer : Uid := ⟨"uidSharer", by decide, by decide⟩

/-- The user document of that user, who has a family. -/
def sharing : Store :=
  { Store.empty with
    users := (Store.empty.users).set sharer (AppendFamily.updated (userData "" "" sharer) "f" []) }

/-- The photo has been uploaded, is classified and the post is written. -/
def answered : List (Label Event Answer) := [
  .answer 3 (.classified ⟨"", "url", 1, "cat", "0.90%"⟩ "post"),
  .answer 4 .succeeded]

/-- A photo is picked, a text is typed, and the button tapped. -/
def typedShare : List (Label Event Answer) := [
  .event .didFinishPicking, .event .managePlaceholder, .event .textViewDidBeginEditing,
  .event (.edit 0 0 " A vase "), .event .shareTapped,
  .answer 0 .succeeded, .answer 1 .succeeded, .answer 2 .succeeded] ++ answered

/-- The post is described by the text. -/
theorem description_faithful_iff_typed :
    (screen .scalars sharer).Always (Faithful .scalars sharing)
      (Program.start (.opened sharing)) typedShare := by
  obtain ⟨last, ran, _⟩ : ∃ last, (screen .scalars sharer).run
      (Program.start (.opened sharing)) typedShare = some last ∧ True :=
    Program.exists_run (by decide)
  exact (description_faithful_iff .scalars sharer sharing ran (by decide)).mpr (by decide)

/-- The button is tapped with a photo while the empty field is being edited. -/
def blankShare : List (Label Event Answer) := [
  .event .didFinishPicking, .event .managePlaceholder, .event .textViewDidBeginEditing,
  .event .shareTapped,
  .answer 0 .succeeded, .answer 1 .succeeded, .answer 2 .succeeded] ++ answered

/-- The text is taken back and editing ends between the tap and the classification. -/
def takenBack : List (Label Event Answer) := [
  .event .didFinishPicking, .event .managePlaceholder, .event .textViewDidBeginEditing,
  .event (.edit 0 0 "A vase"), .event .shareTapped,
  .answer 0 .succeeded, .answer 1 .succeeded, .answer 2 .succeeded,
  .event (.edit 0 6 ""), .event .textViewDidEndEditing] ++ answered

/-- The placeholder's text is typed, and the field is edited once more. -/
def typedPlaceholder : List (Label Event Answer) := [
  .event .managePlaceholder, .event .textViewDidBeginEditing,
  .event (.edit 0 0 placeholder), .event .textViewDidEndEditing,
  .event .textViewDidBeginEditing]

/-- What the post that has been written says. -/
def described? (last : Config State Pending) : Option String :=
  (last.state.store.posts.get? "post").bind fun post => post.string? "description"

/-- A post with an empty description is stored, one with the placeholder, and a text is lost
when editing begins again. -/
theorem description_not_what_was_typed :
    (∃ last, (screen .scalars sharer).run (Program.start (.opened sharing)) blankShare =
        some last ∧ described? last = some "" ∧ ¬ Faithful .scalars sharing last) ∧
      (∃ last, (screen .scalars sharer).run (Program.start (.opened sharing)) takenBack =
        some last ∧ described? last = some placeholder ∧ ¬ Faithful .scalars sharing last) ∧
      ∃ last, (screen .scalars sharer).run (Program.start (.opened sharing)) typedPlaceholder =
        some last ∧ last.state.lost = true ∧ ¬ Faithful .scalars sharing last := by
  refine ⟨?_, ?_, ?_⟩
  · obtain ⟨last, ran, stored, taps⟩ : ∃ last, (screen .scalars sharer).run
        (Program.start (.opened sharing)) blankShare = some last ∧
          described? last = some "" ∧ last.state.taps = [⟨true, "", true⟩] :=
      Program.exists_run (by decide)
    refine ⟨last, ran, stored, fun faithful => ?_⟩
    have fair := faithful.fair ⟨true, "", true⟩ (taps ▸ List.mem_singleton_self _)
    exact (fair.goesOn.mp rfl).2 (by decide)
  · obtain ⟨last, ran, stored, taps⟩ : ∃ last, (screen .scalars sharer).run
        (Program.start (.opened sharing)) takenBack = some last ∧
          described? last = some placeholder ∧ last.state.taps = [⟨true, "A vase", true⟩] :=
      Program.exists_run (by decide)
    refine ⟨last, ran, stored, fun faithful => ?_⟩
    obtain ⟨post, found, isPlaceholder⟩ := Option.bind_eq_some_iff.mp stored
    rcases faithful.stored "post" post found with old | ⟨tap, member, _, described⟩
    · simp [sharing, Store.empty] at old
    · rw [taps, List.mem_singleton] at member
      rw [member, Describes, isPlaceholder] at described
      exact absurd described (by decide)
  · obtain ⟨last, ran, lost⟩ : ∃ last, (screen .scalars sharer).run
        (Program.start (.opened sharing)) typedPlaceholder = some last ∧
          last.state.lost = true :=
      Program.exists_run (by decide)
    refine ⟨last, ran, lost, fun faithful => ?_⟩
    exact absurd (lost.symm.trans faithful.kept) (by decide)

end Familog.Editing.Description
