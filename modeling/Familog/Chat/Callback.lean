import Familog.Chat.Controller

/-!
Contract: what a callback of the chat can do.

Owns the list of everything a delivered change, an answer and an event can do; what
answers never undo; and the rule by which an invariant passes through the changes
of a snapshot.

Does not own any particular invariant.
-/

set_option autoImplicit false

namespace Familog.Chat

open Async Firestore

/-! ## What a callback can do -/

section Effects

variable {Url Image : Type} {bucket : Bucket Url Image} {channel : Channel}

/-- Everything that a change can do which is delivered and handled. -/
inductive Handled (bucket : Bucket Url Image) (state : State Url Image)
    (change : DocumentChange String) : State Url Image → List (Task Url) → Prop where
  | trapped : demand? bucket change.document = none → Handled bucket state change state.trap []
  | asked {url} : demand? bucket change.document = some (.downloadImage url) →
      Handled bucket state change (state.deliver [change]) [.downloadImage url change]
  | inserted {message} : demand? bucket change.document = some (.insertNewMessage message) →
      Handled bucket state change ((state.deliver [change]).insert change message) []

@[simp] theorem deliver_nil (state : State Url Image) : state.deliver [] = state := by
  simp [State.deliver]

theorem deliver_append (state : State Url Image) (old new : List (DocumentChange String)) :
    (state.deliver old).deliver new = state.deliver (old ++ new) := by
  simp [State.deliver]

/-- The loop does not look at what is recorded. -/
theorem forEach_deliver (state : State Url Image) (before : List (DocumentChange String)) :
    ∀ changes : List (DocumentChange String), forEach bucket (state.deliver before) changes =
      ((forEach bucket state changes).1.deliver before, (forEach bucket state changes).2) := by
  intro changes
  induction changes generalizing state with
  | nil => rfl
  | cons change rest inductionHypothesis =>
      have here : handleDocumentChange bucket (state.deliver before) change =
          ((handleDocumentChange bucket state change).1.deliver before,
            (handleDocumentChange bucket state change).2) := by
        unfold handleDocumentChange
        cases demand? bucket change.document with
        | none => rfl
        | some demand => cases demand <;> rfl
      have trapped : ((handleDocumentChange bucket state change).1.deliver before).trapped =
          (handleDocumentChange bucket state change).1.trapped := rfl
      simp only [forEach, here, trapped, inductionHypothesis]
      split_ifs <;> rfl

/-- Where the loop over the changes of a snapshot stands: the state, in which the changes
so far are delivered, what the listener has delivered, and the downloads that have been
started. -/
structure Loop (Url Image : Type) where
  state : State Url Image
  view : Collection String
  started : List (Task Url)

/-- The loop with the effects of one more change. -/
def Loop.next (loop : Loop Url Image) (change : DocumentChange String) (next : State Url Image)
    (new : List (Task Url)) : Loop Url Image :=
  { state := next
    view := if next.trapped then loop.view else change.applied loop.view
    started := loop.started ++ new }

/-- The loop at its end. -/
def Loop.last (bucket : Bucket Url Image) (loop : Loop Url Image)
    (documentChanges : List (DocumentChange String)) : Loop Url Image where
  state := (forEach bucket loop.state documentChanges).1.deliver (survived bucket documentChanges)
  view := appliedAll (survived bucket documentChanges) loop.view
  started := loop.started ++ (forEach bucket loop.state documentChanges).2

/-- A change that is survived has been delivered by the listener. -/
theorem view_next {loop : Loop Url Image} {change : DocumentChange String}
    {next : State Url Image} {new : List (Task Url)} (running : next.trapped = false) :
    (loop.next change (next.deliver [change]) new).view = change.applied loop.view :=
  if_neg (by simp [State.deliver, running])

/-- A change that is survived starts a download or inserts its message. -/
theorem handled_of_demanded (state : State Url Image) {change : DocumentChange String}
    (demanded : (demand? bucket change.document).isSome) :
    ∃ next new, handleDocumentChange bucket state change = (next, new) ∧
      next.trapped = state.trapped ∧ next.thread = state.thread ∧
      Handled bucket state change (next.deliver [change]) new := by
  obtain ⟨asked, demand⟩ := Option.isSome_iff_exists.mp demanded
  cases asked with
  | downloadImage url =>
      exact ⟨state, [.downloadImage url change], by simp [handleDocumentChange, demand], rfl, rfl,
        .asked demand⟩
  | insertNewMessage message =>
      exact ⟨state.insert change message, [], by simp [handleDocumentChange, demand], rfl, rfl,
        .inserted demand⟩

/-- A change that is survived is handled before the others. -/
theorem last_of_handled {loop : Loop Url Image} {change : DocumentChange String}
    {next : State Url Image} {new : List (Task Url)} {rest : List (DocumentChange String)}
    (running : next.trapped = false)
    (result : handleDocumentChange bucket loop.state change = (next, new))
    (demanded : (demand? bucket change.document).isSome) :
    loop.last bucket (change :: rest) =
      (loop.next change (next.deliver [change]) new).last bucket rest := by
  simp only [Loop.last, view_next running]
  simp [Loop.next, forEach, result, running, survived, demanded, forEach_deliver, deliver_append,
    appliedAll]

/-- What every handled change keeps holds after the loop. -/
theorem forEach_invariant (inv : Loop Url Image → Prop)
    (kept : ∀ {loop : Loop Url Image} {type : ChangeType} {key : String}
      {change : DocumentChange String} {next : State Url Image} {new : List (Task Url)}, inv loop →
      change? loop.state.thread loop.view type key = some change →
      Handled bucket loop.state change next new → inv (loop.next change next new)) :
    ∀ {changes : List (ChangeType × String)} {loop : Loop Url Image}
      {documentChanges : List (DocumentChange String)}, inv loop → loop.state.trapped = false →
      documentChanges? loop.state.thread loop.view changes = some documentChanges →
      inv (loop.last bucket documentChanges)
  | [], loop, documentChanges, holds, _, found => by
      obtain rfl : [] = documentChanges := Option.some.inj found
      simpa [Loop.last, forEach, survived, appliedAll] using holds
  | (type, key) :: rest, loop, documentChanges, holds, running, found => by
      obtain ⟨change, here, mapped⟩ := Option.bind_eq_some_iff.mp found
      obtain ⟨later, foundLater, rfl⟩ := Option.map_eq_some_iff.mp mapped
      cases demand : demand? bucket change.document with
      | none =>
          have ended := kept holds here (.trapped demand)
          have trapped : handleDocumentChange bucket loop.state change = (loop.state.trap, []) := by
            simp [handleDocumentChange, demand]
          have last : loop.last bucket (change :: later) =
              loop.next change loop.state.trap [] := by
            simp [Loop.last, Loop.next, forEach, trapped, State.trap, survived, demand, appliedAll]
          rwa [last]
      | some asked =>
          have demanded : (demand? bucket change.document).isSome := by simp [demand]
          obtain ⟨next, new, result, trapped, thread, handled⟩ :=
            handled_of_demanded loop.state demanded
          have still : next.trapped = false := trapped.trans running
          rw [last_of_handled still result demanded]
          have onward : documentChanges? next.thread
              (loop.next change (next.deliver [change]) new).view rest = some later := by
            rw [thread, view_next still]
            exact foundLater
          exact forEach_invariant inv kept (kept holds here handled) still onward

/-- Everything an answered request can do. -/
inductive Answered (bucket : Bucket Url Image) (state : State Url Image) :
    Task Url → Answer → State Url Image → List (Task Url) → Prop where
  | listenerFailed {limit view} :
      Answered bucket state (.listener limit view) .failed state [.listener limit view]
  | delivered {limit view changes documentChanges} : state.trapped = false →
      documentChanges? state.thread view changes = some documentChanges →
      Answered bucket state (.listener limit view) (.snapshot changes)
        (snapshotReceived bucket state limit view documentChanges).1
        (snapshotReceived bucket state limit view documentChanges).2
  | downloadFailed {url change answer} :
      answer = .failed ∨ answer = .data ∧ bucket.image? url = none →
      Answered bucket state (.downloadImage url change) answer (state.fail change) []
  | loadedFaulty {url change image} : bucket.image? url = some image →
      completed? bucket change.document image = none →
      Answered bucket state (.downloadImage url change) .data state.trap []
  | loaded {url change image message} : bucket.image? url = some image →
      completed? bucket change.document image = some message →
      Answered bucket state (.downloadImage url change) .data
        ((state.succeed change).insert change message) []

theorem answered_of_resume {state next : State Url Image} {task : Task Url} {answer : Answer}
    {new : List (Task Url)}
    (resumed : (program bucket channel).resume state task answer = some (next, new)) :
    Answered bucket state task answer next new := by
  obtain ⟨running, live⟩ : state.trapped = false ∧
      resume bucket state task answer = some (next, new) := by
    simp only [program] at resumed
    split_ifs at resumed with trapped
    exact ⟨by simpa using trapped, resumed⟩
  cases task with
  | listener limit view =>
      cases answer with
      | failed =>
          obtain ⟨rfl, rfl⟩ := Prod.mk.inj (Option.some.inj live)
          exact .listenerFailed
      | snapshot changes =>
          obtain ⟨documentChanges, found, equal⟩ := Option.map_eq_some_iff.mp live
          obtain ⟨rfl, rfl⟩ := Prod.mk.inj equal
          exact .delivered running found
      | data => simp [resume] at live
  | downloadImage url change =>
      cases answer with
      | failed =>
          obtain ⟨rfl, rfl⟩ := Prod.mk.inj (Option.some.inj live)
          exact .downloadFailed (Or.inl rfl)
      | snapshot changes => simp [resume] at live
      | data =>
          simp only [resume] at live
          cases stored : bucket.image? url with
          | none =>
              simp only [stored] at live
              obtain ⟨rfl, rfl⟩ := Prod.mk.inj (Option.some.inj live)
              exact .downloadFailed (Or.inr ⟨rfl, stored⟩)
          | some image =>
              simp only [stored, imageLoaded] at live
              cases read : completed? bucket change.document image with
              | none =>
                  simp only [read, State.trap, if_true] at live
                  obtain ⟨rfl, rfl⟩ := Prod.mk.inj (Option.some.inj live)
                  exact .loadedFaulty stored read
              | some message =>
                  have still : (state.insert change message).trapped = false := running
                  simp only [read, still, Bool.false_eq_true, if_false] at live
                  obtain ⟨rfl, rfl⟩ := Prod.mk.inj (Option.some.inj live)
                  exact .loaded stored read

/-- Everything an event can do. -/
inductive Occurred (state : State Url Image) :
    Event → State Url Image → List (Task Url) → Prop where
  | fetched {event limit new} : event = .viewDidLoad ∨ event = .refresh →
      (∀ task ∈ new, task = .listener limit ∅) →
      Occurred state event { state with massageNumber := limit } new
  | written {documentID data} :
      Occurred state (.write documentID data)
        { state with thread := state.thread.set documentID data } []
  | deleted {documentID} :
      Occurred state (.delete documentID)
        { state with thread := state.thread.erase documentID } []

theorem fetchmessages_eq (state : State Url Image) :
    fetchmessages channel state =
      (state, if channel.id = none then [] else [.listener state.massageNumber ∅]) := by
  unfold fetchmessages
  cases channel.id <;> simp

theorem handle_eq {state next : State Url Image} {event : Event} {new : List (Task Url)}
    (handled : (program bucket channel).handle state event = some (next, new)) :
    (handle channel state event).1 = next ∧ (handle channel state event).2 = new := by
  simp only [program] at handled
  split_ifs at handled
  exact Prod.ext_iff.mp (Option.some.inj handled)

theorem occurred_of_handle {state next : State Url Image} {event : Event} {new : List (Task Url)}
    (handled : (program bucket channel).handle state event = some (next, new)) :
    Occurred state event next new := by
  obtain ⟨rfl, rfl⟩ := handle_eq handled
  have listeners : ∀ limit : Nat, ∀ task ∈
      (if channel.id = none then [] else [(.listener limit ∅ : Task Url)]),
      task = .listener limit ∅ := by
    intro limit task member
    split_ifs at member
    · simp at member
    · exact List.mem_singleton.mp member
  cases event with
  | viewDidLoad =>
      rw [handle, fetchmessages_eq]
      exact .fetched (Or.inl rfl) (listeners state.massageNumber)
  | refresh =>
      rw [handle, refresh, fetchmessages_eq]
      exact .fetched (Or.inr rfl) (listeners (state.massageNumber + 15))
  | write documentID data => exact .written
  | delete documentID => exact .deleted

/-! ## What answers do not undo -/

/-- A message with the id is in the list. -/
def Listed (state : State Url Image) (documentID : String) : Prop :=
  ∃ message ∈ state.messages, message.id = some documentID

/-- The document's message goes in as soon as the document is delivered. -/
def Immediate (bucket : Bucket Url Image) (document : Document String) : Prop :=
  ∃ message, demand? bucket document = some (.insertNewMessage message)

/-- The message of the change has been ready: a text when the change was delivered, a
photo when its download ended well. -/
def Ready (bucket : Bucket Url Image) (state : State Url Image)
    (change : DocumentChange String) : Prop :=
  (change ∈ state.delivered ∧ Immediate bucket change.document) ∨ change ∈ state.succeeded

theorem not_immediate_of_download {document : Document String} {url : Url}
    (demand : demand? bucket document = some (.downloadImage url)) :
    ¬ Immediate bucket document := by
  rintro ⟨message, immediate⟩
  rw [demand] at immediate
  simp at immediate

theorem ready_deliver {state : State Url Image} {change other : DocumentChange String} :
    Ready bucket (state.deliver [change]) other ↔
      Ready bucket state other ∨ other = change ∧ Immediate bucket change.document := by
  unfold Ready State.deliver
  constructor
  · rintro (⟨member, immediate⟩ | succeeded)
    · rcases List.mem_append.mp member with old | new
      · exact Or.inl (Or.inl ⟨old, immediate⟩)
      · have here : other = change := List.mem_singleton.mp new
        exact Or.inr ⟨here, here ▸ immediate⟩
    · exact Or.inl (Or.inr succeeded)
  · rintro ((⟨member, immediate⟩ | succeeded) | ⟨rfl, immediate⟩)
    · exact Or.inl ⟨List.mem_append_left _ member, immediate⟩
    · exact Or.inr succeeded
    · exact Or.inl ⟨List.mem_append_right _ (List.mem_singleton_self _), immediate⟩

theorem ready_succeed {state : State Url Image} {change other : DocumentChange String} :
    Ready bucket (state.succeed change) other ↔ Ready bucket state other ∨ other = change := by
  simp [Ready, State.succeed, or_assoc]

/-- Messages and delivered changes have only been added. -/
structure Adds (before after : State Url Image) : Prop where
  messages : before.messages ⊆ after.messages
  delivered : before.delivered ⊆ after.delivered

/-- What an answer does not undo: besides, the thread and the limit are the same. -/
structure Grows (before after : State Url Image) : Prop extends Adds before after where
  thread : after.thread = before.thread
  massageNumber : after.massageNumber = before.massageNumber

theorem Adds.refl (state : State Url Image) : Adds state state :=
  ⟨List.Subset.refl _, List.Subset.refl _⟩

theorem Adds.listed {before after : State Url Image} (adds : Adds before after)
    {documentID : String} (listed : Listed before documentID) : Listed after documentID := by
  obtain ⟨message, member, isIt⟩ := listed
  exact ⟨message, adds.messages member, isIt⟩

theorem Grows.refl (state : State Url Image) : Grows state state :=
  ⟨Adds.refl state, rfl, rfl⟩

theorem Grows.trans {first second third : State Url Image} (left : Grows first second)
    (right : Grows second third) : Grows first third where
  messages := List.Subset.trans left.messages right.messages
  delivered := List.Subset.trans left.delivered right.delivered
  thread := right.thread.trans left.thread
  massageNumber := right.massageNumber.trans left.massageNumber

section Insert

variable {state : State Url Image} {change : DocumentChange String} {message : Message Url Image}
  {documentID : String}

theorem containsKey_iff_listed (isOf : message.id = some documentID) :
    Swift.containsKey Message.id state.messages message = true ↔ Listed state documentID := by
  rw [Swift.containsKey_iff, isOf]
  rfl

theorem listed_insert (isOf : message.id = some documentID) :
    Listed (state.insert change message) documentID := by
  obtain ⟨other, member, same⟩ : ∃ other ∈ (state.insert change message).messages,
      other.id = message.id := Swift.exists_mem_insertNew
  exact ⟨other, member, same.trans isOf⟩

theorem insert_of_listed (isOf : message.id = some documentID)
    (listed : Listed state documentID) : state.insert change message = state := by
  have contained := (containsKey_iff_listed isOf).mpr listed
  unfold State.insert insertNewMessage
  rw [Swift.insertNew_of_contained contained, if_pos contained]

theorem mem_insert {other : Message Url Image} (isOf : message.id = some documentID) :
    other ∈ (state.insert change message).messages ↔
      other ∈ state.messages ∨ ¬ Listed state documentID ∧ other = message := by
  have members : other ∈ (state.insert change message).messages ↔ _ := Swift.mem_insertNew
  rw [members, ← containsKey_iff_listed isOf, Bool.not_eq_true]

theorem additions_insert (isOf : message.id = some documentID)
    (unlisted : ¬ Listed state documentID) :
    (state.insert change message).additions = state.additions ++ [change] := by
  have absent : Swift.containsKey Message.id state.messages message = false := by
    rw [← Bool.not_eq_true, containsKey_iff_listed isOf]
    exact unlisted
  simp [State.insert, absent]

/-- An insertion that is not skipped shows its message and counts as an addition. -/
theorem added_insert (change : DocumentChange String) (isOf : message.id = some documentID)
    (unlisted : ¬ Listed state documentID) :
    message ∈ (state.insert change message).messages ∧
      change ∈ (state.insert change message).additions := by
  refine ⟨(mem_insert isOf).mpr (Or.inr ⟨unlisted, rfl⟩), ?_⟩
  rw [additions_insert isOf unlisted]
  exact List.mem_append_right _ (List.mem_singleton_self change)

@[simp] theorem ready_insert {other : DocumentChange String} :
    Ready bucket (state.insert change message) other ↔ Ready bucket state other :=
  Iff.rfl

theorem grows_insert : Grows state (state.insert change message) :=
  ⟨⟨fun _ member => Swift.mem_insertNew.mpr (Or.inl member), List.Subset.refl _⟩, rfl, rfl⟩

end Insert

theorem grows_deliver (state : State Url Image) (changes : List (DocumentChange String)) :
    Grows state (state.deliver changes) :=
  ⟨⟨List.Subset.refl _, List.subset_append_left _ _⟩, rfl, rfl⟩

theorem grows_succeed (state : State Url Image) (change : DocumentChange String) :
    Grows state (state.succeed change) :=
  ⟨⟨List.Subset.refl _, List.Subset.refl _⟩, rfl, rfl⟩

theorem grows_fail (state : State Url Image) (change : DocumentChange String) :
    Grows state (state.fail change) :=
  ⟨⟨List.Subset.refl _, List.Subset.refl _⟩, rfl, rfl⟩

theorem grows_trap (state : State Url Image) : Grows state state.trap :=
  ⟨⟨List.Subset.refl _, List.Subset.refl _⟩, rfl, rfl⟩

theorem grows_of_handled {state next : State Url Image} {change : DocumentChange String}
    {new : List (Task Url)} (handled : Handled bucket state change next new) :
    Grows state next := by
  cases handled with
  | trapped _ => exact grows_trap state
  | asked _ => exact grows_deliver state [change]
  | inserted _ => exact (grows_deliver state [change]).trans grows_insert

theorem grows_of_answered {state next : State Url Image} {task : Task Url} {answer : Answer}
    {new : List (Task Url)} (answered : Answered bucket state task answer next new) :
    Grows state next := by
  cases answered with
  | listenerFailed => exact Grows.refl state
  | @delivered limit view changes documentChanges running found =>
      have ended : Grows state (Loop.last bucket ⟨state, view, []⟩ documentChanges).state :=
        forEach_invariant (fun loop => Grows state loop.state)
          (fun held _ handled => held.trans (grows_of_handled handled)) (Grows.refl state) running
          found
      exact ended
  | downloadFailed _ => exact grows_fail state _
  | loadedFaulty _ _ => exact grows_trap state
  | loaded _ _ => exact (grows_succeed state _).trans grows_insert

theorem adds_of_occurred {state next : State Url Image} {event : Event} {new : List (Task Url)}
    (occurred : Occurred state event next new) : Adds state next := by
  cases occurred <;> exact ⟨List.Subset.refl _, List.Subset.refl _⟩

/-! ## The rule of the chat -/

/-- What a pending request relies on: `seen` of every document a listener has
delivered, and `wanted` of a download. -/
def Pending (seen : Document String → Prop) (wanted : Url → DocumentChange String → Prop) :
    Task Url → Prop
  | .listener _ view => ∀ documentID data, view.get? documentID = some data →
      seen ⟨documentID, data⟩
  | .downloadImage url change => wanted url change

/-- An invariant of the state with assertions for the delivered documents and the
downloads. `changed` is about the handling of one change, which carries the stored
document or one that was delivered before; `occurred` and `answered` are about an
event and an answered download that meet the condition. -/
structure Rule (bucket : Bucket Url Image) (atEvent : State Url Image → Event → Prop)
    (atAnswer : State Url Image → Task Url → Answer → Prop) where
  inv : State Url Image → Prop
  seen : State Url Image → Document String → Prop
  wanted : State Url Image → Url → DocumentChange String → Prop
  seen_adds : ∀ {before after : State Url Image} {document : Document String},
    Adds before after → seen before document → seen after document
  wanted_adds : ∀ {before after : State Url Image} {url : Url} {change : DocumentChange String},
    Adds before after → wanted before url change → wanted after url change
  changed : ∀ {state next : State Url Image} {change : DocumentChange String}
      {new : List (Task Url)},
    inv state →
    (change.type ≠ .removed →
      state.thread.get? change.document.documentID = some change.document.data) →
    (change.type = .removed → seen state change.document) →
    Handled bucket state change next new →
    inv next ∧ seen next change.document ∧
      ∀ task ∈ new, Pending (seen next) (wanted next) task
  occurred : ∀ {state next : State Url Image} {event : Event} {new : List (Task Url)},
    inv state → atEvent state event → Occurred state event next new → inv next
  answered : ∀ {state next : State Url Image} {url : Url} {change : DocumentChange String}
      {answer : Answer} {new : List (Task Url)},
    inv state → wanted state url change → atAnswer state (.downloadImage url change) answer →
    Answered bucket state (.downloadImage url change) answer next new → inv next ∧ new = []

namespace Rule

variable {atEvent : State Url Image → Event → Prop}
  {atAnswer : State Url Image → Task Url → Answer → Prop}

/-- The assertion of a pending request. -/
def need (rule : Rule bucket atEvent atAnswer) (state : State Url Image) : Task Url → Prop :=
  Pending (rule.seen state) (rule.wanted state)

/-- Where the loop over the changes of a snapshot stands. -/
structure Holds (rule : Rule bucket atEvent atAnswer) (loop : Loop Url Image) : Prop where
  inv : rule.inv loop.state
  view : ∀ documentID data, loop.view.get? documentID = some data →
    rule.seen loop.state ⟨documentID, data⟩
  started : ∀ task ∈ loop.started, rule.need loop.state task

variable {rule : Rule bucket atEvent atAnswer}

theorem need_adds {before after : State Url Image} {task : Task Url} (adds : Adds before after)
    (need : rule.need before task) : rule.need after task := by
  cases task with
  | listener limit view =>
      intro documentID data found
      exact rule.seen_adds adds (need documentID data found)
  | downloadImage url change => exact rule.wanted_adds adds need

theorem Holds.next {loop : Loop Url Image} {type : ChangeType} {key : String}
    {change : DocumentChange String} {next : State Url Image} {new : List (Task Url)}
    (holds : rule.Holds loop)
    (found : change? loop.state.thread loop.view type key = some change)
    (handled : Handled bucket loop.state change next new) :
    rule.Holds (loop.next change next new) := by
  have adds := (grows_of_handled handled).toAdds
  obtain ⟨inv, seen, fresh⟩ := rule.changed holds.inv (change?_current found)
    (fun gone => holds.view _ _ (change?_delivered found gone)) handled
  have oldView : ∀ documentID data, loop.view.get? documentID = some data →
      rule.seen next ⟨documentID, data⟩ :=
    fun documentID data inView => rule.seen_adds adds (holds.view documentID data inView)
  refine ⟨inv, ?_, ?_⟩
  · unfold Loop.next
    dsimp only
    split_ifs
    · exact oldView
    · exact applied_induct oldView seen
  · intro task member
    rcases List.mem_append.mp member with old | new
    · exact need_adds adds (holds.started task old)
    · exact fresh task new

/-- A snapshot keeps the invariant, and what is then pending relies on what holds. -/
theorem delivered {state : State Url Image} {limit : Nat} {view : Collection String}
    {changes : List (ChangeType × String)} {documentChanges : List (DocumentChange String)}
    (inv : rule.inv state) (need : rule.need state (.listener limit view))
    (running : state.trapped = false)
    (found : documentChanges? state.thread view changes = some documentChanges) :
    rule.inv (snapshotReceived bucket state limit view documentChanges).1 ∧
      ∀ task ∈ (snapshotReceived bucket state limit view documentChanges).2,
        rule.need (snapshotReceived bucket state limit view documentChanges).1 task := by
  have start : rule.Holds ⟨state, view, []⟩ := ⟨inv, need, by simp⟩
  have holds : rule.Holds (Loop.last bucket ⟨state, view, []⟩ documentChanges) :=
    forEach_invariant rule.Holds (fun held here handled => held.next here handled) start running
      found
  refine ⟨holds.inv, fun task member => ?_⟩
  rcases List.mem_cons.mp member with again | started
  · rw [again]
    exact holds.view
  · exact holds.started task started

/-- The rule as an outline of the program. -/
def outline (rule : Rule bucket atEvent atAnswer) (channel : Channel) :
    Outline (program bucket channel) (onState atEvent atAnswer) where
  inv := rule.inv
  need := rule.need
  apart _ _ := True
  symmetric := fun _ => trivial
  handled := by
    intro config event state new inv allowed handled
    have occurred := occurred_of_handle handled
    refine .of_free (fun _ _ => trivial) (rule.occurred inv allowed occurred) ?_ ?_
    · intro task member
      cases occurred with
      | fetched _ listeners =>
          rw [listeners task member]
          intro documentID data found
          simp at found
      | _ => simp at member
    · intro task waiting
      exact need_adds (adds_of_occurred occurred) waiting.2
  resumed := by
    intro config ticket answer task state new inv need allowed found resumed
    have answered := answered_of_resume resumed
    have adds := (grows_of_answered answered).toAdds
    have after : rule.inv state ∧ ∀ other ∈ new, rule.need state other := by
      cases task with
      | listener limit view =>
          cases answered with
          | listenerFailed =>
              refine ⟨inv, fun other member => ?_⟩
              rw [List.mem_singleton.mp member]
              exact need
          | delivered running found => exact delivered inv need running found
      | downloadImage url change =>
          obtain ⟨kept, silent⟩ := rule.answered inv need (allowed _ found) answered
          refine ⟨kept, fun other member => ?_⟩
          simp [silent] at member
    exact .of_free (fun _ _ => trivial) after.1 after.2
      fun other waiting => need_adds adds waiting.1

end Rule

end Effects

end Familog.Chat
