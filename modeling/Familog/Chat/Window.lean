import Familog.Chat.History
import Mathlib.Data.Prod.Lex
import Mathlib.Data.String.Basic

/-!
Contract: what is shown once the listeners have delivered their windows.

Owns the window of a listener, the fact that nothing that was delivered is lost (it
has arrived, has failed, or is being downloaded), the listener of the last
refresh, and the result on whole runs: the order, the members and the
independence of the history, and that the newest documents are shown when
nothing is pending and no download has failed. What has been delivered and
downloaded is read off the labels of the run.

Does not own threads that are edited.
-/

set_option autoImplicit false

namespace Familog.Chat

open Async Firestore

section Definitions

variable {Url Image : Type}

/-- The date a document is ordered by. -/
def created (document : String × Fields) : Int :=
  (document.2.timestamp? "created").getD 0

/-- What `order(by: "created", descending: true)` compares: of two documents with one date
the one with the larger id comes first. -/
def rank (document : String × Fields) : Int ×ₗ (String)ᵒᵈ :=
  toLex (-created document, OrderDual.toDual document.1)

/-- `order(by: "created", descending: true).limit(to: limit)`. -/
def newest (limit : Nat) (thread : Collection String) : List (String × Fields) :=
  (Swift.sort rank thread.documents).take limit

/-- The documents of its window are in what a listener has delivered. -/
def Task.WindowDelivered (thread : Collection String) : Task Url → Prop
  | .listener limit view => ∀ document ∈ newest limit thread, (view.get? document.1).isSome
  | .downloadImage _ _ => True

instance (thread : Collection String) (task : Task Url) :
    Decidable (task.WindowDelivered thread) :=
  match task with
  | .listener limit view =>
      inferInstanceAs (Decidable (∀ document ∈ newest limit thread,
        (view.get? document.1).isSome = true))
  | .downloadImage _ _ => isTrue trivial

/-- Every listener has delivered the documents of its window. -/
def WindowsDelivered (config : Config (State Url Image) (Task Url)) : Prop :=
  ∀ task ∈ config.pool.tasks, task.WindowDelivered config.state.thread

instance (config : Config (State Url Image) (Task Url)) : Decidable (WindowsDelivered config) :=
  inferInstanceAs (Decidable (∀ task ∈ _, _))

/-- A listener that asks for so many documents delivers this one. -/
def Notice.Delivers (limit : Nat) (documentID : String) : Notice → Prop
  | .delivered asked change => asked = limit ∧ change.document.documentID = documentID
  | .downloaded _ => False
  | .lost _ => False

/-- The documents of its window have been delivered by the listener, or by another one with
its limit. -/
def Task.WindowArrived (past : List Notice) (thread : Collection String) : Task Url → Prop
  | .listener limit _ =>
      ∀ document ∈ newest limit thread, ∃ notice ∈ past, notice.Delivers limit document.1
  | .downloadImage _ _ => True

/-- Every listener that is registered has delivered the documents of its window. -/
def WindowsArrived (past : List Notice) (config : Config (State Url Image) (Task Url)) : Prop :=
  ∀ task ∈ config.pool.tasks, task.WindowArrived past config.state.thread

instance (limit : Nat) (documentID : String) (notice : Notice) :
    Decidable (notice.Delivers limit documentID) :=
  match notice with
  | .delivered asked change =>
      inferInstanceAs (Decidable (asked = limit ∧ change.document.documentID = documentID))
  | .downloaded _ => isFalse id
  | .lost _ => isFalse id

instance (past : List Notice) (thread : Collection String) (task : Task Url) :
    Decidable (task.WindowArrived past thread) :=
  match task with
  | .listener limit _ =>
      inferInstanceAs (Decidable (∀ document ∈ newest limit thread,
        ∃ notice ∈ past, notice.Delivers limit document.1))
  | .downloadImage _ _ => isTrue trivial

instance (past : List Notice) (config : Config (State Url Image) (Task Url)) :
    Decidable (WindowsArrived past config) :=
  inferInstanceAs (Decidable (∀ task ∈ _, _))

/-- A download has failed. -/
def Notice.isLost : Notice → Bool
  | .delivered _ _ => false
  | .downloaded _ => false
  | .lost _ => true

/-- A pull-to-refresh. -/
def isRefresh : Label Event Answer → Bool
  | .event .refresh => true
  | _ => false

end Definitions

section Runs

variable {Url Image : Type} {bucket : Bucket Url Image} {channel : Channel}

/-! ## Every delivered photo is awaited -/

/-- Every delivered change has arrived, has failed, or is being downloaded. -/
def Awaited (bucket : Bucket Url Image) (state : State Url Image) (tasks : List (Task Url)) :
    Prop :=
  ∀ change ∈ state.delivered, Ready bucket state change ∨ change ∈ state.failed ∨
    ∃ url, .downloadImage url change ∈ tasks

theorem Awaited.mono {state : State Url Image} {tasks more : List (Task Url)}
    (awaited : Awaited bucket state tasks) (still : tasks ⊆ more) : Awaited bucket state more := by
  intro change member
  rcases awaited change member with ready | failed | ⟨url, asked⟩
  · exact Or.inl ready
  · exact Or.inr (Or.inl failed)
  · exact Or.inr (Or.inr ⟨url, still asked⟩)

/-- What has been asked for since the state before. -/
structure Asking (bucket : Bucket Url Image) (before after : State Url Image)
    (started : List (Task Url)) : Prop where
  succeeded : after.succeeded = before.succeeded
  failed : after.failed = before.failed
  delivered : ∀ change ∈ after.delivered, change ∈ before.delivered ∨
    Immediate bucket change.document ∨ ∃ url, .downloadImage url change ∈ started

theorem Asking.refl (state : State Url Image) : Asking bucket state state [] :=
  ⟨rfl, rfl, fun _ member => Or.inl member⟩

theorem Asking.trans {first second third : State Url Image} {old new : List (Task Url)}
    (left : Asking bucket first second old) (right : Asking bucket second third new) :
    Asking bucket first third (old ++ new) := by
  refine ⟨right.succeeded.trans left.succeeded, right.failed.trans left.failed, ?_⟩
  intro change member
  rcases right.delivered change member with inSecond | immediate | ⟨url, asked⟩
  · rcases left.delivered change inSecond with inFirst | immediate | ⟨url, asked⟩
    · exact Or.inl inFirst
    · exact Or.inr (Or.inl immediate)
    · exact Or.inr (Or.inr ⟨url, List.mem_append_left _ asked⟩)
  · exact Or.inr (Or.inl immediate)
  · exact Or.inr (Or.inr ⟨url, List.mem_append_right _ asked⟩)

theorem asking_of_handled {state next : State Url Image} {change : DocumentChange String}
    {new : List (Task Url)} (handled : Handled bucket state change next new) :
    Asking bucket state next new := by
  cases handled with
  | trapped _ => exact ⟨rfl, rfl, fun _ member => Or.inl member⟩
  | asked _ =>
      refine ⟨rfl, rfl, fun other member => ?_⟩
      rcases List.mem_append.mp member with old | here
      · exact Or.inl old
      · rw [List.mem_singleton.mp here]
        exact Or.inr (Or.inr ⟨_, List.mem_singleton_self _⟩)
  | inserted demand =>
      refine ⟨rfl, rfl, fun other member => ?_⟩
      rcases List.mem_append.mp member with old | here
      · exact Or.inl old
      · rw [List.mem_singleton.mp here]
        exact Or.inr (Or.inl ⟨_, demand⟩)

theorem asking_of_forEach {state : State Url Image} {view : Collection String}
    {changes : List (ChangeType × String)} {documentChanges : List (DocumentChange String)}
    (running : state.trapped = false)
    (found : documentChanges? state.thread view changes = some documentChanges) (limit : Nat) :
    Asking bucket state (snapshotReceived bucket state limit view documentChanges).1
      (forEach bucket state documentChanges).2 := by
  have ended : Asking bucket state (Loop.last bucket ⟨state, view, []⟩ documentChanges).state
      (Loop.last bucket ⟨state, view, []⟩ documentChanges).started :=
    forEach_invariant (fun loop => Asking bucket state loop.state loop.started)
      (fun held _ handled => held.trans (asking_of_handled handled)) (Asking.refl state) running
      found
  simpa [Loop.last, snapshotReceived] using ended

/-- An answered download has arrived or failed, and every other one is still awaited. -/
theorem Awaited.answered {state next : State Url Image} {task : Task Url} {answer : Answer}
    {new rest : List (Task Url)} (awaited : Awaited bucket state (task :: rest))
    (recorded : Recorded bucket state) (need : (recording bucket).need state task)
    (answered : Answered bucket state task answer next new) :
    Awaited bucket next (rest ++ new) := by
  have old : ∀ change ∈ state.delivered, Ready bucket state change ∨ change ∈ state.failed ∨
      (∃ url, task = .downloadImage url change) ∨
        ∃ url, .downloadImage url change ∈ rest ++ new := by
    intro change member
    rcases awaited change member with ready | failed | ⟨url, asked⟩
    · exact Or.inl ready
    · exact Or.inr (Or.inl failed)
    · rcases List.mem_cons.mp asked with here | waiting
      · exact Or.inr (Or.inr (Or.inl ⟨url, here.symm⟩))
      · exact Or.inr (Or.inr (Or.inr ⟨url, List.mem_append_left _ waiting⟩))
  cases answered with
  | listenerFailed =>
      intro change member
      rcases old change member with ready | failed | ⟨url, here⟩ | waiting
      · exact Or.inl ready
      · exact Or.inr (Or.inl failed)
      · simp at here
      · exact Or.inr (Or.inr waiting)
  | @delivered limit view changes documentChanges running found =>
      have asking : Asking bucket state (snapshotReceived bucket state limit view
          documentChanges).1 (forEach bucket state documentChanges).2 :=
        asking_of_forEach running found limit
      have grows := grows_of_answered (.delivered running found : Answered bucket state
        (.listener limit view) (.snapshot changes) _ _)
      intro change member
      rcases asking.delivered change member with before | immediate | ⟨url, asked⟩
      · rcases old change before with ready | failed | ⟨url, here⟩ | waiting
        · refine Or.inl (ready.imp (fun text => ⟨grows.delivered text.1, text.2⟩) fun arrived => ?_)
          rw [asking.succeeded]
          exact arrived
        · rw [← asking.failed] at failed
          exact Or.inr (Or.inl failed)
        · simp at here
        · exact Or.inr (Or.inr waiting)
      · exact Or.inl (Or.inl ⟨member, immediate⟩)
      · exact Or.inr (Or.inr ⟨url, List.mem_append_right _ (List.mem_cons_of_mem _ asked)⟩)
  | @downloadFailed url failedChange answer _ =>
      intro change member
      rcases old change member with ready | failed | ⟨other, here⟩ | waiting
      · exact Or.inl ready
      · exact Or.inr (Or.inl (List.mem_append_left _ failed))
      · obtain ⟨_, rfl⟩ := Task.downloadImage.inj here
        exact Or.inr (Or.inl (List.mem_append_right _ (List.mem_singleton_self _)))
      · exact Or.inr (Or.inr waiting)
  | @loadedFaulty url change image stored faulty =>
      have wanted : DeliveredDownload bucket state url change := need
      exact absurd faulty (recorded.not_faulty wanted)
  | @loaded url loadedChange image message stored read =>
      intro change member
      have ready : ∀ other, Ready bucket ((state.succeed loadedChange).insert loadedChange message)
          other ↔ Ready bucket state other ∨ other = loadedChange :=
        fun _ => ready_insert.trans ready_succeed
      rcases old change member with before | failed | ⟨other, here⟩ | waiting
      · exact Or.inl ((ready change).mpr (Or.inl before))
      · exact Or.inr (Or.inl failed)
      · obtain ⟨_, rfl⟩ := Task.downloadImage.inj here
        exact Or.inl ((ready loadedChange).mpr (Or.inr rfl))
      · exact Or.inr (Or.inr waiting)

theorem awaited_step {config next : Config (State Url Image) (Task Url)}
    {label : Label Event Answer} (awaited : Awaited bucket config.state config.pool.tasks)
    (held : ((recording bucket).outline channel).Holds config)
    (taken : (program bucket channel).step config label = some next) :
    Awaited bucket next.state next.pool.tasks := by
  rcases Program.step_cases taken with
    ⟨event, new, rfl, handled, tasks⟩ | ⟨ticket, answer, task, new, rfl, found, resumed, tasks⟩
  · have occurred := occurred_of_handle handled
    have before : Awaited bucket config.state (config.pool.tasks ++ new) :=
      awaited.mono (List.subset_append_left _ _)
    rw [tasks]
    generalize next.state = after at occurred
    cases occurred <;> exact before
  · rw [tasks]
    have perm := Pool.tasks_perm_of_find? found
    have before : Awaited bucket config.state (task :: (config.pool.remove ticket).tasks) :=
      awaited.mono perm.subset
    exact before.answered (.of_holds held) (held.need task (Pool.mem_tasks_of_find? found))
      (answered_of_resume resumed)

/-! ## The listener of the last refresh -/

/-- A listener asks for as many documents as the last refresh did. -/
def Registered (config : Config (State Url Image) (Task Url)) : Prop :=
  ∃ view, .listener config.state.massageNumber view ∈ config.pool.tasks

theorem massageNumber_step {config next : Config (State Url Image) (Task Url)}
    {label : Label Event Answer} (taken : (program bucket channel).step config label = some next) :
    next.state.massageNumber =
      config.state.massageNumber + if isRefresh label then 15 else 0 := by
  rcases Program.step_cases taken with
    ⟨event, new, rfl, handled, _⟩ | ⟨ticket, answer, task, new, rfl, _, resumed, _⟩
  · obtain ⟨state, _⟩ := handle_eq handled
    rw [← state]
    cases event with
    | viewDidLoad => simp [handle, fetchmessages_eq, isRefresh]
    | refresh => simp [handle, refresh, fetchmessages_eq, isRefresh]
    | write documentID data => simp [handle, isRefresh]
    | delete documentID => simp [handle, isRefresh]
  · exact (grows_of_answered (answered_of_resume resumed)).massageNumber

/-- A listener that has delivered something stays registered. -/
theorem listener_of_answered {state next : State Url Image} {limit : Nat}
    {view : Collection String} {answer : Answer} {new : List (Task Url)}
    (answered : Answered bucket state (.listener limit view) answer next new) :
    ∃ later, .listener limit later ∈ new := by
  cases answered with
  | listenerFailed => exact ⟨view, List.mem_singleton_self _⟩
  | delivered _ _ => exact ⟨_, List.mem_cons_self⟩

theorem registered_step {config next : Config (State Url Image) (Task Url)}
    {label : Label Event Answer} (hasId : channel.id ≠ none)
    (taken : (program bucket channel).step config label = some next)
    (before : Registered config ∨ label = .event .viewDidLoad) : Registered next := by
  have number := massageNumber_step taken
  rcases Program.step_cases taken with
    ⟨event, new, rfl, handled, tasks⟩ | ⟨ticket, answer, task, new, rfl, found, resumed, tasks⟩
  · obtain ⟨state, issued⟩ := handle_eq handled
    have waiting : Registered config → next.state.massageNumber = config.state.massageNumber →
        Registered next := by
      rintro ⟨view, registered⟩ same
      refine ⟨view, ?_⟩
      rw [same, tasks]
      exact List.mem_append_left _ registered
    have fetched : new = [.listener next.state.massageNumber ∅] → Registered next := by
      intro listener
      refine ⟨∅, ?_⟩
      rw [tasks, listener]
      exact List.mem_append_right _ (List.mem_singleton_self _)
    cases event with
    | viewDidLoad =>
        rw [handle, fetchmessages_eq, if_neg hasId] at state issued
        exact fetched (by rw [← issued, ← state])
    | refresh =>
        rw [handle, refresh, fetchmessages_eq, if_neg hasId] at state issued
        exact fetched (by rw [← issued, ← state])
    | write documentID data => exact waiting (before.resolve_right (by simp)) number
    | delete documentID => exact waiting (before.resolve_right (by simp)) number
  · obtain ⟨view, registered⟩ := before.resolve_right (by simp)
    have same : next.state.massageNumber = config.state.massageNumber := number
    rw [Registered, same, tasks]
    rcases List.mem_cons.mp ((Pool.tasks_perm_of_find? found).mem_iff.mp registered) with
      here | later
    · subst here
      obtain ⟨again, reissued⟩ := listener_of_answered (answered_of_resume resumed)
      exact ⟨again, List.mem_append_right _ reissued⟩
    · exact ⟨view, List.mem_append_left _ later⟩

/-- After a run, the limit counts the refreshes, and once the screen has appeared a
listener with that limit is registered. -/
theorem registered_of_run (hasId : channel.id ≠ none) :
    ∀ {labels : List (Label Event Answer)} {config last : Config (State Url Image) (Task Url)},
      (program bucket channel).run config labels = some last →
      last.state.massageNumber = config.state.massageNumber + 15 * labels.countP isRefresh ∧
        (Registered config ∨ .event .viewDidLoad ∈ labels → Registered last)
  | [], config, last, ran => by
      obtain rfl : config = last := Option.some.inj ran
      simp
  | label :: rest, config, last, ran => by
      obtain ⟨next, taken, later⟩ := Program.run_cons.mp ran
      obtain ⟨number, registered⟩ := registered_of_run hasId later
      refine ⟨?_, fun before => registered ?_⟩
      · rw [number, massageNumber_step taken, List.countP_cons]
        split_ifs <;> omega
      · rcases before with now | appears
        · exact Or.inl (registered_step hasId taken (Or.inl now))
        · rcases List.mem_cons.mp appears with here | inRest
          · exact Or.inl (registered_step hasId taken (Or.inr here.symm))
          · exact Or.inr inRest

/-! ## What a run shows -/

/-- What a step gives the chat is recorded. -/
theorem noted_step {past : List Notice} {config next : Config (State Url Image) (Task Url)}
    {label : Label Event Answer} (noted : Noted past config.state)
    (along : ((recording bucket).outline channel).along config label)
    (taken : (program bucket channel).step config label = some next) :
    Noted (past ++ onAnswer (noticed bucket) config label) next.state := by
  have running := (Recorded.of_holds (((recording bucket).outline channel).step along.2 along.1
    taken)).running
  rcases Program.step_cases taken with
    ⟨event, new, rfl, handled, _⟩ | ⟨ticket, answer, task, new, rfl, found, resumed, _⟩
  · rw [onAnswer, List.append_nil]
    have occurred := occurred_of_handle handled
    generalize next.state = after at occurred
    cases occurred <;> exact ⟨noted.delivered, noted.succeeded, noted.failed⟩
  · simp only [onAnswer, found]
    exact noted.answered (answered_of_resume resumed) running

/-- On a growing thread, every state reached is recorded as the labels say, nothing that was
delivered is lost, and the last listener's limit counts the refreshes. -/
theorem recorded_of_run {thread : Collection String}
    (messageThread : MessageThread bucket thread) {labels : List (Label Event Answer)}
    {last : Config (State Url Image) (Task Url)}
    (growing : (program bucket channel).Obeys (Growing bucket)
      (Program.start (State.unopened Url Image thread)) labels)
    (ran : (program bucket channel).run (Program.start (State.unopened Url Image thread)) labels =
      some last) :
    Recorded bucket last.state ∧ Awaited bucket last.state last.pool.tasks ∧
      Noted ((program bucket channel).history (onAnswer (noticed bucket))
        (Program.start (State.unopened Url Image thread)) labels) last.state := by
  have start : ((recording bucket).outline channel).Holds
      (Program.start (State.unopened Url Image thread)) :=
    Outline.start _ (recorded_unopened messageThread)
  have along := ((recording bucket).outline channel).obeys_along start growing
  have holds := ((recording bucket).outline channel).run start growing ran
  refine ⟨.of_holds holds, ?_, ?_⟩
  · refine Program.run_invariant (fun config => Awaited bucket config.state config.pool.tasks)
      (fun awaited along taken => awaited_step awaited along.2 taken) ?_ along ran
    intro change member
    simp [Program.start, State.unopened] at member
  · have nothing : Noted [] (Program.start (State.unopened Url Image thread) :
        Config (State Url Image) (Task Url)).state := by
      constructor <;> simp [Program.start, State.unopened]
    exact Program.run_history (fun past config => Noted past config.state)
      (fun noted along taken => noted_step noted along taken) nothing along ran

/-- A change that is ready is displayed as the stored document. -/
theorem Recorded.shown {state : State Url Image} {change : DocumentChange String}
    (recorded : Recorded bucket state) (ready : Ready bucket state change) :
    ∃ message ∈ state.messages,
      current? bucket state.thread change.document.documentID = some message := by
  obtain ⟨message, read⟩ := recorded.readable change ready
  refine ⟨message, (recorded.members message).mpr ⟨change, ready, read⟩, ?_⟩
  rw [current?, recorded.stored change (recorded.arrived change ready), Option.bind_some]
  exact read

/-- With no download pending, what was delivered is ready or has failed. -/
theorem Awaited.ready_or_failed {config : Config (State Url Image) (Task Url)}
    {change : DocumentChange String} (awaited : Awaited bucket config.state config.pool.tasks)
    (quiet : Quiet config) (delivered : change ∈ config.state.delivered) :
    Ready bucket config.state change ∨ change ∈ config.state.failed := by
  rcases awaited change delivered with ready | failed | ⟨url, pending⟩
  · exact Or.inl ready
  · exact Or.inr failed
  · have idle := quiet _ pending
    simp [Task.isDownload] at idle

/-- What is in the view of a listener is displayed, unless a download is pending or has
failed. -/
theorem shown_of_view {config : Config (State Url Image) (Task Url)} {limit : Nat}
    {view : Collection String} {documentID : String} {data : Fields}
    (holds : ((recording bucket).outline channel).Holds config)
    (awaited : Awaited bucket config.state config.pool.tasks) (quiet : Quiet config)
    (noFailure : config.state.failed = [])
    (listener : .listener limit view ∈ config.pool.tasks)
    (delivered : view.get? documentID = some data) :
    ∃ message ∈ config.state.messages, current? bucket config.state.thread documentID =
      some message := by
  have recorded := Recorded.of_holds holds
  obtain ⟨change, isDelivered, document⟩ : Seen config.state ⟨documentID, data⟩ :=
    holds.need _ listener documentID data delivered
  have ready : Ready bucket config.state change :=
    (awaited.ready_or_failed quiet isDelivered).resolve_right (by simp [noFailure])
  obtain ⟨message, shown, current⟩ := recorded.shown ready
  rw [document] at current
  exact ⟨message, shown, current⟩

/-- The window holds the newest documents, as many as the limit allows. -/
theorem length_newest (limit : Nat) (thread : Collection String) :
    (newest limit thread).length = min limit thread.documents.length := by
  rw [newest, List.length_take, (Swift.sort_perm _ _).length_eq]

theorem newest_newer {limit : Nat} {thread : Collection String} {inside outside : String × Fields}
    (isInside : inside ∈ newest limit thread) (stored : outside ∈ thread.documents)
    (isOutside : outside ∉ newest limit thread) : created outside ≤ created inside := by
  have sorted := Swift.sort_pairwise rank thread.documents
  have member : outside ∈ Swift.sort rank thread.documents :=
    (Swift.sort_perm _ _).mem_iff.mpr stored
  rw [← List.take_append_drop limit (Swift.sort _ thread.documents)] at sorted member
  have later := (List.mem_append.mp member).resolve_left isOutside
  have ordered := (List.pairwise_append.mp sorted).2.2 inside isInside outside later
  have dates : -created inside ≤ -created outside := (Prod.Lex.le_iff'.mp ordered).1
  omega

theorem Notice.Delivers.exists_change {past : List Notice} {notice : Notice} {limit : Nat}
    {documentID : String} (delivers : notice.Delivers limit documentID) (member : notice ∈ past) :
    ∃ change, .delivered limit change ∈ past ∧ change.document.documentID = documentID := by
  cases notice with
  | delivered asked change =>
      obtain ⟨rfl, isIt⟩ := delivers
      exact ⟨change, member, isIt⟩
  | downloaded change => exact delivers.elim
  | lost change => exact delivers.elim

/-- What has been delivered and downloaded along a run of the chat, by its labels. -/
def arrivals (bucket : Bucket Url Image) (channel : Channel) (thread : Collection String)
    (labels : List (Label Event Answer)) : List Notice :=
  (program bucket channel).history (onAnswer (noticed bucket))
    (Program.start (State.unopened Url Image thread)) labels

/-- On a thread of messages with different dates that is never edited, after any run
with any refreshes, deliveries, downloads and failures: the messages are the arrived
texts and photos, strictly sorted by date; any other run in which the same documents
have arrived shows the same messages; when nothing is pending, every delivered document is
shown or a download for it has failed; and when besides no download has failed and the
listeners have delivered their windows, the newest `15 * (k + 1)` documents are shown after
`k` refreshes. -/
theorem history_of_runs {thread : Collection String}
    (messageThread : MessageThread bucket thread) {labels : List (Label Event Answer)}
    {last : Config (State Url Image) (Task Url)}
    (growing : (program bucket channel).Obeys (Growing bucket)
      (Program.start (State.unopened Url Image thread)) labels)
    (ran : (program bucket channel).run (Program.start (State.unopened Url Image thread)) labels =
      some last) :
    last.state.trapped = false ∧
      History bucket (arrivals bucket channel thread labels) last.state.messages ∧
      (∀ {otherThread : Collection String} {otherLabels : List (Label Event Answer)}
          {other : Config (State Url Image) (Task Url)},
        MessageThread bucket otherThread →
        (program bucket channel).Obeys (Growing bucket)
          (Program.start (State.unopened Url Image otherThread)) otherLabels →
        (program bucket channel).run (Program.start (State.unopened Url Image otherThread))
          otherLabels = some other →
        SameArrivals (arrivals bucket channel thread labels)
          (arrivals bucket channel otherThread otherLabels) →
        last.state.messages = other.state.messages) ∧
      (Quiet last → ∀ document, Delivered (arrivals bucket channel thread labels) document →
        (∃ message ∈ last.state.messages,
          current? bucket last.state.thread document.documentID = some message) ∨
        Lost (arrivals bucket channel thread labels) document) ∧
      (channel.id ≠ none → .event .viewDidLoad ∈ labels → Quiet last →
        WindowsArrived (arrivals bucket channel thread labels) last →
        (∀ document, ¬ Lost (arrivals bucket channel thread labels) document) →
        ∀ document ∈ newest (15 * (labels.countP isRefresh + 1)) last.state.thread,
          ∃ message ∈ last.state.messages,
            current? bucket last.state.thread document.1 = some message) := by
  obtain ⟨recorded, awaited, noted⟩ := recorded_of_run messageThread growing ran
  have settled : Quiet last →
      ∀ document, Delivered (arrivals bucket channel thread labels) document →
        (∃ message ∈ last.state.messages,
          current? bucket last.state.thread document.documentID = some message) ∨
        Lost (arrivals bucket channel thread labels) document := by
    rintro quiet _ ⟨limit, change, delivered, rfl⟩
    have isDelivered := (noted.delivered change).mpr ⟨limit, delivered⟩
    exact (awaited.ready_or_failed quiet isDelivered).imp recorded.shown fun failed =>
      ⟨change, (noted.failed change).mp failed, rfl⟩
  refine ⟨recorded.running, recorded.history noted, ?_, settled, ?_⟩
  · intro otherThread otherLabels other otherMessageThread otherGrowing otherRan same
    obtain ⟨otherRecorded, _, otherNoted⟩ :=
      recorded_of_run otherMessageThread otherGrowing otherRan
    exact (recorded.history noted).eq_of_sameArrivals (otherRecorded.history otherNoted) same
  · intro hasId appears quiet windows noLoss document inWindow
    obtain ⟨number, registered⟩ := registered_of_run hasId ran
    obtain ⟨view, listener⟩ := registered (Or.inr appears)
    have limit : last.state.massageNumber = 15 * (labels.countP isRefresh + 1) := by
      rw [number]
      show 15 + 15 * _ = _
      omega
    rw [limit] at listener
    obtain ⟨notice, member, delivers⟩ := windows _ listener document inWindow
    obtain ⟨change, delivered, isIt⟩ := delivers.exists_change member
    have shown := (settled quiet change.document ⟨_, change, delivered, rfl⟩).resolve_right
      (noLoss change.document)
    rwa [isIt] at shown

end Runs

/-! ## Two listeners and a photo -/

section Sample

/-- Two listeners deliver a text and a photo, and later another text. -/
def refreshedOnce : List (Label Event Answer) := [
  .event (.write "first" (textData "hello" 1)), .event (.write "photo" (photoData "photo" 2)),
  .event .viewDidLoad, .answer 0 (.snapshot [(.added, "photo"), (.added, "first")]),
  .event .refresh, .answer 3 (.snapshot [(.added, "first"), (.added, "photo")]),
  .event (.write "last" (textData "bye" 3)), .answer 1 (.snapshot [(.added, "last")]),
  .answer 4 (.snapshot [(.added, "last")]), .answer 2 .data, .answer 5 .data]

/-- After that run the three messages are shown. -/
theorem refreshed_once_history : ∃ last : Config (State String Unit) (Task String),
    last.state.messages.length = 3 ∧
      History fullBucket (arrivals fullBucket familyChannel ∅ refreshedOnce)
        last.state.messages ∧
      ∀ document ∈ newest 30 last.state.thread, ∃ message ∈ last.state.messages,
        current? fullBucket last.state.thread document.1 = some message := by
  obtain ⟨last, ran, quiet, windows, three⟩ : ∃ last,
      (program fullBucket familyChannel).run (Program.start (State.unopened String Unit ∅))
        refreshedOnce = some last ∧ Quiet last ∧
        WindowsArrived (arrivals fullBucket familyChannel ∅ refreshedOnce) last ∧
        last.state.messages.length = 3 :=
    Program.exists_run (by decide)
  have noneLost : ∀ notice ∈ arrivals fullBucket familyChannel ∅ refreshedOnce,
      notice.isLost = false := by decide
  have emptyThread : MessageThread fullBucket ∅ := ⟨by simp, by simp⟩
  obtain ⟨_, history, _, _, shown⟩ := history_of_runs emptyThread (by decide) ran
  refine ⟨last, three, history, shown (by decide) (by simp [refreshedOnce]) quiet windows ?_⟩
  rintro _ ⟨change, lost, rfl⟩
  simpa [Notice.isLost] using noneLost _ lost

end Sample

end Familog.Chat
