import Familog.Feed.Exactness
import Familog.Feed.Genuine

/-!
Contract: where the rows of a feed come from that is answered from a changing store.

Owns the record of a load in the moments of its surroundings: the one at which the read of the
current user was answered and the later one at which the query was; and the theorem that a load
whose answers are clean and come from these moments shows, once it is quiet, what the query
found, or nothing if there was no current user.

Does not own the surroundings, nor the order of the rows.
-/

set_option autoImplicit false

namespace Familog.Feed

open Async Firestore

variable {Row World : Type}

section Definitions

/-- What a feed is answered from: the document of its user and what a query finds at a moment,
and whether the request is answered at it. -/
structure Source (Row World : Type) where
  user : World → Option Fields
  found : World → String → List Fields
  answers : World → Task Row → Prop

variable (controller : Controller Row) (source : Source Row World)

/-- The key of the query, as the document of the current user has it. -/
def Controller.keyOf (data : Option Fields) : Option String :=
  (data.bind transformUser).bind controller.key?

/-- The answer is what there is at the moment. -/
def Serves (world : World) : Task Row → Answer → Prop
  | .observeCurrentUser _, .snapshot data => data = source.user world
  | .getDocuments _ key, .documents documents => documents.Perm (source.found world key)
  | _, _ => True

/-- The current user of the load was read at this moment. -/
def ReadAt (refresh : ℕ) (data : Option Fields → Prop) (past : List World) (world : World) :
    Prop :=
  world ∈ past ∧ source.answers world (.observeCurrentUser refresh) ∧ data (source.user world)

/-- The documents are what the query of the load found when it was answered, for the key that
had been read before. -/
def Traced (refresh : ℕ) (past : List World) (documents : List Fields) : Prop :=
  ∃ (first second : World) (key : String), [first, second].Sublist past ∧
    source.answers first (.observeCurrentUser refresh) ∧
    source.answers second (.getDocuments refresh key) ∧
    controller.keyOf (source.user first) = some key ∧ documents.Perm (source.found second key)

/-- What a load shows in the end: all that its query found, or nothing if there was no current
user. -/
def ShowsTraced (refresh : ℕ) (past : List World) (rows : List Row) : Prop :=
  (∃ documents, Traced controller source refresh past documents ∧
      rows.Perm (documents.map controller.transform)) ∨
    rows = [] ∧ ∃ world, ReadAt source refresh (· = none) past world

/-- A load in balance, with the record of where its key and its documents come from. -/
structure Loading (past : List World) (state : State Row) (tasks : List (Task Row)) : Prop where
  balanced : Balanced controller state tasks
  keyed : ∀ key, .getDocuments state.refreshes key ∈ tasks →
    ∃ world, ReadAt source state.refreshes (controller.keyOf · = some key) past world
  queried : ∀ documents ∈ state.queried, controller.Complete (documents.map controller.transform) ∧
    Traced controller source state.refreshes past documents
  ended : state.queried = none → openings state.refreshes tasks = 0 →
    ∃ world, ReadAt source state.refreshes (· = none) past world

/-- Nothing that the current load waits for fails. -/
def Unfailing (last : ℕ) : Task Row → Answer → Prop
  | task, .failed => Idle last task
  | _, _ => True

end Definitions

section Loads

variable {controller : Controller Row} {source : Source Row World} {past : List World}
  {world : World} {load : ℕ} {state next : State Row} {tasks others rest new : List (Task Row)}
  {task : Task Row} {answer : Answer}

theorem ReadAt.append {data : Option Fields → Prop} {later : World}
    (read : ReadAt source load data past world) :
    ReadAt source load data (past ++ [later]) world :=
  ⟨List.mem_append_left _ read.1, read.2⟩

theorem Traced.append {documents : List Fields}
    (traced : Traced controller source load past documents) :
    Traced controller source load (past ++ [world]) documents := by
  obtain ⟨first, second, key, both, rest⟩ := traced
  exact ⟨first, second, key, both.trans (List.sublist_append_left past [world]), rest⟩

/-- A request that goes on with another one opens what that opened. -/
theorem openings_replaced {last : ℕ} {again : Task Row}
    (same : again.opens last = task.opens last) :
    openings last (rest ++ [again]) = openings last (task :: rest) := by
  simp [openings, List.countP_append, List.countP_cons, same]

namespace Loading

/-- The world goes on without the load. -/
theorem append (loading : Loading controller source past state tasks) :
    Loading controller source (past ++ [world]) state tasks where
  balanced := loading.balanced
  keyed key pending :=
    have ⟨earlier, read⟩ := loading.keyed key pending
    ⟨earlier, read.append⟩
  queried documents isAnswer :=
    ⟨(loading.queried documents isAnswer).1, (loading.queried documents isAnswer).2.append⟩
  ended unanswered closed :=
    have ⟨earlier, read⟩ := loading.ended unanswered closed
    ⟨earlier, read.append⟩

theorem of_perm (loading : Loading controller source past state tasks)
    (perm : tasks.Perm others) : Loading controller source past state others where
  balanced := loading.balanced.of_perm perm
  keyed key pending := loading.keyed key (perm.mem_iff.mpr pending)
  queried := loading.queried
  ended unanswered closed :=
    loading.ended unanswered ((perm.countP_eq (Task.opens state.refreshes)).trans closed)

/-- A quiet load shows what it has come to. -/
theorem shows {config : Config (State Row) (Task Row)}
    (loading : Loading controller source past config.state config.pool.tasks)
    (quiet : Quiet config) :
    ShowsTraced controller source config.state.refreshes past config.state.rows := by
  have exact := loading.balanced.exact quiet
  cases queried : config.state.queried with
  | none =>
      have closed : openings config.state.refreshes config.pool.tasks = 0 :=
        List.countP_eq_zero.mpr fun task member => by simp [(quiet task member).1]
      refine Or.inr ⟨?_, loading.ended queried closed⟩
      simpa [expected, queried] using exact
  | some documents =>
      obtain ⟨complete, traced⟩ := loading.queried documents queried
      refine Or.inl ⟨documents, traced, ?_⟩
      rwa [expected_of_complete queried complete] at exact

/-- An answer that leaves the query of the load as it was. -/
theorem keeps (loading : Loading controller source past state (task :: rest))
    (balanced : Balanced controller next (rest ++ new))
    (refreshes : next.refreshes = state.refreshes)
    (queried : next.queried = state.queried)
    (keyed : ∀ key, .getDocuments state.refreshes key ∈ new →
      source.answers world (.observeCurrentUser state.refreshes) ∧
        controller.keyOf (source.user world) = some key)
    (closes : openings state.refreshes (rest ++ new) = 0 →
      openings state.refreshes (task :: rest) = 0) :
    Loading controller source (past ++ [world]) next (rest ++ new) where
  balanced := balanced
  keyed key pending := by
    rw [refreshes] at pending
    rcases List.mem_append.mp pending with old | fresh
    · rw [refreshes]
      exact loading.append.keyed key (List.mem_cons_of_mem _ old)
    · rw [refreshes]
      exact ⟨world, by simp, keyed key fresh⟩
  queried documents isAnswer := by
    rw [refreshes]
    exact loading.append.queried documents (queried ▸ isAnswer)
  ended unanswered closed := by
    rw [refreshes]
    exact loading.append.ended (queried ▸ unanswered) (closes (refreshes ▸ closed))

/-- A clean answer that there is at the moment carries the load on. -/
theorem answered (loading : Loading controller source past state (task :: rest))
    (answered : Answered controller state task answer next new)
    (clean : CleanAnswer controller state task answer)
    (unfailing : Unfailing state.refreshes task answer) (sane : ¬ Faulty controller task answer)
    (serves : Serves source world task answer) (isAsked : source.answers world task) :
    Loading controller source (past ++ [world]) next (rest ++ new) := by
  have balanced := balanced_of_answered answered clean loading.balanced
  cases answered with
  | failed =>
      refine loading.keeps balanced rfl rfl (by simp) fun closed => ?_
      rw [List.append_nil] at closed
      rwa [openings, List.countP_cons_of_neg (by simp [unfailing.1])]
  | @currentUserMissing refresh =>
      by_cases current : refresh = state.refreshes
      · subst current
        have kept : Loading controller source (past ++ [world]) _ _ := loading.append
        refine ⟨balanced, fun key pending => kept.keyed key ?_, kept.queried, fun _ _ => ?_⟩
        · rw [List.append_nil] at pending
          exact List.mem_cons_of_mem _ pending
        · exact ⟨world, by simp, isAsked, serves.symm⟩
      · refine loading.keeps balanced rfl rfl (by simp) fun closed => ?_
        rw [List.append_nil] at closed
        rwa [openings, List.countP_cons_of_neg (by simpa [Task.opens] using current)]
  | trapped faulty => exact absurd faulty sane
  | @currentUserRead refresh data key isKey =>
      refine loading.keeps balanced rfl rfl (fun other member => ?_) fun closed => ?_
      · obtain ⟨rfl, rfl⟩ := Task.getDocuments.inj (List.mem_singleton.mp member)
        refine ⟨isAsked, ?_⟩
        rw [← show some data = source.user world from serves]
        exact isKey
      · rwa [openings_replaced rfl] at closed
  | @postsLoaded refresh key documents fetches queried ended =>
      by_cases current : refresh = state.refreshes
      · subst current
        obtain ⟨earlier, member, wasAsked, isKey⟩ := loading.keyed key List.mem_cons_self
        have traced : Traced controller source state.refreshes (past ++ [world]) documents :=
          ⟨earlier, world, key, (List.singleton_sublist.mpr member).append (List.Sublist.refl _),
            wasAsked, isAsked, isKey, serves⟩
        refine ⟨balanced, fun other pending => ?_, fun other isAnswer => ?_, by simp⟩
        · rcases List.mem_append.mp pending with old | fresh
          · exact loading.append.keyed other (List.mem_cons_of_mem _ old)
          · simp at fresh
        · obtain rfl : documents = other := by simpa using isAnswer
          exact ⟨clean rfl, traced⟩
      · refine loading.keeps balanced rfl (if_neg current) (by simp) fun closed => ?_
        rw [openings, List.countP_append] at closed
        rw [openings, List.countP_cons_of_neg (by simpa [Task.opens] using current)]
        exact (Nat.eq_zero_of_add_eq_zero closed).1
  | userMissing | userFetched =>
      refine loading.keeps balanced rfl rfl (by simp) fun closed => ?_
      rwa [openings_replaced rfl] at closed

end Loading

/-- A refresh begins a load of which nothing is recorded. -/
theorem loading_refresh (numbered : ∀ task ∈ tasks, task.number ≤ state.refreshes) :
    Loading controller source [] (refresh state).1 (tasks ++ (refresh state).2) where
  balanced := balanced_refresh controller numbered
  keyed key pending := by
    rcases List.mem_append.mp pending with old | fresh
    · have older : state.refreshes + 1 ≤ state.refreshes := numbered _ old
      omega
    · simp [refresh] at fresh
  queried documents isAnswer := by simp [refresh] at isAnswer
  ended unanswered closed := by
    have opens : (Task.observeCurrentUser (state.refreshes + 1) : Task Row).opens
        (refresh state).1.refreshes = true := beq_self_eq_true _
    have pending : .observeCurrentUser (state.refreshes + 1) ∈ tasks ++ (refresh state).2 :=
      List.mem_append_right _ (List.mem_singleton_self _)
    exact absurd opens (List.countP_eq_zero.mp closed _ pending)

end Loads

section Steps

variable {controller : Controller Row} {Reply : Type} {read : Task Row → Reply → Option Answer}
  {config next : Config (State Row) (Task Row)} {label : Label Event Reply}

/-- A step of a feed that is answered from a store is one of the controller. -/
theorem step_reading (taken : (reading controller read).step config label = some next) :
    (label = .event .refresh ∧ (program controller).step config (.event .refresh) = some next) ∨
      ∃ ticket reply task answer, label = .answer ticket reply ∧
        config.pool.find? ticket = some task ∧ read task reply = some answer ∧
        (program controller).step config (.answer ticket answer) = some next := by
  cases label with
  | event event => exact Or.inl ⟨rfl, taken⟩
  | answer ticket reply =>
      obtain ⟨task, waiting, rest⟩ := Option.bind_eq_some_iff.mp taken
      obtain ⟨result, resumed, same⟩ := Option.map_eq_some_iff.mp rest
      obtain ⟨answer, isAnswer, acted⟩ := Option.bind_eq_some_iff.mp resumed
      refine Or.inr ⟨ticket, reply, task, answer, rfl, waiting, isAnswer, ?_⟩
      simp [Program.step, waiting, acted, same]

theorem numbered_reading (numbered : Numbered config)
    (taken : (reading controller read).step config label = some next) : Numbered next := by
  rcases step_reading taken with ⟨_, stepped⟩ | ⟨_, _, _, _, _, _, _, stepped⟩
  · exact numbered_step numbered stepped
  · exact numbered_step numbered stepped

/-- After a refresh a load is under way. -/
theorem loading_of_refresh {source : Source Row World} (numbered : Numbered config)
    (taken : (reading controller read).step config (.event .refresh) = some next) :
    Loading controller source [] next.state next.pool.tasks := by
  rcases step_reading taken with ⟨_, stepped⟩ | ⟨_, _, _, _, other, _⟩
  · rcases step_answered stepped with ⟨_, state, tasks⟩ | ⟨_, _, _, _, other, _⟩
    · rw [state, tasks]
      exact loading_refresh numbered
    · simp at other
  · simp at other

/-- Every answer that is clean and comes from the moment carries it on. -/
theorem Loading.step {source : Source Row World} {past : List World} {world : World} {ticket : ℕ}
    {reply : Reply}
    (loading : Loading controller source past config.state config.pool.tasks)
    (allowed : ∀ task answer, config.pool.find? ticket = some task → read task reply = some answer →
      CleanAnswer controller config.state task answer ∧
        Unfailing config.state.refreshes task answer ∧ ¬ Faulty controller task answer ∧
        Serves source world task answer)
    (asks : ∀ task, config.pool.find? ticket = some task → source.answers world task)
    (taken : (reading controller read).step config (.answer ticket reply) = some next) :
    Loading controller source (past ++ [world]) next.state next.pool.tasks := by
  rcases step_reading taken with ⟨other, _⟩ | ⟨_, _, task, answer, same, waiting, isAnswer, stepped⟩
  · simp at other
  · obtain ⟨rfl, rfl⟩ := Label.answer.inj same
    obtain ⟨clean, unfailing, sane, serves⟩ := allowed task answer waiting isAnswer
    rcases step_answered stepped with ⟨other, _⟩ | ⟨_, _, _, new, same, waits, answered, tasks⟩
    · simp at other
    · obtain ⟨rfl, rfl⟩ := Label.answer.inj same
      obtain rfl := Option.some.inj (waiting.symm.trans waits)
      rw [tasks]
      exact (loading.of_perm (Pool.tasks_perm_of_find? waiting)).answered answered clean unfailing
        sane serves (asks task waiting)

end Steps

end Familog.Feed
