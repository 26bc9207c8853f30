import Familog.Switch.Controller

/-!
Contract: which families the switch screen lists.

Owns the law that each family of the user document is listed once, and the condition
under which every run keeps it: the user document delivers a second snapshot only
while no family has been registered, and every Family document delivers once. A later
snapshot of either kind appends rows that are already there.

Does not own the names on the buttons.
-/

set_option autoImplicit false

namespace Familog.Switch

open Async Firestore Swift

/-! ## The law -/

/-- The id of the family a listener is registered for. -/
def Task.familyId? : Task → Option String
  | .userListener _ _ => none
  | .familyListener familyId _ _ _ => some familyId

/-- The version a listener has delivered last. -/
def Task.delivered? : Task → Option ℕ
  | .userListener delivered _ => delivered
  | .familyListener _ _ delivered _ => delivered

/-- The number of the current version of the document a listener is registered on. -/
def State.version (state : State) : Task → ℕ
  | .userListener _ _ => state.user.length
  | .familyListener _ path _ _ => (state.documents path).length

/-- Every registered listener has delivered the current value. -/
def Settled (config : Config State Task) : Prop :=
  ∀ task ∈ config.pool.tasks, task.delivered? = some (config.state.version task)

instance (config : Config State Task) : Decidable (Settled config) :=
  inferInstanceAs (Decidable (∀ task ∈ config.pool.tasks, _))

/-- No family is listed twice, and once everything has been delivered the families
listed are those of the user document. -/
structure EachOnce (form : CanonicalForm) (config : Config State Task) : Prop where
  distinct : (config.state.families.map fun family => family.uid.map form.normalize).Nodup
  exactly : Settled config → ∀ families ∈ config.state.userFamilies?,
    (config.state.families.map Family.uid).Perm (families.map some)

/-- The families of a snapshot of the user document are pairwise different document
paths. -/
def Listable (form : CanonicalForm) (families : List String) : Prop :=
  (families.map form.normalize).Nodup ∧ ∀ familyId ∈ families, (document? familyId).isSome

instance (form : CanonicalForm) (families : List String) : Decidable (Listable form families) :=
  inferInstanceAs (Decidable (_ ∧ _))

/-- A snapshot is the first that counts: one of the user document finds no family
registered and lists families that can be listed, one of a Family document is the first
of its listener and carries the id under which the listener was registered. -/
def First (form : CanonicalForm) (config : Config State Task) : Task → Prop
  | .userListener _ _ => config.pool.tasks.filterMap Task.familyId? = [] ∧
      ∃ families ∈ config.state.userFamilies?, Listable form families
  | .familyListener familyId path delivered _ => delivered = none ∧
      ((config.state.currentFamily? path).bind fun data => (transformFamily data).uid) =
        some familyId

instance (form : CanonicalForm) (config : Config State Task) :
    DecidablePred (First form config)
  | .userListener _ _ => inferInstanceAs (Decidable (_ ∧ ∃ families ∈ _, _))
  | .familyListener _ _ _ _ => inferInstanceAs (Decidable (_ ∧ _))

/-- Only first snapshots are delivered; documents change and listeners fail at any
time. -/
def FirstOnly (form : CanonicalForm) (config : Config State Task) : Label Event Answer → Prop
  | .event _ => True
  | .answer _ .failed => True
  | .answer ticket .snapshot => ∀ task, config.pool.find? ticket = some task →
      First form config task

instance (form : CanonicalForm) (config : Config State Task) (label : Label Event Answer) :
    Decidable (FirstOnly form config label) :=
  match label with
  | .event _ => isTrue trivial
  | .answer _ .failed => isTrue trivial
  | .answer ticket .snapshot =>
      inferInstanceAs (Decidable (∀ task, config.pool.find? ticket = some task → _))

/-! ## The listeners of a run -/

/-- The id of the family a listener has delivered. -/
def Task.deliveredId? : Task → Option String
  | .userListener _ _ => none
  | .familyListener familyId _ delivered _ => delivered.map fun _ => familyId

/-- What a listener on the user document has delivered last is a version there has been,
and if it is the current one, the families registered are those it lists. -/
def Task.Current (state : State) (registered : List String) : Task → Prop
  | .userListener (some version) _ => version ≤ state.user.length ∧
      (version = state.user.length → ∀ families ∈ state.userFamilies?,
        registered.Perm families)
  | _ => True

/-- The rows are the families delivered, each family is registered once, and the user
document is listened to. -/
structure Registered (form : CanonicalForm) (state : State) (tasks : List Task) : Prop where
  rows : (state.families.map Family.uid).Perm ((tasks.filterMap Task.deliveredId?).map some)
  once : ((tasks.filterMap Task.familyId?).map form.normalize).Nodup
  current : ∀ task ∈ tasks, task.Current state (tasks.filterMap Task.familyId?)
  listened : ∃ task ∈ tasks, task.familyId? = none

section Listeners

variable {form : CanonicalForm} {state : State} {tasks others : List Task}

/-- The order of the listeners does not matter. -/
theorem Registered.perm (registered : Registered form state tasks) (perm : tasks.Perm others) :
    Registered form state others where
  rows := registered.rows.trans ((perm.filterMap _).map _)
  once := (((perm.filterMap _).map _).nodup_iff).mp registered.once
  current := by
    intro task member
    have before := registered.current task (perm.mem_iff.mpr member)
    unfold Task.Current at before ⊢
    split at before
    · exact ⟨before.1, fun now families current =>
        (perm.filterMap _).symm.trans (before.2 now families current)⟩
    · trivial
  listened := by
    obtain ⟨task, member, isUser⟩ := registered.listened
    exact ⟨task, perm.mem_iff.mp member, isUser⟩

/-- The families delivered are among those registered. -/
theorem deliveredIds_sublist (tasks : List Task) :
    (tasks.filterMap Task.deliveredId?).Sublist (tasks.filterMap Task.familyId?) := by
  induction tasks with
  | nil => exact List.Sublist.slnil
  | cons task rest inductionHypothesis =>
      cases task with
      | userListener delivered alive => exact inductionHypothesis
      | familyListener familyId path delivered alive =>
          cases delivered with
          | none => exact inductionHypothesis.cons _
          | some version => exact inductionHypothesis.cons_cons _

/-- Once all listeners have delivered, the families delivered are those registered. -/
theorem deliveredIds_of_delivered (all : ∀ task ∈ tasks, task.delivered?.isSome) :
    tasks.filterMap Task.deliveredId? = tasks.filterMap Task.familyId? := by
  apply List.filterMap_congr
  intro task member
  have delivered := all task member
  cases task with
  | userListener version alive => rfl
  | familyListener familyId path version alive =>
      obtain ⟨number, rfl⟩ := Option.isSome_iff_exists.mp delivered
      rfl

/-- Rows that are the families delivered, each registered once, obey the law. -/
theorem eachOnce_of_registered {config : Config State Task}
    (registered : Registered form config.state config.pool.tasks) : EachOnce form config where
  distinct := by
    have normalized := registered.rows.map fun uid => uid.map form.normalize
    simp only [List.map_map] at normalized
    apply normalized.nodup_iff.mpr
    have once := ((deliveredIds_sublist config.pool.tasks).map form.normalize).nodup
      registered.once
    have mapped := once.map (Option.some_injective String)
    rw [List.map_map] at mapped
    exact mapped
  exactly := by
    intro settled families current
    obtain ⟨task, member, isUser⟩ := registered.listened
    have delivered := settled task member
    have now := registered.current task member
    cases task with
    | familyListener familyId path version alive => simp [Task.familyId?] at isUser
    | userListener version alive =>
        obtain rfl : version = some config.state.user.length := delivered
        have perm := now.2 rfl families current
        have all := deliveredIds_of_delivered fun other inTasks => by
          rw [settled other inTasks]
          rfl
        rw [← all] at perm
        exact registered.rows.trans (perm.map some)

/-! ## One step -/

/-- The documents change: what has been delivered is no longer current. -/
theorem registered_handle (registered : Registered form state tasks) (event : Event) :
    Registered form (handle state event) tasks where
  rows := by cases event <;> exact registered.rows
  once := registered.once
  current := by
    intro task member
    have before := registered.current task member
    unfold Task.Current at before ⊢
    split at before
    · cases event with
      | storeUser data =>
          refine ⟨Nat.le_succ_of_le before.1, fun now => ?_⟩
          have newer : _ = state.user.length + 1 := now
          omega
      | storeFamily path data => exact before
    · trivial
  listened := registered.listened

/-- One listener takes the place of another that is registered for the same family. -/
theorem Registered.replaced {next : State} {task other : Task}
    (registered : Registered form state (task :: tasks))
    (sameId : other.familyId? = task.familyId?) (user : next.user = state.user)
    (rows : (next.families.map Family.uid).Perm
      (((other :: tasks).filterMap Task.deliveredId?).map some))
    (stays : ∀ ids, task.Current state ids → other.Current state ids) :
    Registered form next (tasks ++ [other]) := by
  have ids : (other :: tasks).filterMap Task.familyId? =
      (task :: tasks).filterMap Task.familyId? := by
    simp only [List.filterMap_cons, sameId]
  have userFamilies : next.userFamilies? = state.userFamilies? := by
    simp only [State.userFamilies?, State.currentUser?, user]
  have moved : Registered form next (other :: tasks) := by
    refine ⟨rows, ids ▸ registered.once, ?_, ?_⟩
    · intro waiting member
      rw [ids]
      have before : waiting.Current state ((task :: tasks).filterMap Task.familyId?) := by
        rcases List.mem_cons.mp member with rfl | later
        · exact stays _ (registered.current task List.mem_cons_self)
        · exact registered.current waiting (List.mem_cons_of_mem _ later)
      unfold Task.Current at before ⊢
      rwa [user, userFamilies]
    · obtain ⟨waiting, member, isUser⟩ := registered.listened
      rcases List.mem_cons.mp member with rfl | later
      · exact ⟨other, List.mem_cons_self, sameId.trans isUser⟩
      · exact ⟨waiting, List.mem_cons_of_mem _ later, isUser⟩
  exact moved.perm (List.perm_append_singleton other tasks).symm

/-- A failed listener stays what it was. -/
theorem registered_failed {next : State} {task : Task} {new : List Task}
    (registered : Registered form state (task :: tasks))
    (resumed : resume form state task .failed = some (next, new)) :
    Registered form next (tasks ++ new) := by
  cases task with
  | userListener delivered alive =>
      cases alive with
      | false => simp [resume] at resumed
      | true =>
          obtain ⟨rfl, rfl⟩ := Prod.mk.inj (Option.some.inj resumed)
          refine registered.replaced rfl rfl registered.rows fun ids before => ?_
          cases delivered with
          | none => trivial
          | some version => exact before
  | familyListener familyId path delivered alive =>
      cases alive with
      | false => simp [resume] at resumed
      | true =>
          obtain ⟨rfl, rfl⟩ := Prod.mk.inj (Option.some.inj resumed)
          exact registered.replaced rfl rfl registered.rows fun _ _ => trivial

/-- The listeners that the loop has added are those of its families, and wait for their
first snapshots. -/
theorem familyIds_of_loop {families : List String} {listeners : List Task}
    (isLoop : familyListeners families = some listeners) :
    listeners.filterMap Task.familyId? = families ∧
      listeners.filterMap Task.deliveredId? = [] ∧
      ∀ ids, ∀ task ∈ listeners, task.Current state ids := by
  have fresh := familyListeners_eq_some isLoop
  clear isLoop
  induction fresh with
  | nil => exact ⟨rfl, rfl, by simp⟩
  | cons isListener _ inductionHypothesis =>
      obtain ⟨path, _, rfl⟩ := isListener
      obtain ⟨sameIds, noneDelivered, areCurrent⟩ := inductionHypothesis
      refine ⟨congrArg (List.cons _) sameIds, noneDelivered, fun ids task member => ?_⟩
      rcases List.mem_cons.mp member with rfl | later
      · trivial
      · exact areCurrent ids task later

/-- The listeners of the families that the user has now are current. -/
theorem Task.Current.of_families {task : Task} {families registered : List String}
    (isCurrent : task.Current state registered) (current : state.userFamilies? = some families) :
    task.Current state families := by
  unfold Task.Current at isCurrent ⊢
  split at isCurrent
  · refine ⟨isCurrent.1, fun _ others isNow => ?_⟩
    rw [current] at isNow
    rw [Option.some.inj isNow]
  · trivial

/-- The first snapshot of the user document registers its families. -/
theorem registered_userSnapshot {delivered : Option ℕ} {alive : Bool} {families : List String}
    (registered : Registered form state (.userListener delivered alive :: tasks))
    (unused : tasks.filterMap Task.familyId? = [])
    (current : state.userFamilies? = some families) (listable : Listable form families) :
    Registered form (userSnapshot state).1 (tasks ++ (userSnapshot state).2) := by
  obtain ⟨listeners, isLoop⟩ :=
    Option.isSome_iff_exists.mp (familyListeners_isSome listable.2)
  have snapshot : userSnapshot state =
      (state, .userListener (some state.user.length) true :: listeners) := by
    simp only [userSnapshot, current, Option.bind_some, isLoop]
  obtain ⟨familyIds, noneDelivered, areCurrent⟩ := familyIds_of_loop isLoop
  have idle : tasks.filterMap Task.deliveredId? = [] :=
    List.sublist_nil.mp (unused ▸ deliveredIds_sublist tasks)
  have all : (tasks ++ .userListener (some state.user.length) true :: listeners).filterMap
      Task.familyId? = families := by
    rw [List.filterMap_append, unused, List.nil_append]
    exact familyIds
  have sameDelivered : (tasks ++ .userListener (some state.user.length) true :: listeners).filterMap
      Task.deliveredId? = (Task.userListener delivered alive :: tasks).filterMap
        Task.deliveredId? := by
    rw [List.filterMap_append, idle, List.nil_append]
    exact noneDelivered.trans idle.symm
  rw [snapshot]
  refine ⟨?_, ?_, ?_, ?_⟩
  · rw [sameDelivered]
    exact registered.rows
  · rw [all]
    exact listable.1
  · intro task member
    rw [all]
    rcases List.mem_append.mp member with old | new
    · exact (registered.current task (List.mem_cons_of_mem _ old)).of_families current
    · rcases List.mem_cons.mp new with rfl | listener
      · refine ⟨le_refl _, fun _ others isNow => ?_⟩
        rw [current] at isNow
        rw [Option.some.inj isNow]
      · exact areCurrent _ task listener
  · exact ⟨.userListener (some state.user.length) true,
      List.mem_append_right _ List.mem_cons_self, rfl⟩

/-- The first snapshot of a registered family appends its row. -/
theorem registered_familySnapshot {familyId : String} {path : DocumentPath} {alive : Bool}
    (registered : Registered form state (.familyListener familyId path none alive :: tasks))
    (named : ((state.currentFamily? path).bind fun data => (transformFamily data).uid) =
      some familyId) :
    Registered form (familySnapshot form state familyId path).1
      (tasks ++ (familySnapshot form state familyId path).2) := by
  obtain ⟨data, current, uid⟩ := Option.bind_eq_some_iff.mp named
  simp only [familySnapshot, current, uid]
  refine registered.replaced rfl rfl ?_ fun _ _ => trivial
  show ((state.families ++ [transformFamily data]).map Family.uid).Perm
    (some familyId :: (tasks.filterMap Task.deliveredId?).map some)
  rw [List.map_append, List.map_singleton, uid]
  exact (registered.rows.append_right [some familyId]).trans List.perm_append_comm

end Listeners

/-! ## All runs -/

variable {form : CanonicalForm}

/-- One step that delivers first snapshots only keeps the listeners in order. -/
theorem registered_step {config next : Config State Task} {label : Label Event Answer}
    (registered : Registered form config.state config.pool.tasks)
    (firstOnly : FirstOnly form config label)
    (taken : (program form).step config label = some next) :
    Registered form next.state next.pool.tasks := by
  rcases Program.step_cases taken with
    ⟨event, new, rfl, handled, tasks⟩ | ⟨ticket, answer, task, new, rfl, found, resumed, tasks⟩
  · simp only [program] at handled
    split_ifs at handled
    obtain ⟨state, rfl⟩ := Prod.mk.inj (Option.some.inj handled)
    rw [tasks, List.append_nil, ← state]
    exact registered_handle registered event
  · simp only [program] at resumed
    split_ifs at resumed
    have perm := Pool.tasks_perm_of_find? found
    have waiting := registered.perm perm
    rw [tasks]
    cases answer with
    | failed => exact registered_failed waiting resumed
    | snapshot =>
        have first := firstOnly task found
        cases task with
        | userListener delivered alive =>
            obtain ⟨unused, families, current, listable⟩ := first
            have others : (config.pool.remove ticket).tasks.filterMap Task.familyId? = [] := by
              have ids := perm.filterMap Task.familyId?
              rw [unused] at ids
              exact List.nil_perm.mp ids
            cases alive with
            | false => simp [resume] at resumed
            | true =>
                have after := registered_userSnapshot waiting others current listable
                rwa [Option.some.inj resumed] at after
        | familyListener familyId path delivered alive =>
            obtain ⟨rfl, named⟩ := first
            cases alive with
            | false => simp [resume] at resumed
            | true =>
                have after := registered_familySnapshot waiting named
                rwa [Option.some.inj resumed] at after

/-- In every run of the screen, over any documents and whatever is written to them, in
which only first snapshots are delivered, each family is listed once, and once all
listeners have delivered the current value the families listed are those of the user
document. -/
theorem listed_once_of_firstOnly (form : CanonicalForm) (user : List (Option Fields))
    (documents : DocumentPath → List (Option Fields)) {labels : List (Label Event Answer)}
    (firstOnly : (program form).Obeys (FirstOnly form) (opened user documents) labels) :
    (program form).Always (EachOnce form) (opened user documents) labels := by
  apply Program.always_of_invariant
    (fun config => Registered form config.state config.pool.tasks)
    (fun registered => eachOnce_of_registered registered)
    (fun registered first taken => registered_step registered first taken) ?_ firstOnly
  refine ⟨List.Perm.nil, List.nodup_nil, ?_, ⟨.userListener none true, ?_, rfl⟩⟩
  · intro task member
    obtain rfl : task = .userListener none true := by simpa [opened] using member
    trivial
  · simp [opened]

/-! ## A second snapshot -/

/-- A user document that lists one family. -/
def memberData : Fields := Fields.ofList [("families", .strings ["abc"])]

/-- The Family document of that family. -/
def homeOnly (path : DocumentPath) : List (Option Fields) :=
  if path.segments = ["abc"] then [some (familyData "Home" "abc")] else []

/-- The first snapshots of both documents list the family once. -/
theorem listed_once_of_firstOnly_one :
    (program CanonicalForm.scalars).Always (EachOnce CanonicalForm.scalars)
      (opened [some memberData] homeOnly) [.answer 0 .snapshot, .answer 2 .snapshot] :=
  listed_once_of_firstOnly CanonicalForm.scalars [some memberData] homeOnly (by decide)

/-- The user switches to the family that is listed: the user document is delivered again,
and with it a second listener on the Family document. -/
def switched : List (Label Event Answer) :=
  [.answer 0 .snapshot, .answer 2 .snapshot,
    .event (.storeUser (some (memberData.merge [("familyId", .string "abc")]))),
    .answer 1 .snapshot, .answer 5 .snapshot]

/-- The family is renamed: its document is delivered again. -/
def renamed : List (Label Event Answer) :=
  [.answer 0 .snapshot, .answer 2 .snapshot,
    .event (.storeFamily ⟨["abc"], by decide, by decide⟩ (some (familyData "House" "abc"))),
    .answer 3 .snapshot]

/-- Either way the family is then listed twice. -/
theorem listed_twice_by_second_snapshot :
    (∃ last, (program CanonicalForm.scalars).run (opened [some memberData] homeOnly) switched =
        some last ∧ ¬ EachOnce CanonicalForm.scalars last) ∧
      ∃ last, (program CanonicalForm.scalars).run (opened [some memberData] homeOnly) renamed =
        some last ∧ ¬ EachOnce CanonicalForm.scalars last := by
  have twice : ∀ last : Config State Task,
      last.state.families.map Family.uid = [some "abc", some "abc"] →
        ¬ EachOnce CanonicalForm.scalars last := by
    intro last rows each
    have normalized : last.state.families.map
        (fun family => family.uid.map CanonicalForm.scalars.normalize) =
          (last.state.families.map Family.uid).map
            (Option.map CanonicalForm.scalars.normalize) := by
      rw [List.map_map]
      rfl
    have distinct := each.distinct
    rw [normalized, rows] at distinct
    simp at distinct
  constructor
  · obtain ⟨last, ran, rows⟩ : ∃ last, (program CanonicalForm.scalars).run
        (opened [some memberData] homeOnly) switched = some last ∧
          last.state.families.map Family.uid = [some "abc", some "abc"] :=
      Program.exists_run (by decide)
    exact ⟨last, ran, twice last rows⟩
  · obtain ⟨last, ran, rows⟩ : ∃ last, (program CanonicalForm.scalars).run
        (opened [some memberData] homeOnly) renamed = some last ∧
          last.state.families.map Family.uid = [some "abc", some "abc"] :=
      Program.exists_run (by decide)
    exact ⟨last, ran, twice last rows⟩

end Familog.Switch
