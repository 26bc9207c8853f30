import Familog.Async.History
import Familog.Switch.Listing

/-!
Contract: the rows of the switch screen.

Owns `cellForRowAt` and `famliyTapped`, what a run has delivered to the screen, and the
invariant that ties the rows and the names to it: the rows are the Family documents
delivered, in this order; the name noted for one is the name it was delivered with last, and
its id is in a delivered `families`. Owns the condition under which every step keeps the
invariant, that it is exact, and two runs that do not meet it.

Does not own which rows there are. A Family document is told by its path, and is taken to
carry its document id as `uid`. The dictionary compares ids by Swift's `==`, and a listed
text can name a document whose id is another text.
-/

set_option autoImplicit false

namespace Familog.Switch

open Async Firestore Swift

/-! ## The cells -/

/-- `SwitchFamilyTableViewCell`, with the title of its button. -/
structure SwitchFamilyTableViewCell where
  famliyButton : String
  familyId : String
deriving DecidableEq

/-- `numberOfRowsInSection`. -/
def State.numberOfRows (state : State) : ℕ := state.families.length

/-- `cellForRowAt`; `none` where `family.uid!` or the unwrap of the name fails. -/
def State.cellForRowAt (state : State) (row : ℕ) : Option SwitchFamilyTableViewCell :=
  state.families[row]?.bind fun family =>
    family.uid.bind fun uid =>
      (state.familyDict uid).map fun familyName => ⟨familyName, uid⟩

/-- The entries that `famliyTapped` gives to `setCurrentUser`. -/
def SwitchFamilyTableViewCell.famliyTapped (cell : SwitchFamilyTableViewCell) :
    List (String × Value) :=
  [("familyId", .string cell.familyId)]

/-! ## What has been delivered -/

/-- A snapshot: the `families` of the user document, or a Family document. -/
inductive Delivery where
  | user (families : List String)
  | family (path : DocumentPath) (family : Family)

/-- What the callback of a listener is given. -/
def delivery (state : State) : Task → List Delivery
  | .userListener _ _ => state.userFamilies?.toList.map .user
  | .familyListener _ path _ _ =>
      (state.currentFamily? path).toList.map fun data => .family path (transformFamily data)

/-- What a step delivers. -/
def delivered (config : Config State Task) : Label Event Answer → List Delivery
  | .answer ticket .snapshot =>
      match config.pool.find? ticket with
      | none => []
      | some task => delivery config.state task
  | .answer _ .failed => []
  | .event _ => []

/-- The Family document of a snapshot. -/
def Delivery.family? : Delivery → Option (DocumentPath × Family)
  | .user _ => none
  | .family path shown => some (path, shown)

/-- The `families` of a snapshot. -/
def Delivery.user? : Delivery → Option (List String)
  | .user families => some families
  | .family _ _ => none

/-- The Family documents delivered, the oldest first. -/
def familiesOf (past : List Delivery) : List (DocumentPath × Family) :=
  past.filterMap Delivery.family?

/-- The snapshot is one of the document. -/
def Delivery.IsOf (path : DocumentPath) : Delivery → Prop
  | .user _ => False
  | .family other _ => other = path

/-- The name with which the document was delivered last. -/
def NamedLast (past : List Delivery) (path : DocumentPath) (familyName : String) : Prop :=
  ∃ family : Family, Latest (Delivery.IsOf path) past (.family path family) ∧
    family.familyName = some familyName

/-- A delivered user document listed the id. -/
def Listed (past : List Delivery) (familyId : String) : Prop :=
  ∃ families ∈ past.filterMap Delivery.user?, familyId ∈ families

instance (past : List Delivery) (familyId : String) : Decidable (Listed past familyId) :=
  inferInstanceAs (Decidable (∃ families ∈ _, _))

/-- The document that a listener has delivered at least once. -/
def Task.deliveredPath? : Task → Option DocumentPath
  | .userListener _ _ => none
  | .familyListener _ path delivered _ => delivered.map fun _ => path

/-- The listener has an existing Family document to deliver, which has a name and carries its
document id. -/
def HasFamily (state : State) : Task → Prop
  | .userListener _ _ => True
  | .familyListener _ path _ _ => ∃ data ∈ state.currentFamily? path,
      (transformFamily data).uid = some path.documentID ∧
        (transformFamily data).familyName.isSome

instance (state : State) : DecidablePred (HasFamily state)
  | .userListener _ _ => isTrue trivial
  | .familyListener _ _ _ _ => inferInstanceAs (Decidable (∃ data ∈ _, _))

/-- Every Family document that is delivered exists, has a name, and carries its document
id. -/
def DeliversFamilies (config : Config State Task) : Label Event Answer → Prop
  | .event _ => True
  | .answer _ .failed => True
  | .answer ticket .snapshot => ∀ task, config.pool.find? ticket = some task →
      HasFamily config.state task

instance decidableDeliversFamilies (config : Config State Task) (label : Label Event Answer) :
    Decidable (DeliversFamilies config label) :=
  match label with
  | .event _ => isTrue trivial
  | .answer _ .failed => isTrue trivial
  | .answer ticket .snapshot =>
      inferInstanceAs (Decidable (∀ task, config.pool.find? ticket = some task → _))

/-- The document of the listener is mistaken for no other: its id has been listed as it is,
and every other document delivered before, whose id is canonically equal, has just the name
that is delivered now. -/
def Unmistaken (form : CanonicalForm) (config : Config State Task) : Task → Prop
  | .userListener _ _ => True
  | .familyListener _ path _ _ =>
      (∃ task ∈ config.pool.tasks, task.familyId? = some path.documentID) ∧
        ∀ task ∈ config.pool.tasks, ∀ other ∈ task.deliveredPath?,
          form.Same other.documentID path.documentID → other = path ∨
            config.state.familyDict other.documentID =
              (config.state.currentFamily? path).bind fun data => (transformFamily data).familyName

instance (form : CanonicalForm) (config : Config State Task) :
    DecidablePred (Unmistaken form config)
  | .userListener _ _ => isTrue trivial
  | .familyListener _ _ _ _ => inferInstanceAs (Decidable ((∃ task ∈ _, _) ∧ ∀ task ∈ _, _))

/-- No Family document that is delivered is mistaken for another. -/
def NoneMistaken (form : CanonicalForm) (config : Config State Task) :
    Label Event Answer → Prop
  | .event _ => True
  | .answer _ .failed => True
  | .answer ticket .snapshot => ∀ task, config.pool.find? ticket = some task →
      Unmistaken form config task

instance decidableNoneMistaken (form : CanonicalForm) (config : Config State Task)
    (label : Label Event Answer) : Decidable (NoneMistaken form config label) :=
  match label with
  | .event _ => isTrue trivial
  | .answer _ .failed => isTrue trivial
  | .answer ticket .snapshot =>
      inferInstanceAs (Decidable (∀ task, config.pool.find? ticket = some task → _))

/-! ## The invariant -/

/-- The document can be shown in a row, under the name it was delivered with last, and its id
has been listed. -/
structure Shows (past : List Delivery) (familyDict : String → Option String)
    (path : DocumentPath) : Prop where
  named : ∃ familyName, familyDict path.documentID = some familyName ∧
    NamedLast past path familyName
  listed : Listed past path.documentID

/-- The rows are the documents delivered, each of which can be shown and has a listener that
has delivered it; every id that is listened to has been listed. -/
structure Covered (past : List Delivery) (state : State) (tasks : List Task) : Prop where
  rows : state.families = (familiesOf past).map Prod.snd
  shown : ∀ shown ∈ familiesOf past,
    shown.2.uid = some shown.1.documentID ∧ Shows past state.familyDict shown.1
  listeners : ∀ shown ∈ familiesOf past, ∃ task ∈ tasks, shown.1 ∈ task.deliveredPath?
  listed : ∀ task ∈ tasks, ∀ familyId ∈ task.familyId?, Listed past familyId

section Steps

variable {form : CanonicalForm} {past : List Delivery} {state : State} {tasks rest : List Task}
  {path : DocumentPath} {familyDict : String → Option String}

theorem familiesOf_append_user (families : List String) :
    familiesOf (past ++ [.user families]) = familiesOf past := by
  simp [familiesOf, Delivery.family?]

theorem familiesOf_append_family (family : Family) :
    familiesOf (past ++ [.family path family]) = familiesOf past ++ [(path, family)] := by
  simp [familiesOf, Delivery.family?]

theorem listed_append {new : List Delivery} {familyId : String} :
    Listed (past ++ new) familyId ↔ Listed past familyId ∨ Listed new familyId := by
  simp only [Listed, List.filterMap_append, List.mem_append, or_and_right, exists_or]

theorem Listed.append {familyId : String} (listed : Listed past familyId) (new : List Delivery) :
    Listed (past ++ new) familyId :=
  listed_append.mpr (Or.inl listed)

/-- A snapshot of the user document names nothing. -/
theorem Shows.user (shown : Shows past familyDict path) (families : List String) :
    Shows (past ++ [.user families]) familyDict path := by
  obtain ⟨familyName, noted, family, latest, named⟩ := shown.named
  exact ⟨⟨familyName, noted, family, latest.append fun isOf => isOf, named⟩,
    shown.listed.append _⟩

/-- The document that has just been delivered. -/
theorem Shows.delivered {family : Family} {familyName : String}
    (listed : Listed past path.documentID) (named : family.familyName = some familyName) :
    Shows (past ++ [.family path family])
      (setName form familyDict path.documentID (some familyName)) path :=
  ⟨⟨familyName, if_pos (CanonicalForm.Same.refl _), family, .observed rfl, named⟩,
    listed.append _⟩

/-- A snapshot of a document leaves the rows of the others as they are, unless it is mistaken
for one of them. -/
theorem Shows.other {family : Family} {familyName : String} {other : DocumentPath}
    (shown : Shows past familyDict other) (different : path ≠ other)
    (unmistaken : form.Same other.documentID path.documentID →
      familyDict other.documentID = some familyName) :
    Shows (past ++ [.family path family])
      (setName form familyDict path.documentID (some familyName)) other := by
  obtain ⟨before, noted, earlier, latest, namedEarlier⟩ := shown.named
  refine ⟨⟨before, ?_, earlier, latest.append different, namedEarlier⟩, shown.listed.append _⟩
  unfold setName
  split_ifs with same
  · exact (unmistaken same).symm.trans noted
  · exact noted

/-- A listener of the loop is registered for a family of the loop. -/
theorem exists_of_mem_listeners {families : List String} {listeners : List Task} {task : Task}
    (registered : familyListeners families = some listeners) (member : task ∈ listeners) :
    ∃ familyId ∈ families, ∃ path, task = .familyListener familyId path none true := by
  have loop := familyListeners_eq_some registered
  clear registered
  induction loop with
  | nil => simp at member
  | @cons familyId first rest others here _ inductionHypothesis =>
      rcases List.mem_cons.mp member with rfl | later
      · obtain ⟨path, _, isListener⟩ := here
        exact ⟨familyId, List.mem_cons_self, path, isListener⟩
      · obtain ⟨other, inside, path, isListener⟩ := inductionHypothesis later
        exact ⟨other, List.mem_cons_of_mem _ inside, path, isListener⟩

/-- Only membership among the listeners counts. -/
theorem Covered.of_mem (covered : Covered past state tasks) {others : List Task}
    (same : ∀ task, task ∈ tasks ↔ task ∈ others) : Covered past state others where
  rows := covered.rows
  shown := covered.shown
  listeners shown member := by
    obtain ⟨task, waiting, isPath⟩ := covered.listeners shown member
    exact ⟨task, (same task).mp waiting, isPath⟩
  listed task waiting := covered.listed task ((same task).mpr waiting)

/-- A listener is replaced by others, among them one that has delivered what it had. -/
theorem Covered.replaced {task : Task} {new : List Task}
    (covered : Covered past state (task :: rest))
    (again : ∀ path ∈ task.deliveredPath?, ∃ other ∈ new, path ∈ other.deliveredPath?)
    (listed : ∀ other ∈ new, ∀ familyId ∈ other.familyId?, Listed past familyId) :
    Covered past state (rest ++ new) where
  rows := covered.rows
  shown := covered.shown
  listeners shown member := by
    obtain ⟨other, waiting, isPath⟩ := covered.listeners shown member
    rcases List.mem_cons.mp waiting with rfl | old
    · obtain ⟨later, issued, stillPath⟩ := again shown.1 isPath
      exact ⟨later, List.mem_append_right _ issued, stillPath⟩
    · exact ⟨other, List.mem_append_left _ old, isPath⟩
  listed := List.forall_mem_append.mpr
    ⟨fun other waiting => covered.listed other (List.mem_cons_of_mem _ waiting), listed⟩

/-- What has been delivered counts for a user document as well. -/
theorem Covered.user (covered : Covered past state tasks) (families : List String) :
    Covered (past ++ [.user families]) state tasks where
  rows := by rw [familiesOf_append_user]; exact covered.rows
  shown shown member := by
    rw [familiesOf_append_user] at member
    obtain ⟨carries, shows⟩ := covered.shown shown member
    exact ⟨carries, shows.user families⟩
  listeners shown member := by
    rw [familiesOf_append_user] at member
    exact covered.listeners shown member
  listed task waiting familyId isId := (covered.listed task waiting familyId isId).append _

/-- A snapshot of the user document registers listeners for families it lists. -/
theorem covered_userSnapshot {version : Option ℕ} {alive : Bool}
    (covered : Covered past state (.userListener version alive :: rest)) :
    Covered (past ++ state.userFamilies?.toList.map .user) (userSnapshot state).1
      (rest ++ (userSnapshot state).2) := by
  have nothing : ∀ (past : List Delivery) (state : State),
      Covered past state (.userListener version alive :: rest) →
      Covered past state.trap (rest ++ []) := by
    intro past state covered
    have kept : Covered past state (rest ++ []) :=
      covered.replaced (by simp [Task.deliveredPath?]) (by simp)
    exact ⟨kept.rows, kept.shown, kept.listeners, kept.listed⟩
  cases current : state.userFamilies? with
  | none =>
      have trapped : userSnapshot state = (state.trap, []) := by simp [userSnapshot, current]
      rw [trapped, Option.toList_none, List.map_nil, List.append_nil]
      exact nothing past state covered
  | some families =>
      have informed := covered.user families
      rw [Option.toList_some, List.map_singleton]
      cases registered : familyListeners families with
      | none =>
          have trapped : userSnapshot state = (state.trap, []) := by
            simp [userSnapshot, current, registered]
          rw [trapped]
          exact nothing _ state informed
      | some listeners =>
          have continued : userSnapshot state =
              (state, .userListener (some state.user.length) true :: listeners) := by
            simp [userSnapshot, current, registered]
          rw [continued]
          refine informed.replaced (by simp [Task.deliveredPath?]) ?_
          refine List.forall_mem_cons.mpr ⟨by simp [Task.familyId?], fun task inLoop => ?_⟩
          obtain ⟨listed, inFamilies, key, rfl⟩ := exists_of_mem_listeners registered inLoop
          intro familyId isId
          obtain rfl : listed = familyId := Option.some.inj isId
          exact ⟨families, by simp [Delivery.user?], inFamilies⟩

/-- A snapshot of a Family document appends a row that can be shown, and names the rows of
this document anew. -/
theorem covered_familySnapshot {config : Config State Task} {familyId : String}
    {version : Option ℕ} {alive : Bool} {data : Fields} {familyName : String}
    (covered : Covered past config.state config.pool.tasks)
    (same : ∀ task, task ∈ config.pool.tasks ↔
      task ∈ Task.familyListener familyId path version alive :: rest)
    (current : config.state.currentFamily? path = some data)
    (carries : (transformFamily data).uid = some path.documentID)
    (named : (transformFamily data).familyName = some familyName)
    (unmistaken : Unmistaken form config (.familyListener familyId path version alive)) :
    Covered (past ++ [.family path (transformFamily data)])
      (familySnapshot form config.state familyId path).1
      (rest ++ (familySnapshot form config.state familyId path).2) := by
  obtain ⟨⟨listener, registered, isOwn⟩, apart⟩ := unmistaken
  have listedOwn : Listed past path.documentID := covered.listed listener registered _ isOwn
  have shownAgain : ∀ shown ∈ familiesOf past, shown.2.uid = some shown.1.documentID ∧
      Shows (past ++ [.family path (transformFamily data)])
        (setName form config.state.familyDict path.documentID (some familyName)) shown.1 := by
    intro shown member
    obtain ⟨carriesOld, shows⟩ := covered.shown shown member
    refine ⟨carriesOld, ?_⟩
    by_cases isPath : path = shown.1
    · exact isPath ▸ Shows.delivered listedOwn named
    · obtain ⟨other, waiting, isOther⟩ := covered.listeners shown member
      refine shows.other isPath fun sameId => ?_
      have noted := (apart other waiting shown.1 isOther sameId).resolve_left (Ne.symm isPath)
      rwa [current, Option.bind_some, named] at noted
  have kept : Covered past config.state (rest ++
      [.familyListener familyId path (some (config.state.documents path).length) true]) := by
    refine (covered.of_mem same).replaced ?_ ?_
    · intro other isOther
      obtain ⟨_, _, rfl⟩ := Option.map_eq_some_iff.mp isOther
      exact ⟨_, List.mem_singleton_self _, rfl⟩
    · refine List.forall_mem_singleton.mpr fun other isId => ?_
      exact covered.listed _ ((same _).mpr List.mem_cons_self) other isId
  simp only [familySnapshot, current, carries, named]
  constructor
  · rw [familiesOf_append_family, List.map_append, ← covered.rows]
    rfl
  · rw [familiesOf_append_family]
    exact List.forall_mem_append.mpr ⟨shownAgain,
      List.forall_mem_singleton.mpr ⟨carries, Shows.delivered listedOwn named⟩⟩
  · rw [familiesOf_append_family]
    exact List.forall_mem_append.mpr ⟨kept.listeners, List.forall_mem_singleton.mpr
      ⟨_, List.mem_append_right _ (List.mem_singleton_self _), rfl⟩⟩
  · exact fun task waiting other isId => (kept.listed task waiting other isId).append _

/-- A listener that fails says nothing. -/
theorem covered_failed {task : Task} {next : State} {new : List Task}
    (covered : Covered past state (task :: rest))
    (resumed : resume form state task .failed = some (next, new)) :
    Covered past next (rest ++ new) := by
  have listed := covered.listed task List.mem_cons_self
  cases task with
  | userListener version alive =>
      cases alive with
      | false => simp [resume] at resumed
      | true =>
          obtain ⟨rfl, rfl⟩ := Prod.mk.inj (Option.some.inj resumed)
          exact covered.replaced (by simp [Task.deliveredPath?]) (by simp [Task.familyId?])
  | familyListener familyId path version alive =>
      cases alive with
      | false => simp [resume] at resumed
      | true =>
          obtain ⟨rfl, rfl⟩ := Prod.mk.inj (Option.some.inj resumed)
          exact covered.replaced (fun other isOther => ⟨_, List.mem_singleton_self _, isOther⟩)
            (List.forall_mem_singleton.mpr listed)

end Steps

theorem delivery_family {state : State} {familyId : String} {path : DocumentPath}
    {version : Option ℕ} {alive : Bool} {data : Fields}
    (current : state.currentFamily? path = some data) :
    delivery state (.familyListener familyId path version alive) =
      [.family path (transformFamily data)] := by
  rw [delivery, current]
  rfl

/-- Every step keeps the invariant, with what it delivers. -/
theorem covered_step {form : CanonicalForm} {past : List Delivery} {config next : Config State Task}
    {label : Label Event Answer} (covered : Covered past config.state config.pool.tasks)
    (allowed : DeliversFamilies config label ∧ NoneMistaken form config label)
    (taken : (program form).step config label = some next) :
    Covered (past ++ delivered config label) next.state next.pool.tasks := by
  obtain ⟨delivers, unmistaken⟩ := allowed
  rcases Program.step_cases taken with
    ⟨event, new, rfl, handled, tasks⟩ | ⟨ticket, answer, task, new, rfl, found, resumed, tasks⟩
  · simp only [program] at handled
    split_ifs at handled with trapped
    obtain ⟨state, rfl⟩ := Prod.mk.inj (Option.some.inj handled)
    rw [tasks, List.append_nil, ← state, delivered, List.append_nil]
    cases event with
    | storeUser data => exact ⟨covered.rows, covered.shown, covered.listeners, covered.listed⟩
    | storeFamily path data =>
        exact ⟨covered.rows, covered.shown, covered.listeners, covered.listed⟩
  · simp only [program] at resumed
    split_ifs at resumed with trapped
    have same : ∀ other, other ∈ config.pool.tasks ↔
        other ∈ task :: (config.pool.remove ticket).tasks :=
      fun _ => (Pool.tasks_perm_of_find? found).mem_iff
    have waiting := covered.of_mem same
    rw [tasks]
    cases answer with
    | failed =>
        rw [delivered, List.append_nil]
        exact covered_failed waiting resumed
    | snapshot =>
        have hasFamily := delivers task found
        have isUnmistaken := unmistaken task found
        simp only [delivered, found]
        cases task with
        | userListener version alive =>
            cases alive with
            | false => simp [resume] at resumed
            | true =>
                obtain ⟨state, rest⟩ := Prod.mk.inj (Option.some.inj resumed)
                rw [← state, ← rest]
                exact covered_userSnapshot waiting
        | familyListener familyId path version alive =>
            cases alive with
            | false => simp [resume] at resumed
            | true =>
                obtain ⟨state, rest⟩ := Prod.mk.inj (Option.some.inj resumed)
                obtain ⟨data, current, carries, hasName⟩ := hasFamily
                obtain ⟨familyName, named⟩ := Option.isSome_iff_exists.mp hasName
                rw [← state, ← rest, delivery_family current]
                exact covered_familySnapshot covered same current carries named isUnmistaken

/-! ## All runs -/

/-- What the row should show: the cell is built without a failed unwrap, its button has the
name with which the row's document was delivered last, and a tap writes an id from a delivered
`families`. The document of a row is the one whose delivery appended it. -/
def RowCurrent (past : List Delivery) (state : State) (row : ℕ) : Prop :=
  ∃ path family cell, (familiesOf past)[row]? = some (path, family) ∧
    state.cellForRowAt row = some cell ∧ NamedLast past path cell.famliyButton ∧
    ∃ familyId, cell.famliyTapped = [("familyId", .string familyId)] ∧ Listed past familyId

theorem covered_of_run {form : CanonicalForm} {user : List (Option Fields)}
    {documents : DocumentPath → List (Option Fields)} {labels : List (Label Event Answer)}
    {last : Config State Task}
    (delivers : (program form).Obeys DeliversFamilies (opened user documents) labels)
    (unmistaken : (program form).Obeys (NoneMistaken form) (opened user documents) labels)
    (ran : (program form).run (opened user documents) labels = some last) :
    Covered ((program form).history delivered (opened user documents) labels) last.state
      last.pool.tasks := by
  have start : Covered [] (opened user documents).state (opened user documents).pool.tasks := by
    refine ⟨rfl, by simp [familiesOf], by simp [familiesOf], ?_⟩
    simp [opened, Task.familyId?]
  exact Program.run_history (fun past config => Covered past config.state config.pool.tasks)
    covered_step start (Program.obeys_and delivers unmistaken) ran

/-- In every state that is reached over any documents, however they change and whatever is
delivered twice, as long as no Family document that is delivered is mistaken for another, each
row is safe and current. -/
theorem rows_safe_and_current {form : CanonicalForm} {user : List (Option Fields)}
    {documents : DocumentPath → List (Option Fields)} {labels : List (Label Event Answer)}
    {last : Config State Task}
    (delivers : (program form).Obeys DeliversFamilies (opened user documents) labels)
    (unmistaken : (program form).Obeys (NoneMistaken form) (opened user documents) labels)
    (ran : (program form).run (opened user documents) labels = some last) (row : ℕ)
    (listed : row < last.state.numberOfRows) :
    RowCurrent ((program form).history delivered (opened user documents) labels)
      last.state row := by
  have covered := covered_of_run delivers unmistaken ran
  generalize (program form).history delivered (opened user documents) labels = past at covered ⊢
  have inPast : row < (familiesOf past).length := by
    rw [State.numberOfRows, covered.rows, List.length_map] at listed
    exact listed
  obtain ⟨⟨path, family⟩, isRow⟩ : ∃ item, (familiesOf past)[row]? = some item :=
    ⟨_, List.getElem?_eq_getElem inPast⟩
  have member : (path, family) ∈ familiesOf past := List.mem_of_getElem? isRow
  obtain ⟨carries, shows⟩ := covered.shown _ member
  obtain ⟨familyName, noted, named⟩ := shows.named
  have atRow : last.state.families[row]? = some family := by
    rw [covered.rows, List.getElem?_map, isRow]
    rfl
  refine ⟨path, family, ⟨familyName, path.documentID⟩, isRow, ?_, named, path.documentID, rfl,
    shows.listed⟩
  rw [State.cellForRowAt, atRow, Option.bind_some, carries, Option.bind_some, noted]
  rfl

/-- A row that was appended before the family was renamed. -/
theorem rows_safe_and_current_renamed :
    ∃ last, (program CanonicalForm.scalars).run (opened [some memberData] homeOnly) renamed =
        some last ∧ last.state.cellForRowAt 0 = some ⟨"House", "abc"⟩ ∧
      RowCurrent ((program CanonicalForm.scalars).history delivered
        (opened [some memberData] homeOnly) renamed) last.state 0 := by
  obtain ⟨last, ran, listed, shown⟩ : ∃ last, (program CanonicalForm.scalars).run
      (opened [some memberData] homeOnly) renamed = some last ∧
        0 < last.state.numberOfRows ∧ last.state.cellForRowAt 0 = some ⟨"House", "abc"⟩ :=
    Program.exists_run (by decide)
  exact ⟨last, ran, shown, rows_safe_and_current (by decide) (by decide) ran 0 listed⟩

/-! ## A delivery that is mistaken -/

/-- While the screen goes on, every id that has been listed is listened to; a document that a
listener has delivered has a row. -/
structure Told (past : List Delivery) (state : State) (tasks : List Task) : Prop where
  registered : state.trapped = false → ∀ familyId, Listed past familyId →
    ∃ task ∈ tasks, task.familyId? = some familyId
  delivered : ∀ task ∈ tasks, ∀ path ∈ task.deliveredPath?, ∃ family,
    (path, family) ∈ familiesOf past

section Mistaken

variable {form : CanonicalForm} {past : List Delivery} {state : State} {tasks rest : List Task}

theorem familiesOf_append (new : List Delivery) :
    familiesOf (past ++ new) = familiesOf past ++ familiesOf new :=
  List.filterMap_append

/-- A listener is replaced by others, which are registered for its family and for those
listed now. -/
theorem Told.replaced {task : Task} {new : List Task} {more : List Delivery} {next : State}
    (told : Told past state (task :: rest)) (running : state.trapped = false)
    (registered : next.trapped = false → ∀ familyId,
      task.familyId? = some familyId ∨ Listed more familyId →
        ∃ other ∈ new, other.familyId? = some familyId)
    (delivered : ∀ other ∈ new, ∀ path ∈ other.deliveredPath?, ∃ family,
      (path, family) ∈ familiesOf (past ++ more)) :
    Told (past ++ more) next (rest ++ new) where
  registered goesOn familyId listed := by
    have fromNew : (task.familyId? = some familyId ∨ Listed more familyId) →
        ∃ other ∈ rest ++ new, other.familyId? = some familyId := fun either => by
      obtain ⟨other, issued, isId⟩ := registered goesOn familyId either
      exact ⟨other, List.mem_append_right _ issued, isId⟩
    rcases listed_append.mp listed with old | now
    · obtain ⟨other, waiting, isId⟩ := told.registered running familyId old
      rcases List.mem_cons.mp waiting with rfl | stays
      · exact fromNew (Or.inl isId)
      · exact ⟨other, List.mem_append_left _ stays, isId⟩
    · exact fromNew (Or.inr now)
  delivered := List.forall_mem_append.mpr ⟨fun other waiting path isPath => by
    obtain ⟨family, member⟩ := told.delivered other (List.mem_cons_of_mem _ waiting) path isPath
    exact ⟨family, familiesOf_append more ▸ List.mem_append_left _ member⟩, delivered⟩

theorem told_userSnapshot {version : Option ℕ} {alive : Bool}
    (told : Told past state (.userListener version alive :: rest))
    (running : state.trapped = false) :
    Told (past ++ state.userFamilies?.toList.map .user) (userSnapshot state).1
      (rest ++ (userSnapshot state).2) := by
  cases snapshot : state.userFamilies?.bind familyListeners with
  | none =>
      simp only [userSnapshot, snapshot]
      exact told.replaced running (by simp [State.trap]) (by simp)
  | some listeners =>
      obtain ⟨families, current, isLoop⟩ := Option.bind_eq_some_iff.mp snapshot
      have continued : userSnapshot state =
          (state, .userListener (some state.user.length) true :: listeners) := by
        simp [userSnapshot, snapshot]
      rw [continued, current]
      refine told.replaced running (fun _ familyId now => ?_) ?_
      · have inFamilies : familyId ∈ families := by
          simpa [Task.familyId?, Listed, Delivery.user?] using now
        rw [← (@familyIds_of_loop state _ _ isLoop).1] at inFamilies
        obtain ⟨listener, inLoop, isId⟩ := List.mem_filterMap.mp inFamilies
        exact ⟨listener, List.mem_cons_of_mem _ inLoop, isId⟩
      · refine List.forall_mem_cons.mpr ⟨by simp [Task.deliveredPath?], fun task inLoop => ?_⟩
        obtain ⟨listed, _, path, rfl⟩ := exists_of_mem_listeners isLoop inLoop
        simp [Task.deliveredPath?]

theorem told_familySnapshot {familyId : String} {path : DocumentPath} {version : Option ℕ}
    {alive : Bool} (told : Told past state (.familyListener familyId path version alive :: rest))
    (running : state.trapped = false) :
    Told (past ++ (state.currentFamily? path).toList.map fun data =>
        .family path (transformFamily data)) (familySnapshot form state familyId path).1
      (rest ++ (familySnapshot form state familyId path).2) := by
  cases current : state.currentFamily? path with
  | none =>
      simp only [familySnapshot, current]
      exact told.replaced running (by simp [State.trap]) (by simp)
  | some data =>
      cases carries : (transformFamily data).uid with
      | none =>
          simp only [familySnapshot, current, carries]
          exact told.replaced running (by simp [State.trap]) (by simp)
      | some uid =>
          simp only [familySnapshot, current, carries, Option.toList_some, List.map_singleton]
          refine told.replaced running (fun _ other now => ?_) ?_
          · have isId : familyId = other := by
              simpa [Task.familyId?, Listed, Delivery.user?] using now
            exact ⟨_, List.mem_singleton_self _, congrArg some isId⟩
          · refine List.forall_mem_singleton.mpr fun other isPath => ?_
            obtain rfl : path = other := by simpa [Task.deliveredPath?] using isPath
            exact ⟨transformFamily data, by simp [familiesOf_append_family]⟩

theorem told_failed {task : Task} {next : State} {new : List Task}
    (told : Told past state (task :: rest)) (running : state.trapped = false)
    (resumed : resume form state task .failed = some (next, new)) :
    Told past next (rest ++ new) := by
  have kept : Told (past ++ []) next (rest ++ new) := by
    have path := told.delivered task List.mem_cons_self
    cases task with
    | userListener version alive =>
        cases alive with
        | false => simp [resume] at resumed
        | true =>
            obtain ⟨rfl, rfl⟩ := Prod.mk.inj (Option.some.inj resumed)
            exact told.replaced running (by simp [Task.familyId?, Listed])
              (by simp [Task.deliveredPath?])
    | familyListener familyId path version alive =>
        cases alive with
        | false => simp [resume] at resumed
        | true =>
            obtain ⟨rfl, rfl⟩ := Prod.mk.inj (Option.some.inj resumed)
            exact told.replaced running (by simp [Task.familyId?, Listed])
              (List.forall_mem_singleton.mpr (by simpa [Task.deliveredPath?] using path))
  rwa [List.append_nil] at kept

/-- Every step keeps this, with what it delivers. -/
theorem told_step {config next : Config State Task} {label : Label Event Answer}
    (told : Told past config.state config.pool.tasks)
    (taken : (program form).step config label = some next) :
    Told (past ++ delivered config label) next.state next.pool.tasks := by
  rcases Program.step_cases taken with
    ⟨event, new, rfl, handled, tasks⟩ | ⟨ticket, answer, task, new, rfl, found, resumed, tasks⟩
  · simp only [program] at handled
    split_ifs at handled
    obtain ⟨state, rfl⟩ := Prod.mk.inj (Option.some.inj handled)
    rw [tasks, List.append_nil, ← state, delivered, List.append_nil]
    cases event with
    | storeUser data => exact ⟨told.registered, told.delivered⟩
    | storeFamily path data => exact ⟨told.registered, told.delivered⟩
  · simp only [program] at resumed
    split_ifs at resumed with trapped
    have running : config.state.trapped = false := by simpa using trapped
    have same : ∀ other, other ∈ config.pool.tasks ↔
        other ∈ task :: (config.pool.remove ticket).tasks :=
      fun _ => (Pool.tasks_perm_of_find? found).mem_iff
    have waiting : Told past config.state (task :: (config.pool.remove ticket).tasks) :=
      ⟨by simpa only [same] using told.registered, by simpa only [same] using told.delivered⟩
    rw [tasks]
    cases answer with
    | failed =>
        rw [delivered, List.append_nil]
        exact told_failed waiting running resumed
    | snapshot =>
        simp only [delivered, found]
        cases task with
        | userListener version alive =>
            cases alive with
            | false => simp [resume] at resumed
            | true =>
                obtain ⟨state, rest⟩ := Prod.mk.inj (Option.some.inj resumed)
                rw [← state, ← rest]
                exact told_userSnapshot waiting running
        | familyListener familyId path version alive =>
            cases alive with
            | false => simp [resume] at resumed
            | true =>
                obtain ⟨state, rest⟩ := Prod.mk.inj (Option.some.inj resumed)
                rw [← state, ← rest]
                exact told_familySnapshot waiting running

section Delivered

variable {config : Config State Task} {familyId familyName : String} {path : DocumentPath}
  {data : Fields}

theorem familySnapshot_state (current : config.state.currentFamily? path = some data)
    (carries : (transformFamily data).uid = some path.documentID)
    (named : (transformFamily data).familyName = some familyName) :
    (familySnapshot form config.state familyId path).1 =
      { config.state with
        families := config.state.families ++ [transformFamily data]
        familyDict := setName form config.state.familyDict path.documentID (some familyName) } := by
  simp only [familySnapshot, current, carries, named]

/-- The row of another document whose name is overwritten. -/
theorem exists_wrong_of_overwritten {task : Task} {other : DocumentPath}
    (covered : Covered past config.state config.pool.tasks)
    (told : Told past config.state config.pool.tasks)
    (current : config.state.currentFamily? path = some data)
    (carries : (transformFamily data).uid = some path.documentID)
    (named : (transformFamily data).familyName = some familyName)
    (waiting : task ∈ config.pool.tasks) (isOther : other ∈ task.deliveredPath?)
    (same : form.Same other.documentID path.documentID) (different : other ≠ path)
    (stale : config.state.familyDict other.documentID ≠ some familyName) :
    ∃ row, row < (familySnapshot form config.state familyId path).1.numberOfRows ∧
      ¬ RowCurrent (past ++ [.family path (transformFamily data)])
        (familySnapshot form config.state familyId path).1 row := by
  rw [familySnapshot_state current carries named]
  obtain ⟨family, member⟩ := told.delivered task waiting other isOther
  obtain ⟨carriesOther, shows⟩ := covered.shown _ member
  dsimp only at carriesOther shows
  obtain ⟨before, noted, earlier, latest, namedEarlier⟩ := shows.named
  obtain ⟨row, isRow⟩ := List.mem_iff_getElem?.mp member
  have inPast : row < (familiesOf past).length := (List.getElem?_eq_some_iff.mp isRow).1
  have atRow : config.state.families[row]? = some family := by
    rw [covered.rows, List.getElem?_map, isRow]
    rfl
  have inRows : row < config.state.families.length := (List.getElem?_eq_some_iff.mp atRow).1
  refine ⟨row, by simp [State.numberOfRows]; omega, ?_⟩
  rintro ⟨_, _, cell, isDelivered, isCell, ⟨shownLast, shownLatest, namedLast⟩, _⟩
  rw [familiesOf_append_family, List.getElem?_append_left inPast, isRow] at isDelivered
  obtain ⟨rfl, rfl⟩ := Prod.mk.inj (Option.some.inj isDelivered)
  -- the button has the new name, although the document was delivered with the old one
  obtain rfl : ⟨familyName, other.documentID⟩ = cell := by
    simpa [State.cellForRowAt, List.getElem?_append_left inRows, atRow, carriesOther, setName,
      same] using isCell
  obtain ⟨-, rfl⟩ := Delivery.family.inj (shownLatest.unique (latest.append (Ne.symm different)))
  apply stale
  rw [noted, ← namedEarlier, namedLast]

/-- The row of the document itself, whose id has not been listed. -/
theorem exists_wrong_of_unlisted (told : Told past config.state config.pool.tasks)
    (running : config.state.trapped = false)
    (current : config.state.currentFamily? path = some data)
    (carries : (transformFamily data).uid = some path.documentID)
    (named : (transformFamily data).familyName = some familyName)
    (own : ¬ ∃ task ∈ config.pool.tasks, task.familyId? = some path.documentID) :
    ∃ row, row < (familySnapshot form config.state familyId path).1.numberOfRows ∧
      ¬ RowCurrent (past ++ [.family path (transformFamily data)])
        (familySnapshot form config.state familyId path).1 row := by
  rw [familySnapshot_state current carries named]
  refine ⟨config.state.families.length, by simp [State.numberOfRows], ?_⟩
  rintro ⟨_, _, cell, _, isCell, _, written, tapped, listed⟩
  obtain rfl : ⟨familyName, path.documentID⟩ = cell := by
    simpa [State.cellForRowAt, carries, setName, CanonicalForm.Same.refl] using isCell
  obtain rfl : path.documentID = written := by
    simpa [SwitchFamilyTableViewCell.famliyTapped] using tapped
  have before := (listed_append.mp listed).resolve_right (by simp [Listed, Delivery.user?])
  exact own (told.registered running _ before)

end Delivered

theorem told_of_run {user : List (Option Fields)} {documents : DocumentPath → List (Option Fields)}
    {labels : List (Label Event Answer)} {last : Config State Task}
    (ran : (program form).run (opened user documents) labels = some last) :
    Told ((program form).history delivered (opened user documents) labels) last.state
      last.pool.tasks := by
  have start : Told [] (opened user documents).state (opened user documents).pool.tasks := by
    refine ⟨by simp [Listed], ?_⟩
    simp [opened, Task.deliveredPath?]
  exact Program.run_history (fun past config => Told past config.state config.pool.tasks)
    (fun told _ taken => told_step told taken) start Program.obeys_true ran

/-- The condition is exact: after any run that meets it, a delivery that does not meet it leaves
a row wrong. -/
theorem not_current_of_mistaken {user : List (Option Fields)}
    {documents : DocumentPath → List (Option Fields)} {labels : List (Label Event Answer)}
    {config next : Config State Task} {label : Label Event Answer}
    (delivers : (program form).Obeys DeliversFamilies (opened user documents) labels)
    (unmistaken : (program form).Obeys (NoneMistaken form) (opened user documents) labels)
    (ran : (program form).run (opened user documents) labels = some config)
    (deliversNow : DeliversFamilies config label) (mistaken : ¬ NoneMistaken form config label)
    (taken : (program form).step config label = some next) :
    ∃ row, row < next.state.numberOfRows ∧
      ¬ RowCurrent ((program form).history delivered (opened user documents) labels ++
        delivered config label) next.state row := by
  have covered := covered_of_run delivers unmistaken ran
  have told := told_of_run ran
  rcases Program.step_cases taken with
    ⟨event, new, rfl, _, _⟩ | ⟨ticket, answer, task, new, rfl, found, resumed, _⟩
  · exact absurd trivial mistaken
  · simp only [program] at resumed
    split_ifs at resumed with trapped
    have running : config.state.trapped = false := by simpa using trapped
    cases answer with
    | failed => exact absurd trivial mistaken
    | snapshot =>
        have mistakenHere : ¬ Unmistaken form config task := fun isUnmistaken =>
          mistaken fun other foundOther =>
            Option.some.inj (found.symm.trans foundOther) ▸ isUnmistaken
        have hasFamily := deliversNow task found
        simp only [delivered, found]
        cases task with
        | userListener version alive => exact absurd trivial mistakenHere
        | familyListener familyId path version alive =>
            cases alive with
            | false => simp [resume] at resumed
            | true =>
                obtain ⟨state, -⟩ := Prod.mk.inj (Option.some.inj resumed)
                obtain ⟨data, current, carries, hasName⟩ := hasFamily
                obtain ⟨familyName, named⟩ := Option.isSome_iff_exists.mp hasName
                rw [← state, delivery_family current]
                by_cases own : ∃ task ∈ config.pool.tasks, task.familyId? = some path.documentID
                · have mixed := not_and.mp mistakenHere own
                  rw [current, Option.bind_some, named] at mixed
                  push Not at mixed
                  obtain ⟨task, waiting, other, isOther, same, different, stale⟩ := mixed
                  exact exists_wrong_of_overwritten covered told current carries named waiting
                    isOther same different stale
                · exact exists_wrong_of_unlisted told running current carries named own

end Mistaken

/-! ## Rows that are mistaken -/

/-- One user document and the Family documents it lists are delivered, each once. -/
def eachOnce (families : ℕ) : List (Label Event Answer) :=
  .answer 0 .snapshot :: (List.range families).map fun place => .answer (2 + place) .snapshot

/-- A user who has created the family "abc/". -/
def slashedData : Fields := Fields.ofList [("families", .strings ["abc/"])]

/-- Its document, which has been written again as the family "abc". -/
def overwritten (path : DocumentPath) : List (Option Fields) :=
  if path.segments = ["abc"] then
    [some (familyData "Second" "abc"), some (familyData "First" "abc/")]
  else []

/-- A canonical form in which one letter with an accent is one scalar or two. -/
def accented : CanonicalForm where
  normalize text := if text = "e\u0301" then "\u00e9" else text
  empty_only := by
    intro text same
    rw [if_neg (show "" ≠ "e\u0301" by decide)] at same
    split_ifs at same
    · exact absurd same (by decide)
    · exact same
  slash_iff := by
    intro left right same
    split_ifs at same with isLeft isRight isRight
    · rw [isLeft, isRight]
    · rw [isLeft, ← same]
      decide
    · rw [isRight, same]
      decide
    · rw [same]

/-- A user of two families whose ids are canonically equal. -/
def twinsData : Fields := Fields.ofList [("families", .strings ["\u00e9", "e\u0301"])]

/-- Their documents. -/
def twins (path : DocumentPath) : List (Option Fields) :=
  if path.segments = ["\u00e9"] then [some (familyData "First" "\u00e9")]
  else if path.segments = ["e\u0301"] then [some (familyData "Second" "e\u0301")]
  else []

/-- A tap on the row writes an id that no delivered `families` contains; and the row of one
family shows the name of another. -/
theorem mistaken_rows :
    (∃ last, (program CanonicalForm.scalars).run (opened [some slashedData] overwritten)
        (eachOnce 1) = some last ∧
      (program CanonicalForm.scalars).Obeys DeliversFamilies
        (opened [some slashedData] overwritten) (eachOnce 1) ∧
      0 < last.state.numberOfRows ∧
      ¬ RowCurrent ((program CanonicalForm.scalars).history delivered
        (opened [some slashedData] overwritten) (eachOnce 1)) last.state 0) ∧
    ∃ last, (program accented).run (opened [some twinsData] twins) (eachOnce 2) = some last ∧
      (program accented).Obeys DeliversFamilies (opened [some twinsData] twins) (eachOnce 2) ∧
      0 < last.state.numberOfRows ∧
      ¬ RowCurrent ((program accented).history delivered (opened [some twinsData] twins)
        (eachOnce 2)) last.state 0 := by
  constructor
  · obtain ⟨last, ran, listed, shown⟩ : ∃ last, (program CanonicalForm.scalars).run
        (opened [some slashedData] overwritten) (eachOnce 1) = some last ∧
          0 < last.state.numberOfRows ∧ last.state.cellForRowAt 0 = some ⟨"Second", "abc"⟩ :=
      Program.exists_run (by decide)
    refine ⟨last, ran, by decide, listed, ?_⟩
    rintro ⟨_, _, cell, _, isCell, _, familyId, tapped, written⟩
    obtain rfl := Option.some.inj (shown.symm.trans isCell)
    obtain rfl : "abc" = familyId := by simpa [SwitchFamilyTableViewCell.famliyTapped] using tapped
    exact absurd written (by decide)
  · obtain ⟨last, ran, listed, shown⟩ : ∃ last, (program accented).run
        (opened [some twinsData] twins) (eachOnce 2) = some last ∧
          0 < last.state.numberOfRows ∧ last.state.cellForRowAt 0 = some ⟨"Second", "\u00e9"⟩ :=
      Program.exists_run (by decide)
    refine ⟨last, ran, by decide, listed, ?_⟩
    rintro ⟨path, _, cell, isRow, isCell, named, _⟩
    obtain rfl := Option.some.inj (shown.symm.trans isCell)
    obtain ⟨family, ⟨before, after, split, _, _⟩, isName⟩ := named
    have once : ∀ item ∈ familiesOf ((program accented).history delivered
        (opened [some twinsData] twins) (eachOnce 2)),
        item.2.familyName = some "Second" → item.1.documentID ≠ "\u00e9" := by decide
    have first : ∀ item ∈ (familiesOf ((program accented).history delivered
        (opened [some twinsData] twins) (eachOnce 2)))[0]?, item.1.documentID = "\u00e9" := by
      decide
    have isFirst : path.documentID = "\u00e9" := first (path, _) isRow
    refine once (path, family) ?_ isName isFirst
    rw [split]
    simp [familiesOf, Delivery.family?]

end Familog.Switch
