import Familog.Feed.Exactness

/-!
Contract: in which order the rows of one refresh end up.

Owns the runs of one refresh whose look-ups answer once each in any order, the
theorem that the rows are appended in the order of the answers, and the exact
condition under which they keep the order of the query: no look-up overtakes one
of an earlier document with another timestamp.

Does not own repeated snapshots or several refreshes.
-/

set_option autoImplicit false

namespace Familog.Feed

open Async Firestore

variable {Row : Type}

/-- The answers of the look-ups: which one answers, and with which user. -/
abbrev LookUps := List (Nat × Fields)

/-- One refresh: the current user, the query, and the look-ups in the given order.
The read waits under ticket 0, the query under 1, the look-ups from 2 on. -/
def oneRefresh (me : Fields) (documents : List Fields) (lookUps : LookUps) :
    List (Label Event Answer) :=
  .event .refresh :: .answer 0 (.snapshot (some me)) :: .answer 1 (.documents documents) ::
    lookUps.map fun lookUp => .answer (2 + lookUp.1) (.snapshot (some lookUp.2))

/-- The look-ups that wait once `loadPosts` has run on the documents; none where its loop
ends the process. -/
def started (controller : Controller Row) (documents : List Fields) : List (String × Row) :=
  (controller.fetches (documents.map controller.transform)).getD []

/-- The timestamp of the document at a place of the query's answer. -/
def timestampAt (controller : Controller Row) (documents : List Fields) (place : Nat) :
    Option Int :=
  documents[place]?.bind fun data => controller.timestamp? (controller.transform data)

/-- Whenever a look-up answers before that of an earlier document, the two documents
have the same timestamp. -/
def NoOvertaking (controller : Controller Row) (documents : List Fields) (lookUps : LookUps) :
    Prop :=
  lookUps.Pairwise fun first second => second.1 < first.1 →
    ∀ early ∈ timestampAt controller documents second.1,
      ∀ late ∈ timestampAt controller documents first.1, early = late

instance (controller : Controller Row) (documents : List Fields) (lookUps : LookUps) :
    Decidable (NoOvertaking controller documents lookUps) :=
  inferInstanceAs (Decidable (List.Pairwise _ _))

/-! ## The rows stand in the order of the answers -/

section Run

variable {controller : Controller Row} {documents : List Fields}

theorem resume_userListener {state : State Row} {refresh : Nat} {uid : String} {row : Row}
    {fired : Bool} {data : Fields} {user : User} (alive : state.trapped = false)
    (decoded : transformUser data = some user) :
    (program controller).resume state (.userListener refresh uid row fired)
        (.snapshot (some data)) =
      some (append state user row, [.userListener refresh uid row true]) := by
  simp [program, resume, alive, decoded]

/-- The look-ups that wait under the tickets from 2 on append their rows in the
order in which they are answered. -/
theorem rows_of_lookUps (fetches : List (String × Row)) {lookUps : LookUps}
    {config last : Config (State Row) (Task Row)}
    (ran : (program controller).run config
      (lookUps.map fun lookUp => .answer (2 + lookUp.1) (.snapshot (some lookUp.2))) = some last)
    (alive : config.state.trapped = false)
    (decoded : ∀ lookUp ∈ lookUps, (transformUser lookUp.2).isSome)
    (distinct : (lookUps.map Prod.fst).Nodup)
    (waiting : ∀ lookUp ∈ lookUps, ∃ fetch, fetches[lookUp.1]? = some fetch ∧
      config.pool.find? (2 + lookUp.1) = some (.userListener 1 fetch.1 fetch.2 false)) :
    last.state.rows =
      config.state.rows ++ lookUps.filterMap fun lookUp => fetches[lookUp.1]?.map Prod.snd := by
  induction lookUps generalizing config with
  | nil =>
      obtain rfl := Option.some.inj ran
      simp
  | cons lookUp rest inductionHypothesis =>
      obtain ⟨next, taken, restRan⟩ := Program.run_cons.mp ran
      obtain ⟨fetch, atPlace, found⟩ := waiting lookUp List.mem_cons_self
      obtain ⟨user, isUser⟩ := Option.isSome_iff_exists.mp (decoded lookUp List.mem_cons_self)
      have stepped : (program controller).step config
          (.answer (2 + lookUp.1) (.snapshot (some lookUp.2))) =
          some ⟨append config.state user fetch.2, (config.pool.remove (2 + lookUp.1)).issueAll
            [.userListener 1 fetch.1 fetch.2 true]⟩ := by
        simp only [Program.step, found, Option.bind_some, resume_userListener alive isUser,
          Option.map_some]
      obtain rfl := Option.some.inj (stepped.symm.trans taken)
      rw [List.map_cons, List.nodup_cons] at distinct
      have rows := inductionHypothesis restRan alive
        (fun other member => decoded other (List.mem_cons_of_mem _ member)) distinct.2 ?_
      · rw [rows]
        simp [append, atPlace]
      · intro other member
        obtain ⟨fetch', atPlace', found'⟩ := waiting other (List.mem_cons_of_mem _ member)
        refine ⟨fetch', atPlace', ?_⟩
        have different : other.1 ≠ lookUp.1 := by
          intro same
          exact distinct.1 (same ▸ List.mem_map_of_mem member)
        have issued : 2 + other.1 < (config.pool.remove (2 + lookUp.1)).issued :=
          config.pool.below _ (Pool.find?_eq_some found')
        show ((config.pool.remove (2 + lookUp.1)).issueAll _).find? (2 + other.1) = _
        rw [Pool.find?_issueAll_of_lt _ _ issued, Pool.find?_remove_of_ne _ (by omega), found']

/-- The configuration in which the query of the first refresh is pending. -/
def querying (key : String) : Config (State Row) (Task Row) :=
  ⟨(refresh (State.empty Row)).1,
    ((Pool.empty.issueAll [.observeCurrentUser 1]).remove 0).issueAll [.getDocuments 1 key]⟩

/-- The only way through the first two steps of a refresh. -/
theorem run_to_query {me : Fields} {lookUps : LookUps} {last : Config (State Row) (Task Row)}
    (ran : (program controller).run (Program.start (State.empty Row))
      (oneRefresh me documents lookUps) = some last) :
    ∃ key, (program controller).run (querying key) (.answer 1 (.documents documents) ::
      lookUps.map fun lookUp => .answer (2 + lookUp.1) (.snapshot (some lookUp.2))) =
        some last := by
  obtain ⟨first, tapped, rest⟩ := Program.run_cons.mp ran
  obtain rfl :
      ⟨(refresh (State.empty Row)).1, Pool.empty.issueAll [.observeCurrentUser 1]⟩ = first :=
    Option.some.inj tapped
  obtain ⟨second, read, rest⟩ := Program.run_cons.mp rest
  have found : (Pool.empty.issueAll [Task.observeCurrentUser 1] : Pool (Task Row)).find? 0 =
      some (.observeCurrentUser 1) := rfl
  have alive : (refresh (State.empty Row)).1.trapped = false := rfl
  simp only [Program.step, found, Option.bind_some, program, alive, resume] at read
  cases key : (transformUser me).bind controller.key? with
  | none =>
      simp only [key] at read
      obtain rfl := Option.some.inj read
      obtain ⟨third, answered, _⟩ := Program.run_cons.mp rest
      simp [Program.step, State.trap, Pool.issueAll, Pool.find?, Pool.remove, Pool.issue,
        Pool.empty] at answered
  | some key' =>
      simp only [key] at read
      obtain rfl := Option.some.inj read
      exact ⟨key', rest⟩

/-- From the answer of the query on: the documents are in order, and the look-ups
wait under the tickets from 2 on, unless the process has trapped. -/
theorem run_from_query {key : String} {lookUps : LookUps} {last : Config (State Row) (Task Row)}
    (ran : (program controller).run (querying key) (.answer 1 (.documents documents) ::
      lookUps.map fun lookUp => .answer (2 + lookUp.1) (.snapshot (some lookUp.2))) =
        some last) :
    controller.Queried key documents ∧
      ∃ config : Config (State Row) (Task Row), config.state.rows = [] ∧
        (program controller).run config
          (lookUps.map fun lookUp => .answer (2 + lookUp.1) (.snapshot (some lookUp.2))) =
            some last ∧
        (config.state.trapped = true ∨ config.state.trapped = false ∧
          ∀ place fetch, (started controller documents)[place]? = some fetch →
            config.pool.find? (2 + place) = some (.userListener 1 fetch.1 fetch.2 false)) := by
  obtain ⟨config, answered, rest⟩ := Program.run_cons.mp ran
  have found : (querying key : Config (State Row) (Task Row)).pool.find? 1 =
      some (.getDocuments 1 key) := rfl
  have alive : (querying key : Config (State Row) (Task Row)).state.trapped = false := rfl
  simp only [Program.step, found, Option.bind_some, program, alive, Bool.false_eq_true, if_false,
    resume] at answered
  by_cases queried : controller.Queried key documents
  · rw [if_pos queried, Option.map_some] at answered
    cases ended : controller.fetches (documents.map controller.transform) with
    | none =>
        simp only [loadPosts, ended] at answered
        obtain rfl := Option.some.inj answered
        exact ⟨queried, _, rfl, rest, Or.inl rfl⟩
    | some fetches =>
        simp only [loadPosts, ended] at answered
        obtain rfl := Option.some.inj answered
        refine ⟨queried, _, rfl, rest, Or.inr ⟨rfl, fun place fetch atPlace => ?_⟩⟩
        have waiting := Pool.find?_issueAll_add
          ((querying key : Config (State Row) (Task Row)).pool.remove 1)
          (fetches.map fun fetch => Task.userListener 1 fetch.1 fetch.2 false) place
        rw [started, ended, Option.getD_some] at atPlace
        rw [List.getElem?_map, atPlace] at waiting
        exact waiting
  · simp [if_neg queried] at answered

/-- A look-up that answers has been started. -/
theorem started_of_once {lookUps : LookUps}
    (once : (lookUps.map Prod.fst).Perm (List.range (started controller documents).length)) :
    ∀ lookUp ∈ lookUps, ∃ fetch, (started controller documents)[lookUp.1]? = some fetch := by
  intro lookUp member
  have inRange := once.mem_iff.mp (List.mem_map_of_mem member)
  rw [List.mem_range] at inRange
  exact ⟨_, List.getElem?_eq_getElem inRange⟩

/-- The rows of one refresh whose look-ups answer once each are those of the look-ups, in
the order of the answers. -/
theorem rows_of_oneRefresh {me : Fields} {lookUps : LookUps}
    {last : Config (State Row) (Task Row)}
    (once : (lookUps.map Prod.fst).Perm (List.range (started controller documents).length))
    (decoded : ∀ lookUp ∈ lookUps, (transformUser lookUp.2).isSome)
    (ran : (program controller).run (Program.start (State.empty Row))
      (oneRefresh me documents lookUps) = some last) :
    ∃ key, controller.Queried key documents ∧ last.state.rows = lookUps.filterMap fun lookUp =>
      (started controller documents)[lookUp.1]?.map Prod.snd := by
  obtain ⟨key, fromQuery⟩ := run_to_query ran
  obtain ⟨queried, config, empty, rest, outcome⟩ := run_from_query fromQuery
  refine ⟨key, queried, ?_⟩
  rcases outcome with trapped | ⟨alive, waiting⟩
  · cases lookUps with
    | nil =>
        obtain rfl := Option.some.inj rest
        exact empty
    | cons lookUp others =>
        obtain ⟨next, taken, _⟩ := Program.run_cons.mp rest
        simp [Program.step, program, trapped] at taken
  · have distinct : (lookUps.map Prod.fst).Nodup := once.nodup_iff.mpr List.nodup_range
    rw [rows_of_lookUps (started controller documents) rest alive decoded distinct ?_, empty,
      List.nil_append]
    intro lookUp member
    obtain ⟨fetch, atPlace⟩ := started_of_once once lookUp member
    exact ⟨fetch, atPlace, waiting lookUp.1 fetch atPlace⟩

/-- Each place of the look-ups that the loop starts is the place of its document. -/
theorem place_of_fetches {rows : List Row} {fetches : List (String × Row)}
    (ended : controller.fetches rows = some fetches) {place : Nat} {fetch : String × Row}
    (atPlace : fetches[place]? = some fetch) : rows[place]? = some fetch.2 := by
  induction rows generalizing fetches place with
  | nil =>
      obtain rfl := Option.some.inj ended
      simp at atPlace
  | cons row rest inductionHypothesis =>
      rcases Controller.fetches_cons ended with ⟨_, rfl⟩ | ⟨uid, later, _, _, endedLater, rfl⟩
      · simp at atPlace
      · cases place with
        | zero =>
            obtain rfl : (uid, row) = fetch := by simpa using atPlace
            rfl
        | succ place =>
            rw [List.getElem?_cons_succ] at atPlace ⊢
            exact inductionHypothesis endedLater atPlace

/-- Each look-up that waits stands at the place of its document. -/
theorem place_of_started {place : Nat} {fetch : String × Row}
    (atPlace : (started controller documents)[place]? = some fetch) :
    (documents.map controller.transform)[place]? = some fetch.2 := by
  cases ended : controller.fetches (documents.map controller.transform) with
  | none => simp [started, ended] at atPlace
  | some fetches =>
      rw [started, ended, Option.getD_some] at atPlace
      exact place_of_fetches ended atPlace

end Run

/-! ## The order of the answers and the order of the query -/

section Order

variable {controller : Controller Row} {documents : List Fields}

theorem inOrder_antisymm {left right : Row} (forth : controller.InOrder left right) :
    controller.InOrder right left ↔ ∀ first ∈ controller.timestamp? left,
      ∀ second ∈ controller.timestamp? right, first = second := by
  constructor
  · intro back first atLeft second atRight
    have one := forth first atLeft second atRight
    have other := back second atRight first atLeft
    split at one <;> simp_all <;> omega
  · intro same second atRight first atLeft
    rw [same first atLeft second atRight]
    split <;> exact le_refl _

theorem inOrder_refl (row : Row) : controller.InOrder row row := by
  intro first here second there
  obtain rfl := Option.some.inj (here.symm.trans there)
  split <;> exact le_refl _

/-- Two look-ups keep the order of the query unless the later one overtakes the
earlier one and the timestamps differ. -/
theorem inOrder_iff {key : String} (queried : controller.Queried key documents)
    {first second : Nat} {firstRow secondRow : Row}
    (firstAt : (documents.map controller.transform)[first]? = some firstRow)
    (secondAt : (documents.map controller.transform)[second]? = some secondRow) :
    controller.InOrder firstRow secondRow ↔ (second < first →
      ∀ early ∈ timestampAt controller documents second,
        ∀ late ∈ timestampAt controller documents first, early = late) := by
  have sorted : (documents.map controller.transform).Pairwise controller.InOrder :=
    List.pairwise_map.mpr queried.2
  have timestamps : ∀ {place row}, (documents.map controller.transform)[place]? = some row →
      timestampAt controller documents place = controller.timestamp? row := by
    intro place row atPlace
    rw [List.getElem?_map, Option.map_eq_some_iff] at atPlace
    obtain ⟨data, found, rfl⟩ := atPlace
    rw [timestampAt, found]
    rfl
  rw [timestamps firstAt, timestamps secondAt]
  obtain ⟨firstBelow, firstIs⟩ := List.getElem?_eq_some_iff.mp firstAt
  obtain ⟨secondBelow, secondIs⟩ := List.getElem?_eq_some_iff.mp secondAt
  rcases Nat.lt_trichotomy first second with before | same | after
  · have order := List.pairwise_iff_getElem.mp sorted first second firstBelow secondBelow before
    rw [firstIs, secondIs] at order
    exact iff_of_true order fun overtakes => by omega
  · subst same
    obtain rfl := Option.some.inj (firstAt.symm.trans secondAt)
    exact iff_of_true (inOrder_refl _) fun overtakes => by omega
  · have order := List.pairwise_iff_getElem.mp sorted second first secondBelow firstBelow after
    rw [firstIs, secondIs] at order
    rw [inOrder_antisymm order]
    exact ⟨fun same _ => same, fun same => same after⟩

end Order

/-- One refresh of the timeline or of the comments, with any answer of its query and
each look-up answering exactly once, in any order. The rows end up in the order
of their timestamps if and only if no look-up overtakes one of an earlier
document with another timestamp. -/
theorem sorted_iff_noOvertaking {controller : Controller Row} {me : Fields}
    {documents : List Fields} {lookUps : LookUps} {last : Config (State Row) (Task Row)}
    (once : (lookUps.map Prod.fst).Perm (List.range (started controller documents).length))
    (decoded : ∀ lookUp ∈ lookUps, (transformUser lookUp.2).isSome)
    (ran : (program controller).run (Program.start (State.empty Row))
      (oneRefresh me documents lookUps) = some last) :
    last.state.rows.Pairwise controller.InOrder ↔
      NoOvertaking controller documents lookUps := by
  obtain ⟨key, queried, rows⟩ := rows_of_oneRefresh once decoded ran
  have below := started_of_once once
  rw [rows, List.pairwise_filterMap, NoOvertaking]
  apply List.Pairwise.iff_of_mem
  intro first second firstIn secondIn
  obtain ⟨firstFetch, firstAt⟩ := below first firstIn
  obtain ⟨secondFetch, secondAt⟩ := below second secondIn
  have order := inOrder_iff queried (place_of_started firstAt) (place_of_started secondAt)
  rw [← order]
  simp [firstAt, secondAt]

/-! ## Two look-ups that overtake each other -/

/-- The two documents of the query, in its order, and the look-up of the second
answered first. -/
theorem overtaking_unsorts :
    (∃ last, (program TimelineViewController).run (Program.start (State.empty Post))
        (oneRefresh authorData [rowData 2, rowData 1] [(1, authorData), (0, authorData)]) =
          some last ∧
      ¬ last.state.rows.Pairwise TimelineViewController.InOrder) ∧
    ∃ last, (program (CommentViewController "abc")).run (Program.start (State.empty Comment))
        (oneRefresh authorData [rowData 1, rowData 2] [(1, authorData), (0, authorData)]) =
          some last ∧
      ¬ last.state.rows.Pairwise (CommentViewController "abc").InOrder :=
  ⟨Program.exists_run (by decide), Program.exists_run (by decide)⟩

/-- The same documents, answered in the order of the query. -/
theorem answers_in_order_sort :
    (∃ last, (program TimelineViewController).run (Program.start (State.empty Post))
        (oneRefresh authorData [rowData 2, rowData 1] [(0, authorData), (1, authorData)]) =
          some last ∧
      last.state.rows.Pairwise TimelineViewController.InOrder) ∧
    ∃ last, (program (CommentViewController "abc")).run (Program.start (State.empty Comment))
        (oneRefresh authorData [rowData 1, rowData 2] [(0, authorData), (1, authorData)]) =
          some last ∧
      last.state.rows.Pairwise (CommentViewController "abc").InOrder := by
  constructor
  · obtain ⟨last, ran, _⟩ : ∃ last, (program TimelineViewController).run
        (Program.start (State.empty Post))
          (oneRefresh authorData [rowData 2, rowData 1] [(0, authorData), (1, authorData)]) =
            some last ∧ last.state.rows.length = 2 :=
      Program.exists_run (by decide)
    exact ⟨last, ran, (sorted_iff_noOvertaking (by decide) (by decide) ran).mpr (by decide)⟩
  · obtain ⟨last, ran, _⟩ : ∃ last, (program (CommentViewController "abc")).run
        (Program.start (State.empty Comment))
          (oneRefresh authorData [rowData 1, rowData 2] [(0, authorData), (1, authorData)]) =
            some last ∧ last.state.rows.length = 2 :=
      Program.exists_run (by decide)
    exact ⟨last, ran, (sorted_iff_noOvertaking (by decide) (by decide) ran).mpr (by decide)⟩

end Familog.Feed
