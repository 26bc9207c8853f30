import Familog.Feed.Order

/-!
Contract: which posts of a query the timeline looks up.

Owns the exact condition under which no post of a query hides another: no post without an
author stands before one that has an author, and every author id is a document path. The
guard in the loop of `loadPosts` returns from the whole callback at the first post without an
author, so that the posts after it are neither looked up nor shown; at an author id that is no
document path `document(uid)` throws, and nothing is shown any more.

Does not own the comments, whose loop traps at a comment without an author.
-/

set_option autoImplicit false

namespace Familog.Feed

open Async Firestore

/-! ## Prefixes up to the first failure -/

section Lists

variable {Element : Type*} {keep : Element → Bool}

/-- The elements up to the first one that fails are all that pass exactly if none that
passes comes after one that fails. -/
theorem takeWhile_eq_filter_iff {elements : List Element} :
    elements.takeWhile keep = elements.filter keep ↔
      elements.Pairwise fun first second => keep second = true → keep first = true := by
  induction elements with
  | nil => simp
  | cons element rest inductionHypothesis =>
      rw [List.pairwise_cons]
      by_cases passes : keep element = true
      · rw [List.takeWhile_cons_of_pos passes, List.filter_cons_of_pos passes,
          List.cons.injEq, inductionHypothesis]
        simp [passes]
      · rw [List.takeWhile_cons_of_neg passes, List.filter_cons_of_neg passes, eq_comm,
          List.filter_eq_nil_iff]
        constructor
        · intro none
          refine ⟨fun later member passesLater => absurd passesLater (none later member), ?_⟩
          exact List.Pairwise.imp_of_mem (R := fun _ _ => True)
            (fun _ member _ passesLater => absurd passesLater (none _ member))
            (List.pairwise_of_forall fun _ _ => trivial)
        · intro before later member passesLater
          exact passes (before.1 later member passesLater)

theorem takeWhile_sublist_filter (keep : Element → Bool) (elements : List Element) :
    (elements.takeWhile keep).Sublist (elements.filter keep) := by
  induction elements with
  | nil => exact List.Sublist.slnil
  | cons element rest inductionHypothesis =>
      by_cases passes : keep element = true
      · rw [List.takeWhile_cons_of_pos passes, List.filter_cons_of_pos passes]
        exact inductionHypothesis.cons_cons element
      · rw [List.takeWhile_cons_of_neg passes]
        exact List.nil_sublist _

/-- All places of a list, looked up in order, are the list. -/
theorem filterMap_range_getElem? (elements : List Element) :
    ((List.range elements.length).filterMap fun place => elements[place]?) = elements := by
  induction elements with
  | nil => rfl
  | cons element rest inductionHypothesis =>
      rw [List.length_cons, List.range_succ_eq_map, List.filterMap_cons_some (by rfl),
        List.filterMap_map]
      exact congrArg (List.cons element) inductionHypothesis

end Lists

/-! ## What the loop looks up -/

/-- The posts of the documents that have an author. -/
def wellFormed (documents : List Fields) : List Post :=
  (documents.map transformPostPhoto).filter fun post => post.userId.isSome

/-- An author look-up is started for every document that has an author, and for each once. -/
def LooksUpAll (documents : List Fields) : Prop :=
  (started TimelineViewController documents).map Prod.snd = wellFormed documents

/-- No document without an author stands before one that has an author. -/
def MalformedLast (documents : List Fields) : Prop :=
  documents.Pairwise fun first second =>
    (second.string? "userId").isSome → (first.string? "userId").isSome

instance (documents : List Fields) : Decidable (MalformedLast documents) :=
  inferInstanceAs (Decidable (List.Pairwise _ _))

/-- Every author id is a document path. -/
def AuthorsArePaths (documents : List Fields) : Prop :=
  ∀ data ∈ documents, ∀ uid ∈ data.string? "userId", (document? uid).isSome

instance (documents : List Fields) : Decidable (AuthorsArePaths documents) :=
  inferInstanceAs (Decidable (∀ data ∈ documents, ∀ uid ∈ _, _))

/-- No document hides another. -/
structure NoneHides (documents : List Fields) : Prop where
  malformedLast : MalformedLast documents
  authors : AuthorsArePaths documents

instance (documents : List Fields) : Decidable (NoneHides documents) :=
  decidable_of_iff (MalformedLast documents ∧ AuthorsArePaths documents)
    ⟨fun both => ⟨both.1, both.2⟩, fun none => ⟨none.malformedLast, none.authors⟩⟩

section Loop

variable {Row : Type} {controller : Controller Row} {rows : List Row}

/-- A loop that ends has looked up the rows up to the first one without an author. -/
theorem takeWhile_of_fetches {fetches : List (String × Row)}
    (ended : controller.fetches rows = some fetches) :
    fetches.map Prod.snd = rows.takeWhile (fun row => (controller.author? row).isSome) ∧
      ∀ fetch ∈ fetches, (document? fetch.1).isSome := by
  induction rows generalizing fetches with
  | nil =>
      obtain rfl := Option.some.inj ended
      simp
  | cons row rest inductionHypothesis =>
      rcases Controller.fetches_cons ended with
        ⟨author, rfl⟩ | ⟨uid, later, author, named, endedLater, rfl⟩
      · simp [author]
      · obtain ⟨all, paths⟩ := inductionHypothesis endedLater
        exact ⟨by simp [author, all], List.forall_mem_cons.mpr ⟨named, paths⟩⟩

/-- A loop that returns at a missing author is ended by an author id only. -/
theorem exists_of_fetches_eq_none (returns : controller.atMissingAuthor = .returns)
    (ended : controller.fetches rows = none) :
    ∃ row ∈ rows, ∃ uid, controller.author? row = some uid ∧ document? uid = none := by
  induction rows with
  | nil => simp [Controller.fetches] at ended
  | cons row rest inductionHypothesis =>
      cases author : controller.author? row with
      | none => simp [Controller.fetches, author, returns] at ended
      | some uid =>
          cases named : document? uid with
          | none => exact ⟨row, List.mem_cons_self, uid, author, named⟩
          | some path =>
              have later : controller.fetches rest = none := by
                simpa [Controller.fetches, author, named] using ended
              obtain ⟨other, member, found⟩ := inductionHypothesis later
              exact ⟨other, List.mem_cons_of_mem _ member, found⟩

end Loop

section Posts

variable {documents : List Fields}

theorem malformedLast_iff : MalformedLast documents ↔
    (documents.map transformPostPhoto).Pairwise fun first second =>
      second.userId.isSome = true → first.userId.isSome = true := by
  rw [List.pairwise_map]
  rfl

/-- A post whose author id is no document path is well formed, and ends the process. -/
theorem stray_of_fetches (ended :
    TimelineViewController.fetches (documents.map transformPostPhoto) = none) :
    started TimelineViewController documents = [] ∧ wellFormed documents ≠ [] ∧
      ¬ AuthorsArePaths documents := by
  obtain ⟨row, member, uid, author, stray⟩ := exists_of_fetches_eq_none rfl ended
  obtain ⟨data, stored, rfl⟩ := List.mem_map.mp member
  have hasAuthor : (transformPostPhoto data).userId.isSome := Option.isSome_iff_exists.mpr
    ⟨uid, author⟩
  refine ⟨?_, List.ne_nil_of_mem (List.mem_filter.mpr ⟨member, hasAuthor⟩), fun paths => ?_⟩
  · rw [started]
    exact congrArg (Option.getD · []) ended
  · have named := paths data stored uid author
    simp [stray] at named

/-- The posts looked up are well-formed posts, in their order. -/
theorem started_sublist (documents : List Fields) :
    ((started TimelineViewController documents).map Prod.snd).Sublist (wellFormed documents) := by
  cases ended : TimelineViewController.fetches (documents.map transformPostPhoto) with
  | none =>
      rw [(stray_of_fetches ended).1]
      exact List.nil_sublist _
  | some fetches =>
      have all : started TimelineViewController documents = fetches :=
        congrArg (Option.getD · []) ended
      rw [all, (takeWhile_of_fetches ended).1]
      exact takeWhile_sublist_filter _ _

/-- Every post with an author is looked up exactly if none is hidden. -/
theorem looksUpAll_iff (documents : List Fields) :
    LooksUpAll documents ↔ NoneHides documents := by
  cases ended : TimelineViewController.fetches (documents.map transformPostPhoto) with
  | none =>
      obtain ⟨nothing, some, strays⟩ := stray_of_fetches ended
      refine iff_of_false (fun all => some ?_) fun none => strays none.authors
      rw [LooksUpAll, nothing] at all
      exact all.symm
  | some fetches =>
      obtain ⟨prefixed, paths⟩ := takeWhile_of_fetches ended
      have all : started TimelineViewController documents = fetches :=
        congrArg (Option.getD · []) ended
      have looked : LooksUpAll documents ↔ MalformedLast documents := by
        rw [LooksUpAll, all, prefixed, malformedLast_iff]
        exact takeWhile_eq_filter_iff
      refine ⟨fun every => ⟨looked.mp every, fun data stored uid author => ?_⟩,
        fun none => looked.mpr none.malformedLast⟩
      -- The post is well formed, so it is one of those the loop has looked up.
      have hasAuthor : (transformPostPhoto data).userId = some uid := author
      have inside : transformPostPhoto data ∈ fetches.map Prod.snd := by
        rw [← all, every]
        exact List.mem_filter.mpr ⟨List.mem_map_of_mem stored, by simp [hasAuthor]⟩
      obtain ⟨fetch, inFetches, isPost⟩ := List.mem_map.mp inside
      have isAuthor := (Controller.mem_of_fetches ended fetch inFetches).2
      rw [isPost] at isAuthor
      obtain rfl : uid = fetch.1 := Option.some.inj (hasAuthor.symm.trans isAuthor)
      exact paths fetch inFetches

end Posts

/-- With every look-up answered once, the rows are the posts looked up. -/
theorem rows_perm_of_once {Row : Type} {controller : Controller Row} {me : Fields}
    {documents : List Fields} {lookUps : LookUps} {last : Config (State Row) (Task Row)}
    (once : (lookUps.map Prod.fst).Perm (List.range (started controller documents).length))
    (decoded : ∀ lookUp ∈ lookUps, (transformUser lookUp.2).isSome)
    (ran : (program controller).run (Program.start (State.empty Row))
      (oneRefresh me documents lookUps) = some last) :
    last.state.rows.Perm ((started controller documents).map Prod.snd) := by
  obtain ⟨_, _, rows⟩ := rows_of_oneRefresh once decoded ran
  have places : lookUps.filterMap (fun lookUp =>
      (started controller documents)[lookUp.1]?.map Prod.snd) =
        (lookUps.map Prod.fst).filterMap fun place =>
          ((started controller documents).map Prod.snd)[place]? := by
    rw [List.filterMap_map]
    simp
  have all := filterMap_range_getElem? ((started controller documents).map Prod.snd)
  rw [List.length_map] at all
  have perm := once.filterMap fun place => ((started controller documents).map Prod.snd)[place]?
  rw [all] at perm
  rwa [rows, places]

/-- For every list of documents that the family query returns: a look-up is started for
each document with an author, and one load in which each look-up answers once shows each
of them once, exactly if no document without an author stands before one with an author and
every author id is a document path. -/
theorem well_formed_shown_iff (documents : List Fields) :
    (LooksUpAll documents ↔ NoneHides documents) ∧
      ∀ (me : Fields) (lookUps : LookUps) (last : Config (State Post) (Task Post)),
        (lookUps.map Prod.fst).Perm
            (List.range (started TimelineViewController documents).length) →
        (∀ lookUp ∈ lookUps, (transformUser lookUp.2).isSome) →
        (program TimelineViewController).run (Program.start (State.empty Post))
            (oneRefresh me documents lookUps) = some last →
        (last.state.rows.Perm (wellFormed documents) ↔ NoneHides documents) := by
  refine ⟨looksUpAll_iff documents, fun me lookUps last once decoded ran => ?_⟩
  have rows := rows_perm_of_once once decoded ran
  rw [← looksUpAll_iff]
  constructor
  · intro all
    exact (started_sublist documents).eq_of_length (rows.length_eq.symm.trans all.length_eq)
  · intro every
    rw [LooksUpAll] at every
    exact every ▸ rows

/-! ## A post without an author -/

/-- A post of the family without an author. -/
def orphanData (timestamp : Int) : Fields :=
  Fields.ofList [("familyId", .string "abc"), ("timestamp", .int timestamp)]

/-- A post of the family whose author id is no document path. -/
def strayData (timestamp : Int) : Fields :=
  Fields.ofList [("userId", .string "a/b"), ("familyId", .string "abc"),
    ("timestamp", .int timestamp)]

/-- The newest post has no author: the other one is not looked up, and the timeline stays
empty. The newest post has an author who cannot be looked up: the process ends. -/
theorem malformed_hides_later :
    (¬ LooksUpAll [orphanData 2, rowData 1] ∧
      ∃ last, (program TimelineViewController).run (Program.start (State.empty Post))
          (oneRefresh authorData [orphanData 2, rowData 1] []) = some last ∧
        ¬ last.state.rows.Perm (wellFormed [orphanData 2, rowData 1])) ∧
    ¬ LooksUpAll [strayData 2, rowData 1] ∧
      ∃ last, (program TimelineViewController).run (Program.start (State.empty Post))
          (oneRefresh authorData [strayData 2, rowData 1] []) = some last ∧
        last.state.trapped = true ∧
        ¬ last.state.rows.Perm (wellFormed [strayData 2, rowData 1]) := by
  refine ⟨⟨fun all => ?_, Program.exists_run (by decide)⟩, fun all => ?_,
    Program.exists_run (by decide)⟩
  · exact absurd (congrArg List.length all) (by decide)
  · exact absurd (congrArg List.length all) (by decide)

/-- The oldest post has no author: the other one is shown. -/
theorem malformed_last_shown :
    ∃ last, (program TimelineViewController).run (Program.start (State.empty Post))
        (oneRefresh authorData [rowData 2, orphanData 1] [(0, authorData)]) = some last ∧
      last.state.rows.length = 1 ∧
      last.state.rows.Perm (wellFormed [rowData 2, orphanData 1]) := by
  obtain ⟨last, ran, one⟩ : ∃ last, (program TimelineViewController).run
      (Program.start (State.empty Post))
        (oneRefresh authorData [rowData 2, orphanData 1] [(0, authorData)]) = some last ∧
      last.state.rows.length = 1 :=
    Program.exists_run (by decide)
  exact ⟨last, ran, one, ((well_formed_shown_iff [rowData 2, orphanData 1]).2 authorData
    [(0, authorData)] last (by decide) (by decide) ran).mpr (by decide)⟩

end Familog.Feed
