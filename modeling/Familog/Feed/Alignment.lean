import Familog.Feed.Exactness

/-!
Contract: `users` and `rows` stay aligned.

Owns `Aligned` and the theorem that it holds in every reachable state of both
controllers, whatever refreshes, query answers and snapshots came in which
order. The invariant is on the pending closures: a listener carries the author
of the row it will append, whichever refresh registered it.

Relies on the author ids being ids of Users documents, and on the delivered Users
documents carrying their document id in `uid`, as `signUpTapped` writes them.
-/

set_option autoImplicit false

namespace Familog.Feed

open Async Firestore

variable {Row : Type}

/-- The two arrays have one length, and the user at each place is the author of
the row at that place. -/
structure Aligned (controller : Controller Row) (state : State Row) : Prop where
  count : state.users.length = state.rows.length
  author : ∀ (index : Nat) (user : User) (row : Row), state.users[index]? = some user →
    state.rows[index]? = some row →
      user.uid = controller.author? row ∧ (controller.author? row).isSome

/-- The id of the Users document that `document(uid)` names. -/
def userDocumentID? (uid : String) : Option String :=
  (document? uid).bind DocumentPath.directID?

/-- The author is looked up by the id of a Users document, and this document, delivered,
holds its id in `uid`. -/
def HasOwnUid : Task Row → Answer → Prop
  | .userListener _ uid _ _, .snapshot (some data) =>
      userDocumentID? uid = some uid ∧ data.string? "uid" = userDocumentID? uid
  | _, _ => True

/-- Authors are looked up by the ids of Users documents, each of which holds its id in
`uid`. -/
def OwnUid : Config (State Row) (Task Row) → Label Event Answer → Prop :=
  onState (fun _ _ => True) fun _ task answer => HasOwnUid task answer

instance (task : Task Row) (answer : Answer) : Decidable (HasOwnUid task answer) :=
  match task, answer with
  | .userListener _ uid _ _, .snapshot (some data) =>
      inferInstanceAs (Decidable (_ ∧ data.string? "uid" = userDocumentID? uid))
  | .userListener _ _ _ _, .snapshot none => isTrue trivial
  | .userListener _ _ _ _, .documents _ => isTrue trivial
  | .userListener _ _ _ _, .failed => isTrue trivial
  | .observeCurrentUser _, _ => isTrue trivial
  | .getDocuments _ _, _ => isTrue trivial

instance (config : Config (State Row) (Task Row)) (label : Label Event Answer) :
    Decidable (OwnUid config label) :=
  inferInstanceAs (Decidable (onState _ _ config label))

/-- A listener carries the author of its row. -/
def CarriesAuthor (controller : Controller Row) : Task Row → Prop
  | .userListener _ uid row _ => controller.author? row = some uid
  | _ => True

section Step

variable {controller : Controller Row} {state next : State Row} {task : Task Row}
  {answer : Answer} {new : List (Task Row)}

theorem carriesAuthor_of_answered (answered : Answered controller state task answer next new)
    (carries : CarriesAuthor controller task) : ∀ other ∈ new, CarriesAuthor controller other := by
  cases answered with
  | postsLoaded queried ended =>
      intro other member
      obtain ⟨fetch, inFetches, rfl⟩ := List.mem_map.mp member
      exact (Controller.mem_of_fetches ended fetch inFetches).2
  | userMissing =>
      intro other member
      rw [List.mem_singleton.mp member]
      exact carries
  | userFetched decoded =>
      intro other member
      rw [List.mem_singleton.mp member]
      exact carries
  | _ => simp [CarriesAuthor]

/-- Both arrays grow together, and are emptied together. -/
theorem count_of_answered (answered : Answered controller state task answer next new)
    (count : state.users.length = state.rows.length) :
    next.users.length = next.rows.length := by
  cases answered with
  | userFetched decoded => simp [append, count]
  | _ => exact count

theorem Aligned.append {user : User} {row : Row} (aligned : Aligned controller state)
    (author : user.uid = controller.author? row) (known : (controller.author? row).isSome) :
    Aligned controller (Feed.append state user row) := by
  refine ⟨by simp [Feed.append, aligned.count], ?_⟩
  intro index other shown userAt rowAt
  have userAt' : (state.users ++ [user])[index]? = some other := userAt
  have rowAt' : (state.rows ++ [row])[index]? = some shown := rowAt
  by_cases old : index < state.rows.length
  · rw [List.getElem?_append_left (by omega)] at rowAt'
    rw [List.getElem?_append_left (by have := aligned.count; omega)] at userAt'
    exact aligned.author index other shown userAt' rowAt'
  · have count := aligned.count
    rw [List.getElem?_append_right (by omega), List.getElem?_singleton] at rowAt' userAt'
    split_ifs at rowAt' userAt'
    obtain rfl := Option.some.inj rowAt'
    obtain rfl := Option.some.inj userAt'
    exact ⟨author, known⟩

end Step

theorem uid_of_transformUser {data : Fields} {user : User}
    (decoded : transformUser data = some user) :
    user.uid = data.string? "uid" := by
  obtain ⟨dob, _, rfl⟩ := Option.map_eq_some_iff.mp decoded
  rfl

theorem aligned_empty (controller : Controller Row) (state : State Row) (users : state.users = [])
    (rows : state.rows = []) : Aligned controller state :=
  ⟨by rw [users, rows]; rfl, fun index user row userAt => by simp [users] at userAt⟩

/-- The arrays stay aligned when the delivered documents are their owners'. -/
theorem aligned_of_answered {controller : Controller Row} {state next : State Row}
    {task : Task Row} {answer : Answer} {new : List (Task Row)}
    (answered : Answered controller state task answer next new)
    (aligned : Aligned controller state) (carries : CarriesAuthor controller task)
    (own : ∀ refresh uid row fired data, task = .userListener refresh uid row fired →
      answer = .snapshot (some data) → data.string? "uid" = some uid) :
    Aligned controller next := by
  cases answered with
  | @userFetched refresh uid row fired data user decoded =>
      have author : controller.author? row = some uid := carries
      refine aligned.append ?_ (by simp [author])
      rw [uid_of_transformUser decoded, own _ _ _ _ _ rfl rfl, author]
  | _ => exact ⟨aligned.count, aligned.author⟩

/-- Aligned arrays, and listeners that carry the author of their row. -/
def keepsAligned (controller : Controller Row) : Outline (program controller) OwnUid where
  inv := Aligned controller
  need _ task := CarriesAuthor controller task
  apart _ _ := True
  symmetric _ := trivial
  handled := by
    intro config event state new _ _ handled
    obtain ⟨_, rfl, rfl⟩ := handle_refresh handled
    refine .of_free (fun _ _ => trivial) (aligned_empty controller _ rfl rfl) ?_
      fun other waiting => waiting.2
    intro task member
    rw [List.mem_singleton.mp member]
    trivial
  resumed := by
    intro config ticket answer task state new aligned carries own found resumed
    obtain ⟨_, answered⟩ := answered_of_resume resumed
    refine .of_free (fun _ _ => trivial) (aligned_of_answered answered aligned carries ?_)
      (carriesAuthor_of_answered answered carries) fun other waiting => waiting.1
    rintro refresh uid row fired data rfl rfl
    obtain ⟨isId, carried⟩ := own _ found
    exact carried.trans isId

/-- In every reachable state of the timeline and of the comments no row is shown
under another person's name. -/
theorem aligned_of_run {controller : Controller Row} {labels : List (Label Event Answer)}
    {last : Config (State Row) (Task Row)}
    (own : (program controller).Obeys OwnUid (Program.start (State.empty Row)) labels)
    (ran : (program controller).run (Program.start (State.empty Row)) labels = some last) :
    Aligned controller last.state :=
  ((keepsAligned controller).run (Outline.start _ (aligned_empty controller _ rfl rfl))
    own ran).inv

/-- Two refreshes, of which the first is answered late: the rows of both stay
aligned. -/
theorem late_answers_aligned :
    ∃ last, (program TimelineViewController).run (Program.start (State.empty Post))
        (.event .refresh :: .event .refresh :: [
          .answer 1 (.snapshot (some authorData)), .answer 2 (.documents [rowData 1]),
          .answer 3 (.snapshot (some authorData)), .answer 0 (.snapshot (some authorData)),
          .answer 5 (.documents [rowData 2, rowData 1]), .answer 7 (.snapshot (some authorData)),
          .answer 4 (.snapshot (some editedData))]) = some last ∧
      last.state.rows.length = 3 ∧ Aligned TimelineViewController last.state := by
  obtain ⟨last, ran, three⟩ : ∃ last, (program TimelineViewController).run
      (Program.start (State.empty Post))
        (.event .refresh :: .event .refresh :: [
          .answer 1 (.snapshot (some authorData)), .answer 2 (.documents [rowData 1]),
          .answer 3 (.snapshot (some authorData)), .answer 0 (.snapshot (some authorData)),
          .answer 5 (.documents [rowData 2, rowData 1]), .answer 7 (.snapshot (some authorData)),
          .answer 4 (.snapshot (some editedData))]) = some last ∧
      last.state.rows.length = 3 :=
    Program.exists_run (by decide)
  exact ⟨last, ran, three, aligned_of_run (by decide) ran⟩

/-- The arrays have one length whatever the delivered documents hold. -/
theorem count_of_run {controller : Controller Row} {labels : List (Label Event Answer)}
    {last : Config (State Row) (Task Row)}
    (ran : (program controller).run (Program.start (State.empty Row)) labels = some last) :
    last.state.users.length = last.state.rows.length := by
  refine Program.run_invariant
    (fun config => config.state.users.length = config.state.rows.length)
    (fun held _ taken => ?_) rfl Program.obeys_true ran
  obtain ⟨_, state, _⟩ | ⟨_, _, _, _, _, _, answered, _⟩ := step_answered taken
  · rw [state]
    rfl
  · exact count_of_answered answered held

end Familog.Feed
