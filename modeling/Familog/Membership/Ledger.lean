import Familog.Async.History
import Familog.Membership.Existence

/-!
Contract: the families of a user, as an account of its acknowledged operations.

Owns the abstract account, a collection of families of which one may be chosen, with the two
operations on it: to enter a family, which also chooses it, and to choose one. Owns the
theorem that the user documents refine it. In every run the chosen family is that of the
account and no family is in the document that is not in the account; where every write of
`families` is current, the document has the families of the account and no others.

Does not own the order in which `families` lists them: the source leaves that to `Set`.
-/

set_option autoImplicit false

namespace Familog.App.Ledger

open Async Firestore Swift LogInPage MainPage

/-! ## The account -/

/-- What a user can do to its families. -/
inductive Operation where
  | enter (familyId : String)
  | choose (familyId : String)

/-- The families that have been entered, and the one that is chosen. -/
structure Account where
  families : List String
  familyId : String

/-- After the sign-up. -/
def Account.empty : Account := ⟨[], ""⟩

def Account.apply (account : Account) : Operation → Account
  | .enter familyId => ⟨account.families ++ [familyId], familyId⟩
  | .choose familyId => { account with familyId := familyId }

/-- The account of a user after what all users have done. -/
def account (past : List (Uid × Operation)) (uid : Uid) : Account :=
  past.foldl (fun account entry => if entry.1 = uid then account.apply entry.2 else account) .empty

/-- The operation that a request performs. -/
def operation? (task : Task) : Option (Uid × Operation) :=
  match task.append?, task with
  | some (uid, familyId, .updateData _ _), _ => some (uid, .enter familyId)
  | _, .switch session (.updateData familyId) => some (session.user, .choose familyId)
  | _, _ => none

/-- The operation that the callback of an answer acknowledges. -/
def acknowledged (_ : AppState) (task : Task) : Answer → List (Uid × Operation)
  | .succeeded => (operation? task).toList
  | _ => []

/-- The document shows the account. Its array is a set made of entered families: of all of
them if no write was stale, which is what `whole` stands for. -/
structure Shows (whole : Prop) (form : CanonicalForm) (data : Fields) (account : Account) :
    Prop where
  familyId : data.string? "familyId" = some account.familyId
  families : ∃ families kept, data.strings? "families" = some families ∧
    IsSetArray form kept families ∧ kept ⊆ account.families ∧ (whole → kept = account.families)

/-- Every document shows the account of its user, and who has no document has done nothing. -/
structure Follows (whole : Prop) (form : CanonicalForm) (past : List (Uid × Operation))
    (users : Collection Uid) : Prop where
  shows : ∀ uid data, users.get? uid = some data → Shows whole form data (account past uid)
  fresh : ∀ uid, users.get? uid = none → account past uid = .empty

/-- What a pending request relies on: what it has read was entered, and a new document is the
one of the sign-up. -/
structure Need (past : List (Uid × Operation)) (task : Task) : Prop where
  read : ∀ uid familyId step, task.append? = some (uid, familyId, step) →
    readIds step ⊆ (account past uid).families
  signUp : ∀ uid fields, task = .signUp (.setData uid fields) →
    ∃ email firstName, fields = userData email firstName uid

/-! ## Accounts over time -/

section Accounts

variable {past : List (Uid × Operation)} {uid other : Uid} {operation : Operation}
  {task : Task}

theorem account_append :
    account (past ++ [(other, operation)]) uid =
      if other = uid then (account past uid).apply operation else account past uid := by
  simp [account]

/-- Nobody leaves a family. -/
theorem families_subset_append (later : List (Uid × Operation)) :
    (account past uid).families ⊆ (account (past ++ later) uid).families := by
  induction later using List.reverseRecOn with
  | nil => simp
  | append_singleton rest entry inductionHypothesis =>
      obtain ⟨other, operation⟩ := entry
      rw [← List.append_assoc, account_append]
      split_ifs
      · cases operation with
        | enter familyId =>
            exact List.subset_append_of_subset_left _ inductionHypothesis
        | choose familyId => exact inductionHypothesis
      · exact inductionHypothesis

theorem Need.append (need : Need past task) (later : List (Uid × Operation)) :
    Need (past ++ later) task where
  read uid familyId step appends :=
    List.Subset.trans (need.read uid familyId step appends) (families_subset_append later)
  signUp := need.signUp

theorem Need.of_silent (other : task.append? = none)
    (unsaved : ∀ uid fields, task ≠ .signUp (.setData uid fields)) : Need past task where
  read := by simp [other]
  signUp uid fields same := absurd same (unsaved uid fields)

theorem Need.of_append {familyId : String} {step : AppendFamily.Task}
    (appends : task.append? = some (uid, familyId, step))
    (read : readIds step ⊆ (account past uid).families) : Need past task where
  read := by
    intro user appended found same
    obtain ⟨rfl, rfl, rfl⟩ : uid = user ∧ familyId = appended ∧ step = found := by
      simpa [appends] using same
    exact read
  signUp := by
    rintro user fields rfl
    simp [Task.append?] at appends

end Accounts

/-! ## Documents over time -/

section Documents

variable {whole : Prop} {form : CanonicalForm} {past : List (Uid × Operation)}
  {users : Collection Uid} {uid : Uid} {data : Fields} {account : Account} {familyId : String}

theorem shows_userData {email firstName : String} :
    Shows whole form (userData email firstName uid) .empty where
  familyId := rfl
  families := ⟨[], [], rfl, ⟨by simp, by simp, List.Pairwise.nil⟩, List.Subset.refl [],
    fun _ => rfl⟩

/-- A set made anew of what was read and of one more family: if the write is current, it is
one of all families that were entered. -/
theorem setArray_appended {entered stored read newFamilies : List String}
    (before : IsSetArray form entered stored) (wasRead : read ⊆ entered)
    (current : ∀ other ∈ stored, form.Contains (read ++ [familyId]) other)
    (array : IsSetArray form (read ++ [familyId]) newFamilies) :
    IsSetArray form (entered ++ [familyId]) newFamilies where
  from_source := by
    intro other inNew
    rcases List.mem_append.mp (array.from_source other inNew) with old | appended
    · exact List.mem_append_left _ (wasRead old)
    · exact List.mem_append_right _ appended
  covers := by
    intro other source
    rcases List.mem_append.mp source with old | appended
    · obtain ⟨kept, inStored, same⟩ := before.covers other old
      obtain ⟨found, inNew, same'⟩ := array.contains (current kept inStored)
      exact ⟨found, inNew, same'.trans same⟩
    · exact array.covers other (List.mem_append_right _ appended)
  distinct := array.distinct

/-- The write of the read-modify-write enters the family. -/
theorem Shows.enter {read newFamilies : List String} (shows : Shows whole form data account)
    (wasRead : read ⊆ account.families)
    (current : whole → ∀ stored, data.strings? "families" = some stored →
      ∀ other ∈ stored, form.Contains (read ++ [familyId]) other)
    (array : IsSetArray form (read ++ [familyId]) newFamilies) :
    Shows whole form (AppendFamily.updated data familyId newFamilies)
      (account.apply (.enter familyId)) where
  familyId := AppendFamily.updated_familyId _ _ _
  families := by
    by_cases noStaleWrite : whole
    · obtain ⟨stored, kept, found, before, _, all⟩ := shows.families
      rw [all noStaleWrite] at before
      exact ⟨newFamilies, account.families ++ [familyId], AppendFamily.updated_families _ _ _,
        setArray_appended before wasRead (current noStaleWrite stored found) array,
        List.Subset.refl _, fun _ => rfl⟩
    · exact ⟨newFamilies, read ++ [familyId], AppendFamily.updated_families _ _ _, array,
        List.append_subset.mpr ⟨List.subset_append_of_subset_left _ wasRead,
          List.subset_append_right _ _⟩, fun all => absurd all noStaleWrite⟩

/-- The write of the switch screen chooses the family. -/
theorem Shows.choose (shows : Shows whole form data account) :
    Shows whole form (data.merge [("familyId", .string familyId)])
      (account.apply (.choose familyId)) where
  familyId := rfl
  families := by
    obtain ⟨families, kept, found, rest⟩ := shows.families
    exact ⟨families, kept, by rwa [Fields.strings?_merge_other (by simp)], rest⟩

/-- A user performs an operation, and its document is written to show it. -/
theorem Follows.perform {operation : Operation} {after : Fields}
    (follows : Follows whole form past users)
    (written : Shows whole form after ((Ledger.account past uid).apply operation)) :
    Follows whole form (past ++ [(uid, operation)]) (users.set uid after) where
  shows := by
    intro other data found
    rw [account_append]
    rw [Collection.get?_set] at found
    split_ifs with here
    · subst here
      rw [if_pos rfl] at found
      exact Option.some.inj found ▸ written
    · rw [if_neg (Ne.symm here)] at found
      exact follows.shows other data found
  fresh := by
    intro other missing
    rw [account_append]
    rw [Collection.get?_set] at missing
    split_ifs at missing with here
    rw [if_neg (Ne.symm here)]
    exact follows.fresh other missing

/-- The document of a new user. -/
theorem Follows.signUp {email firstName : String} (follows : Follows whole form past users)
    (missing : users.get? uid = none) :
    Follows whole form past (users.set uid (userData email firstName uid)) where
  shows := by
    intro other data found
    rw [Collection.get?_set] at found
    split_ifs at found with here
    · subst here
      rw [← Option.some.inj found, follows.fresh _ missing]
      exact shows_userData
    · exact follows.shows other data found
  fresh := by
    intro other absent
    rw [Collection.get?_set] at absent
    split_ifs at absent
    exact follows.fresh other absent

end Documents

/-! ## What an acknowledgement does -/

section Callbacks

variable {form : CanonicalForm} {state next : AppState} {task : Task} {answer : Answer}
  {new : List Task}

/-- The acknowledged write of the read-modify-write. -/
theorem entered_of_resume {uid : Uid} {familyId : String} {families newFamilies : List String}
    (appends : task.append? = some (uid, familyId, .updateData families newFamilies))
    (resumed : resume form state task .succeeded = some (next, new)) :
    ∃ data, state.store.users.get? uid = some data ∧
      next.store.users = state.store.users.set uid
        (AppendFamily.updated data familyId newFamilies) ∧ new = [] := by
  cases task with
  | join session request =>
      cases request with
      | getDocuments id => simp [Task.append?] at appends
      | append id step =>
          simp only [Task.append?, Option.some.injEq, Prod.mk.injEq] at appends
          obtain ⟨rfl, rfl, rfl⟩ := appends
          obtain ⟨outcome, ran, left⟩ := Option.map_eq_some_iff.mp resumed
          obtain ⟨rfl, rfl⟩ := Prod.mk.inj left
          cases JoinFamily.resume_eq_some.mp ran with
          | appended written =>
              cases AppendFamily.resume_eq_some.mp written with
              | written found => exact ⟨_, found, rfl, rfl⟩
  | create session request =>
      cases request with
      | append id step =>
          simp only [Task.append?, Option.some.injEq, Prod.mk.injEq] at appends
          obtain ⟨rfl, rfl, rfl⟩ := appends
          obtain ⟨outcome, ran, left⟩ := Option.map_eq_some_iff.mp resumed
          obtain ⟨rfl, rfl⟩ := Prod.mk.inj left
          cases CreateFamily.resume_eq_some.mp ran with
          | appended written =>
              cases AppendFamily.resume_eq_some.mp written with
              | written found => exact ⟨_, found, rfl, rfl⟩
      | _ => simp [Task.append?] at appends
  | _ => simp [Task.append?] at appends

/-- The acknowledged write of the switch screen. -/
theorem chosen_of_resume {session : Session} {familyId : String}
    (resumed : resume form state (.switch session (.updateData familyId)) .succeeded =
      some (next, new)) :
    ∃ data, state.store.users.get? session.user = some data ∧
      next.store.users = state.store.users.set session.user
        (data.merge [("familyId", .string familyId)]) ∧ new = [] := by
  obtain ⟨listing, ran, left⟩ := Option.map_eq_some_iff.mp resumed
  obtain ⟨rfl, rfl⟩ := Prod.mk.inj left
  cases SwitchFamily.resume_eq_some.mp ran with
  | switched found => exact ⟨_, found, rfl, rfl⟩

/-- An answer acknowledges nothing, an entry or a choice. -/
theorem acknowledged_cases (state : AppState) (task : Task) (answer : Answer) :
    ((operation? task = none ∨ answer ≠ .succeeded) ∧ acknowledged state task answer = []) ∨
    (∃ uid familyId read newFamilies,
      task.append? = some (uid, familyId, .updateData read newFamilies) ∧ answer = .succeeded ∧
        acknowledged state task answer = [(uid, .enter familyId)]) ∨
    ∃ session familyId, task = .switch session (.updateData familyId) ∧ answer = .succeeded ∧
      acknowledged state task answer = [(session.user, .choose familyId)] := by
  by_cases succeeded : answer = .succeeded
  · subst succeeded
    unfold acknowledged operation?
    split
    · next appends => exact Or.inr (Or.inl ⟨_, _, _, _, appends, rfl, rfl⟩)
    · exact Or.inr (Or.inr ⟨_, _, rfl, rfl, rfl⟩)
    · exact Or.inl ⟨Or.inl rfl, rfl⟩
  · refine Or.inl ⟨Or.inr succeeded, ?_⟩
    cases answer <;> first | rfl | exact absurd rfl succeeded

/-- Without an operation, only a sign-up writes a document. -/
theorem users_of_silent {data after : Data} {reports : List (Uid × String)}
    (effect : Effect form data task answer after new reports)
    (silent : operation? task = none ∨ answer ≠ .succeeded) :
    after.store.users = data.store.users ∨
      ∃ uid fields, task = .signUp (.setData uid fields) ∧
        after.store.users = data.store.users.set uid fields := by
  cases effect with
  | userSaved => exact Or.inr ⟨_, _, rfl, rfl⟩
  | userUpdated pending found => simp [operation?, pending] at silent
  | switched found => simp [operation?, Task.append?] at silent
  | _ => exact Or.inl rfl

/-- What is issued needs only what has been entered. -/
theorem need_of_effect {whole : Prop} {past : List (Uid × Operation)} {data after : Data}
    {reports : List (Uid × String)} (effect : Effect form data task answer after new reports)
    (follows : Follows whole form past data.store.users) (need : Need past task) :
    ∀ request ∈ new, Need past request := by
  cases effect with
  | accountCreated unknown =>
      rw [List.forall_mem_singleton]
      refine ⟨by simp [Task.append?], fun uid fields same => ?_⟩
      cases same
      exact ⟨_, _, rfl⟩
  | familyListed listed => exact List.forall_mem_singleton.mpr (.of_append rfl (by simp [readIds]))
  | userRead pending found issued =>
      refine List.forall_mem_singleton.mpr (.of_append issued ?_)
      obtain ⟨families, kept, stored, array, entered, _⟩ := (follows.shows _ _ found).families
      simp only [readIds, stored, Option.getD_some]
      exact fun familyId member => entered (array.from_source familyId member)
  | arrayMade pending stored array issued =>
      refine List.forall_mem_singleton.mpr (.of_append issued ?_)
      have read := need.read _ _ _ pending
      simpa only [readIds, stored, Option.getD_some] using read
  | familySaved named =>
      intro request member
      rcases List.mem_pair.mp member with rfl | rfl
      · exact .of_silent rfl (by simp)
      · exact .of_append rfl (by simp [readIds])
  | userListened listed =>
      exact forall_mem_listeners (.of_silent rfl (by simp)) fun _ _ => .of_silent rfl (by simp)
  | familyListened | currentUserRead | familyIdRead | uploading | postDescribed =>
      exact List.forall_mem_singleton.mpr (.of_silent rfl (by simp))
  | _ => simp

theorem need_of_asked {past : List (Uid × Operation)} {data : Data} {event : Event}
    (asked : Asked form data event new) : ∀ request ∈ new, Need past request := by
  cases asked with
  | nothing => simp
  | launch =>
      exact List.forall_mem_cons.mpr ⟨.of_silent rfl (by simp),
        List.forall_mem_singleton.mpr (.of_silent rfl (by simp))⟩
  | _ => exact List.forall_mem_singleton.mpr (.of_silent rfl (by simp))

end Callbacks

/-! ## Whole runs -/

/-- The documents follow the accounts as long as the requests are in order. -/
theorem records (whole : Prop) (form : CanonicalForm) :
    Records (program form) acknowledged
      (orderly form fun config label => whole → Current form config label).along
      (fun past state => Follows whole form past state.store.users) Need where
  handled := by
    intro past config event state new follows _ handled
    obtain ⟨asked, data, _⟩ := handle_asked handled
    refine ⟨?_, need_of_asked asked⟩
    show Follows whole form past state.toData.store.users
    rwa [data]
  resumed := by
    intro past config ticket answer task state new follows need allowed found resumed
    obtain ⟨current, order⟩ := allowed
    obtain ⟨made, saved⟩ := order.need task (Pool.mem_tasks_of_find? found)
    change resume form config.state task answer = some (state, new) at resumed
    obtain ⟨reports, effect, _⟩ := resume_effect resumed
    refine ⟨?_, fun request member =>
      (need_of_effect effect follows need request member).append _⟩
    rcases acknowledged_cases config.state task answer with
      ⟨silent, nothing⟩ | ⟨uid, familyId, read, newFamilies, appends, rfl, entered⟩ |
      ⟨session, familyId, rfl, rfl, chosen⟩
    · rw [nothing, List.append_nil]
      rcases users_of_silent effect silent with users | ⟨uid, fields, rfl, users⟩
      · exact users ▸ follows
      · obtain ⟨email, firstName, rfl⟩ := need.signUp uid fields rfl
        exact users ▸ follows.signUp (saved uid rfl).2
    · obtain ⟨data, stored, users, _⟩ := entered_of_resume appends resumed
      have wasRead : read ⊆ (account past uid).families := need.read _ _ _ appends
      rw [entered, users]
      refine follows.perform ((follows.shows uid data stored).enter wasRead ?_ ?_)
      · intro noStaleWrite families had
        have currentWrite := current noStaleWrite task found
        simp only [CurrentWrite, appends] at currentWrite
        exact currentWrite families (by simp [Store.familiesOf, stored, had])
      · simpa only [MadeFromRead, appends] using made
    · obtain ⟨data, stored, users, _⟩ := chosen_of_resume resumed
      rw [chosen, users]
      exact follows.perform (follows.shows _ data stored).choose
  lasting later need := need.append later

/-- The operations that a run acknowledges. -/
def performed (form : CanonicalForm) (labels : List (Label Event Answer)) :
    List (Uid × Operation) :=
  (program form).history (onAnswer acknowledged) (Program.start AppState.empty) labels

/-- In every run of the app from the empty store, whatever the order of the steps of all
devices, every user document shows the account of what its user did: the chosen family is the
last one that was entered or chosen, and `families` is a set made of entered families, and of
all of them if no write of `families` was stale. A user without a document has done nothing. -/
theorem documents_show_account_of_run (form : CanonicalForm)
    {labels : List (Label Event Answer)} {last : Config AppState Task}
    (ran : (program form).run (Program.start AppState.empty) labels = some last) :
    Follows ((program form).Obeys (Current form) (Program.start AppState.empty) labels) form
      (performed form labels) last.state.store.users := by
  have obeys : (program form).Obeys (fun config label =>
      (program form).Obeys (Current form) (Program.start AppState.empty) labels →
        Current form config label) (Program.start AppState.empty) labels := by
    by_cases noStaleWrite :
      (program form).Obeys (Current form) (Program.start AppState.empty) labels
    · exact Program.obeys_of_invariant (fun _ => True) (fun _ current _ => current)
        (fun _ _ _ => trivial) trivial noStaleWrite
    · exact Program.obeys_of_invariant (fun _ => True)
        (fun _ _ all => absurd all noStaleWrite) (fun _ _ _ => trivial) trivial Program.obeys_true
  have empty : Follows ((program form).Obeys (Current form) (Program.start AppState.empty) labels)
      form [] AppState.empty.store.users :=
    ⟨fun uid data found => absurd found (by simp [AppState.empty, Store.empty]), fun _ _ => rfl⟩
  exact ((records _ form).run empty ((orderly form _).obeys_along (orderly_start form _) obeys)
    ran).1

/-- The accounts of a user who creates a family and of one who joins it. -/
theorem documents_show_account_of_joining :
    ∃ last, (program .scalars).run (Program.start AppState.empty)
        (signUps ++ creation "abc" ++ joining "abc") = some last ∧
      Follows ((program .scalars).Obeys (Current .scalars) (Program.start AppState.empty)
          (signUps ++ creation "abc" ++ joining "abc")) .scalars
        (performed .scalars (signUps ++ creation "abc" ++ joining "abc"))
        last.state.store.users := by
  obtain ⟨last, ran, _⟩ : ∃ last, (program .scalars).run (Program.start AppState.empty)
      (signUps ++ creation "abc" ++ joining "abc") = some last ∧ last.pool.tasks = [] :=
    Program.exists_run (by decide)
  exact ⟨last, ran, documents_show_account_of_run .scalars ran⟩

end Familog.App.Ledger
