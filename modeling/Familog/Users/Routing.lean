import Familog.App.Effect
import Familog.App.Entrance

/-!
Contract: where a log-in leads.

Owns that every user document carries the address with which its account was created,
and a family id; that the query of a log-in therefore finds the document of the account
that was signed in, or none; and the exact condition under which the log-in goes on to a
page: the document is there, and the address is spelled as it was at the sign-up.

Does not own what the pages do when they open.
-/

set_option autoImplicit false

namespace Familog.Users

open App App.Entrance Async Firestore Swift LogInPage MainPage

/-! ## The documents and their accounts -/

/-- The document is one of an account, with its address. -/
def Registered (registered : List Account) (uid : Uid) (data : Fields) : Prop :=
  ∃ account ∈ registered, account.uid = uid ∧ data.string? "email" = some account.email ∧
    (data.string? "familyId").isSome

/-- The accounts are those of the app, no two with one id or one address, and every user
document belongs to one. -/
structure Kept (identity : String → String) (state : State) : Prop where
  uids : state.registered.map Account.uid = state.app.accounts
  distinctUids : (state.registered.map Account.uid).Nodup
  distinctEmails : (state.registered.map fun account => identity account.email).Nodup
  documents : ∀ uid data, state.app.store.users.get? uid = some data →
    Registered state.registered uid data

/-- The document a sign-up is about to write belongs to its account. -/
def NeedOfSignUp (registered : List Account) : App.Task → Prop
  | .signUp (.setData uid data) => Registered registered uid data
  | _ => True

/-- The address a log-in queries for is that of an account. -/
def NeedOfLogIn (identity : String → String) (registered : List Account) : LogIn.Task → Prop
  | .getDocuments email => ∃ account ∈ registered, account.Identified identity email
  | _ => True

theorem Registered.mono {registered after : List Account} {uid : Uid} {data : Fields}
    (belongs : Registered registered uid data) (subset : registered ⊆ after) :
    Registered after uid data := by
  obtain ⟨account, member, rest⟩ := belongs
  exact ⟨account, subset member, rest⟩

/-- Neither an address nor the type of a family id is changed by the writers. -/
theorem Registered.merge {registered : List Account} {uid : Uid} {data : Fields}
    {entries : List (String × Value)} (belongs : Registered registered uid data)
    (noEmail : ∀ entry ∈ entries, entry.1 ≠ "email")
    (familyIds : ∀ entry ∈ entries, entry.1 = "familyId" → entry.2.asString?.isSome) :
    Registered registered uid (data.merge entries) := by
  obtain ⟨account, member, same, email, familyId⟩ := belongs
  refine ⟨account, member, same, ?_, ?_⟩
  · rwa [Fields.string?, Fields.merge_other noEmail]
  · exact Fields.merge_field (fun value => (value.bind Value.asString?).isSome) familyId familyIds

theorem NeedOfSignUp.mono {registered after : List Account} {task : App.Task}
    (need : NeedOfSignUp registered task) (subset : registered ⊆ after) :
    NeedOfSignUp after task := by
  unfold NeedOfSignUp at need ⊢
  split at need
  · exact need.mono subset
  · trivial

theorem NeedOfLogIn.mono {identity : String → String} {registered after : List Account}
    {task : LogIn.Task} (need : NeedOfLogIn identity registered task)
    (subset : registered ⊆ after) : NeedOfLogIn identity after task := by
  unfold NeedOfLogIn at need ⊢
  split at need
  · exact need.imp fun account found => ⟨subset found.1, found.2⟩
  · trivial

/-! ## One step of the app -/

section Effects

variable {form : CanonicalForm} {data next : Data} {task : App.Task} {answer : Answer}
  {new : List App.Task} {reports : List (Uid × String)} {registered : List Account}

/-- An answer that creates no account leaves the accounts alone and asks for no new user
document. -/
theorem accounts_of_uncreated (effect : Effect form data task answer next new reports)
    (uncreated : created? task answer = none) :
    next.accounts = data.accounts ∧ ∀ request ∈ new, NeedOfSignUp registered request := by
  cases effect with
  | accountCreated => simp [created?] at uncreated
  | userRead _ _ issued | arrayMade _ _ _ issued =>
      exact ⟨rfl, forall_mem_append issued (fun _ _ _ => trivial) fun _ _ _ => trivial⟩
  | userListened => exact ⟨rfl, forall_mem_listeners trivial fun _ _ => trivial⟩
  | _ => exact ⟨rfl, by simp [NeedOfSignUp]⟩

/-- The documents stay with their accounts. -/
theorem registered_of_effect (effect : Effect form data task answer next new reports)
    (documents : ∀ uid fields, data.store.users.get? uid = some fields →
      Registered registered uid fields)
    (need : NeedOfSignUp registered task) :
    ∀ uid fields, next.store.users.get? uid = some fields → Registered registered uid fields := by
  have written : ∀ {user fields}, Registered registered user fields →
      ∀ uid found, (data.store.users.set user fields).get? uid = some found →
        Registered registered uid found := by
    intro user fields belongs uid found stored
    rw [Collection.get?_set] at stored
    split_ifs at stored with same
    · rw [same, ← Option.some.inj stored]
      exact belongs
    · exact documents uid found stored
  cases effect with
  | userSaved => exact written need
  | userUpdated _ found =>
      exact written ((documents _ _ found).merge (by simp [AppendFamily.entries])
        (by simp [AppendFamily.entries]))
  | switched found =>
      exact written ((documents _ _ found).merge (by simp) (by simp))
  | _ => exact documents

end Effects

section Steps

variable {form : CanonicalForm} {identity : String → String} {state next : State}
  {task : App.Task} {answer : Answer} {new : List App.Task}

/-- The callback that receives a new account. -/
theorem resume_created {account : Account}
    (created : created? task answer = some account) {left : AppState}
    (resumed : App.resume form state.app task answer = some (left, new)) :
    account.uid ∉ state.app.accounts ∧ left.accounts = account.uid :: state.app.accounts ∧
      left.store = state.app.store ∧ ∃ firstName,
        new = [.signUp (.setData account.uid (userData account.email firstName account.uid))] := by
  unfold created? at created
  split at created
  · next email password firstName uid =>
      obtain rfl := Option.some.inj created
      obtain ⟨outcome, ran, same⟩ := Option.map_eq_some_iff.mp resumed
      obtain ⟨rfl, rfl⟩ := Prod.mk.inj same
      cases SignUp.resumed_of_resume ran with
      | created unknown => exact ⟨unknown, rfl, rfl, firstName, rfl⟩
  · simp at created

/-- The document of a sign-up belongs to its account. -/
theorem registered_userData {registered : List Account} {account : Account}
    (member : account ∈ registered) (firstName : String) :
    Registered registered account.uid (userData account.email firstName account.uid) :=
  ⟨account, member, rfl, rfl, rfl⟩

/-- A step of the app keeps the accounts, adding to them at most. -/
theorem kept_resume (kept : Kept identity state) (need : NeedOfSignUp state.registered task)
    (resumed : (Entrance.app form identity).resume state task answer = some (next, new)) :
    Kept identity next ∧ state.registered ⊆ next.registered ∧
      ∀ request ∈ new, NeedOfSignUp next.registered request := by
  obtain ⟨registered, answered, rest⟩ := Option.bind_eq_some_iff.mp resumed
  obtain ⟨⟨left, issued⟩, acted, same⟩ := Option.map_eq_some_iff.mp rest
  obtain ⟨rfl, rfl⟩ := Prod.mk.inj same
  obtain ⟨reports, effect, _⟩ := resume_effect acted
  rcases register_cases answered with ⟨uncreated, rfl⟩ | ⟨account, created, rfl, fresh⟩
  · obtain ⟨accounts, fresh⟩ := accounts_of_uncreated effect uncreated
    refine ⟨⟨kept.uids.trans accounts.symm, kept.distinctUids, kept.distinctEmails, ?_⟩,
      List.Subset.refl _, fresh⟩
    exact registered_of_effect effect kept.documents need
  · obtain ⟨unknown, accounts, store, firstName, rfl⟩ := resume_created created acted
    have grown : state.registered ⊆ account :: state.registered := List.subset_cons_self _ _
    refine ⟨⟨?_, ?_, ?_, fun uid data found => ?_⟩, grown, ?_⟩
    · show (account :: state.registered).map Account.uid = left.accounts
      rw [List.map_cons, kept.uids, accounts]
    · rw [← kept.uids] at unknown
      exact List.nodup_cons.mpr ⟨unknown, kept.distinctUids⟩
    · refine List.nodup_cons.mpr ⟨fun taken => ?_, kept.distinctEmails⟩
      obtain ⟨other, member, same⟩ := List.mem_map.mp taken
      exact fresh other member same
    · have before : state.app.store.users.get? uid = some data := store ▸ found
      exact (kept.documents uid data before).mono grown
    · intro request member
      rw [List.mem_singleton.mp member]
      exact registered_userData List.mem_cons_self firstName

/-- A step of a log-in changes neither, and queries only for the address of an account. -/
theorem kept_logIn {localizedDescription : String} {request : LogIn.Task}
    {issued : List LogIn.Task} (kept : Kept identity state)
    (resumed : (Entrance.logIn identity localizedDescription).resume state request answer =
      some (next, issued)) :
    Kept identity next ∧ next.registered = state.registered ∧
      ∀ other ∈ issued, NeedOfLogIn identity next.registered other := by
  simp only [Entrance.logIn] at resumed
  split_ifs at resumed with authentic
  obtain ⟨entry, ran, same⟩ := Option.map_eq_some_iff.mp resumed
  obtain ⟨rfl, rfl⟩ := Prod.mk.inj same
  obtain ⟨store, fresh⟩ := LogIn.resume_cases ran
  refine ⟨⟨kept.uids, kept.distinctUids, kept.distinctEmails, ?_⟩, rfl, ?_⟩
  · show ∀ uid data, entry.outcome.store.users.get? uid = some data → _
    rw [store]
    exact kept.documents
  · show ∀ other ∈ entry.outcome.next, NeedOfLogIn identity state.registered other
    rcases fresh with nothing | ⟨email, password, rfl, rfl, query⟩
    · simp [nothing]
    · obtain ⟨account, member, identified, _⟩ := authentic
      rw [query]
      exact List.forall_mem_singleton.mpr ⟨account, member, identified⟩

end Steps

/-! ## Whole runs -/

/-- The accounts are kept in every run, and every query is for the address of one. -/
def accountsKept (form : CanonicalForm) (identity : String → String)
    (localizedDescription : String) :
    Outline (Entrance.program form identity localizedDescription) fun _ _ => True where
  inv := Kept identity
  need state := Sum.elim (NeedOfSignUp state.registered) (NeedOfLogIn identity state.registered)
  apart _ _ := True
  symmetric _ := trivial
  handled := by
    intro config event state new kept _ handled
    rcases Program.handle_beside handled with
      ⟨own, tasks, rfl, acted, rfl⟩ | ⟨⟨emailText, passwordText⟩, tasks, rfl, acted, rfl⟩
    · obtain ⟨⟨left, issued⟩, handledApp, same⟩ := Option.map_eq_some_iff.mp acted
      obtain ⟨rfl, rfl⟩ := Prod.mk.inj same
      obtain ⟨asked, data, _⟩ := handle_asked handledApp
      have accounts : left.accounts = config.state.app.accounts := congrArg Data.accounts data
      have store : left.store = config.state.app.store := congrArg Data.store data
      refine .of_free (fun _ _ => trivial) ?_ (List.forall_mem_map.mpr ?_)
        fun _ waiting => waiting.2
      · refine ⟨kept.uids.trans accounts.symm, kept.distinctUids, kept.distinctEmails, ?_⟩
        show ∀ uid fields, left.store.users.get? uid = some fields → _
        rw [store]
        exact kept.documents
      · cases asked <;> simp [NeedOfSignUp]
    · obtain ⟨rfl, rfl⟩ := Prod.mk.inj (Option.some.inj acted)
      exact .of_free (fun _ _ => trivial) kept (by simp [LogIn.logInTapped, NeedOfLogIn])
        fun _ waiting => waiting.2
  resumed := by
    intro config ticket answer task state new kept need _ _ resumed
    have stable : ∀ {after : List Account}, config.state.registered ⊆ after →
        ∀ other, Sum.elim (NeedOfSignUp config.state.registered)
          (NeedOfLogIn identity config.state.registered) other →
        Sum.elim (NeedOfSignUp after) (NeedOfLogIn identity after) other := by
      rintro after subset (other | other) needed
      · exact NeedOfSignUp.mono needed subset
      · exact NeedOfLogIn.mono needed subset
    rcases Program.resume_beside resumed with
      ⟨own, tasks, rfl, acted, rfl⟩ | ⟨own, tasks, rfl, acted, rfl⟩
    · obtain ⟨keptAfter, subset, fresh⟩ := kept_resume kept need acted
      exact .of_free (fun _ _ => trivial) keptAfter (List.forall_mem_map.mpr fresh)
        fun other waiting => stable subset other waiting.1
    · obtain ⟨keptAfter, same, fresh⟩ := kept_logIn kept acted
      exact .of_free (fun _ _ => trivial) keptAfter (List.forall_mem_map.mpr fresh)
        fun other waiting => stable (same ▸ List.Subset.refl _) other waiting.1

/-! ## The query -/

section Query

variable {identity : String → String} {state : State} {account : Account} {email : String}

/-- The query for an address of an account finds the document of the account, if it is
there and the address is spelled as at the sign-up, and nothing else. -/
theorem documentsWith_eq (kept : Kept identity state) (member : account ∈ state.registered)
    (identified : account.Identified identity email) :
    LogIn.documentsWith state.app.store email =
      if email = account.email then (state.app.store.users.get? account.uid).toList else [] := by
  -- two accounts with one address, or with one id, are one
  have sameEmail : ∀ other ∈ state.registered, other.email = email → other = account := by
    intro other inAccounts spelled
    refine List.inj_on_of_nodup_map kept.distinctEmails inAccounts member ?_
    show identity other.email = identity account.email
    rw [spelled, identified]
  have sameUid : ∀ other ∈ state.registered, other.uid = account.uid → other = account :=
    fun other inAccounts same =>
      List.inj_on_of_nodup_map kept.distinctUids inAccounts member same
  rw [LogIn.documentsWith, @Collection.filter_documents _ _ _ account.uid]
  · cases found : state.app.store.users.get? account.uid with
    | none => simp
    | some data =>
        obtain ⟨other, inAccounts, uid, spelled, _⟩ := kept.documents _ data found
        obtain rfl := sameUid other inAccounts uid
        by_cases same : email = other.email
        · simp [Option.filter, spelled, same]
        · simp [Option.filter, spelled, same, Ne.symm same]
  · intro uid data stored selected
    obtain ⟨other, inAccounts, rfl, spelled, _⟩ := kept.documents uid data stored
    have queried : data.string? "email" = some email := of_decide_eq_true selected
    rw [sameEmail other inAccounts (Option.some.inj (spelled.symm.trans queried))]

/-- The log-in goes on to one page, the one that the family id of the account leads to. -/
def RoutedTo (store : Store) (account : Account) (before after : List Timeline.Screen) : Prop :=
  ∃ familyId ∈ store.familyIdOf account.uid,
    after = before ++ [if familyId = "" then .familyPage else .tabBar]

instance (store : Store) (account : Account) (before after : List Timeline.Screen) :
    Decidable (RoutedTo store account before after) :=
  inferInstanceAs (Decidable (∃ familyId ∈ _, _))

end Query

/-- In every run of the app and its log-ins, a query is pending only for an address of an
account, and when it succeeds the log-in goes on to the page of that account, once, exactly
if the account's document is there and the address is spelled as it was at the sign-up. -/
theorem log_in_routes_iff (form : CanonicalForm) (identity : String → String)
    (localizedDescription : String)
    {labels : List (Label (App.Event ⊕ Entrance.Event) Answer)}
    {last : Config State (App.Task ⊕ LogIn.Task)}
    (ran : (Entrance.program form identity localizedDescription).run
      (Program.start State.empty) labels = some last)
    {email : String} (pending : .inr (.getDocuments email) ∈ last.pool.tasks) :
    ∃ account ∈ last.state.registered, account.Identified identity email ∧
      ∃ next new, (Entrance.program form identity localizedDescription).resume last.state
          (.inr (.getDocuments email)) .succeeded = some (next, new) ∧
        (RoutedTo last.state.app.store account last.state.presented next.presented ↔
          (last.state.app.store.users.get? account.uid).isSome ∧ email = account.email) := by
  have start : Kept identity State.empty :=
    ⟨rfl, List.nodup_nil, List.nodup_nil, fun uid data found => absurd found (by
      simp [State.empty, AppState.empty, Store.empty])⟩
  have holds := (accountsKept form identity localizedDescription).run
    (Outline.start _ start) Program.obeys_true ran
  have kept : Kept identity last.state := holds.inv
  obtain ⟨account, member, identified⟩ : NeedOfLogIn identity last.state.registered
    (.getDocuments email) := holds.need _ pending
  refine ⟨account, member, identified, _, _, rfl, ?_⟩
  show RoutedTo _ account _ (last.state.presented ++
    (LogIn.forEach (LogIn.documentsWith last.state.app.store email)).1) ↔ _
  rw [documentsWith_eq kept member identified, RoutedTo, Store.familyIdOf]
  cases found : last.state.app.store.users.get? account.uid with
  | none => simp
  | some data =>
      obtain ⟨_, _, _, _, familyIds⟩ := kept.documents _ data found
      obtain ⟨familyId, chosen⟩ := Option.isSome_iff_exists.mp familyIds
      by_cases same : email = account.email
      · simp [same, LogIn.forEach, chosen]
      · simp [same, LogIn.forEach, chosen]

/-! ## Log-ins that lead nowhere -/

/-- Addresses are the same in small and capital letters. -/
def lowercased (email : String) : String := String.ofList (email.toList.map Char.toLower)

/-- A user signs up, the write of the user document is answered, and then the user logs
in with the address in some spelling and the password; the query is pending. -/
def entered (profile : Answer) (emailText : String) :
    List (Label (App.Event ⊕ Entrance.Event) Answer) :=
  [.event (.inl (.signUpTapped ⟨"A", "a@host", "Abcdefg1", "Abcdefg1"⟩)),
    .answer 0 (.created ⟨"uidEntrant", by decide, by decide⟩), .answer 1 profile,
    .event (.inr (.logInTapped emailText "Abcdefg1")), .answer 2 .succeeded]

/-- Auth accepts the address and the password, and when the query succeeds no account is
routed. -/
def LeadsNowhere (labels : List (Label (App.Event ⊕ Entrance.Event) Answer)) : Prop :=
  ∃ last, (Entrance.program .scalars lowercased "The password is invalid.").run
      (Program.start State.empty) labels = some last ∧
    last.state.registered.map Account.email = ["a@host"] ∧
    ∃ task ∈ last.pool.find? 3, ∃ next ∈ (Entrance.program .scalars lowercased
        "The password is invalid.").resume last.state task .succeeded,
      ∀ account ∈ last.state.registered,
        ¬ RoutedTo last.state.app.store account last.state.presented next.1.presented

/-- No page is presented where the write of the user document had failed, or where the
address is spelled with a capital letter. -/
theorem log_in_leads_nowhere :
    LeadsNowhere (entered .failed "a@host") ∧ LeadsNowhere (entered .succeeded "A@host") :=
  ⟨Program.exists_run (by decide), Program.exists_run (by decide)⟩

/-- The address that a pending request queries for. -/
def queried? : App.Task ⊕ LogIn.Task → Option String
  | .inr (.getDocuments email) => some email
  | _ => none

theorem queried?_eq_some {task : App.Task ⊕ LogIn.Task} {email : String}
    (queries : queried? task = some email) : task = .inr (.getDocuments email) := by
  unfold queried? at queries
  split at queries
  · rw [Option.some.inj queries]
  · simp at queries

/-- With white space around the address, spelled as it was, the log-in leads to the family
page. -/
theorem log_in_routes_iff_spelled :
    ∃ last, (Entrance.program .scalars lowercased "The password is invalid.").run
        (Program.start State.empty) (entered .succeeded " a@host ") = some last ∧
      ∃ account ∈ last.state.registered, account.Identified lowercased "a@host" ∧
        ∃ next new, (Entrance.program .scalars lowercased "The password is invalid.").resume
            last.state (.inr (.getDocuments "a@host")) .succeeded = some (next, new) ∧
          (RoutedTo last.state.app.store account last.state.presented next.presented ↔
            (last.state.app.store.users.get? account.uid).isSome ∧
              "a@host" = account.email) := by
  obtain ⟨last, ran, pending⟩ : ∃ last, (Entrance.program .scalars lowercased
      "The password is invalid.").run (Program.start State.empty)
        (entered .succeeded " a@host ") = some last ∧
      (last.pool.find? 3).bind queried? = some "a@host" :=
    Program.exists_run (by decide)
  obtain ⟨task, found, queries⟩ := Option.bind_eq_some_iff.mp pending
  obtain rfl := queried?_eq_some queries
  exact ⟨last, ran, log_in_routes_iff _ _ _ ran (Pool.mem_tasks_of_find? found)⟩

end Familog.Users
