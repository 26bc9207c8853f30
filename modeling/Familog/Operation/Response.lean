import Familog.Operation

/-!
Contract: what the callbacks of the operations can do.

Owns the inversion of every callback, as far as the HUD and the requests go: a loud
request goes on with one loud request, or ends with an error, with a success, or
with nothing. Proofs about the operations go through it and unfold no screen.
-/

set_option autoImplicit false

namespace Familog.Operation

open Async Firestore Swift LogInPage MainPage

/-! ## What a callback can do -/

/-- A callback of a loud request that neither shows success nor gives up. -/
structure Plain (task : Task) (answer : Answer) : Prop where
  loud : task.isSilent = false
  quiet : reports task answer = false
  kept : abandons task answer = false

/-- Everything a callback can do, as far as the HUD and the requests go. -/
inductive Responded (task : Task) (answer : Answer) : Outcome Task → Prop where
  | silent {after} : task.isSilent = true → Responded task answer (.ends after [])
  | proceeds {after next notices} : Plain task answer → next.isSilent = false →
      next.kind = task.kind → next.isUnannounced = false →
      (task.isWrite = true → isFailed answer = false) →
      notices = (if task.isUnannounced then [Notice.showing "Uploading..."] else []) →
      Responded task answer ⟨after, [next], notices⟩
  | forks {after familyName familyId} : task = .create (.setData familyName familyId) →
      answer = .succeeded →
      Responded task answer (.issues after
        [.create (.addDocument familyName familyId), .create (.append familyId .getDocument)])
  | fails {after status} : Plain task answer →
      Responded task answer (.ends after [.showError status])
  | declines {after notices} : task.isUnannounced = true → (∀ notice ∈ notices, notice = .trap) →
      Responded task answer (.ends after notices)
  | abandons {after notices} : task.isSilent = false → reports task answer = false →
      abandons task answer = true → (∀ notice ∈ notices, notice = .trap) →
      Responded task answer (.ends after notices)
  | reports {after status} : task.isSilent = false → task.kind ≠ .save →
      reports task answer = true → abandons task answer = false → isFailed answer = false →
      Responded task answer (.ends after [.showSuccess status])
  | signedUp {after uid data error status} : task = .signUp (.setData uid data) →
      answer = .failed → Responded task answer (.ends after [.showError error, .showSuccess status])
  | saved {after url status} : task = .save .downloadURL → answer = .assigned url →
      Responded task answer
        ⟨after, [.save (.updateData "profileImageUrl" url)], [.showSuccess status]⟩

section Inversion

variable {setting : Setting} {store : Store} {task : Task} {answer : Answer}
  {outcome : Outcome Task}

/-- What a step of the read-modify-write of the user document can do. -/
theorem append_cases {form : CanonicalForm} {texts : AppendFamily.Texts} {uid : Uid}
    {familyId : String} {step : AppendFamily.Task} {result : Outcome AppendFamily.Task}
    (resumed : AppendFamily.resume form texts store uid familyId step answer = some result) :
    (∃ status, result = .ends store [.showError status] ∧ appendReports step answer = false ∧
        appendAbandons step answer = false) ∨
      (∃ next, result = .issues store [next] ∧ appendReports step answer = false ∧
        appendAbandons step answer = false ∧ isFailed answer = false) ∨
      (result = .ends store [.trap] ∧ appendReports step answer = false ∧
        appendAbandons step answer = true) ∨
      ∃ after, result = .ends after [.showSuccess texts.done] ∧
        appendReports step answer = true ∧ appendAbandons step answer = false ∧
        isFailed answer = false := by
  cases AppendFamily.resume_eq_some.mp resumed with
  | unread | missing _ | unwritten => exact Or.inl ⟨_, rfl, rfl, rfl⟩
  | read _ => exact Or.inr (Or.inl ⟨_, rfl, rfl, rfl, rfl⟩)
  | trapped unreadable =>
      exact Or.inr (Or.inr (Or.inl ⟨rfl, rfl, by simp [appendAbandons, unreadable]⟩))
  | arrayMade found _ =>
      exact Or.inr (Or.inl ⟨_, rfl, rfl, by simp [appendAbandons, found], rfl⟩)
  | written _ => exact Or.inr (Or.inr (Or.inr ⟨_, rfl, rfl, rfl, rfl⟩))

private theorem traps_nil : ∀ notice ∈ ([] : List Notice), notice = .trap := by simp

private theorem traps_trap : ∀ notice ∈ [Notice.trap], notice = .trap := by simp

theorem signUp_responded {request : SignUp.Task}
    (responded : respond setting store (.signUp request) answer = some outcome) :
    Responded (.signUp request) answer outcome := by
  obtain ⟨result, resumed, rfl⟩ := Option.map_eq_some_iff.mp responded
  cases SignUp.resumed_of_resume resumed with
  | refused => exact .fails ⟨rfl, rfl, rfl⟩
  | created _ => exact .proceeds ⟨rfl, rfl, rfl⟩ rfl rfl rfl (by simp [Task.isWrite]) rfl
  | unsaved => exact .signedUp rfl rfl
  | saved => exact .reports rfl (by simp [Task.kind]) rfl rfl rfl

/-- The requests of the operation are those of the read-modify-write of the user document. -/
structure Appends (embed : AppendFamily.Task → Task) : Prop where
  loud : ∀ step, (embed step).isSilent = false
  announced : ∀ step, (embed step).isUnannounced = false
  unsaved : ∀ step, (embed step).kind ≠ .save
  together : ∀ step next, (embed next).kind = (embed step).kind
  reported : ∀ step answer, reports (embed step) answer = appendReports step answer
  abandoned : ∀ step answer, abandons (embed step) answer = appendAbandons step answer

theorem appends_create (familyId : String) :
    Appends fun step => .create (.append familyId step) where
  loud _ := rfl
  announced _ := rfl
  unsaved _ := by simp [Task.kind]
  together _ _ := rfl
  reported _ _ := rfl
  abandoned _ _ := rfl

theorem appends_join (familyId : String) :
    Appends fun step => .join (.append familyId step) where
  loud _ := rfl
  announced _ := rfl
  unsaved _ := by simp [Task.kind]
  together _ _ := rfl
  reported _ _ := rfl
  abandoned _ _ := rfl

/-- Creating and joining respond alike from there on. -/
theorem Appends.responded {embed : AppendFamily.Task → Task} (appends : Appends embed)
    {form : CanonicalForm} {texts : AppendFamily.Texts} {uid : Uid} {familyId : String}
    {step : AppendFamily.Task} {result : Outcome AppendFamily.Task}
    (resumed : AppendFamily.resume form texts store uid familyId step answer = some result) :
    Responded (embed step) answer (result.lift embed) := by
  have loud := appends.loud step
  have announced := appends.announced step
  rcases append_cases resumed with
    ⟨status, rfl, quiet, kept⟩ | ⟨next, rfl, quiet, kept, well⟩ | ⟨rfl, quiet, trapped⟩ |
      ⟨after, rfl, shown, kept, well⟩
  · exact .fails ⟨loud, (appends.reported _ _).trans quiet, (appends.abandoned _ _).trans kept⟩
  · refine .proceeds ⟨loud, (appends.reported _ _).trans quiet, (appends.abandoned _ _).trans kept⟩
      (appends.loud next) (appends.together _ _) (appends.announced next) (fun _ => well) ?_
    simp [announced, Outcome.issues]
  · exact .abandons loud ((appends.reported _ _).trans quiet)
      ((appends.abandoned _ _).trans trapped) traps_trap
  · exact .reports loud (appends.unsaved step) ((appends.reported _ _).trans shown)
      ((appends.abandoned _ _).trans kept) well

theorem create_responded {request : CreateFamily.Task}
    (responded : respond setting store (.create request) answer = some outcome) :
    Responded (.create request) answer outcome := by
  obtain ⟨result, resumed, rfl⟩ := Option.map_eq_some_iff.mp responded
  cases CreateFamily.resume_eq_some.mp resumed with
  | unsaved => exact .fails ⟨rfl, rfl, rfl⟩
  | saved _ => exact .forks rfl rfl
  | channelUnsaved | channelAdded _ => exact .silent rfl
  | @appended familyId _ _ _ ran =>
      rw [Outcome.lift_lift]
      exact (appends_create familyId).responded ran

theorem join_responded {request : JoinFamily.Task}
    (responded : respond setting store (.join request) answer = some outcome) :
    Responded (.join request) answer outcome := by
  obtain ⟨result, resumed, rfl⟩ := Option.map_eq_some_iff.mp responded
  cases JoinFamily.resume_eq_some.mp resumed with
  | unread => exact .abandons rfl rfl rfl traps_nil
  | listed _ => exact .proceeds ⟨rfl, rfl, rfl⟩ rfl rfl rfl (fun _ => rfl) rfl
  | unlisted _ => exact .fails ⟨rfl, rfl, rfl⟩
  | @appended familyId _ _ _ ran =>
      rw [Outcome.lift_lift]
      exact (appends_join familyId).responded ran

theorem save_responded {request : EditProfile.Task}
    (responded : respond setting store (.save request) answer = some outcome) :
    Responded (.save request) answer outcome := by
  obtain ⟨result, resumed, rfl⟩ := Option.map_eq_some_iff.mp responded
  cases EditProfile.resumed_of_resume resumed with
  | unwritten | written _ => exact .silent rfl
  | unuploaded | urlFailed | urlMissing => exact .abandons rfl rfl rfl traps_nil
  | uploaded => exact .proceeds ⟨rfl, rfl, rfl⟩ rfl rfl rfl (fun _ => rfl) rfl
  | urlReceived => exact .saved rfl rfl

theorem logIn_responded {request : LogIn.Task}
    (responded : respond setting store (.logIn request) answer = some outcome) :
    Responded (.logIn request) answer outcome := by
  obtain ⟨entry, resumed, rfl⟩ := Option.map_eq_some_iff.mp responded
  cases LogIn.resumed_of_resume resumed with
  | refused => exact .fails ⟨rfl, rfl, rfl⟩
  | signedIn => exact .proceeds ⟨rfl, rfl, rfl⟩ rfl rfl rfl (fun _ => rfl) rfl
  | unread => exact .abandons rfl rfl rfl traps_nil
  | found => exact .abandons rfl rfl rfl (LogIn.forEach_notices _)

theorem share_responded {request : Upload.Task}
    (responded : respond setting store (.share request) answer = some outcome) :
    Responded (.share request) answer outcome := by
  obtain ⟨result, resumed, rfl⟩ := Option.map_eq_some_iff.mp responded
  cases Upload.resumed_of_resume resumed with
  | unread | missing _ => exact .declines rfl traps_nil
  | trapped _ _ => exact .declines rfl traps_trap
  | read _ _ | uploaded | urlReceived | classified =>
      exact .proceeds ⟨rfl, rfl, rfl⟩ rfl rfl rfl (fun _ => rfl) rfl
  | unencoded | unclassified => exact .abandons rfl rfl rfl traps_nil
  | unuploaded | urlFailed | urlMissing | unsaved => exact .fails ⟨rfl, rfl, rfl⟩
  | saved _ => exact .reports rfl (by simp [Task.kind]) rfl rfl rfl

/-- Every callback does one of these things. -/
theorem respond_cases (resumed : respond setting store task answer = some outcome) :
    Responded task answer outcome := by
  cases task with
  | signUp request => exact signUp_responded resumed
  | create request => exact create_responded resumed
  | join request => exact join_responded resumed
  | save request => exact save_responded resumed
  | logIn request => exact logIn_responded resumed
  | share request => exact share_responded resumed

/-- What a step of the program can do: other clients leave another store, or a callback
runs. -/
theorem operation_step {config next : Config State Task} {label : Label Event Answer}
    (taken : (program setting).step config label = some next) :
    (next.pool.tasks = config.pool.tasks ∧ next.state.notices = config.state.notices ∧
        next.state.answered = config.state.answered ∧ ∃ event, label = .event event) ∨
      ∃ ticket answer task outcome, label = .answer ticket answer ∧
        config.pool.find? ticket = some task ∧ Responded task answer outcome ∧
        respond setting config.state.store task answer = some outcome ∧
        next.state = ⟨outcome.store, config.state.notices ++ outcome.notices,
          config.state.answered ++ [(task, answer)]⟩ ∧
        next.pool.tasks = (config.pool.remove ticket).tasks ++ outcome.next := by
  rcases Program.step_cases taken with
    ⟨⟨store⟩, new, rfl, handled, tasks⟩ | ⟨ticket, answer, task, new, rfl, found, resumed, tasks⟩
  · obtain ⟨state, rfl⟩ := Prod.mk.inj (Option.some.inj handled)
    rw [List.append_nil] at tasks
    exact Or.inl ⟨tasks, by rw [← state], by rw [← state], _, rfl⟩
  · obtain ⟨outcome, responded, same⟩ := Option.map_eq_some_iff.mp resumed
    obtain ⟨state, rfl⟩ := Prod.mk.inj same
    exact Or.inr ⟨ticket, answer, task, outcome, rfl, found, respond_cases responded, responded,
      state.symm, tasks⟩

end Inversion

end Familog.Operation
