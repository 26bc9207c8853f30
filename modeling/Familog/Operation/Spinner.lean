import Familog.Operation.Thread

/-!
Contract: no operation leaves the app behind a spinner.

Owns the property for every operation, over every order of the answers and whatever
other clients do to the store: once no callback is pending, the last call of the HUD
is not a spinner. Owns the exact condition for it, too. A log-in meets it only if
the sign-in fails: every other way out of it leaves the spinner of the tap. The
other operations have branches without a call of the HUD, a query or an upload that
fails, a missing encoding or classification.
-/

set_option autoImplicit false

namespace Familog.Operation

open Async Firestore Swift LogInPage MainPage

/-- If no callback is pending, the last call of the HUD is not a spinner. -/
def Unlocked (config : Config State Task) : Prop :=
  (∀ task ∈ config.pool.tasks, task.isSilent = true) → ¬ Spinning config.state.notices

/-- The answer does not end the operation without a call of the HUD. -/
def GoesOn (config : Config State Task) : Label Event Answer → Prop
  | .event _ => True
  | .answer ticket answer =>
      ∀ task, config.pool.find? ticket = some task → abandons task answer = false

/-- The tap does not trap: an image to upload has its encoding, and the id of a new family
is a document path. -/
def TapGoesOn : Tap → Prop
  | .createTapped familyNameText familyIdText =>
      trimmingCharacters familyNameText = "" ∨ (document? familyIdText).isSome = true
  | .saveBtn_TouchUpInside fields => fields.selectImage = false ∨ fields.encodes = true
  | _ => True

section Step

variable {setting : Setting} {kind : Kind} {config next : Config State Task} {task : Task}
  {answer : Answer} {outcome : Outcome Task} {notices : List Notice}

theorem abandons_of_silent (silent : task.isSilent = true) : abandons task answer = false := by
  cases task with
  | create request => cases request <;> simp_all [Task.isSilent, abandons]
  | save request => cases request <;> simp_all [Task.isSilent, abandons]
  | _ => simp [Task.isSilent] at silent

theorem abandons_of_unannounced (unannounced : task.isUnannounced = true) :
    abandons task answer = false := by
  cases task with
  | share request => cases request <;> simp_all [Task.isUnannounced, abandons]
  | _ => simp [Task.isUnannounced] at unannounced

/-- An ended loud callback leaves the HUD free exactly if it does not give up. -/
theorem unlocked_iff_of_ended (responded : Responded task answer outcome)
    (loud : task.isSilent = false)
    (hud : if task.isUnannounced then hudCalls notices = [] else Spinning notices)
    (ended : ∀ other ∈ outcome.next, other.isSilent = true) :
    ¬ Spinning (notices ++ outcome.notices) ↔ abandons task answer = false := by
  cases responded with
  | silent silent => simp [loud] at silent
  | proceeds _ pending _ _ _ _ =>
      have silent := ended _ (List.mem_singleton_self _)
      simp [pending] at silent
  | @forks _ _ familyId _ _ =>
      have silent := ended (.create (.append familyId .getDocument)) (by simp [Outcome.issues])
      simp [Task.isSilent] at silent
  | fails plain => exact iff_of_true (not_spinning_append (by simp) (by simp)) plain.kept
  | declines unannounced traps =>
      rw [if_pos unannounced] at hud
      refine iff_of_true ?_ (abandons_of_unannounced unannounced)
      rintro ⟨status, last⟩
      simp only [Outcome.ends, hudCalls_append_traps traps, hud] at last
      simp at last
  | abandons _ _ gaveUp traps =>
      have announced : task.isUnannounced = false := by
        by_contra unannounced
        rw [abandons_of_unannounced (Bool.not_eq_false _ ▸ unannounced)] at gaveUp
        simp at gaveUp
      rw [if_neg (by simp [announced])] at hud
      refine iff_of_false (fun free => free ?_) (by simp [gaveUp])
      obtain ⟨status, last⟩ := hud
      exact ⟨status, by simp only [Outcome.ends, hudCalls_append_traps traps, last]⟩
  | reports _ _ _ kept _ => exact iff_of_true (not_spinning_append (by simp) (by simp)) kept
  | @signedUp _ _ _ error status isSetData _ =>
      refine iff_of_true ?_ (by rw [isSetData]; rfl)
      have split : notices ++ [Notice.showError error, .showSuccess status] =
          (notices ++ [.showError error]) ++ [.showSuccess status] := by simp
      show ¬ Spinning (notices ++ [Notice.showError error, .showSuccess status])
      rw [split]
      exact not_spinning_append (by simp) (by simp)
  | saved isDownload url =>
      exact iff_of_true (not_spinning_append (by simp) (by simp)) (by rw [isDownload, url]; rfl)

/-- A step leaves the HUD free exactly if it meets the condition. -/
theorem unlocked_step_iff {label : Label Event Answer}
    (holds : (thread setting kind).Holds config) (unlocked : Unlocked config)
    (taken : (program setting).step config label = some next) :
    Unlocked next ↔ GoesOn config label := by
  rcases operation_step taken with
    ⟨tasks, notices, _, event, rfl⟩ |
      ⟨ticket, answer, task, outcome, rfl, found, responded, _, state, tasks⟩
  · refine iff_of_true ?_ trivial
    unfold Unlocked
    rw [tasks, notices]
    exact unlocked
  · have condition : GoesOn config (.answer ticket answer) ↔ abandons task answer = false :=
      ⟨fun all => all task found, fun goesOn other isFound => by
        rw [← Option.some.inj (found.symm.trans isFound)]
        exact goesOn⟩
    have perm := Pool.tasks_perm_of_find? found
    have shown : next.state.notices = config.state.notices ++ outcome.notices := by rw [state]
    rw [condition]
    unfold Unlocked
    rw [tasks, shown]
    cases silent : task.isSilent with
    | true =>
        refine iff_of_true (fun quiet => ?_) (abandons_of_silent silent)
        rw [(next_of_silent responded silent).2, List.append_nil]
        apply unlocked
        intro other member
        rcases List.mem_cons.mp (perm.mem_iff.mp member) with rfl | remaining
        · exact silent
        · exact quiet other (List.mem_append_left _ remaining)
    | false =>
        have waiting := (holds.need task (Pool.mem_tasks_of_find? found)).2 silent
        have apart := (perm.pairwise_iff (thread setting kind).symmetric).mp holds.apart
        have silents : ∀ other ∈ (config.pool.remove ticket).tasks, other.isSilent = true := by
          intro other member
          exact ((List.pairwise_cons.mp apart).1 other member).resolve_left (by simp [silent])
        by_cases ended : ∀ other ∈ outcome.next, other.isSilent = true
        · rw [← unlocked_iff_of_ended responded silent waiting.hud ended]
          refine ⟨fun free => free fun other member => ?_, fun free _ => free⟩
          exact (List.mem_append.mp member).elim (silents other) (ended other)
        · refine iff_of_true (fun quiet => absurd (fun other member =>
            quiet other (List.mem_append_right _ member)) ended) ?_
          cases responded with
          | proceeds plain _ _ _ _ _ => exact plain.kept
          | forks isSetData _ =>
              rw [isSetData]
              rfl
          | saved isDownload url =>
              rw [isDownload, url]
              rfl
          | _ => exact absurd (by simp [Outcome.ends]) ended

/-- Right after the tap the HUD is free exactly if the tap goes on. -/
theorem unlocked_begun_iff (setting : Setting) (store : Store) (tap : Tap) :
    Unlocked (begun setting store tap) ↔ TapGoesOn tap := by
  have tasks : (begun setting store tap).pool.tasks = (tapped setting tap).1 := by
    rw [begun, Pool.tasks_issueAll, Pool.tasks_empty, List.nil_append]
  unfold Unlocked
  rw [tasks]
  show (_ → ¬ Spinning (tapped setting tap).2) ↔ _
  cases tap with
  | signUpTapped fields =>
      refine iff_of_true ?_ trivial
      simp only [tapped, SignUp.signUpTapped]
      split <;> simp [Spinning, hudCalls, Task.isSilent]
  | createTapped familyNameText familyIdText =>
      simp only [tapped, CreateFamily.createTapped, TapGoesOn]
      split
      · next empty => simp [empty, Spinning, hudCalls]
      · next filled =>
          split
          · next invalid => simp [filled, invalid, Spinning, hudCalls]
          · next valid => simp [valid, Task.isSilent]
  | joinTapped familyIdText =>
      refine iff_of_true ?_ trivial
      simp only [tapped, JoinFamily.joinTapped]
      split <;> simp [Spinning, hudCalls, Task.isSilent]
  | saveBtn_TouchUpInside fields =>
      simp only [tapped, EditProfile.saveBtn_TouchUpInside, EditProfile.uploadAvatar, TapGoesOn]
      cases fields.selectImage with
      | true =>
          cases fields.encodes with
          | true => simp [Task.isSilent]
          | false => simp [Spinning, hudCalls, Task.isSilent]
      | false => simp [Spinning, hudCalls]
  | logInTapped emailText passwordText =>
      refine iff_of_true ?_ trivial
      simp [tapped, LogIn.logInTapped, Task.isSilent]
  | shareTapped picked descriptionText =>
      refine iff_of_true ?_ trivial
      simp only [tapped, Upload.shareTapped]
      split
      · simp [Spinning, hudCalls]
      · split <;> simp [Spinning, hudCalls, Task.isSilent]

/-- In every run of every operation the HUD is free whenever no callback is pending,
exactly if the tap and every answer go on. -/
theorem spinner_ends_iff (setting : Setting) (store : Store) (tap : Tap)
    {labels : List (Label Event Answer)} {last : Config State Task}
    (ran : (program setting).run (begun setting store tap) labels = some last) :
    (program setting).Always Unlocked (begun setting store tap) labels ↔
      TapGoesOn tap ∧ (program setting).Obeys GoesOn (begun setting store tap) labels := by
  refine Program.always_iff_start_obeys (unlocked_begun_iff setting store tap) ?_
    (obeys_thread setting store tap labels) ran
  intro config label next unlocked along taken
  exact unlocked_step_iff along.2 unlocked taken

end Step

/-! ## Sample runs -/

/-- A log-in whose sign-in fails ends with the error. -/
theorem spinner_ends_iff_failedSignIn :
    (program asciiSetting).Always Unlocked
      (begun asciiSetting Store.empty (.logInTapped "a@host" "wrong")) [.answer 0 .failed] := by
  have ran : ∃ last, (program asciiSetting).run
      (begun asciiSetting Store.empty (.logInTapped "a@host" "wrong")) [.answer 0 .failed] =
        some last ∧ last.pool.tasks.length = 0 :=
    Program.exists_run (by decide)
  obtain ⟨last, ran, _⟩ := ran
  refine (spinner_ends_iff asciiSetting Store.empty (.logInTapped "a@host" "wrong") ran).mpr
    ⟨trivial, fun task found => ?_, fun _ _ => trivial⟩
  rw [← Option.some.inj found]
  rfl

/-- A join whose query fails stays behind its spinner. -/
theorem join_locked_by_failed_query :
    ∃ last, (program asciiSetting).run
        (begun asciiSetting Store.empty (.joinTapped "abc")) [.answer 0 .failed] = some last ∧
      last.state.notices = [.showing "Waiting..."] ∧ ¬ Unlocked last := by
  have computed : ∃ last, (program asciiSetting).run
      (begun asciiSetting Store.empty (.joinTapped "abc")) [.answer 0 .failed] = some last ∧
      (last.state.notices = [.showing "Waiting..."] ∧
        ∀ task ∈ last.pool.tasks, task.isSilent = true) :=
    Program.exists_run (by decide)
  obtain ⟨last, ran, shown, quiet⟩ := computed
  refine ⟨last, ran, shown, fun unlocked => unlocked quiet ?_⟩
  rw [shown]
  exact ⟨_, rfl⟩

end Familog.Operation
