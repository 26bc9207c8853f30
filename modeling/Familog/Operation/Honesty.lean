import Familog.Operation.Thread

/-!
Contract: a success is shown only for writes that have been acknowledged.

Owns the property for every operation, over every order of the answers and whatever
other clients do to the store, and the exact condition for it. Sign-up shows success
whether or not its write has failed. The creation of a family does not look at the
write of the channel. Saving the profile looks at none of its writes. Joining and
sharing are honest in every run.
-/

set_option autoImplicit false

namespace Familog.Operation

open Async Firestore Swift LogInPage MainPage

/-- The request is the write of the channel. -/
def Task.isAddDocument : Task → Bool
  | .create (.addDocument _ _) => true
  | _ => false

/-- If a success has been shown, every write that was issued has been acknowledged
without an error. -/
def Honest (config : Config State Task) : Prop :=
  Reported config.state.notices →
    (∀ task ∈ config.pool.tasks, task.isWrite = false) ∧
      ∀ entry ∈ config.state.answered, entry.1.isWrite = true → isFailed entry.2 = false

/-- The write of the channel has not failed and is not pending. -/
def ChannelWritten (config : Config State Task) : Prop :=
  (∀ task ∈ config.pool.tasks, task.isAddDocument = false) ∧
    ∀ entry ∈ config.state.answered, entry.1.isAddDocument = true → isFailed entry.2 = false

/-- The answer may end in a success: it is not the error of the write of `signUpTapped`,
nor the URL of an avatar, which is yet to be written; and when it acknowledges the
user document of `createTapped`, the channel has been written. -/
def MayReport (config : Config State Task) : Task → Answer → Prop
  | .signUp (.setData _ _), .failed => False
  | .save .downloadURL, .assigned _ => False
  | .create (.append _ (.updateData _ _)), .succeeded => ChannelWritten config
  | _, _ => True

/-- The condition on a step. -/
def ReportsDone (config : Config State Task) : Label Event Answer → Prop
  | .event _ => True
  | .answer ticket answer =>
      ∀ task, config.pool.find? ticket = some task → MayReport config task answer

/-- The condition on the tap: without an image to upload, no field is written. -/
def TapWritesNothing (count : String → ℕ) : Tap → Prop
  | .saveBtn_TouchUpInside fields =>
      fields.selectImage = true ∨ EditProfile.writes count fields = []
  | _ => True

section Step

variable {setting : Setting} {kind : Kind} {config next : Config State Task} {task : Task}
  {answer : Answer} {outcome : Outcome Task}

theorem isWrite_of_silent (silent : task.isSilent = true) : task.isWrite = true := by
  cases task with
  | create request => cases request <;> simp_all [Task.isSilent, Task.isWrite]
  | save request => cases request <;> simp_all [Task.isSilent, Task.isWrite]
  | _ => simp [Task.isSilent] at silent

/-- Only the creation of a family and the profile have silent requests. -/
theorem isAddDocument_of_silent (silent : task.isSilent = true) (unsaved : task.kind ≠ .save) :
    task.isAddDocument = true := by
  cases task with
  | create request => cases request <;> simp_all [Task.isSilent, Task.isAddDocument]
  | save request => simp [Task.kind] at unsaved
  | _ => simp [Task.isSilent] at silent

/-- The write of the channel is one that nobody looks at. -/
theorem silent_of_isAddDocument (isAddDocument : task.isAddDocument = true) :
    task.isSilent = true := by
  cases task with
  | create request => cases request <;> simp_all [Task.isAddDocument, Task.isSilent]
  | _ => simp [Task.isAddDocument] at isAddDocument

/-- An answer that shows no success may come at any time. -/
theorem mayReport_of_quiet (quiet : reports task answer = false) :
    MayReport config task answer := by
  unfold MayReport
  split
  · simp [reports] at quiet
  · simp [reports] at quiet
  · simp [reports, appendReports] at quiet
  · trivial

theorem reports_of_silent (silent : task.isSilent = true) : reports task answer = false := by
  cases task with
  | create request => cases request <;> simp_all [Task.isSilent, reports]
  | save request => cases request <;> simp_all [Task.isSilent, reports]
  | _ => simp [Task.isSilent] at silent

/-- Whether a callback shows success. -/
theorem reported_notices (responded : Responded task answer outcome) :
    Reported outcome.notices ↔ reports task answer = true := by
  cases responded with
  | silent silent =>
      refine iff_of_false (by simp [Reported, Outcome.ends]) ?_
      simp [reports_of_silent silent]
  | @proceeds after next notices plain _ _ _ _ isNotices =>
      refine iff_of_false ?_ (by simp [plain.quiet])
      rintro ⟨status, shown⟩
      simp only [isNotices] at shown
      split at shown
      · simp at shown
      · simp at shown
  | forks isSetData _ =>
      exact iff_of_false (by simp [Reported, Outcome.issues]) (by simp [isSetData, reports])
  | fails plain => exact iff_of_false (by simp [Reported, Outcome.ends]) (by simp [plain.quiet])
  | declines unannounced traps =>
      refine iff_of_false (not_reported_traps traps) ?_
      cases task with
      | share request => cases request <;> simp_all [Task.isUnannounced, reports]
      | _ => simp [Task.isUnannounced] at unannounced
  | abandons _ quiet _ traps => exact iff_of_false (not_reported_traps traps) (by simp [quiet])
  | reports _ _ shown _ _ => exact iff_of_true ⟨_, List.mem_singleton_self _⟩ shown
  | signedUp isSetData _ =>
      exact iff_of_true ⟨_, by simp [Outcome.ends]; rfl⟩ (by rw [isSetData]; rfl)
  | saved isDownload url =>
      exact iff_of_true ⟨_, List.mem_singleton_self _⟩ (by rw [isDownload, url]; rfl)

/-- Only the creation of a family writes a channel. -/
theorem channelWritten_of_kind (holds : (thread setting kind).Holds config)
    (other : kind ≠ .create) : ChannelWritten config := by
  have none : ∀ task : Task, task.kind = kind → task.isAddDocument = false := by
    intro task isKind
    cases task with
    | create request => exact absurd isKind.symm other
    | _ => rfl
  exact ⟨fun task pending => none task (holds.need task pending).1,
    fun entry answered isAddDocument => absurd isAddDocument
      (by simp [none entry.1 (holds.inv entry answered)])⟩

/-- The condition where no request has failed: the creation of a family needs its channel
written. -/
theorem mayReport_iff (unsaved : task.kind ≠ .save) (unfailed : isFailed answer = false)
    (shown : reports task answer = true) :
    MayReport config task answer ↔ (task.kind = .create → ChannelWritten config) := by
  cases task with
  | signUp request =>
      refine iff_of_true ?_ (by simp [Task.kind])
      unfold MayReport
      split
      · simp [isFailed] at unfailed
      · simp_all
      · simp_all
      · trivial
  | create request =>
      cases request with
      | append familyId step =>
          cases step with
          | updateData families newFamilies =>
              cases answer <;> simp_all [reports, appendReports, MayReport, Task.kind]
          | _ => simp [reports, appendReports] at shown
      | _ => simp [reports] at shown
  | save request => simp [Task.kind] at unsaved
  | _ => exact iff_of_true trivial (by simp [Task.kind])

/-- Where a success has been shown honestly, the channel has been written. -/
theorem channelWritten_of_honest {ticket : ℕ} (found : config.pool.find? ticket = some task)
    (loud : task.isSilent = false) (reported : Reported next.state.notices)
    (answered : next.state.answered = config.state.answered ++ [(task, answer)])
    (tasks : next.pool.tasks = (config.pool.remove ticket).tasks) (honest : Honest next) :
    ChannelWritten config := by
  have writes : ∀ other : Task, other.isAddDocument = true → other.isWrite = true :=
    fun other isAddDocument => isWrite_of_silent (silent_of_isAddDocument isAddDocument)
  obtain ⟨pending, done⟩ := honest reported
  refine ⟨fun other member => ?_, fun entry member isAddDocument => ?_⟩
  · by_contra isAddDocument
    rw [Bool.not_eq_false] at isAddDocument
    rcases List.mem_cons.mp ((Pool.tasks_perm_of_find? found).mem_iff.mp member) with
      rfl | remaining
    · simp [silent_of_isAddDocument isAddDocument] at loud
    · have unwritten := pending other (by rw [tasks]; exact remaining)
      simp [writes other isAddDocument] at unwritten
  · exact done entry (by rw [answered]; exact List.mem_append_left _ member)
      (writes entry.1 isAddDocument)

/-- Where the channel has been written, a callback that looks at its answer shows success
honestly: whatever else waits or has failed is the write of a channel. -/
theorem honest_of_channelWritten {ticket : ℕ} (holds : (thread setting kind).Holds config)
    (found : config.pool.find? ticket = some task) (loud : task.isSilent = false)
    (unsaved : kind ≠ .save) (unfailed : isFailed answer = false)
    (answered : next.state.answered = config.state.answered ++ [(task, answer)])
    (tasks : next.pool.tasks = (config.pool.remove ticket).tasks)
    (written : ChannelWritten config) : Honest next := by
  have waiting := (holds.need task (Pool.mem_tasks_of_find? found)).2 loud
  have silents : ∀ other ∈ (config.pool.remove ticket).tasks, other.isSilent = true := by
    have apart := ((Pool.tasks_perm_of_find? found).pairwise_iff
      (thread setting kind).symmetric).mp holds.apart
    intro other member
    exact ((List.pairwise_cons.mp apart).1 other member).resolve_left (by simp [loud])
  have addDocuments : ∀ other : Task, other.kind = kind → other.isSilent = true →
      other.isAddDocument = true := by
    intro other isKind silent
    exact isAddDocument_of_silent silent (isKind ▸ unsaved)
  obtain ⟨pending, done⟩ := written
  refine fun _ => ⟨fun other member => ?_, fun entry member write => ?_⟩
  · rw [tasks] at member
    have before := Pool.mem_tasks_of_mem_remove member
    have isAddDocument := addDocuments other (holds.need other before).1 (silents other member)
    simp [pending other before] at isAddDocument
  · rw [answered] at member
    rcases List.mem_append.mp member with old | new
    · by_contra failed
      rw [Bool.not_eq_false] at failed
      have silent := waiting.failures entry old write failed
      have isAddDocument := addDocuments entry.1 (holds.inv entry old) silent
      simp [done entry old isAddDocument] at failed
    · rw [List.mem_singleton.mp new]
      exact unfailed

/-- Before the answer of a request that may show success, an honest operation has shown
none. -/
theorem unreported_of_honest {ticket : ℕ} (holds : (thread setting kind).Holds config)
    (honest : Honest config) (found : config.pool.find? ticket = some task) :
    ¬ Reported config.state.notices := by
  have member := Pool.mem_tasks_of_find? found
  cases silent : task.isSilent with
  | false => exact ((holds.need task member).2 silent).unreported
  | true =>
      intro reported
      have unwritten := (honest reported).1 task member
      simp [isWrite_of_silent silent] at unwritten

/-- A callback that shows success leaves an honest operation behind exactly if its answer
meets the condition. -/
theorem honest_reported_iff {ticket : ℕ} (holds : (thread setting kind).Holds config)
    (found : config.pool.find? ticket = some task)
    (responded : Responded task answer outcome) (shown : reports task answer = true)
    (reported : Reported next.state.notices)
    (answered : next.state.answered = config.state.answered ++ [(task, answer)])
    (tasks : next.pool.tasks = (config.pool.remove ticket).tasks ++ outcome.next) :
    Honest next ↔ MayReport config task answer := by
  cases responded with
  | silent silent => simp [reports_of_silent silent] at shown
  | proceeds plain _ _ _ _ _ => simp [plain.quiet] at shown
  | forks isSetData _ => simp [isSetData, reports] at shown
  | fails plain => simp [plain.quiet] at shown
  | declines unannounced _ =>
      cases task with
      | share request => cases request <;> simp_all [Task.isUnannounced, reports]
      | _ => simp [Task.isUnannounced] at unannounced
  | abandons _ quiet _ _ => simp [quiet] at shown
  | reports loud unsaved _ _ unfailed =>
      rw [Outcome.ends, List.append_nil] at tasks
      have isKind := (holds.need task (Pool.mem_tasks_of_find? found)).1
      rw [mayReport_iff unsaved unfailed shown, isKind]
      constructor
      · intro honest _
        exact channelWritten_of_honest found loud reported answered tasks honest
      · intro written
        refine honest_of_channelWritten holds found loud (isKind ▸ unsaved) unfailed answered
          tasks ?_
        by_cases create : kind = .create
        · exact written create
        · exact channelWritten_of_kind holds create
  | signedUp isSetData failed =>
      -- the write that has failed is the one whose answer shows success
      refine iff_of_false (fun isHonest => ?_) (by rw [isSetData, failed]; exact id)
      have done := (isHonest reported).2 (task, answer)
        (by rw [answered]; exact List.mem_append_right _ (List.mem_singleton_self _))
        (by rw [isSetData]; rfl)
      simp [failed, isFailed] at done
  | saved isDownload url =>
      -- the write of the avatar is issued together with the success
      refine iff_of_false (fun isHonest => ?_) (by rw [isDownload, url]; exact id)
      have pending := (isHonest reported).1 _
        (by rw [tasks]; exact List.mem_append_right _ (List.mem_singleton_self _))
      simp [Task.isWrite] at pending

/-- A step keeps an operation honest exactly if it meets the condition. -/
theorem honest_step_iff {label : Label Event Answer} (holds : (thread setting kind).Holds config)
    (honest : Honest config) (taken : (program setting).step config label = some next) :
    Honest next ↔ ReportsDone config label := by
  rcases operation_step taken with
    ⟨tasks, notices, answered, event, rfl⟩ |
      ⟨ticket, answer, task, outcome, rfl, found, responded, _, state, tasks⟩
  · refine iff_of_true ?_ trivial
    unfold Honest
    rw [tasks, notices, answered]
    exact honest
  · have condition : ReportsDone config (.answer ticket answer) ↔ MayReport config task answer :=
      ⟨fun all => all task found, fun may other isFound => by
        rw [← Option.some.inj (found.symm.trans isFound)]
        exact may⟩
    have reported : Reported next.state.notices ↔ reports task answer = true := by
      rw [state, ← reported_notices responded]
      show Reported (config.state.notices ++ outcome.notices) ↔ _
      rw [reported_append, or_iff_right (unreported_of_honest holds honest found)]
    rw [condition]
    cases shown : reports task answer with
    | false =>
        refine iff_of_true (fun isReported => ?_) (mayReport_of_quiet shown)
        simp [shown] at reported
        exact absurd isReported reported
    | true =>
        exact honest_reported_iff holds found responded shown (reported.mpr shown) (by rw [state])
          tasks

/-- Without an image to upload, saving shows success at once, honestly exactly if it writes
nothing. -/
theorem honest_saveBtn_iff (setting : Setting) (store : Store) {fields : EditProfile.Form}
    (image : fields.selectImage = false) :
    Honest (begun setting store (.saveBtn_TouchUpInside fields)) ↔
      EditProfile.writes setting.count fields = [] := by
  have tasks : (begun setting store (.saveBtn_TouchUpInside fields)).pool.tasks =
      (tapped setting (.saveBtn_TouchUpInside fields)).1 := by
    rw [begun, Pool.tasks_issueAll, Pool.tasks_empty, List.nil_append]
  have reported : Reported (tapped setting (.saveBtn_TouchUpInside fields)).2 :=
    ⟨"Update Successfully", by simp [tapped, EditProfile.saveBtn_TouchUpInside, image]⟩
  simp only [tapped, EditProfile.saveBtn_TouchUpInside, image, Bool.false_eq_true,
    if_false, Prod.map_fst, List.map_map] at tasks
  constructor
  · intro honest
    by_contra written
    obtain ⟨entry, member⟩ := List.exists_mem_of_ne_nil _ written
    have unwritten := (honest reported).1 (.save (.updateData entry.1 entry.2)) (by
      rw [tasks]
      exact List.mem_map_of_mem member)
    simp [Task.isWrite] at unwritten
  · intro nothing _
    rw [nothing] at tasks
    exact ⟨by simp [tasks], by simp [begun]⟩

/-- Right after the tap an operation is honest exactly if the tap is. -/
theorem honest_begun_iff (setting : Setting) (store : Store) (tap : Tap) :
    Honest (begun setting store tap) ↔ TapWritesNothing setting.count tap := by
  have quiet : ∀ tap, ¬ Reported (tapped setting tap).2 → Honest (begun setting store tap) :=
    fun _ unreported reported => absurd reported unreported
  cases tap with
  | signUpTapped fields =>
      refine iff_of_true (quiet _ ?_) trivial
      simp only [tapped, SignUp.signUpTapped]
      split <;> simp [Reported]
  | createTapped familyNameText familyIdText =>
      refine iff_of_true (quiet _ ?_) trivial
      simp only [tapped, CreateFamily.createTapped]
      split
      · simp [Reported]
      · split <;> simp [Reported]
  | joinTapped familyIdText =>
      refine iff_of_true (quiet _ ?_) trivial
      simp only [tapped, JoinFamily.joinTapped]
      split <;> simp [Reported]
  | saveBtn_TouchUpInside fields =>
      cases image : fields.selectImage with
      | true =>
          refine iff_of_true (quiet _ ?_) (Or.inl image)
          simp only [tapped, EditProfile.saveBtn_TouchUpInside, EditProfile.uploadAvatar, image,
            if_true]
          split <;> simp [Reported]
      | false =>
          rw [honest_saveBtn_iff setting store image]
          simp [TapWritesNothing, image]
  | logInTapped emailText passwordText =>
      refine iff_of_true (quiet _ ?_) trivial
      simp [tapped, LogIn.logInTapped, Reported]
  | shareTapped picked descriptionText =>
      refine iff_of_true (quiet _ ?_) trivial
      simp only [tapped, Upload.shareTapped]
      split
      · simp [Reported]
      · split <;> simp [Reported]

/-- In every run of every operation, a success is shown only for acknowledged writes,
exactly if the tap and every answer meet the condition. -/
theorem success_honest_iff (setting : Setting) (store : Store) (tap : Tap)
    {labels : List (Label Event Answer)} {last : Config State Task}
    (ran : (program setting).run (begun setting store tap) labels = some last) :
    (program setting).Always Honest (begun setting store tap) labels ↔
      TapWritesNothing setting.count tap ∧
        (program setting).Obeys ReportsDone (begun setting store tap) labels := by
  refine Program.always_iff_start_obeys (honest_begun_iff setting store tap) ?_
    (obeys_thread setting store tap labels) ran
  intro config label next honest along taken
  exact honest_step_iff along.2 honest taken

end Step

/-! ## Sample runs -/

/-- A join whose query fails is honest. -/
theorem success_honest_iff_failedJoin :
    (program asciiSetting).Always Honest (begun asciiSetting Store.empty (.joinTapped "abc"))
      [.answer 0 .failed] := by
  have ran : ∃ last, (program asciiSetting).run
      (begun asciiSetting Store.empty (.joinTapped "abc")) [.answer 0 .failed] = some last ∧
      last.pool.tasks.length = 0 :=
    Program.exists_run (by decide)
  obtain ⟨last, ran, _⟩ := ran
  refine (success_honest_iff asciiSetting Store.empty (.joinTapped "abc") ran).mpr
    ⟨trivial, fun task found => ?_, fun _ _ => trivial⟩
  rw [← Option.some.inj found]
  exact trivial

/-- Sign-up reports success although its write has failed. -/
theorem signUp_reports_failed_write :
    ∃ last, (program asciiSetting).run
        (begun asciiSetting Store.empty
          (.signUpTapped ⟨"userA", "a@host", "Abcdefg1", "Abcdefg1"⟩))
        [.answer 0 (.created ⟨"uidA", by decide, by decide⟩), .answer 1 .failed] = some last ∧
      .showSuccess "Sign Up Successfully" ∈ last.state.notices ∧ ¬ Honest last := by
  have computed : ∃ last, (program asciiSetting).run
      (begun asciiSetting Store.empty
        (.signUpTapped ⟨"userA", "a@host", "Abcdefg1", "Abcdefg1"⟩))
      [.answer 0 (.created ⟨"uidA", by decide, by decide⟩), .answer 1 .failed] = some last ∧
      (.showSuccess "Sign Up Successfully" ∈ last.state.notices ∧
        ∃ entry ∈ last.state.answered, entry.1.isWrite = true ∧ isFailed entry.2 = true) :=
    Program.exists_run (by decide)
  obtain ⟨last, ran, shown, entry, answered, write, failed⟩ := computed
  refine ⟨last, ran, shown, fun honest => ?_⟩
  have acknowledged := (honest ⟨_, shown⟩).2 entry answered write
  simp [failed] at acknowledged

end Familog.Operation
