import Familog.Operation.Response

/-!
Contract: the thread of loud callbacks of an operation.

Owns the invariant that every operation keeps: at most one loud request is pending,
and while it is, no success has been shown, no loud write has failed, and the HUD
shows a spinner, unless it has not been called at all. Everything that is pending or
has been answered belongs to the operation.
-/

set_option autoImplicit false

namespace Familog.Operation

open Async Firestore Swift LogInPage MainPage

/-! ## The HUD -/

section Hud

/-- The calls of the HUD; a trap is none. -/
def hudCalls (notices : List Notice) : List Notice :=
  notices.filter fun notice => decide (notice ≠ .trap)

/-- The last call of the HUD is a spinner. -/
def Spinning (notices : List Notice) : Prop :=
  ∃ status, (hudCalls notices).getLast? = some (.showing status)

/-- A success has been shown. -/
def Reported (notices : List Notice) : Prop := ∃ status, Notice.showSuccess status ∈ notices

variable {notices new : List Notice} {status : String}

theorem hudCalls_append : hudCalls (notices ++ new) = hudCalls notices ++ hudCalls new :=
  List.filter_append _ _

/-- A trap is no call. -/
theorem hudCalls_append_traps (traps : ∀ notice ∈ new, notice = .trap) :
    hudCalls (notices ++ new) = hudCalls notices := by
  have none : hudCalls new = [] := by
    rw [hudCalls, List.filter_eq_nil_iff]
    intro notice member
    simp [traps notice member]
  rw [hudCalls_append, none, List.append_nil]

theorem reported_append : Reported (notices ++ new) ↔ Reported notices ∨ Reported new := by
  simp only [Reported, List.mem_append, exists_or]

theorem not_reported_traps (traps : ∀ notice ∈ new, notice = .trap) : ¬ Reported new := by
  rintro ⟨status, member⟩
  simpa using traps _ member

theorem spinning_showing : Spinning (notices ++ [.showing status]) := by
  refine ⟨status, ?_⟩
  rw [hudCalls_append]
  simp [hudCalls]

/-- Any other call ends the spinner. -/
theorem not_spinning_append {notice : Notice} (call : notice ≠ .trap)
    (other : ∀ status, notice ≠ .showing status) : ¬ Spinning (notices ++ [notice]) := by
  rintro ⟨status, last⟩
  rw [hudCalls_append] at last
  simp [hudCalls, call] at last
  exact other status last

end Hud

/-! ## What holds while a loud request is pending -/

/-- The assertion of a pending loud request. -/
structure Waiting (state : State) (task : Task) : Prop where
  unreported : ¬ Reported state.notices
  failures : ∀ entry ∈ state.answered, entry.1.isWrite = true → isFailed entry.2 = true →
    entry.1.isSilent = true
  hud : if task.isUnannounced then hudCalls state.notices = [] else Spinning state.notices

/-- One of the two requests is silent. -/
def Apart (left right : Task) : Prop := left.isSilent = true ∨ right.isSilent = true

section Callback

variable {task other : Task} {answer : Answer} {outcome : Outcome Task} {state : State}

/-- The state after a callback. -/
def State.after (state : State) (task : Task) (answer : Answer) (outcome : Outcome Task) :
    State :=
  ⟨outcome.store, state.notices ++ outcome.notices, state.answered ++ [(task, answer)]⟩

theorem next_kind (responded : Responded task answer outcome) (member : other ∈ outcome.next) :
    other.kind = task.kind := by
  cases responded with
  | proceeds _ _ kind _ _ _ =>
      rw [List.mem_singleton.mp member]
      exact kind
  | forks isSetData _ =>
      simp only [Outcome.issues, List.mem_cons, List.not_mem_nil, or_false] at member
      rw [isSetData]
      rcases member with rfl | rfl
      · rfl
      · rfl
  | saved isDownload _ =>
      rw [List.mem_singleton.mp member, isDownload]
      rfl
  | _ => simp [Outcome.ends] at member

theorem next_apart (responded : Responded task answer outcome) :
    outcome.next.Pairwise Apart := by
  cases responded with
  | forks _ _ =>
      exact List.pairwise_cons.mpr ⟨fun _ _ => Or.inl rfl, List.pairwise_singleton _ _⟩
  | proceeds _ _ _ _ _ _ => exact List.pairwise_singleton _ _
  | saved _ _ => exact List.pairwise_singleton _ _
  | _ => exact List.Pairwise.nil

/-- A silent request goes on with nothing. -/
theorem next_of_silent (responded : Responded task answer outcome)
    (silent : task.isSilent = true) : outcome.next = [] ∧ outcome.notices = [] := by
  cases responded with
  | silent _ => exact ⟨rfl, rfl⟩
  | proceeds plain _ _ _ _ _ => simp [plain.loud] at silent
  | forks isSetData _ => simp [isSetData, Task.isSilent] at silent
  | fails plain => simp [plain.loud] at silent
  | declines unannounced _ =>
      cases task with
      | share request => simp [Task.isSilent] at silent
      | _ => simp [Task.isUnannounced] at unannounced
  | abandons loud _ _ _ => simp [loud] at silent
  | reports loud _ _ _ _ => simp [loud] at silent
  | signedUp isSetData _ => simp [isSetData, Task.isSilent] at silent
  | saved isDownload _ => simp [isDownload, Task.isSilent] at silent

/-- A loud request that a callback issues finds everything as it should be. -/
theorem waiting_next (responded : Responded task answer outcome)
    (waiting : task.isSilent = false → Waiting state task) (member : other ∈ outcome.next)
    (loud : other.isSilent = false) : Waiting (state.after task answer outcome) other := by
  cases responded with
  | @proceeds after next notices plain _ _ announced unfailed isNotices =>
      have before := waiting plain.loud
      have unreported : ¬ Reported notices := by
        rw [isNotices]
        rintro ⟨status, shown⟩
        split at shown
        · simp at shown
        · simp at shown
      rw [List.mem_singleton.mp member]
      refine ⟨fun reported => ?_, fun entry answered write failed => ?_, ?_⟩
      · exact (reported_append.mp reported).elim before.unreported unreported
      · rcases List.mem_append.mp answered with old | new
        · exact before.failures entry old write failed
        · rw [List.mem_singleton.mp new] at write failed
          exact absurd failed (by simp [unfailed write])
      · rw [if_neg (by simp [announced])]
        show Spinning (state.notices ++ notices)
        have hud := before.hud
        cases unannounced : task.isUnannounced with
        | true =>
            rw [isNotices, if_pos unannounced]
            exact spinning_showing
        | false =>
            rw [if_neg (by simp [unannounced])] at hud
            rw [isNotices, if_neg (by simp [unannounced]), List.append_nil]
            exact hud
  | forks isSetData succeeded =>
      have before := waiting (by rw [isSetData]; rfl)
      have unannounced : task.isUnannounced = false := by rw [isSetData]; rfl
      have hud := before.hud
      rw [if_neg (by simp [unannounced])] at hud
      simp only [Outcome.issues, List.mem_cons, List.not_mem_nil, or_false] at member
      rcases member with rfl | rfl
      · simp [Task.isSilent] at loud
      · refine ⟨fun reported => ?_, fun entry answered write failed => ?_, ?_⟩
        · rcases reported_append.mp reported with old | ⟨status, new⟩
          · exact before.unreported old
          · simp [Outcome.issues] at new
        · rcases List.mem_append.mp answered with old | new
          · exact before.failures entry old write failed
          · rw [List.mem_singleton.mp new, succeeded] at failed
            simp [isFailed] at failed
        · show Spinning (state.notices ++ [])
          rw [List.append_nil]
          exact hud
  | saved _ _ =>
      rw [List.mem_singleton.mp member] at loud
      simp [Task.isSilent] at loud
  | _ => simp [Outcome.ends] at member

/-- A silent acknowledgement leaves a waiting request alone. -/
theorem waiting_beside (responded : Responded task answer outcome)
    (silent : task.isSilent = true) (waiting : Waiting state other) :
    Waiting (state.after task answer outcome) other := by
  have same : state.notices ++ outcome.notices = state.notices := by
    rw [(next_of_silent responded silent).2, List.append_nil]
  refine ⟨?_, fun entry answered write failed => ?_, ?_⟩
  · show ¬ Reported (state.notices ++ outcome.notices)
    rw [same]
    exact waiting.unreported
  · rcases List.mem_append.mp answered with old | new
    · exact waiting.failures entry old write failed
    · rw [List.mem_singleton.mp new]
      exact silent
  · show if other.isUnannounced then hudCalls (state.notices ++ outcome.notices) = []
      else Spinning (state.notices ++ outcome.notices)
    rw [same]
    exact waiting.hud

end Callback

/-- The thread of an operation. -/
def thread (setting : Setting) (kind : Kind) : Outline (program setting) fun _ _ => True where
  inv state := ∀ entry ∈ state.answered, entry.1.kind = kind
  need state task := task.kind = kind ∧ (task.isSilent = false → Waiting state task)
  apart := Apart
  symmetric := Or.symm
  handled := by
    intro config event state new inv _ handled
    obtain ⟨store⟩ := event
    obtain ⟨rfl, rfl⟩ := Prod.mk.inj (Option.some.inj handled)
    refine ⟨inv, by simp, fun task waiting => ?_, List.Pairwise.nil, by simp⟩
    refine ⟨waiting.2.1, fun loud => ?_⟩
    have before := waiting.2.2 loud
    exact ⟨before.unreported, before.failures, before.hud⟩
  resumed := by
    intro config ticket answer task state new inv need _ _ resumed
    obtain ⟨outcome, found, same⟩ := Option.map_eq_some_iff.mp resumed
    obtain ⟨rfl, rfl⟩ := Prod.mk.inj same
    have responded := respond_cases found
    refine ⟨?_, ?_, ?_, next_apart responded, ?_⟩
    · intro entry answered
      rcases List.mem_append.mp answered with old | isNew
      · exact inv entry old
      · rw [List.mem_singleton.mp isNew]
        exact need.1
    · intro other member
      exact ⟨(next_kind responded member).trans need.1, fun loud =>
        waiting_next responded need.2 member loud⟩
    · rintro other ⟨waiting, apart⟩
      refine ⟨waiting.1, fun loud => ?_⟩
      rcases apart with silent | silent
      · exact waiting_beside responded silent (waiting.2 loud)
      · simp [loud] at silent
    · rintro other ⟨_, apart⟩ fresh member
      rcases apart with silent | silent
      · simp [(next_of_silent responded silent).1] at member
      · exact Or.inl silent

/-! ## The tap -/

section Tapped

variable {setting : Setting} {tap : Tap}

/-- A tap issues silent requests, and then at most one loud one, with a spinner shown if
the HUD has been called. -/
structure Begins (tap : Tap) (silent loud : List Task) (notices : List Notice) : Prop where
  silents : ∀ task ∈ silent, task.kind = tap.kind ∧ task.isSilent = true
  louds : ∀ task ∈ loud, task.kind = tap.kind ∧ Waiting ⟨Store.empty, notices, []⟩ task
  single : loud.length ≤ 1

/-- Nothing is issued. -/
private theorem begins_nothing {notices : List Notice} : Begins tap [] [] notices :=
  ⟨by simp, by simp, by simp⟩

/-- One loud request is issued behind a spinner. -/
private theorem begins_loud {task : Task} {silent : List Task} {status : String}
    (before : List Notice)
    (silents : ∀ task ∈ silent, task.kind = tap.kind ∧ task.isSilent = true)
    (kind : task.kind = tap.kind) (unreported : ¬ Reported before)
    (announced : task.isUnannounced = false) :
    Begins tap silent [task] (before ++ [.showing status]) := by
  refine ⟨silents, fun other member => ?_, by simp⟩
  rw [List.mem_singleton.mp member]
  refine ⟨kind, fun reported => ?_, by simp, ?_⟩
  · rcases reported_append.mp reported with old | ⟨shown, new⟩
    · exact unreported old
    · simp at new
  · rw [if_neg (by simp [announced])]
    exact spinning_showing

private theorem not_reported_nil : ¬ Reported [] := by simp [Reported]

theorem begins_tapped (setting : Setting) (tap : Tap) : ∃ silent loud,
    (tapped setting tap).1 = silent ++ loud ∧ Begins tap silent loud (tapped setting tap).2 := by
  cases tap with
  | signUpTapped fields =>
      simp only [tapped, SignUp.signUpTapped]
      split
      · exact ⟨[], [], rfl, begins_nothing⟩
      · exact ⟨[], _, rfl, begins_loud [] (by simp) rfl not_reported_nil rfl⟩
  | createTapped familyNameText familyIdText =>
      simp only [tapped, CreateFamily.createTapped]
      split
      · exact ⟨[], [], rfl, begins_nothing⟩
      · split
        · exact ⟨[], [], rfl, begins_nothing⟩
        · exact ⟨[], _, rfl, begins_loud [] (by simp) rfl not_reported_nil rfl⟩
  | joinTapped familyIdText =>
      simp only [tapped, JoinFamily.joinTapped]
      split
      · exact ⟨[], [], rfl, begins_nothing⟩
      · exact ⟨[], _, rfl, begins_loud [] (by simp) rfl not_reported_nil rfl⟩
  | saveBtn_TouchUpInside fields =>
      have silents : ∀ task ∈ ((EditProfile.writes setting.count fields).map fun entry =>
          EditProfile.Task.updateData entry.1 entry.2).map Task.save,
          task.kind = Kind.save ∧ task.isSilent = true := by
        intro task member
        simp only [List.map_map, List.mem_map, Function.comp_apply] at member
        obtain ⟨entry, _, rfl⟩ := member
        exact ⟨rfl, rfl⟩
      simp only [tapped, EditProfile.saveBtn_TouchUpInside, EditProfile.uploadAvatar]
      split
      · split
        · refine ⟨_, [.save .putData], List.map_append, ?_⟩
          exact begins_loud [.showing "Uploading..."] silents rfl (by simp [Reported]) rfl
        · exact ⟨_, [], by simp, silents, by simp, by simp⟩
      · exact ⟨_, [], (List.append_nil _).symm, silents, by simp, by simp⟩
  | logInTapped emailText passwordText =>
      exact ⟨[], _, rfl, begins_loud [] (by simp) rfl not_reported_nil rfl⟩
  | shareTapped picked descriptionText =>
      simp only [tapped, Upload.shareTapped]
      split
      · exact ⟨[], [], rfl, begins_nothing⟩
      · split
        · exact ⟨[], [], rfl, begins_nothing⟩
        · refine ⟨[], _, rfl, by simp, fun task member => ?_, by simp⟩
          rw [List.mem_singleton.mp member]
          exact ⟨rfl, not_reported_nil, by simp, rfl⟩

/-- The thread holds from the tap on. -/
theorem holds_begun (setting : Setting) (store : Store) (tap : Tap) :
    (thread setting tap.kind).Holds (begun setting store tap) := by
  obtain ⟨silent, loud, tasks, begins⟩ := begins_tapped setting tap
  have pending : (begun setting store tap).pool.tasks = silent ++ loud := by
    rw [begun, Pool.tasks_issueAll, Pool.tasks_empty, List.nil_append, tasks]
  refine ⟨by simp [begun, thread], fun task member => ?_, ?_⟩
  · rw [pending, List.mem_append] at member
    rcases member with isSilent | isLoud
    · refine ⟨(begins.silents task isSilent).1, fun loud => ?_⟩
      simp [(begins.silents task isSilent).2] at loud
    · have waiting := (begins.louds task isLoud).2
      exact ⟨(begins.louds task isLoud).1, fun _ =>
        ⟨waiting.unreported, waiting.failures, waiting.hud⟩⟩
  · rw [pending, List.pairwise_append]
    refine ⟨?_, ?_, fun task isSilent other _ => Or.inl (begins.silents task isSilent).2⟩
    · have all : silent.Pairwise fun _ _ => True := List.pairwise_of_forall fun _ _ => trivial
      exact all.imp_of_mem fun member _ _ => Or.inl (begins.silents _ member).2
    · have short := begins.single
      cases loud with
      | nil => exact List.Pairwise.nil
      | cons task rest =>
          have none : rest = [] := List.length_eq_zero_iff.mp (by
            rw [List.length_cons] at short
            omega)
          rw [none]
          exact List.pairwise_singleton _ _

/-- The thread holds all along a run. -/
theorem obeys_thread (setting : Setting) (store : Store) (tap : Tap)
    (labels : List (Label Event Answer)) :
    (program setting).Obeys (thread setting tap.kind).along (begun setting store tap) labels :=
  (thread setting tap.kind).obeys_along (holds_begun setting store tap) Program.obeys_true

end Tapped

end Familog.Operation
