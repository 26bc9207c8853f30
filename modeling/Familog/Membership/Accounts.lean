import Familog.Membership.Growth

/-!
Contract: who may write which Users document.

Owns the frame of the users collection (an answer changes a user's document only
if the answered request saves it, or belongs to an operation of that user), and
the outline `orderly`, which holds in every run from the empty store: only
accounts have documents, and the document of an account is written from scratch
at most once, while it does not exist.

Does not own what the documents contain.
-/

set_option autoImplicit false

namespace Familog.App

open Async Firestore Swift LogInPage MainPage

/-- The account whose document a pending sign-up will write. -/
def Task.saves? : Task → Option Uid
  | .signUp (.setData uid _) => some uid
  | _ => none

/-- The user whose join, create or switch operation a request belongs to. The
channel of a new family is added on the side and holds up nothing. -/
def Task.holder? : Task → Option Uid
  | .join session _ => some session.user
  | .create _ (.addDocument _ _) => none
  | .create session _ => some session.user
  | .switch session (.updateData _) => some session.user
  | _ => none

/-- The two requests do not concern the same user. -/
def Apart (user? : Task → Option Uid) (left right : Task) : Prop :=
  ∀ uid, user? left = some uid → user? right ≠ some uid

theorem Apart.symm {user? : Task → Option Uid} {left right : Task}
    (apart : Apart user? left right) : Apart user? right left :=
  fun uid first second => apart uid second first

theorem holder?_of_append? {task : Task} {uid : Uid} {familyId : String}
    {step : AppendFamily.Task} (view : task.append? = some (uid, familyId, step)) :
    task.holder? = some uid := by
  cases task with
  | join session request =>
      cases request with
      | append => simp_all [Task.append?, Task.holder?]
      | _ => simp [Task.append?] at view
  | create session request =>
      cases request with
      | append => simp_all [Task.append?, Task.holder?]
      | _ => simp [Task.append?] at view
  | _ => simp [Task.append?] at view

section Effects

variable {form : CanonicalForm} {data next : Data} {task : Task} {answer : Answer}
  {new : List Task} {reports : List (Uid × String)} {uid : Uid}

/-- A user's document changes only through a request that concerns the user. -/
theorem users_of_effect (effect : Effect form data task answer next new reports)
    (saves : task.saves? ≠ some uid) (holds : task.holder? ≠ some uid) :
    next.store.users.get? uid = data.store.users.get? uid := by
  cases effect with
  | @userSaved saved fields =>
      exact Collection.get?_set_of_ne _ _ fun same => saves (same ▸ rfl)
  | userUpdated pending found =>
      exact Collection.get?_set_of_ne _ _ fun same => holds (same ▸ holder?_of_append? pending)
  | switched found => exact Collection.get?_set_of_ne _ _ fun same => holds (same ▸ rfl)
  | _ => rfl

/-- Only a sign-up brings a missing document into being. -/
theorem users_none_of_effect (effect : Effect form data task answer next new reports)
    (saves : task.saves? ≠ some uid) (missing : data.store.users.get? uid = none) :
    next.store.users.get? uid = none := by
  by_cases holds : task.holder? = some uid
  · cases effect with
    | userSaved => simp [Task.holder?] at holds
    | @userUpdated task user familyId fields families newFamilies pending found =>
        rw [holder?_of_append? pending] at holds
        simp [Option.some.inj holds, missing] at found
    | switched found =>
        rw [Option.some.inj holds, missing] at found
        simp at found
    | _ => exact missing
  · rw [users_of_effect effect saves holds, missing]

/-- The only callback that asks to save a document is the one that received a
new account, and it asks for nothing else. -/
theorem saves_cases (effect : Effect form data task answer next new reports) :
    (∀ request ∈ new, request.saves? = none) ∨
      ∃ user email firstName, user ∉ data.accounts ∧
        new = [.signUp (.setData user (userData email firstName user))] ∧
        next = { data with accounts := user :: data.accounts } := by
  cases effect with
  | accountCreated unknown => exact Or.inr ⟨_, _, _, unknown, rfl, rfl⟩
  | userRead _ _ issued | arrayMade _ _ _ issued =>
      exact Or.inl (forall_mem_append issued (fun _ _ _ => rfl) fun _ _ _ => rfl)
  | _ => exact Or.inl (by simp [Task.saves?])

theorem saves?_of_asked {event : Event} (asked : Asked form data event new) :
    ∀ request ∈ new, request.saves? = none := by
  cases asked <;> simp [Task.saves?]

theorem accounts_subset_of_effect (effect : Effect form data task answer next new reports)
    (account : uid ∈ data.accounts) : uid ∈ next.accounts := by
  cases effect with
  | accountCreated unknown => exact List.mem_cons_of_mem _ account
  | _ => exact account

/-- A document that appears is the one the answered request saves. -/
theorem saves?_of_appears (effect : Effect form data task answer next new reports)
    (missing : data.store.users.get? uid = none)
    (appears : next.store.users.get? uid ≠ none) : task.saves? = some uid := by
  by_contra saves
  exact appears (users_none_of_effect effect saves missing)

/-- Where a pending sign-up only writes a document that does not exist, a current
answer keeps every membership. -/
theorem members_grow (effect : Effect form data task answer next new reports)
    (made : MadeFromRead form task)
    (saved : ∀ uid, task.saves? = some uid →
      uid ∈ data.accounts ∧ data.store.users.get? uid = none)
    (current : CurrentWrite form data task answer) :
    ∀ uid familyId, Member form data.store uid familyId → Member form next.store uid familyId := by
  intro uid familyId member
  have unsaved : ∀ fields, task = .signUp (.setData uid fields) →
      data.store.users.get? uid = none := by
    intro fields equal
    subst equal
    exact (saved uid rfl).2
  exact member_of_effect effect made current unsaved member

end Effects

theorem apart_of_none {user? : Task → Option Uid} {tasks : List Task}
    (none : ∀ task ∈ tasks, user? task = none) : tasks.Pairwise (Apart user?) :=
  List.pairwise_of_forall_mem_list fun left inTasks _ _ uid view => by
    simp [none left inTasks] at view

/-! ## The outline -/

/-- Only accounts have documents; a pending sign-up writes a document that does
not exist, and no other pending sign-up writes the same; every array about to be
written was made from what was read. -/
def orderly (form : CanonicalForm)
    (condition : Config AppState Task → Label Event Answer → Prop) :
    Outline (program form) condition where
  inv state := ∀ uid, state.store.users.get? uid ≠ none → uid ∈ state.accounts
  need state task := MadeFromRead form task ∧
    ∀ uid, task.saves? = some uid → uid ∈ state.accounts ∧ state.store.users.get? uid = none
  apart := Apart Task.saves?
  symmetric := Apart.symm
  handled := by
    intro config event state new inv _ handled
    obtain ⟨asked, data, _⟩ := handle_asked handled
    have silent := saves?_of_asked asked
    refine ⟨?_, fun request member => ⟨madeFromRead_of_asked asked request member, ?_⟩, ?_,
      apart_of_none silent, ?_⟩
    · show ∀ uid, state.store.users.get? uid ≠ none → uid ∈ state.accounts
      rw [data]
      exact inv
    · intro uid saves
      simp [silent request member] at saves
    · rintro other ⟨_, made, need⟩
      show _ ∧ ∀ uid, _ → uid ∈ state.accounts ∧ state.store.users.get? uid = none
      rw [data]
      exact ⟨made, need⟩
    · intro other _ request member uid _
      simp [silent request member]
  resumed := by
    intro config ticket answer task state new inv need _ found resumed
    obtain ⟨reports, effect, _⟩ := resume_effect resumed
    have keeps : ∀ other, (MadeFromRead form other ∧ ∀ uid, other.saves? = some uid →
          uid ∈ config.state.accounts ∧ config.state.store.users.get? uid = none) ∧
        Apart Task.saves? task other →
        MadeFromRead form other ∧ ∀ uid, other.saves? = some uid →
          uid ∈ state.accounts ∧ state.store.users.get? uid = none := by
      rintro other ⟨⟨made, wanted⟩, apart⟩
      refine ⟨made, fun uid saves => ?_⟩
      obtain ⟨account, missing⟩ := wanted uid saves
      refine ⟨accounts_subset_of_effect effect account, users_none_of_effect effect ?_ missing⟩
      exact fun same => apart uid same saves
    have inv' : ∀ uid, state.store.users.get? uid ≠ none → uid ∈ state.accounts := by
      intro uid exists'
      by_cases missing : config.state.store.users.get? uid = none
      · exact accounts_subset_of_effect effect
          (need.2 uid (saves?_of_appears effect missing exists')).1
      · exact accounts_subset_of_effect effect (inv uid missing)
    rcases saves_cases effect with silent | ⟨user, email, firstName, unknown, rfl, same⟩
    · refine ⟨inv', fun request member => ⟨madeFromRead_of_effect effect request member, ?_⟩,
        keeps, apart_of_none silent, ?_⟩
      · intro uid saves
        simp [silent request member] at saves
      · intro other _ request member uid _
        simp [silent request member]
    · refine ⟨inv', fun request member => ⟨madeFromRead_of_effect effect request member, ?_⟩,
        keeps, List.pairwise_singleton _ _, ?_⟩
      · intro uid saves
        rw [List.mem_singleton.mp member] at saves
        obtain rfl := Option.some.inj saves
        show _ ∈ state.accounts ∧ state.store.users.get? _ = none
        rw [same]
        refine ⟨List.mem_cons_self, ?_⟩
        by_contra exists'
        exact unknown (inv user exists')
      · rintro other ⟨⟨_, wanted⟩, _⟩ request member uid saves
        rw [List.mem_singleton.mp member]
        rintro saved
        obtain rfl := Option.some.inj saved
        exact unknown (wanted user saves).1

theorem orderly_start (form : CanonicalForm)
    (condition : Config AppState Task → Label Event Answer → Prop) :
    (orderly form condition).Holds (Program.start AppState.empty) :=
  Outline.start _ fun _ exists' => absurd rfl exists'

end Familog.App
