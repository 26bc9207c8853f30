import Familog.Membership.Accounts

/-!
Contract: a user whose operations do not overlap always writes current arrays.

Owns the condition `Separate` (no join, create or switch of a user starts while
one of theirs is under way), the outline `exclusive` (at most one request of each
user's operations is pending, and what it has read is still stored), and the
theorem that separate runs from the empty store are `Current`.

Does not own operations of different users, which may interleave freely.
-/

set_option autoImplicit false

namespace Familog.App

open Async Firestore Swift LogInPage MainPage

/-- The user who starts a join, a create or a switch. -/
def Event.operator? : Event → Option Uid
  | .joinTapped session _ => some session.user
  | .createTapped session _ _ => some session.user
  | .famliyTapped session _ => some session.user
  | _ => none

/-- A user starts an operation only when none of theirs is under way. -/
def Separate : Config AppState Task → Label Event Answer → Prop
  | config, .event event =>
      ∀ uid, event.operator? = some uid → ∀ task ∈ config.pool.tasks, task.holder? ≠ some uid
  | _, .answer _ _ => True

instance (config : Config AppState Task) (label : Label Event Answer) :
    Decidable (Separate config label) :=
  match label with
  | .event event =>
      inferInstanceAs (Decidable (∀ uid, event.operator? = some uid →
        ∀ task ∈ config.pool.tasks, task.holder? ≠ some uid))
  | .answer _ _ => isTrue trivial

/-- What the operation has read is what the store still holds. -/
def ReadIsCurrent (store : Store) (task : Task) : Prop :=
  match task.append? with
  | some (uid, _, .received fields) => store.users.get? uid = some fields
  | some (uid, _, .updateData families _) => store.familiesOf uid = some families
  | _ => True

section Effects

variable {form : CanonicalForm} {data next : Data} {task : Task} {answer : Answer}
  {new : List Task} {reports : List (Uid × String)} {uid : Uid}

/-- A request of a user's operation is issued by a request of the same operation,
and at most one at a time. -/
theorem holder?_of_effect (effect : Effect form data task answer next new reports) :
    (∀ request ∈ new, ∀ user, request.holder? = some user → task.holder? = some user) ∧
      new.Pairwise (Apart Task.holder?) := by
  cases effect with
  | userRead pending found issued =>
      refine ⟨fun request member user holds => ?_, List.pairwise_singleton _ _⟩
      rw [List.mem_singleton.mp member, holder?_of_append? issued] at holds
      rw [holder?_of_append? pending, holds]
  | arrayMade pending stored array issued =>
      refine ⟨fun request member user holds => ?_, List.pairwise_singleton _ _⟩
      rw [List.mem_singleton.mp member, holder?_of_append? issued] at holds
      rw [holder?_of_append? pending, holds]
  | @userListened session families listed =>
      have silent : ∀ request ∈ Task.switch session .userListener ::
          families.map (fun familyId => .switch session (.familyListener familyId)),
          request.holder? = none :=
        forall_mem_listeners rfl fun _ _ => rfl
      refine ⟨fun request member user holds => ?_, apart_of_none silent⟩
      simp [silent request member] at holds
  | familySaved named =>
      refine ⟨by simp [Task.holder?], List.pairwise_pair.mpr fun user holds => ?_⟩
      simp [Task.holder?] at holds
  | _ => simp [Task.holder?]

theorem holder?_of_asked {event : Event} (asked : Asked form data event new) :
    (∀ request ∈ new, ∀ user, request.holder? = some user → event.operator? = some user) ∧
      new.Pairwise (Apart Task.holder?) := by
  cases asked with
  | launch => exact ⟨by simp [Task.holder?], apart_of_none (by simp [Task.holder?])⟩
  | _ => simp [Task.holder?, Event.operator?]

/-- A read that is passed on is as current as it was. -/
theorem readIsCurrent_of_effect (effect : Effect form data task answer next new reports)
    (current : ReadIsCurrent data.store task) :
    ∀ request ∈ new, ReadIsCurrent next.store request := by
  cases effect with
  | userRead pending found issued => simpa [ReadIsCurrent, issued] using found
  | arrayMade pending stored array issued =>
      simp only [ReadIsCurrent, pending] at current
      simpa [ReadIsCurrent, issued, Store.familiesOf, current] using stored
  | userListened listed => exact forall_mem_listeners trivial fun _ _ => trivial
  | _ => simp [ReadIsCurrent, Task.append?]

theorem readIsCurrent_of_asked {event : Event} (asked : Asked form data event new)
    (store : Store) : ∀ request ∈ new, ReadIsCurrent store request := by
  cases asked <;> simp [ReadIsCurrent, Task.append?]

/-- A read stays current while its user's document does. -/
theorem readIsCurrent_of_users {store store' : Store} {request : Task}
    (frame : ∀ user, request.holder? = some user → store.users.get? user ≠ none →
      store'.users.get? user = store.users.get? user)
    (current : ReadIsCurrent store request) : ReadIsCurrent store' request := by
  unfold ReadIsCurrent at current ⊢
  split at current
  · next view => simp [frame _ (holder?_of_append? view), current]
  · next user _ _ _ view =>
      have exists' : store.users.get? user ≠ none := by
        intro missing
        simp [Store.familiesOf, missing] at current
      simpa [Store.familiesOf, frame _ (holder?_of_append? view) exists'] using current
  · trivial

end Effects

/-! ## The outline -/

/-- Pending requests of operations belong to different users, and nobody else
has written what they read. -/
def exclusive (form : CanonicalForm) {condition : Config AppState Task → Label Event Answer → Prop}
    (separate : ∀ {config label}, condition config label → Separate config label) :
    Outline (program form) (orderly form condition).along where
  inv _ := True
  need state task := ReadIsCurrent state.store task
  apart := Apart Task.holder?
  symmetric := Apart.symm
  handled := by
    intro config event state new _ allowed handled
    obtain ⟨asked, data, _⟩ := handle_asked handled
    obtain ⟨holders, distinct⟩ := holder?_of_asked asked
    refine ⟨trivial, readIsCurrent_of_asked asked _, ?_, distinct, ?_⟩
    · rintro other ⟨_, current⟩
      show ReadIsCurrent state.store other
      rwa [data]
    · rintro other ⟨member, _⟩ request inNew uid holds holds'
      exact separate allowed.1 uid (holders request inNew uid holds') other member holds
  resumed := by
    intro config ticket answer task state new _ current allowed found resumed
    obtain ⟨reports, effect, _⟩ := resume_effect resumed
    obtain ⟨holders, distinct⟩ := holder?_of_effect effect
    have saved := (allowed.2.need task (Pool.mem_tasks_of_find? found)).2
    refine ⟨trivial, readIsCurrent_of_effect effect current, ?_, distinct, ?_⟩
    · rintro other ⟨current', apart⟩
      refine readIsCurrent_of_users (fun user holds exists' => ?_) current'
      apply users_of_effect effect (fun saves => exists' (saved user saves).2)
      intro holds'
      exact apart user holds' holds
    · rintro other ⟨_, apart⟩ request inNew uid holds holds'
      exact apart uid (holders request inNew uid holds') holds

/-- A read that is still current makes a current write. -/
theorem currentWrite_of_readIsCurrent {form : CanonicalForm} {data : Data} {task : Task}
    {answer : Answer} (current : ReadIsCurrent data.store task) :
    CurrentWrite form data task answer := by
  unfold CurrentWrite
  split
  · next view =>
      simp only [ReadIsCurrent, view] at current
      intro stored found other inStored
      obtain rfl := Option.some.inj (found.symm.trans current)
      exact CanonicalForm.contains_of_mem (List.mem_append_left _ inStored)
  · trivial

/-- When no user's operations overlap, every write of `families` is current. -/
theorem current_of_separate {form : CanonicalForm}
    {condition : Config AppState Task → Label Event Answer → Prop}
    (separate : ∀ {config label}, condition config label → Separate config label)
    {labels : List (Label Event Answer)}
    (obeys : (program form).Obeys condition (Program.start AppState.empty) labels) :
    (program form).Obeys (fun config label => condition config label ∧ Current form config label)
      (Program.start AppState.empty) labels := by
  have along := (orderly form condition).obeys_along (orderly_start form condition) obeys
  refine Outline.obeys (exclusive form separate) (fun {config label} holds allowed => ?_)
    (Outline.start _ trivial) along
  refine ⟨allowed.1, ?_⟩
  cases label with
  | event event => trivial
  | answer ticket answer =>
      exact fun task found =>
        currentWrite_of_readIsCurrent (holds.need task (Pool.mem_tasks_of_find? found))

end Familog.App
