import Familog.Store

/-!
Contract: `SwitchFamilyViewController.getFamilies` and
`SwitchFamilyTableViewCell.famliyTapped`.

Owns the two nested listeners that fill the rows, and the write of a row's
family id. A listener stays registered after it has delivered; a row is never
taken back.

Does not own the names shown on the buttons.
-/

set_option autoImplicit false

namespace Familog.MainPage.SwitchFamily

open Firestore

/-- The listeners of the screen and the pending write of a tapped row. -/
inductive Task where
  | userListener
  | familyListener (familyId : String)
  | updateData (familyId : String)

/-- What one callback leaves behind: the rows it appends besides the outcome. -/
structure Listing where
  rows : List String
  outcome : Outcome Task

/-- Run the callback of one step. -/
def resume (store : Store) (uid : Uid) : Task → Answer → Option Listing
  | .userListener, .failed => some ⟨[], .ends store [.showError "Can not get families!"]⟩
  | .userListener, .succeeded =>
      match store.familiesOf uid with
      | none => some ⟨[], .ends store [.trap]⟩
      | some families =>
          if ∀ familyId ∈ families, (document? familyId).isSome then
            some ⟨[], .issues store (.userListener :: families.map .familyListener)⟩
          else some ⟨[], .ends store [.trap]⟩
  | .familyListener _, .failed => some ⟨[], .ends store [.showError "Can not get families!"]⟩
  | .familyListener familyId, .succeeded =>
      match (store.familyNamed familyId).bind fun data => (transformFamily data).uid with
      | none => some ⟨[], .ends store [.trap]⟩
      | some row => some ⟨[row], .issues store [.familyListener familyId]⟩
  | .updateData _, .failed => some ⟨[], .ends store []⟩
  | .updateData familyId, .succeeded =>
      (store.users.update? uid [("familyId", .string familyId)]).map fun users =>
        ⟨[], .ends { store with users := users } []⟩
  | _, _ => none

/-! ## What a step can do -/

/-- One constructor for each branch of the callbacks. -/
inductive Resumed (store : Store) (uid : Uid) : Task → Answer → Listing → Prop where
  | userUnread :
      Resumed store uid .userListener .failed ⟨[], .ends store [.showError "Can not get families!"]⟩
  | userTrapped :
      (∀ families, store.familiesOf uid = some families →
        ¬ ∀ familyId ∈ families, (document? familyId).isSome) →
      Resumed store uid .userListener .succeeded ⟨[], .ends store [.trap]⟩
  | userListened {families} : store.familiesOf uid = some families →
      (∀ familyId ∈ families, (document? familyId).isSome) →
      Resumed store uid .userListener .succeeded
        ⟨[], .issues store (.userListener :: families.map .familyListener)⟩
  | familyUnread {familyId} : Resumed store uid (.familyListener familyId) .failed
      ⟨[], .ends store [.showError "Can not get families!"]⟩
  | familyTrapped {familyId} :
      ((store.familyNamed familyId).bind fun data => (transformFamily data).uid) = none →
      Resumed store uid (.familyListener familyId) .succeeded ⟨[], .ends store [.trap]⟩
  | familyListened {familyId row} :
      ((store.familyNamed familyId).bind fun data => (transformFamily data).uid) = some row →
      Resumed store uid (.familyListener familyId) .succeeded
        ⟨[row], .issues store [.familyListener familyId]⟩
  | unswitched {familyId} :
      Resumed store uid (.updateData familyId) .failed ⟨[], .ends store []⟩
  | switched {familyId data} : store.users.get? uid = some data →
      Resumed store uid (.updateData familyId) .succeeded
        ⟨[], .ends
          { store with
            users := store.users.set uid (data.merge [("familyId", .string familyId)]) } []⟩

/-- A callback runs exactly through one of its branches. -/
theorem resume_eq_some {store : Store} {uid : Uid} {task : Task} {answer : Answer}
    {listing : Listing} :
    resume store uid task answer = some listing ↔ Resumed store uid task answer listing := by
  constructor
  · intro resumed
    cases task with
    | userListener =>
        cases answer with
        | failed =>
            obtain rfl := Option.some.inj resumed
            exact .userUnread
        | succeeded =>
            simp only [resume] at resumed
            split at resumed
            · next absent =>
                obtain rfl := Option.some.inj resumed
                exact .userTrapped (by simp [absent])
            · next families found =>
                split_ifs at resumed with named
                · obtain rfl := Option.some.inj resumed
                  exact .userListened found named
                · obtain rfl := Option.some.inj resumed
                  refine .userTrapped fun other there => ?_
                  rwa [← Option.some.inj (found.symm.trans there)]
        | _ => simp [resume] at resumed
    | familyListener familyId =>
        cases answer with
        | failed =>
            obtain rfl := Option.some.inj resumed
            exact .familyUnread
        | succeeded =>
            simp only [resume] at resumed
            split at resumed
            · next absent =>
                obtain rfl := Option.some.inj resumed
                exact .familyTrapped absent
            · next row found =>
                obtain rfl := Option.some.inj resumed
                exact .familyListened found
        | _ => simp [resume] at resumed
    | updateData familyId =>
        cases answer with
        | failed =>
            obtain rfl := Option.some.inj resumed
            exact .unswitched
        | succeeded =>
            obtain ⟨users, updates, rfl⟩ := Option.map_eq_some_iff.mp resumed
            obtain ⟨data, found, rfl⟩ := Collection.update?_eq_some.mp updates
            exact .switched found
        | _ => simp [resume] at resumed
  · intro resumed
    cases resumed with
    | userUnread | familyUnread | unswitched => rfl
    | userTrapped unnamed =>
        simp only [resume]
        split
        · rfl
        · next families found => rw [if_neg (unnamed families found)]
    | userListened found named => simp only [resume, found, if_pos named]
    | familyTrapped absent => simp only [resume, absent]
    | familyListened found => simp only [resume, found]
    | switched found =>
        exact Option.map_eq_some_iff.mpr
          ⟨_, Collection.update?_eq_some.mpr ⟨_, found, rfl⟩, rfl⟩

end Familog.MainPage.SwitchFamily
