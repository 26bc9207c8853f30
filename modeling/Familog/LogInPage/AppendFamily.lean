import Familog.Store

/-!
Contract: the read-modify-write that puts a family into a user's document.

`joinTapped` and `createTapped` contain it word for word except for the texts
they show: read the user document, append the id to `families`, make the array
unique through a set, and write `familyId` and the whole array back. The three
steps are separate requests; nothing holds the document in between.

Owns that operation with its texts as a parameter, and what each of its steps
does to the store.
-/

set_option autoImplicit false

namespace Familog.LogInPage.AppendFamily

open Firestore Swift

/-- What is left to do: the pending read, the callback that received the
document, or the pending write of `newFamilies`. The write also remembers the
`families` it was computed from; its callback does not look at them. -/
inductive Task where
  | getDocument
  | received (data : Fields)
  | updateData (families newFamilies : List String)

/-- The texts that differ between the two screens. -/
structure Texts where
  unreadable : String
  unwritten : String
  done : String

/-- The entries of the update. -/
def entries (familyId : String) (newFamilies : List String) : List (String × Value) :=
  [("familyId", .string familyId), ("families", .strings newFamilies)]

/-- Run the callback of one step. -/
def resume (form : CanonicalForm) (texts : Texts) (store : Store) (uid : Uid)
    (familyId : String) : Task → Answer → Option (Outcome Task)
  | .getDocument, .failed => some (.ends store [.showError texts.unreadable])
  | .getDocument, .succeeded =>
      match store.users.get? uid with
      | none => some (.ends store [.showError texts.unreadable])
      | some data => some (.issues store [.received data])
  | .received data, .listed newFamilies =>
      match data.strings? "families" with
      | none => some (.ends store [.trap])
      | some families =>
          if IsSetArray form (families ++ [familyId]) newFamilies then
            some (.issues store [.updateData families newFamilies])
          else none
  | .updateData _ _, .failed => some (.ends store [.showError texts.unwritten])
  | .updateData _ newFamilies, .succeeded =>
      (store.users.update? uid (entries familyId newFamilies)).map fun users =>
        .ends { store with users := users } [.showSuccess texts.done]
  | _, _ => none

/-! ## What a step can do -/

/-- The data of a user document after the update. -/
def updated (data : Fields) (familyId : String) (newFamilies : List String) : Fields :=
  data.merge (entries familyId newFamilies)

@[simp] theorem updated_familyId (data : Fields) (familyId : String)
    (newFamilies : List String) :
    (updated data familyId newFamilies).string? "familyId" = some familyId :=
  rfl

@[simp] theorem updated_families (data : Fields) (familyId : String)
    (newFamilies : List String) :
    (updated data familyId newFamilies).strings? "families" = some newFamilies := by
  have stored : updated data familyId newFamilies "families" =
      some (.strings newFamilies) := rfl
  rw [Fields.strings?, stored]
  exact Value.asStrings?_strings newFamilies

/-- One constructor for each branch of the callbacks. -/
inductive Resumed (form : CanonicalForm) (texts : Texts) (store : Store) (uid : Uid)
    (familyId : String) : Task → Answer → Outcome Task → Prop where
  | unread : Resumed form texts store uid familyId .getDocument .failed
      (.ends store [.showError texts.unreadable])
  | missing : store.users.get? uid = none →
      Resumed form texts store uid familyId .getDocument .succeeded
        (.ends store [.showError texts.unreadable])
  | read {data} : store.users.get? uid = some data →
      Resumed form texts store uid familyId .getDocument .succeeded
        (.issues store [.received data])
  | trapped {data newFamilies} : data.strings? "families" = none →
      Resumed form texts store uid familyId (.received data) (.listed newFamilies)
        (.ends store [.trap])
  | arrayMade {data families newFamilies} : data.strings? "families" = some families →
      IsSetArray form (families ++ [familyId]) newFamilies →
      Resumed form texts store uid familyId (.received data) (.listed newFamilies)
        (.issues store [.updateData families newFamilies])
  | unwritten {families newFamilies} :
      Resumed form texts store uid familyId (.updateData families newFamilies) .failed
        (.ends store [.showError texts.unwritten])
  | written {data families newFamilies} : store.users.get? uid = some data →
      Resumed form texts store uid familyId (.updateData families newFamilies) .succeeded
        (.ends { store with users := store.users.set uid (updated data familyId newFamilies) }
          [.showSuccess texts.done])

section Cases

variable {form : CanonicalForm} {texts : Texts} {store : Store} {uid : Uid}
  {familyId : String} {task : Task} {answer : Answer} {outcome : Outcome Task}

/-- A callback runs exactly through one of its branches. -/
theorem resume_eq_some :
    resume form texts store uid familyId task answer = some outcome ↔
      Resumed form texts store uid familyId task answer outcome := by
  constructor
  · intro resumed
    cases task with
    | getDocument =>
        cases answer with
        | failed =>
            obtain rfl := Option.some.inj resumed
            exact .unread
        | succeeded =>
            simp only [resume] at resumed
            split at resumed
            · next absent =>
                obtain rfl := Option.some.inj resumed
                exact .missing absent
            · next data found =>
                obtain rfl := Option.some.inj resumed
                exact .read found
        | _ => simp [resume] at resumed
    | received data =>
        cases answer with
        | listed newFamilies =>
            simp only [resume] at resumed
            split at resumed
            · next unreadable =>
                obtain rfl := Option.some.inj resumed
                exact .trapped unreadable
            · next families found =>
                split_ifs at resumed with array
                obtain rfl := Option.some.inj resumed
                exact .arrayMade found array
        | _ => simp [resume] at resumed
    | updateData families newFamilies =>
        cases answer with
        | failed =>
            obtain rfl := Option.some.inj resumed
            exact .unwritten
        | succeeded =>
            obtain ⟨users, updates, rfl⟩ := Option.map_eq_some_iff.mp resumed
            obtain ⟨data, found, rfl⟩ := Collection.update?_eq_some.mp updates
            exact .written found
        | _ => simp [resume] at resumed
  · intro resumed
    cases resumed with
    | unread => rfl
    | missing absent => simp [resume, absent]
    | read found => simp [resume, found]
    | trapped unreadable => simp [resume, unreadable]
    | arrayMade found array => simp [resume, found, array]
    | unwritten => rfl
    | written found =>
        exact Option.map_eq_some_iff.mpr
          ⟨_, Collection.update?_eq_some.mpr ⟨_, found, rfl⟩, rfl⟩

/-- Everything a step can do to the store and to what is left. Only the acknowledged write
touches the store, and only it reports success. -/
theorem resume_cases (resumed : resume form texts store uid familyId task answer = some outcome) :
    (outcome.store = store ∧ outcome.next = [] ∧
        ∀ notice ∈ outcome.notices, ∀ status, notice ≠ .showSuccess status) ∨
      (∃ data, task = .getDocument ∧ answer = .succeeded ∧ store.users.get? uid = some data ∧
        outcome = .issues store [.received data]) ∨
      (∃ data families newFamilies, task = .received data ∧
        data.strings? "families" = some families ∧
        IsSetArray form (families ++ [familyId]) newFamilies ∧
        outcome = .issues store [.updateData families newFamilies]) ∨
      ∃ data families newFamilies, task = .updateData families newFamilies ∧ answer = .succeeded ∧
        store.users.get? uid = some data ∧
        outcome = .ends
          { store with users := store.users.set uid (updated data familyId newFamilies) }
          [.showSuccess texts.done] := by
  cases resume_eq_some.mp resumed with
  | unread | missing _ | trapped _ | unwritten => exact Or.inl ⟨rfl, rfl, by simp [Outcome.ends]⟩
  | read found => exact Or.inr (Or.inl ⟨_, rfl, rfl, found, rfl⟩)
  | arrayMade found array => exact Or.inr (Or.inr (Or.inl ⟨_, _, _, rfl, found, array, rfl⟩))
  | written found => exact Or.inr (Or.inr (Or.inr ⟨_, _, _, rfl, rfl, found, rfl⟩))

end Cases

end Familog.LogInPage.AppendFamily
