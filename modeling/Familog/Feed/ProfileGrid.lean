import Familog.Async.Program
import Familog.Records

/-!
Contract: the photo grids of `ProfileViewController` and
`OthersProfileViewController` as one program.

`viewDidAppear` empties `posts` and runs the query of the user's posts; for each
document `observePost` reads the post once and the callback appends it and
reloads the collection view. The two controllers share these lines.

Owns that program. Does not own the user's information, nor the cells, in which
the two controllers differ.
-/

set_option autoImplicit false

namespace Familog.ProfileGrid

open Async Firestore

/-- `posts`, and the number of items the collection view read at its last
`reloadData`. Whether `posts` was emptied since then is not stored by the source. -/
structure State where
  posts : List Post
  reloaded : Nat
  emptied : Bool

inductive Task where
  | getDocuments
  | observePost (uid : String)

inductive Event where
  | viewDidAppear

/-- An error, the data of a document, or the ids of the documents of a query. -/
inductive Answer where
  | failed
  | snapshot (data : Option Fields)
  | documents (ids : List String)

/-- Before `viewDidLoad`. -/
def State.empty : State := ⟨[], 0, false⟩

/-- The callback of `observePost`: append, and `reloadData`. -/
def append (state : State) (post : Post) : State where
  posts := state.posts ++ [post]
  reloaded := state.posts.length + 1
  emptied := false

def resume (state : State) : Task → Answer → Option (State × List Task)
  | .getDocuments, .failed => some (state, [])
  | .getDocuments, .documents ids => some (state, ids.map .observePost)
  | .observePost _, .failed => some (state, [])
  | .observePost _, .snapshot data =>
      match data with
      | none => some (state, [])
      | some data => some (append state (transformPostPhoto data), [])
  | _, _ => none

/-- Both profile screens. -/
def program : Program State Event Task Answer where
  handle state
    | .viewDidAppear => some ({ state with posts := [], emptied := true }, [.getDocuments])
  resume := resume

/-- An answer leaves the state alone or appends one post. -/
theorem resume_cases {state next : State} {task : Task} {answer : Answer} {new : List Task}
    (resumed : resume state task answer = some (next, new)) :
    next = state ∨ ∃ post, next = append state post := by
  cases task with
  | getDocuments =>
      cases answer with
      | failed =>
          obtain ⟨rfl, rfl⟩ := Prod.mk.inj (Option.some.inj resumed)
          exact Or.inl rfl
      | documents ids =>
          obtain ⟨rfl, rfl⟩ := Prod.mk.inj (Option.some.inj resumed)
          exact Or.inl rfl
      | snapshot data => simp [resume] at resumed
  | observePost uid =>
      cases answer with
      | failed =>
          obtain ⟨rfl, rfl⟩ := Prod.mk.inj (Option.some.inj resumed)
          exact Or.inl rfl
      | documents ids => simp [resume] at resumed
      | snapshot data =>
          cases data with
          | none =>
              obtain ⟨rfl, rfl⟩ := Prod.mk.inj (Option.some.inj resumed)
              exact Or.inl rfl
          | some data =>
              obtain ⟨rfl, rfl⟩ := Prod.mk.inj (Option.some.inj resumed)
              exact Or.inr ⟨_, rfl⟩

end Familog.ProfileGrid
