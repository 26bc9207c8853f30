import Familog.Async.Program
import Familog.Records
import Familog.Swift.Text

/-!
Contract: `SwitchFamilyViewController` as a program over changing documents.

`getFamilies` registers a listener on the user document; each of its snapshots
registers one more listener for every family of the document, and each snapshot of
a Family document appends a row and notes the name. No listener is ever removed,
and nothing looks at the rows that are there.

Owns this program, with the documents and all their former versions, so that it can
be said which version a listener has delivered last.

Does not own the cells, nor the message at an error.
-/

set_option autoImplicit false

namespace Familog.Switch

open Async Firestore Swift

/-- `families` and `familyDict`. The versions of the user document and of the Family
documents, the newest first, and whether the process has trapped are not stored by the
source. -/
structure State where
  families : List Family
  familyDict : String → Option String
  user : List (Option Fields)
  documents : DocumentPath → List (Option Fields)
  trapped : Bool

/-- The registered listeners, each with the number of the version it has delivered last
and whether it is still served; an error is the last thing a listener is told. -/
inductive Task where
  | userListener (delivered : Option ℕ) (alive : Bool)
  | familyListener (familyId : String) (path : DocumentPath) (delivered : Option ℕ) (alive : Bool)

/-- A client writes or deletes a document. -/
inductive Event where
  | storeUser (data : Option Fields)
  | storeFamily (path : DocumentPath) (data : Option Fields)

/-- An error, or a snapshot of the document as it is now. -/
inductive Answer where
  | failed
  | snapshot

/-- The user document as it is now. -/
def State.currentUser? (state : State) : Option Fields := state.user.head?.join

/-- The Family document as it is now. -/
def State.currentFamily? (state : State) (path : DocumentPath) : Option Fields :=
  (state.documents path).head?.join

/-- `document.get("families") as? [String]` of the user document. -/
def State.userFamilies? (state : State) : Option (List String) :=
  state.currentUser?.bind fun data => data.strings? "families"

/-- A force-cast or an unwrap fails, or `document` throws. -/
def State.trap (state : State) : State := { state with trapped := true }

/-- `familyDict[uid] = familyName`; nil takes the entry out. -/
def setName (form : CanonicalForm) (familyDict : String → Option String) (uid : String)
    (familyName : Option String) : String → Option String :=
  fun key => if form.Same key uid then familyName else familyDict key

/-- The loop over the families of a snapshot; `none` where `document` throws. -/
def familyListeners (families : List String) : Option (List Task) :=
  families.mapM fun familyId =>
    (document? familyId).map fun path => .familyListener familyId path none true

/-- The callback of the listener on the user document. -/
def userSnapshot (state : State) : State × List Task :=
  match state.userFamilies?.bind familyListeners with
  | none => (state.trap, [])
  | some listeners => (state, .userListener (some state.user.length) true :: listeners)

/-- The callback of a listener on a Family document; the row is appended before the
`uid!`. -/
def familySnapshot (form : CanonicalForm) (state : State) (familyId : String)
    (path : DocumentPath) : State × List Task :=
  match state.currentFamily? path with
  | none => (state.trap, [])
  | some data =>
      let family := transformFamily data
      let appended := { state with families := state.families ++ [family] }
      match family.uid with
      | none => (appended.trap, [])
      | some uid =>
          ({ appended with familyDict := setName form state.familyDict uid family.familyName },
            [.familyListener familyId path (some (state.documents path).length) true])

/-- Run the callback of one answer. -/
def resume (form : CanonicalForm) (state : State) :
    Task → Answer → Option (State × List Task)
  | .userListener delivered true, .failed => some (state, [.userListener delivered false])
  | .userListener _ true, .snapshot => some (userSnapshot state)
  | .familyListener familyId path delivered true, .failed =>
      some (state, [.familyListener familyId path delivered false])
  | .familyListener familyId path _ true, .snapshot =>
      some (familySnapshot form state familyId path)
  | _, _ => none

/-- Run the handler of one event. -/
def handle (state : State) : Event → State
  | .storeUser data => { state with user := data :: state.user }
  | .storeFamily path data =>
      { state with
        documents := Function.update state.documents path (data :: state.documents path) }

/-- The controller as a program; after a trap nothing happens. -/
def program (form : CanonicalForm) : Program State Event Task Answer where
  handle state event := if state.trapped then none else some (handle state event, [])
  resume state task answer := if state.trapped then none else resume form state task answer

/-- `viewDidLoad` over any documents: `getFamilies` registers the first listener. -/
def opened (user : List (Option Fields)) (documents : DocumentPath → List (Option Fields)) :
    Config State Task where
  state :=
    { families := []
      familyDict := fun _ => none
      user := user
      documents := documents
      trapped := false }
  pool := Pool.empty.issueAll [.userListener none true]

/-- The listeners of a loop that has come to its end. -/
theorem familyListeners_eq_some {families : List String} {listeners : List Task}
    (registered : familyListeners families = some listeners) :
    List.Forall₂ (fun familyId task => ∃ path, document? familyId = some path ∧
      task = .familyListener familyId path none true) families listeners := by
  induction families generalizing listeners with
  | nil =>
      obtain rfl : listeners = [] := by simpa [familyListeners] using registered.symm
      exact List.Forall₂.nil
  | cons familyId rest inductionHypothesis =>
      simp only [familyListeners, List.mapM_cons, Option.bind_eq_bind, Option.bind_eq_some_iff,
        Option.map_eq_some_iff] at registered
      obtain ⟨task, ⟨path, named, rfl⟩, others, restRegistered, same⟩ := registered
      obtain rfl : _ = listeners := Option.some.inj same
      exact List.Forall₂.cons ⟨path, named, rfl⟩ (inductionHypothesis restRegistered)

/-- Where every family is a document path, the loop comes to its end. -/
theorem familyListeners_isSome {families : List String}
    (paths : ∀ familyId ∈ families, (document? familyId).isSome) :
    (familyListeners families).isSome := by
  induction families with
  | nil => rfl
  | cons familyId rest inductionHypothesis =>
      obtain ⟨path, named⟩ := Option.isSome_iff_exists.mp (paths familyId List.mem_cons_self)
      obtain ⟨listeners, registered⟩ := Option.isSome_iff_exists.mp
        (inductionHypothesis fun other member => paths other (List.mem_cons_of_mem _ member))
      simp only [familyListeners] at registered ⊢
      simp [List.mapM_cons, named, registered]

end Familog.Switch
