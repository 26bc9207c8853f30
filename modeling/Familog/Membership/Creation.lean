import Familog.Membership.Existence

/-!
Contract: what `createTapped` does to the families and channels that are there.

Owns `Undamaged`, and the exact condition under which a creation, run to any
outcome over any data, leaves every Family document as it was and adds no second
channel with an id that is taken: the id is unused, or nothing is written.

`createTapped` writes the Family document by `setData` under whatever text the
id field holds and never asks whether the document exists.
-/

set_option autoImplicit false

namespace Familog.App

open Async Firestore Swift LogInPage MainPage

/-- The later store has two channels with one id that were not both there before. -/
def NewTwin (before after : Store) : Prop :=
  ∃ left right leftFields rightFields id, left ≠ right ∧
    after.channels.get? left = some leftFields ∧ after.channels.get? right = some rightFields ∧
    leftFields.string? "id" = some id ∧ rightFields.string? "id" = some id ∧
    ¬ (before.channels.get? left = some leftFields ∧
      before.channels.get? right = some rightFields)

/-- Every Family document is as it was, and no channel got a twin. -/
structure Undamaged (before after : Store) : Prop where
  families : ∀ path fields, before.families.get? path = some fields →
    after.families.get? path = some fields
  channels : ¬ NewTwin before after

/-- The id names no Family document, or the very document that would be written,
and no channel has it. -/
structure Unused (store : Store) (familyName familyId : String) (path : DocumentPath) : Prop where
  family : ∀ fields, store.families.get? path = some fields →
    fields = familyData familyName familyId
  channel : ∀ key fields, store.channels.get? key = some fields →
    fields.string? "id" ≠ some familyId

theorem Undamaged.refl (store : Store) : Undamaged store store :=
  ⟨fun _ _ found => found, fun ⟨_, _, _, _, _, _, left, right, _, _, new⟩ => new ⟨left, right⟩⟩

/-! ## An unused id does no damage -/

/-- The request that will write the family or its channel. -/
def Task.founds : Task → Prop
  | .create _ (.setData _ _) => True
  | .create _ (.addDocument _ _) => True
  | _ => False

/-- The channels are those of the start, or one more under a fresh key. -/
def ChannelsGrown (store : Store) (familyName familyId : String) (channels : Collection String) :
    Prop :=
  channels = store.channels ∨ ∃ key, store.channels.get? key = none ∧
    channels = store.channels.set key (Channel.representation ⟨some familyId, familyName⟩)

/-- A request of the one creation that runs: it writes the given family, and its
channel only while the channels are those of the start, or belongs to the
read-modify-write of the user document. -/
def OfCreation (store : Store) (familyName familyId : String) (channels : Collection String) :
    Task → Prop
  | .create _ (.setData name id) => name = familyName ∧ id = familyId ∧ channels = store.channels
  | .create _ (.addDocument name id) =>
      name = familyName ∧ id = familyId ∧ channels = store.channels
  | task => task.append? ≠ none

theorem not_founds_of_append {task : Task} (append : task.append? ≠ none) : ¬ task.founds := by
  apply Task.of_append append <;> simp [Task.founds]

theorem OfCreation.of_append {store : Store} {familyName familyId : String}
    {channels : Collection String} {task : Task} (append : task.append? ≠ none) :
    OfCreation store familyName familyId channels task := by
  apply Task.of_append append <;> simp [OfCreation, Task.append?]

/-- What waits beside the request that founds the family does not look at the
channels. -/
theorem OfCreation.append_of_not_founds {store : Store} {familyName familyId : String}
    {channels : Collection String} {task : Task}
    (of : OfCreation store familyName familyId channels task) (other : ¬ task.founds) :
    task.append? ≠ none := by
  unfold OfCreation at of
  split at of
  · exact absurd trivial other
  · exact absurd trivial other
  · exact of

section Founding

variable {form : CanonicalForm} {store : Store} {familyName familyId : String}

/-- The families of the start are there unchanged, and at most one channel was
added. -/
def Intact (store : Store) (familyName familyId : String) (now : Store) : Prop :=
  (∀ path fields, store.families.get? path = some fields →
    now.families.get? path = some fields) ∧
    ChannelsGrown store familyName familyId now.channels

section Step

variable {data next : Data} {task : Task} {answer : Answer} {new : List Task}
  {reports : List (Uid × String)} {path : DocumentPath}

theorem intact_families_set (unused : Unused store familyName familyId path)
    (intact : Intact store familyName familyId data.store) :
    Intact store familyName familyId { data.store with
      families := data.store.families.set path (familyData familyName familyId) } := by
  refine ⟨fun other fields found => ?_, intact.2⟩
  rw [Collection.get?_set]
  split_ifs with here
  · rw [unused.family fields (here ▸ found)]
  · exact intact.1 other fields found

/-- The requests of the user document leave families and channels alone. -/
theorem append_frame (effect : Effect form data task answer next new reports)
    (append : task.append? ≠ none) :
    next.store.families = data.store.families ∧ next.store.channels = data.store.channels ∧
      ∀ request ∈ new, request.append? ≠ none := by
  cases effect with
  | ended => exact ⟨rfl, rfl, by simp⟩
  | userRead pending found issued => exact ⟨rfl, rfl, by simp [issued]⟩
  | arrayMade pending stored array issued => exact ⟨rfl, rfl, by simp [issued]⟩
  | userUpdated pending found => exact ⟨rfl, rfl, by simp⟩
  | _ => exact absurd rfl append

/-- What the creation's own writes do. -/
theorem founds_effect (effect : Effect form data task answer next new reports)
    (named : document? familyId = some path) (unused : Unused store familyName familyId path)
    (intact : Intact store familyName familyId data.store)
    (need : OfCreation store familyName familyId data.store.channels task)
    (founds : task.founds) :
    Intact store familyName familyId next.store ∧
      (∀ request ∈ new, OfCreation store familyName familyId next.store.channels request) ∧
      new.Pairwise fun left right => ¬ (left.founds ∧ right.founds) := by
  cases effect with
  | ended => exact ⟨intact, by simp, List.Pairwise.nil⟩
  | @familySaved session name id saved named' =>
      obtain ⟨rfl, rfl, same⟩ := need
      obtain rfl := Option.some.inj (named'.symm.trans named)
      refine ⟨intact_families_set unused intact, ?_, List.pairwise_pair.mpr fun both => both.2⟩
      intro request member
      rcases List.mem_pair.mp member with rfl | rfl
      · exact ⟨rfl, rfl, same⟩
      · exact OfCreation.of_append (by simp [Task.append?])
  | @channelAdded session name id key free =>
      obtain ⟨rfl, rfl, same⟩ := need
      refine ⟨⟨intact.1, Or.inr ⟨key, same ▸ free, ?_⟩⟩, by simp, List.Pairwise.nil⟩
      simp only [Data.setStore, same]
  | userRead pending found issued =>
      exact absurd founds (not_founds_of_append (by simp [pending]))
  | arrayMade pending stored array issued =>
      exact absurd founds (not_founds_of_append (by simp [pending]))
  | userUpdated pending found =>
      exact absurd founds (not_founds_of_append (by simp [pending]))
  | _ => exact founds.elim

end Step

/-- One creation of an unused id, alone. -/
def founding (form : CanonicalForm) {path : DocumentPath}
    (named : document? familyId = some path) (unused : Unused store familyName familyId path) :
    Outline (program form) fun _ label => label.IsAnswer where
  inv state := Intact store familyName familyId state.store
  need state task := OfCreation store familyName familyId state.store.channels task
  apart left right := ¬ (left.founds ∧ right.founds)
  symmetric apart both := apart both.symm
  handled _ event _ := event.elim
  resumed := by
    intro config ticket answer task state new intact need _ found resumed
    obtain ⟨reports, effect, _⟩ := resume_effect resumed
    by_cases founds : task.founds
    · obtain ⟨intact', fresh, distinct⟩ := founds_effect effect named unused intact need founds
      refine ⟨intact', fresh, ?_, distinct, ?_⟩
      · rintro other ⟨of, apart⟩
        exact .of_append (of.append_of_not_founds fun both => apart ⟨founds, both⟩)
      · rintro other ⟨_, apart⟩ request _ both
        exact apart ⟨founds, both.1⟩
    · obtain ⟨families, channels, fresh⟩ := append_frame effect (need.append_of_not_founds founds)
      have quiet := fun request member => not_founds_of_append (fresh request member)
      refine ⟨?_, fun request member => .of_append (fresh request member), ?_, ?_, ?_⟩
      · show Intact store familyName familyId state.store
        rwa [Intact, families, channels]
      · rintro other ⟨of, _⟩
        show OfCreation store familyName familyId state.store.channels other
        rwa [channels]
      · exact List.pairwise_of_forall_mem_list fun left member _ _ both => quiet left member both.1
      · rintro other _ request member both
        exact quiet request member both.2

/-- A channel that was added under a fresh key and an unused id has no twin. -/
theorem undamaged_of_intact {now : Store} {path : DocumentPath}
    (unused : Unused store familyName familyId path)
    (intact : Intact store familyName familyId now) : Undamaged store now := by
  refine ⟨intact.1, ?_⟩
  rintro ⟨left, right, leftFields, rightFields, id, different, leftFound, rightFound, leftId,
    rightId, new⟩
  rcases intact.2 with same | ⟨key, fresh, added⟩
  · exact new ⟨same ▸ leftFound, same ▸ rightFound⟩
  · rw [added, Collection.get?_set] at leftFound rightFound
    split_ifs at leftFound rightFound with isLeft isRight isRight
    · exact different (isLeft.trans isRight.symm)
    · rw [← Option.some.inj leftFound, representation_id] at leftId
      exact unused.channel right rightFields rightFound (rightId.trans leftId.symm)
    · rw [← Option.some.inj rightFound, representation_id] at rightId
      exact unused.channel left leftFields leftFound (leftId.trans rightId.symm)
    · exact new ⟨leftFound, rightFound⟩

end Founding

/-! ## A taken id does damage -/

/-- A creation in which both writes succeed. -/
theorem run_founded {form : CanonicalForm} {state : AppState} (session : Session)
    (familyNameText : String) {familyId key : String} {path : DocumentPath}
    (account : session.user ∈ state.accounts) (filled : trimmingCharacters familyNameText ≠ "")
    (named : document? familyId = some path) (fresh : state.store.channels.get? key = none) :
    ∃ last, (program form).run (Program.start state)
        [.event (.createTapped session familyNameText familyId), .answer 0 .succeeded,
          .answer 1 (.assigned key)] = some last ∧
      last.state.store.families =
        state.store.families.set path (familyData (trimmingCharacters familyNameText) familyId) ∧
      last.state.store.channels = state.store.channels.set key
        (Channel.representation ⟨some familyId, trimmingCharacters familyNameText⟩) := by
  let name := trimmingCharacters familyNameText
  let tap := Event.createTapped session familyNameText familyId
  let save := Task.create session (.setData name familyId)
  let add := Task.create session (.addDocument name familyId)
  let append := Task.create session (.append familyId .getDocument)
  let first : AppState := { state with shown := state.shown ++ [(.tap tap, .showing "Waiting...")] }
  let second : AppState := { first with
    store := { state.store with
      families := state.store.families.set path (familyData name familyId) } }
  let third : AppState := { second with
    store := { second.store with
      channels := second.store.channels.set key (Channel.representation ⟨some familyId, name⟩) } }
  let pending : Pool Task := (Pool.empty.issueAll [save]).remove 0
  have tapped : (program form).step (Program.start state) (.event tap) =
      some ⟨first, Pool.empty.issueAll [save]⟩ := by
    simp [Program.step, Program.start, program, handle, AppState.signedIn, account, tap,
      AppState.tapped, CreateFamily.createTapped, filled, named, first, save, name]
  have saved : (program form).step ⟨first, Pool.empty.issueAll [save]⟩
      (.answer 0 .succeeded) = some ⟨second, pending.issueAll [add, append]⟩ := by
    have found : (Pool.empty.issueAll [save]).find? 0 = some save := rfl
    simp [Program.step, found, program, resume, CreateFamily.resume, named, AppState.after,
      Outcome.issues, save, add, append, second, first, pending]
  have added : (program form).step ⟨second, pending.issueAll [add, append]⟩
      (.answer 1 (.assigned key)) = some ⟨third, (pending.issueAll [add, append]).remove 1⟩ := by
    have found : (pending.issueAll [add, append]).find? 1 = some add := rfl
    have fresh' : second.store.channels.get? key = none := fresh
    simp only [Program.step, found, Option.bind_some]
    simp [program, resume, CreateFamily.resume, fresh', AppState.after, Outcome.ends, add, third,
      Pool.issueAll]
  exact ⟨_, Program.run_cons.mpr ⟨_, tapped, Program.run_cons.mpr ⟨_, saved,
    Program.run_cons.mpr ⟨_, added, rfl⟩⟩⟩, rfl, rfl⟩

section Alone

variable {form : CanonicalForm} {state : AppState} {session : Session}
  {familyNameText familyIdText : String}

/-- If no outcome does damage, the id is unused: the answers of `run_founded` are one. -/
theorem unused_of_undamaged {path : DocumentPath} (account : session.user ∈ state.accounts)
    (filled : trimmingCharacters familyNameText ≠ "")
    (named : document? familyIdText = some path)
    (undamaged : ∀ answers last, (∀ label ∈ answers, Label.IsAnswer label) →
      (program form).run (Program.start state)
        (.event (.createTapped session familyNameText familyIdText) :: answers) = some last →
      Undamaged state.store last.state.store) :
    Unused state.store (trimmingCharacters familyNameText) familyIdText path := by
  obtain ⟨key, fresh⟩ := state.store.channels.exists_unused
  obtain ⟨last, ran, families, channels⟩ :=
    run_founded session familyNameText account filled named fresh
  have intact := undamaged _ last (by simp [Label.IsAnswer]) ran
  constructor
  · intro fields found
    have kept := intact.families path fields found
    rw [families, Collection.get?_set_self] at kept
    exact (Option.some.inj kept).symm
  · intro other fields found taken
    refine intact.channels ⟨other, key, fields, _, familyIdText, ?_, ?_,
      by rw [channels]; exact Collection.get?_set_self _ _ _, taken, representation_id _, ?_⟩
    · rintro rfl
      simp [fresh] at found
    · rw [channels, Collection.get?_set_of_ne, found]
      rintro rfl
      simp [fresh] at found
    · simp [fresh]

/-- The tap does no damage, and what it asks for, if anything, is the write of the family. -/
theorem created_step {next : Config AppState Task}
    (taken : (program form).step (Program.start state)
      (.event (.createTapped session familyNameText familyIdText)) = some next) :
    next.state.store = state.store ∧
      (next.pool.tasks = [] ∨
        trimmingCharacters familyNameText ≠ "" ∧ document? familyIdText ≠ none ∧
          next.pool.tasks =
            [.create session (.setData (trimmingCharacters familyNameText) familyIdText)]) := by
  obtain ⟨event, new, same, handled, tasks⟩ | ⟨_, _, _, _, same, _⟩ := Program.step_cases taken
  · obtain rfl : Event.createTapped session familyNameText familyIdText = event :=
      Label.event.inj same
    have tapped : handle form state (.createTapped session familyNameText familyIdText) =
        some (next.state, new) := handled
    obtain ⟨asked, data, _⟩ := handle_asked tapped
    refine ⟨by rw [data], ?_⟩
    rw [tasks]
    cases asked with
    | nothing => exact Or.inl rfl
    | create filled named => exact Or.inr ⟨filled, by simp [named], rfl⟩
  · simp at same

/-- `createTapped` runs alone over any data, with any family name and any content
of the id field. It leaves every Family document unchanged and adds no second
channel with one id, whatever its outcome, if and only if it stops before its
first write or the id is unused. -/
theorem creation_undamaged_iff {form : CanonicalForm} {state : AppState} {session : Session}
    {familyNameText familyIdText : String} (account : session.user ∈ state.accounts) :
    (∀ answers last, (∀ label ∈ answers, Label.IsAnswer label) →
      (program form).run (Program.start state)
        (.event (.createTapped session familyNameText familyIdText) :: answers) = some last →
      Undamaged state.store last.state.store) ↔
    trimmingCharacters familyNameText = "" ∨ document? familyIdText = none ∨
      ∃ path, document? familyIdText = some path ∧
        Unused state.store (trimmingCharacters familyNameText) familyIdText path := by
  constructor
  · intro undamaged
    by_cases filled : trimmingCharacters familyNameText = ""
    · exact Or.inl filled
    · cases named : document? familyIdText with
      | none => exact Or.inr (Or.inl rfl)
      | some path =>
          exact Or.inr (Or.inr
            ⟨path, rfl, unused_of_undamaged account filled named undamaged⟩)
  · intro condition answers last allAnswers ran
    obtain ⟨next, taken, rest⟩ := Program.run_cons.mp ran
    obtain ⟨store, idle | ⟨filled, named, tasks⟩⟩ := created_step taken
    · obtain rfl := Program.run_idle idle allAnswers rest
      rw [store]
      exact .refl state.store
    · obtain empty | thrown | ⟨path, isPath, unused⟩ := condition
      · exact absurd empty filled
      · exact absurd thrown named
      · refine undamaged_of_intact unused
          ((founding form isPath unused).run ⟨?_, ?_, ?_⟩
            (Program.obeys_of_forall_mem allAnswers) rest).inv
        · show Intact state.store _ _ next.state.store
          rw [store]
          exact ⟨fun _ _ found => found, Or.inl rfl⟩
        · intro task member
          rw [tasks] at member
          rw [List.mem_singleton.mp member]
          exact ⟨rfl, rfl, by rw [store]⟩
        · simp [tasks]

end Alone

/-- One user has created the family "abc"; another creates "abc" again. The first
family's document is replaced. -/
theorem second_creation_overwrites :
    ∃ reached last, (program .scalars).run (Program.start AppState.empty)
        (signUps ++ creation "abc") = some reached ∧ reached.pool.tasks = [] ∧
      (program .scalars).run (Program.start reached.state)
        [.event (.createTapped ⟨userB, 0⟩ "Second" "abc"), .answer 0 .succeeded,
          .answer 1 (.assigned "other")] = some last ∧
      ¬ Undamaged reached.state.store last.state.store := by
  obtain ⟨reached, ran, idle, account, name, fresh⟩ : ∃ reached, (program .scalars).run
      (Program.start AppState.empty) (signUps ++ creation "abc") = some reached ∧
      reached.pool.tasks = [] ∧ userB ∈ reached.state.accounts ∧
      (reached.state.store.familyNamed "abc").bind (fun data => data.string? "familyName") =
        some "First" ∧
      (reached.state.store.channels.get? "other").isNone :=
    Program.exists_run (by decide)
  obtain ⟨fields, found, first⟩ := Option.bind_eq_some_iff.mp name
  obtain ⟨path, named, stored⟩ := Store.familyNamed_eq_some.mp found
  obtain ⟨last, ran', families, _⟩ := run_founded ⟨userB, 0⟩ "Second" account (by decide) named
    (Option.isNone_iff_eq_none.mp fresh)
  refine ⟨reached, last, ran, idle, ran', fun undamaged => ?_⟩
  have kept := undamaged.families path fields stored
  rw [families, Collection.get?_set_self] at kept
  rw [← Option.some.inj kept] at first
  exact absurd first (by decide)

/-- A creation under a new id leaves the two families that are there alone. -/
theorem fresh_creation_undamaged :
    ∃ last, (program .scalars).run (Program.start (startingFrom twoFamilies [userA]))
        [.event (.createTapped ⟨userA, 0⟩ "Third" "third"), .answer 0 .succeeded,
          .answer 1 (.assigned "channel"), .answer 2 .succeeded,
          .answer 3 (.listed ["third"]), .answer 4 .succeeded] = some last ∧
      Undamaged twoFamilies last.state.store := by
  obtain ⟨last, ran, _⟩ : ∃ last, (program .scalars).run
      (Program.start (startingFrom twoFamilies [userA]))
        [.event (.createTapped ⟨userA, 0⟩ "Third" "third"), .answer 0 .succeeded,
          .answer 1 (.assigned "channel"), .answer 2 .succeeded,
          .answer 3 (.listed ["third"]), .answer 4 .succeeded] = some last ∧
      last.pool.tasks = [] :=
    Program.exists_run (by decide)
  have named : document? "third" = some ⟨["third"], rfl, by decide⟩ := by decide
  refine ⟨last, ran, (creation_undamaged_iff (by decide)).mpr
    (Or.inr (Or.inr ⟨_, named, fun fields found => ?_, fun key fields found => ?_⟩)) _ last
    (by simp [Label.IsAnswer]) ran⟩
  · have missing : (twoFamilies.families.get? ⟨["third"], rfl, by decide⟩).isNone := by decide
    simp [startingFrom, Option.isNone_iff_eq_none.mp missing] at found
  · simp [startingFrom, twoFamilies, Store.empty] at found

end Familog.App
