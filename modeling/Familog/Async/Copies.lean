import Familog.Async.Program

/-!
Contract: copies of a program that are told of the same events.

Owns a list of copies, each with a profile that chooses its program and with requests of
its own; the step of one copy, and the event that every copy is told of. Owns the rules by
which a property of single copies is kept by both.

Does not own what makes an event known to every copy.
-/

set_option autoImplicit false

namespace Familog.Async

variable {Profile State Event Task Answer : Type*}

/-- One copy, at a point between two callbacks. -/
structure Copy (Profile State Task : Type*) where
  profile : Profile
  config : Config State Task

namespace Copy

variable (program : Profile → Program State Event Task Answer)

/-- The copy is told of an event, which it may be unable to handle. -/
def tell (event : Event) (copy : Copy Profile State Task) : Copy Profile State Task :=
  { copy with
    config := ((program copy.profile).step copy.config (.event event)).getD copy.config }

/-- One of the copies takes a step. -/
def act (copies : List (Copy Profile State Task)) (index : ℕ) (label : Label Event Answer) :
    Option (List (Copy Profile State Task)) :=
  copies[index]?.bind fun copy =>
    ((program copy.profile).step copy.config label).map fun config =>
      copies.set index { copy with config := config }

variable {program}

/-- What a step of one copy does. -/
theorem act_eq_some {copies after : List (Copy Profile State Task)} {index : ℕ}
    {label : Label Event Answer} (acted : act program copies index label = some after) :
    ∃ copy config, copies[index]? = some copy ∧
      (program copy.profile).step copy.config label = some config ∧
      after = copies.set index { copy with config := config } := by
  obtain ⟨copy, found, rest⟩ := Option.bind_eq_some_iff.mp acted
  obtain ⟨config, taken, rfl⟩ := Option.map_eq_some_iff.mp rest
  exact ⟨copy, config, found, taken, rfl⟩

/-- A property of the copies is kept by a step of one of them. -/
theorem forall_act {holds : Copy Profile State Task → Prop}
    {copies after : List (Copy Profile State Task)} {index : ℕ} {label : Label Event Answer}
    (all : ∀ copy ∈ copies, holds copy) (acted : act program copies index label = some after)
    (kept : ∀ {copy : Copy Profile State Task} {config : Config State Task}, holds copy →
      (program copy.profile).step copy.config label = some config →
      holds { copy with config := config }) :
    ∀ copy ∈ after, holds copy := by
  obtain ⟨copy, config, found, taken, rfl⟩ := act_eq_some acted
  intro other member
  rcases List.mem_or_eq_of_mem_set member with old | rfl
  · exact all other old
  · exact kept (all copy (List.mem_of_getElem? found)) taken

/-- It is kept when all copies are told of an event. -/
theorem forall_tell {holds holds' : Copy Profile State Task → Prop}
    {copies : List (Copy Profile State Task)} {event : Event}
    (all : ∀ copy ∈ copies, holds copy)
    (kept : ∀ {copy : Copy Profile State Task}, holds copy → ∃ config,
      (program copy.profile).step copy.config (.event event) = some config ∧
        holds' { copy with config := config }) :
    ∀ copy ∈ copies.map (tell program event), holds' copy := by
  refine List.forall_mem_map.mpr fun copy member => ?_
  obtain ⟨config, taken, after⟩ := kept (all copy member)
  rw [tell, taken]
  exact after

/-- A step of one copy changes no profile. -/
theorem profile_act {copies after : List (Copy Profile State Task)} {index : ℕ}
    {label : Label Event Answer} (acted : act program copies index label = some after) :
    after.map profile = copies.map profile := by
  obtain ⟨copy, config, found, _, rfl⟩ := act_eq_some acted
  obtain ⟨inRange, isCopy⟩ := List.getElem?_eq_some_iff.mp found
  have inMap : index < (copies.map profile).length := by simpa using inRange
  have same : (copies.map profile)[index] = copy.profile := by rw [List.getElem_map, isCopy]
  rw [List.map_set]
  show (copies.map profile).set index copy.profile = copies.map profile
  rw [← same]
  exact List.set_getElem_self inMap

theorem profile_tell {copies : List (Copy Profile State Task)} {event : Event} :
    (copies.map (tell program event)).map profile = copies.map profile := by
  rw [List.map_map]
  rfl

end Copy

end Familog.Async
