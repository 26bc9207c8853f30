import Familog.Async.Rely

/-!
Contract: programs that can be asked only for what they have shown.

Owns the program that remembers everything its states have shown, and takes an event only if
what the event asks for is among it; and the rule of rely and guarantee for it: a fact about
items that holds of all that is shown, as long as nothing is asked for but items of which it
holds, holds of everything that is ever shown.

Does not own what an item is.
-/

set_option autoImplicit false

namespace Familog.Async

variable {State Event Task Answer Item : Type*}

/-- The program with the list of what it has shown; an event has to ask for nothing else. -/
def Program.revealing (program : Program State Event Task Answer) (shows : State → List Item)
    (opens : List Item → Event → Prop) [∀ past event, Decidable (opens past event)] :
    Program (State × List Item) Event Task Answer where
  handle state event :=
    if opens state.2 event then
      (program.handle state.1 event).map fun result =>
        ((result.1, state.2 ++ shows result.1), result.2)
    else none
  resume state task answer :=
    (program.resume state.1 task answer).map fun result =>
      ((result.1, state.2 ++ shows result.1), result.2)

namespace Relies

variable {program : Program State Event Task Answer} {atEvent : State → Event → Prop}
  {atAnswer : State → Task → Answer → Prop} {inv : State → Prop} {need : State → Task → Prop}
  {moves : State → State → Prop}

/-- Where all that is shown has the property, and asking for such items is all right,
everything that is ever shown has it. -/
theorem revealing (relies : Relies program atEvent atAnswer inv need moves)
    (shows : State → List Item) (opens : List Item → Event → Prop)
    [∀ past event, Decidable (opens past event)] (asked : State → Event → Prop)
    {fact : Item → Prop} (shown : ∀ {state}, inv state → ∀ item ∈ shows state, fact item)
    (opened : ∀ {past state event}, (∀ item ∈ past, fact item) → opens past event →
      asked state event → atEvent state event) :
    Relies (program.revealing shows opens) (fun state => asked state.1)
      (fun state => atAnswer state.1) (fun state => inv state.1 ∧ ∀ item ∈ state.2, fact item)
      (fun state => need state.1) (fun state next => moves state.1 next.1) where
  handled {state next event new} holds allowed handled := by
    obtain ⟨kept, past⟩ := holds
    simp only [Program.revealing] at handled
    split_ifs at handled with mayOpen
    obtain ⟨result, acted, same⟩ := Option.map_eq_some_iff.mp handled
    obtain ⟨rfl, rfl⟩ := Prod.mk.inj same
    obtain ⟨after, fresh, moved⟩ := relies.handled kept (opened past mayOpen allowed) acted
    exact ⟨⟨after, List.forall_mem_append.mpr ⟨past, shown after⟩⟩, fresh, moved⟩
  resumed {state next task answer new} holds needs allowed resumed := by
    obtain ⟨kept, past⟩ := holds
    obtain ⟨result, acted, same⟩ := Option.map_eq_some_iff.mp resumed
    obtain ⟨rfl, rfl⟩ := Prod.mk.inj same
    obtain ⟨after, fresh, moved⟩ := relies.resumed kept needs allowed acted
    exact ⟨⟨after, List.forall_mem_append.mpr ⟨past, shown after⟩⟩, fresh, moved⟩
  stable moved needs := relies.stable moved needs

end Relies

end Familog.Async
