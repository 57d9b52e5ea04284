/-!
# Steps that emit items

Each step of a machine emits a list of items, often none.  A run emits what its
steps do, one after the other.  If the steps are determined by the state, a run
that cannot go on is unique, and if they survive that a state is extended, it
makes no difference when the extension comes.
-/

namespace DaZeus.Library

universe u v w

/-- A run from the first state to the second, with all that it emits. -/
inductive Emits {State : Type u} {Item : Type v} (step : State → List Item → State → Prop) :
    State → List Item → State → Prop
  | refl (state : State) : Emits step state [] state
  | head {first middle last : State} {items rest : List Item} (emitted : step first items middle)
      (later : Emits step middle rest last) : Emits step first (items ++ rest) last

/-- The machine cannot go on. -/
def Stopped {State : Type u} {Item : Type v} (step : State → List Item → State → Prop)
    (state : State) : Prop :=
  ∀ items next, ¬step state items next

/-- A state has one step at most. -/
def Determined {State : Type u} {Item : Type v} (step : State → List Item → State → Prop) : Prop :=
  ∀ ⦃state items next others other⦄, step state items next → step state others other →
    items = others ∧ next = other

namespace Emits

variable {State : Type u} {Item : Type v} {step : State → List Item → State → Prop}
  {first middle last : State} {items others : List Item}

theorem trans (earlier : Emits step first items middle) (later : Emits step middle others last) :
    Emits step first (items ++ others) last := by
  induction earlier with
  | refl => exact later
  | head emitted _ inductionHypothesis =>
      rw [List.append_assoc]
      exact .head emitted (inductionHypothesis later)

/-- What no step loses, no run loses. -/
theorem invariant {motive : State → Prop}
    (kept : ∀ {state items next}, step state items next → motive state → motive next)
    (run : Emits step first items last) (holds : motive first) : motive last := by
  induction run with
  | refl => exact holds
  | head emitted _ inductionHypothesis => exact inductionHypothesis (kept emitted holds)

/-- Where every step of one machine is a step of another, so is every run. -/
theorem map {Extended : Type w} {other : Extended → List Item → Extended → Prop}
    {extend : State → Extended}
    (kept : ∀ {state items next}, step state items next → other (extend state) items (extend next))
    (run : Emits step first items last) : Emits other (extend first) items (extend last) := by
  induction run with
  | refl state => exact .refl (extend state)
  | head emitted _ inductionHypothesis => exact .head (kept emitted) inductionHypothesis

/-- A run, an extension, and what becomes possible with it, or the extension at once. -/
theorem extend {extend : State → State}
    (kept : ∀ {state items next}, step state items next → step (extend state) items (extend next))
    (earlier : Emits step first items middle)
    (later : Emits step (extend middle) others last) :
    Emits step (extend first) (items ++ others) last := by
  have extended : Emits step (extend first) items (extend middle) := earlier.map kept
  exact extended.trans later

/-- Two runs as far as possible are one. -/
theorem unique {finish : State} (determined : Determined step)
    (run : Emits step first items last) (stopped : Stopped step last)
    (other : Emits step first others finish) (halted : Stopped step finish) :
    items = others ∧ last = finish := by
  induction run generalizing others with
  | refl state =>
      cases other with
      | refl => exact ⟨rfl, rfl⟩
      | head emitted later => exact absurd emitted (stopped _ _)
  | head emitted _ inductionHypothesis =>
      cases other with
      | refl => exact absurd emitted (halted _ _)
      | head emittedToo later =>
          obtain ⟨rfl, rfl⟩ := determined emitted emittedToo
          obtain ⟨rfl, same⟩ := inductionHypothesis stopped later
          exact ⟨rfl, same⟩

end Emits

end DaZeus.Library
