import Mathlib.Logic.Relation

/-!
# Labelled transition systems

Runs, reachable states and the one induction every safety result uses: an
invariant that holds initially and survives each step holds in every state
reached.  `guard` restricts a system to the steps that meet a condition on
the state before the step and the label.
-/

namespace DaZeus.Library

universe u v

structure TransitionSystem (State : Type u) (Label : Type v) where
  initial : State → Prop
  step : State → Label → State → Prop

namespace TransitionSystem

variable {State : Type u} {Label : Type v}

/-- Some label leads from the first state to the second. -/
def Next (system : TransitionSystem State Label) (before after : State) : Prop :=
  ∃ label, system.step before label after

/-- A finite run leads from the first state to the second. -/
def Reaches (system : TransitionSystem State Label) : State → State → Prop :=
  Relation.ReflTransGen system.Next

def Reachable (system : TransitionSystem State Label) (state : State) : Prop :=
  ∃ start, system.initial start ∧ system.Reaches start state

/-- The same system with only the allowed steps. -/
def guard (system : TransitionSystem State Label)
    (allowed : State → Label → Prop) : TransitionSystem State Label where
  initial := system.initial
  step before label after := allowed before label ∧ system.step before label after

variable {system : TransitionSystem State Label}

theorem Reaches.refl (state : State) : system.Reaches state state :=
  Relation.ReflTransGen.refl

theorem Reaches.snoc {start middle finish : State} {label : Label}
    (run : system.Reaches start middle) (step : system.step middle label finish) :
    system.Reaches start finish :=
  run.tail ⟨label, step⟩

theorem Reachable.start {state : State} (initial : system.initial state) :
    system.Reachable state :=
  ⟨state, initial, .refl state⟩

theorem Reachable.snoc {before after : State} (reached : system.Reachable before)
    (label : Label) (step : system.step before label after) : system.Reachable after := by
  obtain ⟨start, initial, run⟩ := reached
  exact ⟨start, initial, run.snoc step⟩

/-- Where every step of one system is a step of another, so is every run. -/
theorem Reaches.mono {other : TransitionSystem State Label}
    (kept : ∀ {before label after}, system.step before label after →
      other.step before label after)
    {start finish : State} (run : system.Reaches start finish) : other.Reaches start finish := by
  induction run with
  | refl => exact .refl start
  | tail _ next inductionHypothesis =>
      obtain ⟨label, step⟩ := next
      exact inductionHypothesis.snoc (kept step)

theorem Reachable.append {start finish : State} (reached : system.Reachable start)
    (run : system.Reaches start finish) : system.Reachable finish := by
  obtain ⟨initial, begun, earlier⟩ := reached
  exact ⟨initial, begun, earlier.trans run⟩

/-- What every step preserves, every run preserves. -/
theorem Reaches.invariant {motive : State → Prop}
    (preserved : ∀ {before label after},
      motive before → system.step before label after → motive after)
    {start finish : State} (run : system.Reaches start finish)
    (holds : motive start) : motive finish := by
  induction run with
  | refl => exact holds
  | tail _ next inductionHypothesis =>
      obtain ⟨label, step⟩ := next
      exact preserved inductionHypothesis step

/-- What holds initially and survives every step holds in every state reached. -/
theorem Reachable.invariant {motive : State → Prop}
    (established : ∀ {state}, system.initial state → motive state)
    (preserved : ∀ {before label after},
      motive before → system.step before label after → motive after)
    {state : State} (reached : system.Reachable state) : motive state := by
  obtain ⟨start, initial, run⟩ := reached
  exact run.invariant preserved (established initial)

/-- A run with allowed steps only is a run. -/
theorem Reachable.of_guard {allowed : State → Label → Prop} {state : State}
    (reached : (system.guard allowed).Reachable state) : system.Reachable state :=
  reached.invariant (fun initial => ⟨_, initial, .refl _⟩)
    fun reached step => reached.snoc _ step.2

end TransitionSystem

end DaZeus.Library
