import Mathlib.Data.List.Basic

/-!
# Sequential machines

A machine reads its inputs one after the other, and answers each from the state
that the earlier ones have led to.  What a view of the state does not show makes
no difference to the answers, if the machine can do without it.
-/

namespace DaZeus.Library

universe u v w x

structure Machine (State : Type u) (Input : Type v) (Output : Type w) where
  next : State → Input → State
  answer : State → Input → Output

namespace Machine

variable {State : Type u} {View : Type x} {Input : Type v} {Output : Type w}

/-- The state after some inputs. -/
def run (machine : Machine State Input Output) (start : State) (inputs : List Input) : State :=
  inputs.foldl machine.next start

/-- The answers to some inputs. -/
def answers (machine : Machine State Input Output) : State → List Input → List Output
  | _, [] => []
  | state, input :: inputs =>
      machine.answer state input :: machine.answers (machine.next state input) inputs

variable (machine : Machine State Input Output)

theorem run_append (start : State) (inputs more : List Input) :
    machine.run start (inputs ++ more) = machine.run (machine.run start inputs) more :=
  List.foldl_append

theorem answers_append (start : State) (inputs more : List Input) :
    machine.answers start (inputs ++ more) =
      machine.answers start inputs ++ machine.answers (machine.run start inputs) more := by
  induction inputs generalizing start with
  | nil => rfl
  | cons input inputs inductionHypothesis =>
      rw [List.cons_append, answers, inductionHypothesis]
      rfl

theorem run_snoc (start : State) (inputs : List Input) (input : Input) :
    machine.run start (inputs ++ [input]) = machine.next (machine.run start inputs) input :=
  machine.run_append start inputs [input]

theorem answers_snoc (start : State) (inputs : List Input) (input : Input) :
    machine.answers start (inputs ++ [input]) =
      machine.answers start inputs ++ [machine.answer (machine.run start inputs) input] :=
  machine.answers_append start inputs [input]

theorem length_answers (start : State) (inputs : List Input) :
    (machine.answers start inputs).length = inputs.length := by
  induction inputs generalizing start with
  | nil => rfl
  | cons input inputs inductionHypothesis =>
      exact congrArg Nat.succ (inductionHypothesis (machine.next start input))

/-- Each input is answered from the state that the earlier ones lead to. -/
theorem answers_at (start : State) (earlier later : List Input) (input : Input) :
    (machine.answers start (earlier ++ input :: later))[earlier.length]? =
      some (machine.answer (machine.run start earlier) input) := by
  rw [answers_append, List.getElem?_append_right (Nat.le_of_eq (length_answers _ _ _)),
    length_answers, Nat.sub_self]
  rfl

/-- A view of the states that the steps respect. -/
theorem run_view {machine : Machine State Input Output} (view : State → View)
    (next : View → Input → View)
    (respects : ∀ state input, view (machine.next state input) = next (view state) input)
    (start : State) (inputs : List Input) :
    view (machine.run start inputs) = inputs.foldl next (view start) := by
  induction inputs generalizing start with
  | nil => rfl
  | cons input inputs inductionHypothesis =>
      rw [List.foldl_cons, ← respects]
      exact inductionHypothesis (machine.next start input)

end Machine

end DaZeus.Library
