import Mathlib.Data.List.Basic

/-!
# Queues in which some items wait

Items are put into a queue.  Now and then it is served: the items of some kinds
wait, and every other item leaves.  Within a kind nothing is lost, doubled or
overtaken.
-/

namespace DaZeus.Library

universe u v

variable {Item : Type u} {Kind : Type v} [DecidableEq Kind] {kindOf : Item → Kind}
  {asked queue gone : List Item}

/-- Of each kind, those that have gone and then those in the queue are the items that were put
in. -/
def InOrder (kindOf : Item → Kind) (asked queue gone : List Item) : Prop :=
  ∀ kind, asked.filter (kindOf · = kind) =
    gone.filter (kindOf · = kind) ++ queue.filter (kindOf · = kind)

namespace InOrder

theorem empty : InOrder kindOf [] [] [] := fun _ => rfl

theorem put (inOrder : InOrder kindOf asked queue gone) (items : List Item) :
    InOrder kindOf (asked ++ items) (queue ++ items) gone := by
  intro kind
  rw [List.filter_append, List.filter_append, inOrder kind, List.append_assoc]

/-- All items of a kind wait, or none does. -/
theorem serve (inOrder : InOrder kindOf asked queue gone) (waits : Item → Prop)
    [DecidablePred waits]
    (alike : ∀ {first second}, kindOf first = kindOf second → (waits first ↔ waits second)) :
    InOrder kindOf asked (queue.filter (waits ·))
      (gone ++ queue.filter fun item => ¬waits item) := by
  intro kind
  let ofKind := queue.filter (kindOf · = kind)
  have same {item : Item} (inside : item ∈ ofKind) : kindOf item = kind := by
    simpa using (List.mem_filter.mp inside).2
  have left : (queue.filter (waits ·)).filter (kindOf · = kind) = ofKind.filter (waits ·) :=
    List.filter_comm _ _ queue
  have leaving : (queue.filter fun item => ¬waits item).filter (kindOf · = kind) =
      ofKind.filter fun item => ¬waits item :=
    List.filter_comm _ _ queue
  rw [List.filter_append, left, leaving, inOrder kind, List.append_assoc]
  apply congrArg (gone.filter (kindOf · = kind) ++ ·)
  by_cases held : ∃ item ∈ ofKind, waits item
  · obtain ⟨one, inside, stays⟩ := held
    have all : ∀ item ∈ ofKind, waits item := fun item other =>
      (alike ((same inside).trans (same other).symm)).mp stays
    have none : (ofKind.filter fun item => ¬waits item) = [] := by
      apply List.filter_eq_nil_iff.mpr
      intro item other
      simp [all item other]
    rw [none, List.nil_append]
    exact (List.filter_eq_self.mpr fun item other => decide_eq_true (all item other)).symm
  · have free : ∀ item ∈ ofKind, ¬waits item := fun item inside stays => held ⟨item, inside, stays⟩
    have none : ofKind.filter (waits ·) = [] := by
      apply List.filter_eq_nil_iff.mpr
      intro item inside
      simpa using free item inside
    rw [none, List.append_nil]
    exact (List.filter_eq_self.mpr fun item inside => decide_eq_true (free item inside)).symm

/-- Each item that was put in is in the queue or has gone, as often as it was put in. -/
theorem count_eq [DecidableEq Item] (inOrder : InOrder kindOf asked queue gone) (item : Item) :
    gone.count item + queue.count item = asked.count item := by
  have ofKind (items : List Item) :
      (items.filter (kindOf · = kindOf item)).count item = items.count item :=
    List.count_filter (by simp)
  have counted := congrArg (List.count item) (inOrder (kindOf item))
  rw [List.count_append, ofKind, ofKind, ofKind] at counted
  exact counted.symm

end InOrder

end DaZeus.Library
