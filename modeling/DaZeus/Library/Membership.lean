import Mathlib.Data.List.Nodup

/-!
# Sets kept as lists

A set is a list without repetitions: an element is put in at the end unless it
is there, and taken out wherever it is.
-/

namespace DaZeus.Library

universe u

variable {Element : Type u}

/-- An element is put in, or taken out. -/
structure Change (Element : Type u) where
  puts : Bool
  element : Element

variable [DecidableEq Element]

namespace Change

def apply (members : List Element) (change : Change Element) : List Element :=
  if change.puts then
    if change.element ∈ members then members else members ++ [change.element]
  else
    members.filter fun other => decide (other ≠ change.element)

/-- What the change says about one element. -/
def about (element : Element) (change : Change Element) : Option Bool :=
  if change.element = element then some change.puts else none

variable {members : List Element} {change : Change Element} {element : Element}

theorem mem_apply :
    element ∈ change.apply members ↔
      (change.about element).getD (decide (element ∈ members)) = true := by
  unfold apply about
  by_cases same : change.element = element
  · subst same
    rw [if_pos rfl, Option.getD_some]
    cases change.puts with
    | true =>
        rw [if_pos rfl]
        split
        · next present => simp [present]
        · simp
    | false => simp
  · rw [if_neg same, Option.getD_none, decide_eq_true_eq]
    cases change.puts with
    | true =>
        rw [if_pos rfl]
        split
        · rfl
        · simp [Ne.symm same]
    | false => simp [Ne.symm same]

theorem nodup_apply (distinct : members.Nodup) : (change.apply members).Nodup := by
  unfold apply
  split
  · split
    · exact distinct
    · next absent => exact List.nodup_append.mpr ⟨distinct, List.nodup_singleton _, by grind⟩
  · exact distinct.filter _

/-- The size changes if the change makes a difference. -/
theorem length_apply (change : Change Element) (distinct : members.Nodup) :
    ((change.apply members).length : Int) = members.length +
      if change.puts = decide (change.element ∈ members) then 0
      else if change.puts then 1 else -1 := by
  unfold apply
  cases change.puts with
  | true =>
      by_cases present : change.element ∈ members <;> simp [present]
  | false =>
      have removed : (members.filter fun other => decide (other ≠ change.element)) =
          members.erase change.element := by
        rw [distinct.erase_eq_filter]
        apply List.filter_congr
        intro other _
        rw [Bool.eq_iff_iff, bne_iff_ne, decide_eq_true_eq]
      simp only [Bool.false_eq_true, if_false, removed]
      by_cases present : change.element ∈ members
      · have some := List.length_pos_of_mem present
        rw [List.length_erase_of_mem present]
        simp only [present, decide_true, Bool.false_eq_true, if_false]
        omega
      · rw [List.erase_of_not_mem present]
        simp [present]

/-- Several elements are put in, or taken out. -/
theorem mem_foldl_apply (puts : Bool) (elements : List Element) :
    element ∈ (elements.map (Change.mk puts)).foldl apply members ↔
      element ∈ elements ∧ puts = true ∨ element ∉ elements ∧ element ∈ members := by
  induction elements generalizing members with
  | nil => simp
  | cons first elements inductionHypothesis =>
      rw [List.map_cons, List.foldl_cons, inductionHypothesis, mem_apply]
      unfold about
      by_cases later : element ∈ elements
      · simp [later]
      · by_cases same : first = element
        · subst same
          simp [later]
        · simp [later, same, Ne.symm same]

theorem nodup_foldl_apply (distinct : members.Nodup) (changes : List (Change Element)) :
    (changes.foldl apply members).Nodup := by
  induction changes generalizing members with
  | nil => exact distinct
  | cons change changes inductionHypothesis => exact inductionHypothesis (nodup_apply distinct)

end Change

end DaZeus.Library
