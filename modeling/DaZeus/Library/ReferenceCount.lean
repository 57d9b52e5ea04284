import Mathlib.Data.Finset.Card

/-!
# Reference counts

A value is freed with its last reference, unless it is a constant, the
references to which are not counted.  The counts are balanced when every
holder answers for the one reference it has; each rule below is about one
thing that a holder can do.
-/

namespace DaZeus.Library

universe u v

inductive Refcount where
  | constant
  | counted (count : Nat)
  deriving DecidableEq

/-- What taking a reference and giving one back do to a count. -/
structure Counting where
  incref : Refcount → Refcount
  /-- `none` if the value is freed. -/
  decref : Refcount → Option Refcount

/-- Nothing is said about counts of zero, which no value has. -/
structure Counting.Lawful (counting : Counting) : Prop where
  incref_constant : counting.incref .constant = .constant
  decref_constant : counting.decref .constant = some .constant
  incref_counted : ∀ count, 0 < count →
    counting.incref (.counted count) = .counted (count + 1)
  decref_counted : ∀ count, 0 < count →
    counting.decref (.counted (count + 1)) = some (.counted count)
  decref_last : counting.decref (.counted 1) = none

section Definitions

variable {Holder : Type u} {Value : Type v} [DecidableEq Value]

/-- The counts after a reference to the value was taken. -/
def Counting.take (counting : Counting) (counts : Value → Option Refcount) (value : Value) :
    Value → Option Refcount :=
  Function.update counts value ((counts value).map counting.incref)

/-- The counts after a reference to the value was given back. -/
def Counting.giveBack (counting : Counting) (counts : Value → Option Refcount) (value : Value) :
    Value → Option Refcount :=
  Function.update counts value ((counts value).bind counting.decref)

/-- How many holders have the value. -/
def holders (live : Finset Holder) (held : Holder → Option Value) (value : Value) : Nat :=
  (live.filter fun holder => held holder = some value).card

/-- The count of a value that so many holders have; `none` is a value that does not exist. -/
def Fits : Option Refcount → Nat → Prop
  | none, number => number = 0
  | some .constant, _ => True
  | some (.counted count), number => count = number ∧ 0 < number

instance : ∀ refcount number, Decidable (Fits refcount number)
  | none, number => inferInstanceAs (Decidable (number = 0))
  | some .constant, _ => inferInstanceAs (Decidable True)
  | some (.counted count), number => inferInstanceAs (Decidable (count = number ∧ 0 < number))

def Balanced (counts : Value → Option Refcount) (live : Finset Holder)
    (held : Holder → Option Value) : Prop :=
  ∀ value, Fits (counts value) (holders live held value)

end Definitions

/-! ## One count -/

section Fits

variable {counting : Counting} {refcount : Option Refcount} {number : Nat}

theorem Fits.incref (lawful : counting.Lawful) (fits : Fits refcount number)
    (allocated : refcount ≠ none) : Fits (refcount.map counting.incref) (number + 1) := by
  cases refcount with
  | none => exact absurd rfl allocated
  | some refcount =>
      cases refcount with
      | constant =>
          rw [Option.map_some, lawful.incref_constant]
          trivial
      | counted count =>
          obtain ⟨rfl, some⟩ := fits
          rw [Option.map_some, lawful.incref_counted count some]
          exact ⟨rfl, Nat.succ_pos count⟩

/-- What becomes of the count of a value that somebody has. -/
theorem Fits.decref_cases (lawful : counting.Lawful) (fits : Fits refcount (number + 1)) :
    (refcount = some .constant ∧ refcount.bind counting.decref = some .constant) ∨
      (refcount = some (.counted 1) ∧ number = 0 ∧ refcount.bind counting.decref = none) ∨
      ∃ rest, refcount = some (.counted (rest + 2)) ∧ number = rest + 1 ∧
        refcount.bind counting.decref = some (.counted (rest + 1)) := by
  cases refcount with
  | none => exact absurd fits (Nat.succ_ne_zero number)
  | some refcount =>
      cases refcount with
      | constant => exact .inl ⟨rfl, lawful.decref_constant⟩
      | counted count =>
          obtain ⟨rfl, -⟩ := fits
          cases number with
          | zero => exact .inr (.inl ⟨rfl, rfl, lawful.decref_last⟩)
          | succ rest =>
              exact .inr (.inr ⟨rest, rfl, rfl, lawful.decref_counted _ (Nat.succ_pos rest)⟩)

theorem Fits.decref (lawful : counting.Lawful) (fits : Fits refcount (number + 1)) :
    Fits (refcount.bind counting.decref) number := by
  obtain ⟨-, after⟩ | ⟨-, rfl, after⟩ | ⟨rest, -, rfl, after⟩ := fits.decref_cases lawful
  · rw [after]
    trivial
  · rw [after]
    rfl
  · rw [after]
    exact ⟨rfl, Nat.succ_pos rest⟩

theorem Fits.decref_eq_none_iff (lawful : counting.Lawful) (fits : Fits refcount (number + 1)) :
    refcount.bind counting.decref = none ↔ refcount = some (.counted 1) := by
  obtain ⟨rfl, after⟩ | ⟨rfl, -, after⟩ | ⟨rest, rfl, -, after⟩ := fits.decref_cases lawful
  all_goals simp [after]

theorem Fits.decref_eq_constant_iff (lawful : counting.Lawful)
    (fits : Fits refcount (number + 1)) :
    refcount.bind counting.decref = some .constant ↔ refcount = some .constant := by
  obtain ⟨rfl, after⟩ | ⟨rfl, -, after⟩ | ⟨rest, rfl, -, after⟩ := fits.decref_cases lawful
  all_goals simp [after]

/-- A holder without a reference goes unnoticed at a constant only. -/
theorem Fits.succ_iff (fits : Fits refcount number) :
    Fits refcount (number + 1) ↔ refcount = some .constant := by
  cases refcount with
  | none => simp [Fits]
  | some refcount =>
      cases refcount with
      | constant => simp [Fits]
      | counted count =>
          obtain ⟨rfl, -⟩ := fits
          simp [Fits]

end Fits

/-! ## The number of holders -/

section Holders

variable {Holder : Type u} {Value : Type v} [DecidableEq Holder] [DecidableEq Value]
  {live : Finset Holder} {held : Holder → Option Value} {holder : Holder}

theorem holders_erase (held : Holder → Option Value) (membership : holder ∈ live)
    (value : Value) :
    holders live held value =
      holders (live.erase holder) held value + if held holder = some value then 1 else 0 := by
  unfold holders
  rw [Finset.filter_erase]
  split
  · next same =>
      exact (Finset.card_erase_add_one (Finset.mem_filter.mpr ⟨membership, same⟩)).symm
  · next different =>
      have absent : holder ∉ live.filter fun other => held other = some value := fun inside =>
        different (Finset.mem_filter.mp inside).2
      rw [Finset.erase_eq_of_notMem absent, Nat.add_zero]

theorem holders_update_of_notMem (absent : holder ∉ live) (pointer : Option Value)
    (value : Value) : holders live (Function.update held holder pointer) value =
      holders live held value := by
  unfold holders
  congr 1
  apply Finset.filter_congr
  intro other inside
  have different : other ≠ holder := by
    rintro rfl
    exact absent inside
  rw [Function.update_of_ne different]

theorem holders_update (held : Holder → Option Value) (membership : holder ∈ live)
    (pointer : Option Value) (value : Value) :
    holders live (Function.update held holder pointer) value +
        (if held holder = some value then 1 else 0) =
      holders live held value + if pointer = some value then 1 else 0 := by
  rw [holders_erase (Function.update held holder pointer) membership,
    holders_erase held membership, holders_update_of_notMem (Finset.notMem_erase holder live),
    Function.update_self]
  omega

theorem holders_update_none (membership : holder ∈ live) {value : Value}
    (has : held holder = some value) (other : Value) :
    holders live held other = holders live (Function.update held holder none) other +
      if other = value then 1 else 0 := by
  have number := holders_update held membership none other
  rw [has] at number
  simpa [eq_comm] using number.symm

theorem holders_update_some (membership : holder ∈ live) (empty : held holder = none)
    (value other : Value) :
    holders live (Function.update held holder (some value)) other =
      holders live held other + if other = value then 1 else 0 := by
  have number := holders_update held membership (some value) other
  rw [empty] at number
  simpa [eq_comm] using number

theorem holders_insert (absent : holder ∉ live) (value : Value) :
    holders (insert holder live) (Function.update held holder none) value =
      holders live held value := by
  rw [holders_erase _ (Finset.mem_insert_self holder live), Finset.erase_insert absent,
    holders_update_of_notMem absent, Function.update_self]
  rfl

end Holders

/-! ## What a holder can do -/

namespace Balanced

variable {Holder : Type u} {Value : Type v} [DecidableEq Holder] [DecidableEq Value]
  {counting : Counting} {counts : Value → Option Refcount} {live : Finset Holder}
  {held : Holder → Option Value} {holder : Holder} {value : Value}

theorem exists_succ (balanced : Balanced counts live held) (membership : holder ∈ live)
    (has : held holder = some value) : ∃ number, Fits (counts value) (number + 1) := by
  have fits := balanced value
  rw [holders_update_none membership has, if_pos rfl] at fits
  exact ⟨_, fits⟩

/-- What a holder has exists. -/
theorem allocated (balanced : Balanced counts live held) (membership : holder ∈ live)
    (has : held holder = some value) : counts value ≠ none := by
  intro missing
  obtain ⟨number, fits⟩ := balanced.exists_succ membership has
  rw [missing] at fits
  exact Nat.succ_ne_zero number fits

theorem enter (balanced : Balanced counts live held) (absent : holder ∉ live) :
    Balanced counts (insert holder live) (Function.update held holder none) := by
  intro value
  rw [holders_insert absent]
  exact balanced value

theorem leave (balanced : Balanced counts live held) (membership : holder ∈ live)
    (empty : held holder = none) : Balanced counts (live.erase holder) held := by
  intro value
  have number := holders_erase held membership value
  rw [empty, if_neg (Option.some_ne_none value).symm, Nat.add_zero] at number
  rw [← number]
  exact balanced value

/-- What lies in the memory of a holder that is gone does not matter. -/
theorem update_iff (absent : holder ∉ live) (pointer : Option Value) :
    Balanced counts live (Function.update held holder pointer) ↔ Balanced counts live held := by
  unfold Balanced
  simp only [holders_update_of_notMem absent]

theorem release (lawful : counting.Lawful) (balanced : Balanced counts live held)
    (membership : holder ∈ live) (has : held holder = some value) :
    Balanced (counting.giveBack counts value) live (Function.update held holder none) := by
  intro other
  have fits := balanced other
  rw [holders_update_none membership has] at fits
  unfold Counting.giveBack
  by_cases same : other = value
  · subst same
    rw [if_pos rfl] at fits
    rw [Function.update_self]
    exact fits.decref lawful
  · rw [if_neg same] at fits
    rw [Function.update_of_ne same]
    exact fits

theorem acquire (lawful : counting.Lawful) (balanced : Balanced counts live held)
    (membership : holder ∈ live) (empty : held holder = none) (allocated : counts value ≠ none) :
    Balanced (counting.take counts value) live (Function.update held holder (some value)) := by
  intro other
  have fits := balanced other
  rw [holders_update_some membership empty]
  unfold Counting.take
  by_cases same : other = value
  · subst same
    rw [Function.update_self, if_pos rfl]
    exact fits.incref lawful allocated
  · rw [Function.update_of_ne same, if_neg same]
    exact fits

theorem create (balanced : Balanced counts live held) (membership : holder ∈ live)
    (empty : held holder = none) (missing : counts value = none) :
    Balanced (Function.update counts value (some (.counted 1))) live
      (Function.update held holder (some value)) := by
  intro other
  have fits := balanced other
  rw [holders_update_some membership empty]
  by_cases same : other = value
  · subst same
    rw [missing] at fits
    rw [Function.update_self, if_pos rfl, show holders live held other = 0 from fits]
    exact ⟨rfl, Nat.one_pos⟩
  · rw [Function.update_of_ne same, if_neg same]
    exact fits

theorem swap (balanced : Balanced counts live held) {first second : Holder}
    (firstLive : first ∈ live) (secondLive : second ∈ live) :
    Balanced counts live
      (Function.update (Function.update held second (held first)) first (held second)) := by
  intro value
  have moved := holders_update held secondLive (held first) value
  have back := holders_update (Function.update held second (held first)) firstLive
    (held second) value
  have unchanged : Function.update held second (held first) first = held first := by
    by_cases same : first = second
    · rw [same, Function.update_self]
    · rw [Function.update_of_ne same]
  rw [unchanged] at back
  have number : holders live (Function.update (Function.update held second (held first)) first
      (held second)) value = holders live held value := by omega
  rw [number]
  exact balanced value

/-- A holder can have a value without a reference only if it is a constant. -/
theorem borrow_iff (balanced : Balanced counts live held) (membership : holder ∈ live)
    (empty : held holder = none) :
    Balanced counts live (Function.update held holder (some value)) ↔
      counts value = some .constant := by
  have number := holders_update_some membership empty value
  constructor
  · intro after
    have fits := after value
    rw [number, if_pos rfl] at fits
    exact (balanced value).succ_iff.mp fits
  · intro constant other
    rw [number]
    split
    · next same =>
        rw [same]
        exact (balanced value).succ_iff.mpr constant
    · exact balanced other

end Balanced

end DaZeus.Library
