import Mathlib.Data.List.Basic

/-!
# Descriptor tables

What a process has open, by descriptor.  A new descriptor is the lowest one
that is free, so a number that was closed is given out again.
-/

namespace DaZeus.Library

universe u

structure DescriptorTable (Entry : Type u) where
  entries : List (Option Entry) := []
  deriving DecidableEq

namespace DescriptorTable

variable {Entry : Type u} (table : DescriptorTable Entry) (fd : Nat)

/-- What the descriptor stands for, if it is open. -/
def lookup : Option Entry := table.entries[fd]?.join

def lowestFree : Nat := table.entries.findIdx Option.isNone

/-- Open the descriptor, or change what it stands for. -/
def put (entry : Entry) : DescriptorTable Entry where
  entries := (table.entries ++ List.replicate (fd + 1 - table.entries.length) none).set fd
    (some entry)

def close : DescriptorTable Entry where
  entries := table.entries.set fd none

@[simp]
theorem lookup_lowestFree : table.lookup table.lowestFree = none := by
  unfold lookup lowestFree
  by_cases found : table.entries.findIdx Option.isNone < table.entries.length
  · have free := List.findIdx_getElem (w := found)
    rw [List.getElem?_eq_getElem found, Option.join_some]
    exact Option.isNone_iff_eq_none.mp free
  · rw [List.getElem?_eq_none (Nat.le_of_not_lt found), Option.join_none]

theorem lookup_put (entry : Entry) (other : Nat) :
    (table.put fd entry).lookup other = if other = fd then some entry else table.lookup other := by
  have room : fd < (table.entries ++
      List.replicate (fd + 1 - table.entries.length) none).length := by
    rw [List.length_append, List.length_replicate]
    omega
  unfold lookup put
  by_cases same : other = fd
  · subst same
    rw [if_pos rfl, List.getElem?_set_self room, Option.join_some]
  · rw [if_neg same, List.getElem?_set_ne (Ne.symm same)]
    by_cases inside : other < table.entries.length
    · rw [List.getElem?_append_left inside]
    · -- past the end of the old table, the padding is free as well
      rw [List.getElem?_append_right (Nat.le_of_not_lt inside),
        List.getElem?_eq_none (Nat.le_of_not_lt inside), Option.join_none]
      cases padding : (List.replicate (fd + 1 - table.entries.length) (none : Option Entry))[
          other - table.entries.length]? with
      | none => rfl
      | some entry =>
          rw [List.eq_of_mem_replicate (List.mem_of_getElem? padding)]
          rfl

theorem lookup_close (other : Nat) :
    (table.close fd).lookup other = if other = fd then none else table.lookup other := by
  unfold lookup close
  by_cases same : other = fd
  · subst same
    rw [if_pos rfl]
    by_cases inside : other < table.entries.length
    · rw [List.getElem?_set_self inside, Option.join_some]
    · rw [List.getElem?_eq_none (by simpa using Nat.le_of_not_lt inside), Option.join_none]
  · rw [if_neg same, List.getElem?_set_ne (Ne.symm same)]

end DescriptorTable

end DaZeus.Library
