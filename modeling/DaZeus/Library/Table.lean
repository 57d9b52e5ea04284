import Mathlib.Data.List.Sort
import Mathlib.Data.List.Nodup

/-!
# Relational tables

The statements on one table that a small SQL program needs.  A table is a list
of rows; `Unique key` is its primary key.  `orderBy` sorts by a relation that
is total and transitive, which leaves the order of equal rows open in SQL; the
facts about the first row are stated for a row that is alone at the top.
-/

namespace DaZeus.Library

universe u v

abbrev Table (Row : Type u) := List Row

namespace Table

variable {Row : Type u} {Key : Type v}

def select (condition : Row → Bool) (table : Table Row) : Table Row :=
  table.filter condition

def delete (condition : Row → Bool) (table : Table Row) : Table Row :=
  table.filter fun row => !condition row

def update (condition : Row → Bool) (set : Row → Row) (table : Table Row) : Table Row :=
  table.map fun row => if condition row then set row else row

def orderBy (before : Row → Row → Bool) (table : Table Row) : Table Row :=
  table.insertionSort fun first second => before first second

/-- The primary key: no two rows have the same one. -/
def Unique (key : Row → Key) (table : Table Row) : Prop :=
  (table.map key).Nodup

instance [DecidableEq Key] (key : Row → Key) (table : Table Row) :
    Decidable (table.Unique key) :=
  inferInstanceAs (Decidable (List.Nodup _))

/-- `INSERT`, which fails when the key is taken. -/
def insert [DecidableEq Key] (key : Row → Key) (row : Row) (table : Table Row) :
    Option (Table Row) :=
  if key row ∈ table.map key then none else some (table ++ [row])

/-- `INSERT OR REPLACE`: the row that has the key goes first. -/
def insertOrReplace [DecidableEq Key] (key : Row → Key) (row : Row) (table : Table Row) :
    Table Row :=
  table.delete (fun other => key other = key row) ++ [row]

/-- An upsert: the first row that meets the condition is replaced, or else the row is added. -/
def upsert (condition : Row → Bool) (row : Row) : Table Row → Table Row
  | [] => [row]
  | other :: rest =>
      if condition other then row :: rest else other :: upsert condition row rest

/-- `ORDER BY column DESC, ...`. -/
def byDescending {Value : Type v} (le : Value → Value → Bool) :
    List (Row → Value) → Row → Row → Bool
  | [], _, _ => true
  | column :: rest, first, second =>
      le (column second) (column first) &&
        (!le (column first) (column second) || byDescending le rest first second)

section Rows

variable {condition : Row → Bool} {set : Row → Row} {table : Table Row} {row other : Row}
variable {key : Row → Key}

@[simp]
theorem mem_select : row ∈ table.select condition ↔ row ∈ table ∧ condition row = true :=
  List.mem_filter

@[simp]
theorem mem_delete : row ∈ table.delete condition ↔ row ∈ table ∧ condition row = false := by
  simp [delete]

theorem mem_update : row ∈ table.update condition set ↔
    (row ∈ table ∧ condition row = false) ∨
      ∃ old ∈ table, condition old = true ∧ row = set old := by
  unfold update
  rw [List.mem_map]
  constructor
  · rintro ⟨old, membership, rfl⟩
    by_cases meets : condition old = true
    · rw [if_pos meets]
      exact .inr ⟨old, membership, meets, rfl⟩
    · rw [if_neg meets]
      exact .inl ⟨membership, by simpa using meets⟩
  · rintro (⟨membership, fails⟩ | ⟨old, membership, meets, rfl⟩)
    · exact ⟨row, membership, by simp [fails]⟩
    · exact ⟨old, membership, by rw [if_pos meets]⟩

theorem update_eq_self (none : ∀ row ∈ table, condition row = false) :
    table.update condition set = table := by
  unfold update
  rw [List.map_congr_left fun row membership => if_neg (by simp [none row membership]),
    List.map_id']

@[simp]
theorem mem_insertOrReplace [DecidableEq Key] :
    other ∈ table.insertOrReplace key row ↔
      other = row ∨ other ∈ table ∧ key other ≠ key row := by
  simp only [insertOrReplace, List.mem_append, mem_delete, decide_eq_false_iff_not,
    List.mem_singleton]
  tauto

theorem Unique.delete (unique : table.Unique key) : (table.delete condition).Unique key :=
  List.Nodup.sublist (List.filter_sublist.map key) unique

/-- A finer key is unique as well. -/
theorem Unique.refine {Finer : Type v} {finer : Row → Finer} (unique : table.Unique key)
    (refines : ∀ {row other}, finer row = finer other → key row = key other) :
    table.Unique finer := by
  unfold Unique List.Nodup at *
  rw [List.pairwise_map] at *
  exact unique.imp fun different same => different (refines same)

/-- An update that leaves the key alone keeps it unique. -/
theorem Unique.update (unique : table.Unique key) (kept : ∀ row, key (set row) = key row) :
    (table.update condition set).Unique key := by
  have same : (table.update condition set).map key = table.map key := by
    unfold Table.update
    rw [List.map_map]
    apply List.map_congr_left
    intro row _
    by_cases meets : condition row = true <;> simp [meets, kept]
  unfold Unique
  rw [same]
  exact unique

theorem Unique.append (unique : table.Unique key) (fresh : key row ∉ table.map key) :
    Unique key (table ++ [row]) := by
  unfold Unique
  rw [List.map_append, List.map_singleton]
  refine List.nodup_append.mpr ⟨unique, List.nodup_singleton _, ?_⟩
  intro old membership new inside same
  rw [same, List.mem_singleton.mp inside] at membership
  exact fresh membership

theorem Unique.insertOrReplace [DecidableEq Key] (unique : table.Unique key) :
    (table.insertOrReplace key row).Unique key := by
  apply Unique.append unique.delete
  intro taken
  obtain ⟨other, membership, same⟩ := List.mem_map.mp taken
  simp [same] at membership

theorem mem_upsert (membership : other ∈ table.upsert condition row) :
    other = row ∨ other ∈ table := by
  induction table with
  | nil => exact .inl (List.mem_singleton.mp membership)
  | cons first rest inductionHypothesis =>
      unfold upsert at membership
      split at membership
      · exact (List.mem_cons.mp membership).imp_right (List.mem_cons_of_mem first)
      · rcases List.mem_cons.mp membership with rfl | later
        · exact .inr List.mem_cons_self
        · exact (inductionHypothesis later).imp_right (List.mem_cons_of_mem first)

end Rows

section FirstMatch

variable {condition other : Row → Bool} {table : Table Row} {row : Row}

theorem find?_upsert (meets : condition row = true) :
    (table.upsert condition row).find? condition = some row := by
  induction table with
  | nil => exact List.find?_cons_of_pos meets
  | cons first rest inductionHypothesis =>
      unfold upsert
      split
      · exact List.find?_cons_of_pos meets
      · next fails => exact (List.find?_cons_of_neg fails).trans inductionHypothesis

theorem find?_upsert_other (apart : ∀ row, condition row = true → other row = false)
    (meets : condition row = true) :
    (table.upsert condition row).find? other = table.find? other := by
  have skipped : ¬other row = true := Bool.eq_false_iff.mp (apart row meets)
  induction table with
  | nil => exact List.find?_cons_of_neg skipped
  | cons first rest inductionHypothesis =>
      unfold upsert
      split
      · next replaced =>
          have before : ¬other first = true := Bool.eq_false_iff.mp (apart first replaced)
          exact (List.find?_cons_of_neg skipped).trans (List.find?_cons_of_neg before).symm
      · simp only [List.find?_cons, inductionHypothesis]

theorem find?_delete : (table.delete condition).find? condition = none := by
  apply List.find?_eq_none.mpr
  intro row membership
  exact Bool.eq_false_iff.mp (mem_delete.mp membership).2

theorem find?_delete_other (apart : ∀ row, condition row = true → other row = false) :
    (table.delete condition).find? other = table.find? other := by
  unfold delete
  rw [List.find?_filter]
  congr 1
  funext row
  cases meets : condition row with
  | false => simp
  | true => simp [apart row meets]

end FirstMatch

section Descending

variable {Value : Type v} {le : Value → Value → Bool}

theorem byDescending_total (total : ∀ first second, le first second ∨ le second first)
    (columns : List (Row → Value)) (first second : Row) :
    byDescending le columns first second ∨ byDescending le columns second first := by
  induction columns with
  | nil => exact .inl rfl
  | cons column rest inductionHypothesis =>
      have comparable := total (column first) (column second)
      simp only [byDescending, Bool.and_eq_true, Bool.or_eq_true, Bool.not_eq_true']
      cases up : le (column first) (column second) <;>
        cases down : le (column second) (column first) <;> simp_all

theorem byDescending_trans
    (transitive : ∀ {first second third}, le first second → le second third → le first third)
    {columns : List (Row → Value)} {first second third : Row}
    (earlier : byDescending le columns first second)
    (later : byDescending le columns second third) : byDescending le columns first third := by
  induction columns with
  | nil => rfl
  | cons column rest inductionHypothesis =>
      simp only [byDescending, Bool.and_eq_true, Bool.or_eq_true, Bool.not_eq_true'] at *
      refine ⟨transitive later.1 earlier.1, ?_⟩
      cases up : le (column first) (column third) with
      | false => exact .inl rfl
      | true =>
          -- equal in this column, so both steps were decided by the rest
          have firstUp : le (column first) (column second) = true := transitive up later.1
          have secondUp : le (column second) (column third) = true := transitive earlier.1 up
          exact .inr (inductionHypothesis (earlier.2.resolve_left (by simp [firstUp]))
            (later.2.resolve_left (by simp [secondUp])))

end Descending

section FirstRow

variable {before : Row → Row → Bool} {table : Table Row} {best : Row}

@[simp]
theorem mem_orderBy {row : Row} : row ∈ table.orderBy before ↔ row ∈ table :=
  List.mem_insertionSort _

/-- The first row after sorting comes before all others. -/
theorem head_orderBy (total : ∀ first second, before first second ∨ before second first)
    (transitive : ∀ {first second third}, before first second → before second third →
      before first third)
    (found : (table.orderBy before).head? = some best) :
    best ∈ table ∧ ∀ row ∈ table, before best row = true := by
  have : Std.Total fun first second => before first second = true := ⟨total⟩
  have : IsTrans Row fun first second => before first second = true :=
    ⟨fun _ _ _ => transitive⟩
  have sorted := List.pairwise_insertionSort (fun first second => before first second = true) table
  have membership : best ∈ table := mem_orderBy.mp (List.mem_of_head? found)
  refine ⟨membership, fun row inside => ?_⟩
  obtain ⟨rest, split⟩ := List.head?_eq_some_iff.mp found
  change List.Pairwise _ (table.orderBy before) at sorted
  have inside : row ∈ table.orderBy before := mem_orderBy.mpr inside
  rw [split] at sorted inside
  rcases List.mem_cons.mp inside with rfl | later
  · exact (total _ _).elim id id
  · exact (List.pairwise_cons.mp sorted).1 row later

/-- A row that comes before all others, with none beside it, is the first. -/
theorem head_orderBy_eq (total : ∀ first second, before first second ∨ before second first)
    (transitive : ∀ {first second third}, before first second → before second third →
      before first third)
    (membership : best ∈ table) (alone : ∀ row ∈ table, before row best = true → row = best) :
    (table.orderBy before).head? = some best := by
  cases found : (table.orderBy before).head? with
  | none =>
      rw [List.head?_eq_none_iff] at found
      have inside : best ∈ table.orderBy before := mem_orderBy.mpr membership
      rw [found] at inside
      exact absurd inside List.not_mem_nil
  | some first =>
      obtain ⟨inside, least⟩ := head_orderBy total transitive found
      rw [alone first inside (least best membership)]

theorem head_orderBy_none (empty : ∀ row, row ∉ table) : (table.orderBy before).head? = none := by
  rw [List.eq_nil_iff_forall_not_mem.mpr empty]
  rfl

end FirstRow

end Table

end DaZeus.Library
