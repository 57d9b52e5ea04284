import Mathlib.Data.List.Nodup

/-!
# Records filled by settings

A record is filled by a list of settings, each of which may set some of its
fields.  The last setting of a field counts, and in a map the last pair with a
key.
-/

namespace DaZeus.Library

universe u v

section Fields

variable {Setting : Type u} {Value : Type v}

/-- The value of the last setting that has one, or else the one it had. -/
def lastSet (value : Setting → Option Value) (settings : List Setting) (start : Value) : Value :=
  (settings.filterMap value).getLast?.getD start

variable {value : Setting → Option Value} {setting : Setting} {settings : List Setting}
  {start : Value}

@[simp]
theorem lastSet_nil : lastSet value [] start = start := rfl

/-- What was set before is where the later settings start. -/
theorem lastSet_append (earlier later : List Setting) :
    lastSet value (earlier ++ later) start = lastSet value later (lastSet value earlier start) := by
  simp only [lastSet, List.filterMap_append, List.getLast?_append]
  cases (later.filterMap value).getLast? <;> rfl

theorem lastSet_cons :
    lastSet value (setting :: settings) start =
      lastSet value settings (lastSet value [setting] start) :=
  lastSet_append [setting] settings

theorem lastSet_singleton :
    lastSet value [setting] start = (value setting).getD start := by
  cases set : value setting <;> simp [lastSet, set]

/-- Whether some setting says so is whether the last one does, unless it says otherwise after
an earlier one has said so. -/
theorem any_eq_lastSet_iff {value : Setting → Option Bool} :
    settings.any (fun setting => value setting == some true) = lastSet value settings false ↔
      ((settings.filterMap value).getLast? = some false → true ∉ settings.filterMap value) := by
  have found : settings.any (fun setting => value setting == some true) = true ↔
      true ∈ settings.filterMap value := by
    simp only [List.any_eq_true, beq_iff_eq, List.mem_filterMap]
  rw [Bool.eq_iff_iff, found, lastSet]
  cases last : (settings.filterMap value).getLast? with
  | none =>
      rw [List.getLast?_eq_none_iff.mp last]
      simp
  | some truth =>
      have present := List.mem_of_getLast? last
      cases truth with
      | false => simp
      | true => simp [present]

end Fields

section Maps

variable {Key : Type u} {Value : Type v} [BEq Key]

/-- `map[key] = value`.  The order of the pairs means nothing. -/
def assign (map : List (Key × Value)) (key : Key) (value : Value) : List (Key × Value) :=
  (key, value) :: map.filter fun pair => pair.1 != key

/-- `map[key] = value` for one pair after the other. -/
def assignAll (pairs : List (Key × Value)) (map : List (Key × Value)) : List (Key × Value) :=
  pairs.foldl (fun map pair => assign map pair.1 pair.2) map

theorem assignAll_append (earlier later : List (Key × Value)) (map : List (Key × Value)) :
    assignAll (earlier ++ later) map = assignAll later (assignAll earlier map) :=
  List.foldl_append

variable [LawfulBEq Key] {map : List (Key × Value)} {key other : Key} {value : Value}

theorem lookup_filter_ne (different : (other == key) = false) :
    (map.filter fun pair => pair.1 != key).lookup other = map.lookup other := by
  induction map with
  | nil => rfl
  | cons pair map inductionHypothesis =>
      obtain ⟨taken, held⟩ := pair
      cases own : taken == key with
      | true =>
          cases eq_of_beq own
          rw [List.filter_cons_of_neg (by simp), inductionHypothesis, List.lookup_cons, different]
      | false =>
          rw [List.filter_cons_of_pos (by simp [bne, own]), List.lookup_cons, List.lookup_cons,
            inductionHypothesis]

theorem lookup_assign :
    (assign map key value).lookup other =
      if other == key then some value else map.lookup other := by
  rw [assign, List.lookup_cons]
  cases same : other == key with
  | true => rfl
  | false => exact lookup_filter_ne same

theorem nodup_assign (nodup : (map.map Prod.fst).Nodup) :
    ((assign map key value).map Prod.fst).Nodup := by
  rw [assign, List.map_cons, List.nodup_cons]
  constructor
  · intro present
    obtain ⟨pair, kept, same⟩ := List.mem_map.mp present
    exact absurd same (by simpa using (List.mem_filter.mp kept).2)
  · exact nodup.sublist (List.filter_sublist.map Prod.fst)

/-- The last pair with a key counts. -/
theorem lookup_assignAll (pairs : List (Key × Value)) :
    (assignAll pairs map).lookup key = (pairs.reverse.lookup key).or (map.lookup key) := by
  induction pairs generalizing map with
  | nil => rfl
  | cons pair pairs inductionHypothesis =>
      obtain ⟨taken, held⟩ := pair
      have later : (assignAll ((taken, held) :: pairs) map).lookup key =
          (pairs.reverse.lookup key).or ((assign map taken held).lookup key) := inductionHypothesis
      rw [later, lookup_assign, List.reverse_cons, List.lookup_append, Option.or_assoc,
        List.lookup_cons, List.lookup_nil]
      cases key == taken <;> rfl

theorem nodup_assignAll (pairs : List (Key × Value)) (nodup : (map.map Prod.fst).Nodup) :
    ((assignAll pairs map).map Prod.fst).Nodup := by
  induction pairs generalizing map with
  | nil => exact nodup
  | cons pair pairs inductionHypothesis => exact inductionHypothesis (nodup_assign nodup)

end Maps

end DaZeus.Library
