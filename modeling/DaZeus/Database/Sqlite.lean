import Mathlib.Data.Set.Finite.List
import DaZeus.Database.Statements

/-!
# The SQLite backend

`SQLiteDatabase` holds exactly the map that its `setProperty` calls describe.
-/

namespace DaZeus.Database

open Library

/-- The collation `BINARY` compares texts character by character. -/
def binaryLe : Text → Text → Bool
  | [], _ => true
  | _ :: _, [] => false
  | first :: rest, second :: others =>
      first.toNat < second.toNat || (first.toNat = second.toNat && binaryLe rest others)

theorem binaryLe_total (first second : Text) : binaryLe first second ∨ binaryLe second first := by
  induction first generalizing second with
  | nil => exact .inl rfl
  | cons character rest inductionHypothesis =>
      cases second with
      | nil => exact .inr rfl
      | cons other others =>
          simp only [binaryLe, Bool.or_eq_true, Bool.and_eq_true, decide_eq_true_eq]
          rcases Nat.lt_trichotomy character.toNat other.toNat with less | equal | greater
          · exact .inl (.inl less)
          · exact (inductionHypothesis others).imp (.inr ⟨equal, ·⟩) (.inr ⟨equal.symm, ·⟩)
          · exact .inr (.inl greater)

theorem binaryLe_trans {first second third : Text} (earlier : binaryLe first second)
    (later : binaryLe second third) : binaryLe first third := by
  induction first generalizing second third with
  | nil => rfl
  | cons _ _ inductionHypothesis =>
      cases second with
      | nil => cases earlier
      | cons _ _ =>
          cases third with
          | nil => cases later
          | cons _ _ =>
              simp only [binaryLe, Bool.or_eq_true, Bool.and_eq_true, decide_eq_true_eq] at *
              rcases earlier with less | ⟨equal, earlier⟩
              · exact .inl (by omega)
              · rcases later with less | ⟨same, later⟩
                · exact .inl (by omega)
                · exact .inr ⟨equal.trans same, inductionHypothesis earlier later⟩

def binary : Collation where
  le := binaryLe
  total := binaryLe_total
  trans := binaryLe_trans
  empty_le _ := rfl
  eq_empty := by
    rintro (_ | _) least
    · rfl
    · cases least

structure SQLiteDatabase where
  properties : Table Property := []
  permissions : Table Permission := []
  deriving DecidableEq

namespace SQLiteDatabase

variable (db : SQLiteDatabase) (key value : Text) (scope : Scope)

def property : Text :=
  match findProperty binary db.properties key scope with
  | some row => row.value
  | none => []

def setProperty : SQLiteDatabase :=
  { db with properties :=
      if value = [] then
        db.properties.delete fun row => row.entry = (key, scope)
      else
        db.properties.insertOrReplace Property.entry { key, value, scope } }

def propertyKeys (start : Text) : List Text :=
  Database.properties db.properties start scope

/-- The `permission` argument has no name in the source: every row stands for a grant. -/
def setPermission (_permission : Bool) (name : Text) : SQLiteDatabase :=
  { db with permissions := db.permissions.insertOrReplace id { permission := name, scope } }

def unsetPermission (name : Text) : SQLiteDatabase :=
  { db with permissions := db.permissions.delete fun row => row = { permission := name, scope } }

def hasPermission (name : Text) (defaultPermission : Bool) : Bool :=
  match db.permissions.select fun row => row = { permission := name, scope } with
  | _ :: _ => true
  | [] => defaultPermission

variable {db key value scope} {store : Properties}

theorem property_eq (holds : Holds db.properties store) :
    db.property key scope = store.property key scope := by
  unfold property Properties.property
  rw [← findProperty_eq binary holds]
  cases findProperty binary db.properties key scope <;> rfl

theorem setProperty_holds (holds : Holds db.properties store) :
    Holds (db.setProperty key value scope).properties (store.set key value scope) := by
  unfold setProperty
  by_cases empty : value = []
  · subst empty
    simp only [if_true]
    exact holds.delete
  · simp only [if_neg empty]
    apply holds.set empty
    exact fun row => Table.mem_insertOrReplace

/-! ## Runs of `setProperty` -/

variable {calls : List Assignment}

/-- One call after the other. -/
def assign (db : SQLiteDatabase) (calls : List Assignment) : SQLiteDatabase :=
  calls.foldl (fun db call => db.setProperty call.key call.value call.scope) db

/-- The map that the rows of `dazeus_properties` spell out. -/
def entries (db : SQLiteDatabase) : Properties := fun key scope =>
  (db.properties.find? fun row => row.entry = (key, scope)).map (·.value)

theorem entries_eq (holds : Holds db.properties store) : db.entries = store := by
  funext key scope
  unfold entries
  cases found : db.properties.find? fun row => row.entry = (key, scope) with
  | none =>
      cases populated : store key scope with
      | none => rfl
      | some value =>
          have stored := (holds ⟨key, value, scope⟩).mpr populated
          have absent := List.find?_eq_none.mp found _ stored
          simp [Property.entry] at absent
  | some row =>
      have entry := List.find?_some found
      simp only [Property.entry, decide_eq_true_eq, Prod.mk.injEq] at entry
      have populated := (holds row).mp (List.mem_of_find?_eq_some found)
      rw [entry.1, entry.2] at populated
      exact populated.symm

theorem setProperty_unique (unique : db.properties.Unique Property.entry) :
    (db.setProperty key value scope).properties.Unique Property.entry := by
  unfold setProperty
  by_cases empty : value = []
  · simp only [if_pos empty]
    exact unique.delete
  · simp only [if_neg empty]
    exact unique.insertOrReplace

theorem assign_unique (unique : db.properties.Unique Property.entry) :
    (db.assign calls).properties.Unique Property.entry := by
  induction calls generalizing db with
  | nil => exact unique
  | cons call rest inductionHypothesis =>
      apply inductionHypothesis
      exact setProperty_unique unique

theorem assign_holds (holds : Holds db.properties store) :
    Holds (db.assign calls).properties (store.assign calls) := by
  induction calls generalizing db store with
  | nil => exact holds
  | cons call rest inductionHypothesis =>
      apply inductionHypothesis
      exact setProperty_holds holds

/-- A table has finitely many entries. -/
theorem populated_finite (holds : Holds db.properties store) :
    {entry : Text × Scope | (store entry.1 entry.2).isSome}.Finite := by
  apply Set.Finite.subset (List.finite_toSet (db.properties.map Property.entry))
  rintro ⟨key, scope⟩ populated
  obtain ⟨value, populated⟩ := Option.isSome_iff_exists.mp populated
  exact List.mem_map.mpr ⟨⟨key, value, scope⟩, (holds _).mpr populated, rfl⟩

/-- After any calls the tables hold the map that the calls describe, and both queries
answer from it. -/
theorem assign_entries (calls : List Assignment) :
    let db := SQLiteDatabase.assign {} calls
    db.entries = Properties.assign (fun _ _ => none) calls ∧
    {entry : Text × Scope | (db.entries entry.1 entry.2).isSome}.Finite ∧
    (∀ key scope, db.entries key scope ≠ some []) ∧
    (∀ key network receiver sender, db.property key ⟨network, receiver, sender⟩ =
      ([⟨network, receiver, sender⟩, ⟨network, receiver, []⟩, ⟨network, [], sender⟩,
        ⟨network, [], []⟩, ⟨[], receiver, sender⟩, ⟨[], receiver, []⟩, ⟨[], [], sender⟩,
        ⟨[], [], []⟩].findSome? (db.entries key)).getD []) ∧
    ∀ start scope, (db.propertyKeys scope start).Nodup ∧
      ∀ key, key ∈ db.propertyKeys scope start ↔
        start <+: key ∧ (db.entries key scope).isSome := by
  intro db
  have holds : Holds db.properties (Properties.assign (fun _ _ => none) calls) := by
    apply assign_holds
    simp [Holds]
  have same := entries_eq holds
  rw [same]
  refine ⟨rfl, populated_finite holds, ?_, ?_, ?_⟩
  · intro key scope
    apply Properties.assign_nonempty
    simp
  · intro key network receiver sender
    rw [property_eq holds, Properties.property, fallbacks_findSome?]
  · intro start scope
    refine ⟨properties_nodup (assign_unique List.nodup_nil), fun key => ?_⟩
    unfold propertyKeys
    rw [mem_properties holds, startsWith_iff, and_comm]

end SQLiteDatabase

end DaZeus.Database
