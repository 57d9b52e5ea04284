import Mathlib.Data.List.Induction
import DaZeus.Database.Sqlite
import DaZeus.Database.Postgres

/-!
# Both backends as one store

A sequence of calls is made to both backends, and each answer is compared.
Both hold the same map for as long as the calls are supported by PostgreSQL;
after the first call that is not, the keys of its scope tell them apart.
-/

namespace DaZeus.Database

open Library

inductive PropertyCall where
  | setProperty (key value : Text) (scope : Scope)
  | property (key : Text) (scope : Scope)
  | propertyKeys (start : Text) (scope : Scope)

inductive Answer where
  | done
  | value (value : Text)
  | keys (keys : List Text)

namespace Answer

/-- The keys of a scope come in any order. -/
def Same : Answer → Answer → Prop
  | done, done => True
  | value first, value second => first = second
  | keys first, keys second => ∀ key, key ∈ first ↔ key ∈ second
  | _, _ => False

end Answer

def SQLiteDatabase.call (db : SQLiteDatabase) : PropertyCall → SQLiteDatabase × Answer
  | .setProperty key value scope => (db.setProperty key value scope, .done)
  | .property key scope => (db, .value (db.property key scope))
  | .propertyKeys start scope => (db, .keys (db.propertyKeys scope start))

def PostgreSQLDatabase.call (db : PostgreSQLDatabase) (collation : Collation) :
    PropertyCall → Except SqlError (PostgreSQLDatabase × Answer)
  | .setProperty key value scope => do return (← db.setProperty key value scope, .done)
  | .property key scope => do return (db, .value (← db.property collation key scope))
  | .propertyKeys start scope => do return (db, .keys (← db.propertyKeys scope start))

/-- PostgreSQL raises no error and gives the answers of SQLite. -/
def Agree (collation : Collation) : List PropertyCall → SQLiteDatabase → PostgreSQLDatabase → Prop
  | [], _, _ => True
  | call :: calls, sqlite, postgres =>
      ∃ changed answer, postgres.call collation call = .ok (changed, answer) ∧
        answer.Same (sqlite.call call).2 ∧ Agree collation calls (sqlite.call call).1 changed

/-- What the call must be like for `update_property` to do what it is meant to do. -/
def PropertyCall.Supported : PropertyCall → Prop
  | setProperty key value scope => value = [] ∨ Database.Supported key scope
  | property _ _ => True
  | propertyKeys _ _ => True

/-- Both databases hold the same map. -/
structure Simulates (store : Properties) (sqlite : SQLiteDatabase)
    (postgres : PostgreSQLDatabase) : Prop where
  sqlite : Holds sqlite.properties store
  postgres : Stored postgres.properties store

theorem Simulates.empty : Simulates (fun _ _ => none) {} {} where
  sqlite := by simp [Holds]
  postgres := ⟨by simp [Holds], List.nodup_nil, by simp⟩

variable {collation : Collation} {store : Properties}
variable {sqlite : SQLiteDatabase} {postgres : PostgreSQLDatabase}

theorem PostgreSQLDatabase.property_eq (holds : Holds postgres.properties store) (key : Text)
    (scope : Scope) : postgres.property collation key scope = .ok (store.property key scope) := by
  unfold property Properties.property prepared
  rw [if_pos (by decide), ← findProperty_eq collation holds]
  cases findProperty collation postgres.properties key scope <;> rfl

/-- `remove_property` is right for every entry. -/
theorem Stored.delete {table : Table Property} (stored : Stored table store) (key : Text)
    (scope : Scope) :
    Stored (table.delete fun row => row.entry = (key, scope)) (store.set key [] scope) where
  holds := stored.holds.delete
  unique := stored.unique.delete
  supported row membership := stored.supported row (Table.mem_delete.mp membership).1

theorem PostgreSQLDatabase.setProperty_stored (stored : Stored postgres.properties store)
    {key value : Text} {scope : Scope} (supported : value = [] ∨ Supported key scope) :
    ∃ changed, postgres.setProperty key value scope = .ok changed ∧
      Stored changed.properties (store.set key value scope) := by
  unfold setProperty prepared
  by_cases empty : value = []
  · subst empty
    rw [if_pos rfl, if_pos (by decide)]
    exact ⟨_, rfl, stored.delete key scope⟩
  · obtain ⟨changed, completed, kept⟩ := stored.upsert empty (supported.resolve_left empty)
    rw [if_neg empty, if_pos (by decide), completed]
    exact ⟨_, rfl, kept⟩

variable (collation) in
/-- One supported call: the same answer, and the same map again. -/
theorem Simulates.call (simulates : Simulates store sqlite postgres) {call : PropertyCall}
    (supported : call.Supported) :
    ∃ changed answer next, postgres.call collation call = .ok (changed, answer) ∧
      answer.Same (sqlite.call call).2 ∧ Simulates next (sqlite.call call).1 changed := by
  cases call with
  | setProperty key value scope =>
      obtain ⟨changed, completed, stored⟩ :=
        PostgreSQLDatabase.setProperty_stored simulates.postgres supported
      refine ⟨changed, .done, store.set key value scope, ?_, trivial, ?_, stored⟩
      · simp only [PostgreSQLDatabase.call, completed]
        rfl
      · exact SQLiteDatabase.setProperty_holds simulates.sqlite
  | property key scope =>
      refine ⟨postgres, .value (store.property key scope), store, ?_, ?_, simulates⟩
      · simp only [PostgreSQLDatabase.call,
          PostgreSQLDatabase.property_eq simulates.postgres.holds]
        rfl
      · exact (SQLiteDatabase.property_eq simulates.sqlite).symm
  | propertyKeys start scope =>
      refine ⟨postgres, .keys (properties postgres.properties start scope), store, ?_, ?_,
        simulates⟩
      · simp only [PostgreSQLDatabase.call, PostgreSQLDatabase.propertyKeys, prepared]
        rfl
      · intro key
        exact (mem_properties simulates.postgres.holds).trans
          (mem_properties simulates.sqlite).symm

/-- Runs of supported calls agree. -/
theorem Simulates.agree {calls : List PropertyCall} (simulates : Simulates store sqlite postgres)
    (supported : ∀ call ∈ calls, call.Supported) : Agree collation calls sqlite postgres := by
  induction calls generalizing store sqlite postgres with
  | nil => trivial
  | cons call rest inductionHypothesis =>
      obtain ⟨changed, answer, next, completed, same, simulates⟩ :=
        simulates.call collation (supported call List.mem_cons_self)
      exact ⟨changed, answer, completed, same, inductionHypothesis simulates
        fun later membership => supported later (List.mem_cons_of_mem _ membership)⟩

/-- After a run of supported calls, the rest of a run that agrees agrees as well. -/
theorem Simulates.rest {done more : List PropertyCall}
    (simulates : Simulates store sqlite postgres) (supported : ∀ call ∈ done, call.Supported)
    (agree : Agree collation (done ++ more) sqlite postgres) :
    ∃ store sqlite postgres, Simulates store sqlite postgres ∧
      Agree collation more sqlite postgres := by
  induction done generalizing store sqlite postgres with
  | nil => exact ⟨store, sqlite, postgres, simulates, agree⟩
  | cons call rest inductionHypothesis =>
      obtain ⟨changed, answer, next, completed, _, simulates⟩ :=
        simulates.call collation (supported call List.mem_cons_self)
      obtain ⟨reached, result, other, -, agree⟩ := agree
      cases completed.symm.trans other
      exact inductionHypothesis simulates
        (fun later membership => supported later (List.mem_cons_of_mem _ membership)) agree

theorem PostgreSQLDatabase.setProperty_unsupported (stored : Stored postgres.properties store)
    {key value : Text} {scope : Scope} {changed : PostgreSQLDatabase} (nonempty : value ≠ [])
    (unsupported : ¬Supported key scope)
    (completed : postgres.setProperty key value scope = .ok changed) :
    key ∉ Database.properties changed.properties key scope := by
  unfold setProperty prepared at completed
  rw [if_neg nonempty, if_pos (by decide)] at completed
  cases upserted : upsertProperty postgres.properties key value scope with
  | error _ =>
      rw [upserted] at completed
      cases completed
  | ok table =>
      rw [upserted] at completed
      cases completed
      intro listed
      simp only [Database.properties, List.mem_map, Table.mem_select, Bool.and_eq_true,
        decide_eq_true_eq] at listed
      obtain ⟨row, ⟨membership, -, rfl⟩, rfl⟩ := listed
      exact stored.upsert_unsupported unsupported upserted row membership rfl

/-- The keys of its scope tell whether a call was supported. -/
theorem Simulates.supported {key value : Text} {scope : Scope}
    (simulates : Simulates store sqlite postgres)
    (agree : Agree collation [.setProperty key value scope, .propertyKeys key scope]
      sqlite postgres) : value = [] ∨ Supported key scope := by
  by_contra unsupported
  push Not at unsupported
  obtain ⟨nonempty, unsupported⟩ := unsupported
  obtain ⟨changed, _, set, -, _, _, asked, same, -⟩ := agree
  have listed : key ∈ (sqlite.setProperty key value scope).propertyKeys scope key := by
    refine (mem_properties (SQLiteDatabase.setProperty_holds simulates.sqlite)).mpr ⟨?_, ?_⟩
    · simp [Properties.set, nonempty]
    · simp [startsWith]
  simp only [PostgreSQLDatabase.call, PostgreSQLDatabase.propertyKeys, prepared] at set asked
  rw [if_pos (by decide)] at asked
  cases completed : postgres.setProperty key value scope with
  | error _ =>
      rw [completed] at set
      cases set
  | ok stored =>
      rw [completed] at set
      cases set
      cases asked
      exact PostgreSQLDatabase.setProperty_unsupported simulates.postgres nonempty unsupported
        completed ((same key).mpr listed)

/-- From empty tables, the answers agree, also when the keys of any scope are asked after
any of the calls, if and only if every call is supported. -/
theorem agree_iff (collation : Collation) (calls : List PropertyCall) :
    (Agree collation calls {} {} ∧ ∀ done start scope, done <+: calls →
      Agree collation (done ++ [.propertyKeys start scope]) {} {}) ↔
    ∀ call ∈ calls, call.Supported := by
  constructor
  · rintro ⟨-, asked⟩
    suffices prefixes : ∀ done, done <+: calls → ∀ call ∈ done, call.Supported from
      prefixes calls (List.prefix_refl calls)
    intro done
    induction done using List.reverseRecOn with
    | nil => simp
    | append_singleton done call inductionHypothesis =>
        intro reached
        have earlier := inductionHypothesis ((List.prefix_append done [call]).trans reached)
        intro other membership
        rcases List.mem_append.mp membership with old | new
        · exact earlier other old
        · rw [List.mem_singleton.mp new]
          cases call with
          | setProperty key value scope =>
              have agree := asked _ key scope reached
              rw [List.append_assoc] at agree
              obtain ⟨store, sqlite, postgres, simulates, agree⟩ :=
                Simulates.empty.rest earlier agree
              exact simulates.supported agree
          | property key scope => trivial
          | propertyKeys start scope => trivial
  · intro supported
    refine ⟨Simulates.empty.agree supported, fun done start scope reached => ?_⟩
    apply Simulates.empty.agree
    intro call membership
    rcases List.mem_append.mp membership with old | new
    · exact supported call (reached.subset old)
    · rw [List.mem_singleton.mp new]
      trivial

/-- A property of a channel, which PostgreSQL stores as one of a sender. -/
theorem channel_property_lost :
    ¬Agree binary
      [.setProperty ['k'] ['v'] { network := ['n'], receiver := ['#', 'c'] },
        .property ['k'] { network := ['n'], receiver := ['#', 'c'] }] {} {} := by
  rintro ⟨_, _, set, -, _, _, asked, same, -⟩
  cases set
  cases asked
  cases same

end DaZeus.Database
