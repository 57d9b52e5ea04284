import DaZeus.Database.Sqlite
import DaZeus.Database.Postgres

/-!
# Permissions in the SQL backends

A row of `dazeus_permissions` says that a permission was set, and not to what.
`hasPermission` looks at the scope it is asked for and at no other.  The map of
all settings is what the answer is compared with.
-/

namespace DaZeus.Database

open Library

inductive PermissionCall where
  | setPermission (permission : Bool) (name : Text) (scope : Scope)
  | unsetPermission (name : Text) (scope : Scope)

/-- What each permission was last set to in each scope. -/
abbrev Grants := Text → Scope → Option Bool

def Grants.call (grants : Grants) : PermissionCall → Grants
  | .setPermission permission name scope => fun otherName otherScope =>
      if otherName = name ∧ otherScope = scope then some permission else grants otherName otherScope
  | .unsetPermission name scope => fun otherName otherScope =>
      if otherName = name ∧ otherScope = scope then none else grants otherName otherScope

/-- The scopes of a permission in one network after the one that is asked for. -/
def Scope.wider (scope : Scope) : List Scope :=
  [{ scope with receiver := [] }, { scope with sender := [] }, { network := scope.network }]

/-- The first populated scope decides, as in `MongoDatabase::hasPermission`. -/
def Grants.hasPermission (grants : Grants) (scope : Scope) (name : Text)
    (defaultPermission : Bool) : Bool :=
  ((scope :: scope.wider).findSome? (grants name)).getD defaultPermission

def SQLiteDatabase.permissionCall (db : SQLiteDatabase) : PermissionCall → SQLiteDatabase
  | .setPermission permission name scope => db.setPermission scope permission name
  | .unsetPermission name scope => db.unsetPermission scope name

/-- What the calls set, and not what they set it to, is in the table. -/
def Records (db : SQLiteDatabase) (grants : Grants) : Prop :=
  ∀ row, row ∈ db.permissions ↔ (grants row.permission row.scope).isSome

/-- The scope itself grants the permission, or is not populated and no wider scope has
anything but the default. -/
def Grants.Unrefined (grants : Grants) (scope : Scope) (name : Text)
    (defaultPermission : Bool) : Prop :=
  match grants name scope with
  | some permission => permission = true
  | none => ∀ permission, scope.wider.findSome? (grants name) = some permission →
      permission = defaultPermission

variable {db : SQLiteDatabase} {grants : Grants} {calls : List PermissionCall}
variable {scope : Scope} {name : Text} {defaultPermission : Bool}

theorem row_ne_of_not_same {row : Permission}
    (different : ¬(row.permission = name ∧ row.scope = scope)) : row ≠ ⟨name, scope⟩ := by
  rintro rfl
  exact different ⟨rfl, rfl⟩

theorem Records.call (records : Records db grants) (call : PermissionCall) :
    Records (db.permissionCall call) (grants.call call) := by
  intro row
  cases call with
  | setPermission permission name scope =>
      simp only [SQLiteDatabase.permissionCall, SQLiteDatabase.setPermission,
        Table.mem_insertOrReplace, Grants.call, id_eq]
      by_cases same : row.permission = name ∧ row.scope = scope
      · obtain ⟨rfl, rfl⟩ := same
        simp
      · have other := row_ne_of_not_same same
        simp only [other, if_neg same, records row, false_or, ne_eq, not_false_eq_true, and_true]
  | unsetPermission name scope =>
      simp only [SQLiteDatabase.permissionCall, SQLiteDatabase.unsetPermission, Table.mem_delete,
        Grants.call, decide_eq_false_iff_not]
      by_cases same : row.permission = name ∧ row.scope = scope
      · obtain ⟨rfl, rfl⟩ := same
        simp
      · have other := row_ne_of_not_same same
        simp only [other, if_neg same, records row, not_false_eq_true, and_true]

/-- The table after any calls. -/
theorem Records.run (records : Records db grants) (calls : List PermissionCall) :
    Records (calls.foldl SQLiteDatabase.permissionCall db) (calls.foldl Grants.call grants) := by
  induction calls generalizing db grants with
  | nil => exact records
  | cons call rest inductionHypothesis => exact inductionHypothesis (records.call call)

theorem Records.empty : Records {} fun _ _ => none := by simp [Records]

/-- Only the scope itself matters, and what it was set to does not. -/
theorem Records.hasPermission (records : Records db grants) :
    db.hasPermission scope name defaultPermission =
      if (grants name scope).isSome then true else defaultPermission := by
  unfold SQLiteDatabase.hasPermission
  by_cases populated : (grants name scope).isSome
  · have row := (records ⟨name, scope⟩).mpr populated
    rw [if_pos populated]
    split
    · rfl
    · next empty =>
        have selected : (⟨name, scope⟩ : Permission) ∈
            db.permissions.select fun row => row = ⟨name, scope⟩ :=
          Table.mem_select.mpr ⟨row, decide_eq_true rfl⟩
        rw [empty] at selected
        cases selected
  · rw [if_neg populated]
    split
    · next first rest found =>
        have selected : first ∈ db.permissions.select fun row => row = ⟨name, scope⟩ := by
          rw [found]
          exact List.mem_cons_self
        obtain ⟨inside, same⟩ := Table.mem_select.mp selected
        cases of_decide_eq_true same
        exact absurd ((records _).mp inside) populated
    · rfl

theorem Records.unrefined_iff (records : Records db grants) :
    db.hasPermission scope name defaultPermission =
        grants.hasPermission scope name defaultPermission ↔
      grants.Unrefined scope name defaultPermission := by
  rw [records.hasPermission, Grants.hasPermission, Grants.Unrefined, List.findSome?_cons]
  cases own : grants name scope with
  | some permission => simp [eq_comm]
  | none =>
      cases found : scope.wider.findSome? (grants name) <;> simp [eq_comm]

/-- No state of the PostgreSQL backend answers at all. -/
theorem PostgreSQLDatabase.hasPermission_fails (db : PostgreSQLDatabase) :
    db.hasPermission scope name defaultPermission = .error .unknownStatement := by
  unfold hasPermission prepared
  exact if_neg (by decide)

/-- SQLite gives the documented answer in exactly the unrefined cases, PostgreSQL never. -/
theorem hasPermission_iff (calls : List PermissionCall) (postgres : PostgreSQLDatabase)
    (scope : Scope) (name : Text) (defaultPermission : Bool) :
    let sqlite := calls.foldl SQLiteDatabase.permissionCall {}
    let grants := calls.foldl Grants.call fun _ _ => none
    (sqlite.hasPermission scope name defaultPermission =
        grants.hasPermission scope name defaultPermission ↔
      grants.Unrefined scope name defaultPermission) ∧
    postgres.hasPermission scope name defaultPermission ≠
      .ok (grants.hasPermission scope name defaultPermission) := by
  intro sqlite grants
  refine ⟨(Records.empty.run calls).unrefined_iff, ?_⟩
  rw [PostgreSQLDatabase.hasPermission_fails]
  exact nofun

/-- An explicit denial for a channel is reported as a grant. -/
theorem denial_reported_as_grant :
    let calls := [.setPermission false ['p'] { network := ['n'], receiver := ['#', 'c'] }]
    let sqlite := calls.foldl SQLiteDatabase.permissionCall {}
    let grants := calls.foldl Grants.call fun _ _ => none
    sqlite.hasPermission { network := ['n'], receiver := ['#', 'c'] } ['p'] false = true ∧
      grants.hasPermission { network := ['n'], receiver := ['#', 'c'] } ['p'] false = false := by
  decide

end DaZeus.Database
