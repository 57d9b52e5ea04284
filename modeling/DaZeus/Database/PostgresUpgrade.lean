import DaZeus.Database.Postgres
import DaZeus.Database.Upgrade
import DaZeus.Library.Transaction
import DaZeus.Library.TransitionSystem

/-!
# The schema in PostgreSQL

`PostgreSQLDatabase::upgradeDB` does all its work in one transaction, so an
upgrade that is interrupted leaves nothing behind.  The version is read in the
scope that restricts nothing, and as long as nobody sets it there, the next call
that gets through arrives at the last version.
-/

namespace DaZeus.Database

open Library

/-- What a database holds: a table, the function or a trigger may not have been created yet. -/
structure Catalog where
  properties : Option (Table Property) := none
  permissions : Option (Table Permission) := none
  /-- `dazeus_update_timestamp_column` -/
  timestampFunction : Bool := false
  propertiesTrigger : Bool := false
  permissionsTrigger : Bool := false
  deriving DecidableEq

/-- How `upgradeDB` ends if it does not return. -/
inductive UpgradeError where
  | duplicateObject
  | undefinedObject
  | statement (error : SqlError)
  /-- `as<int>` -/
  | conversion
  | brokenConnection
  /-- A read of `upgrades` outside of the array. -/
  | outOfBounds
  deriving DecidableEq

namespace Catalog

/-! ## The statements -/

def createProperties (catalog : Catalog) : Except UpgradeError Catalog :=
  match catalog.properties with
  | none => .ok { catalog with properties := some [] }
  | some _ => .error .duplicateObject

def createPermissions (catalog : Catalog) : Except UpgradeError Catalog :=
  match catalog.permissions with
  | none => .ok { catalog with permissions := some [] }
  | some _ => .error .duplicateObject

/-- `CREATE OR REPLACE FUNCTION` -/
def createFunction (catalog : Catalog) : Except UpgradeError Catalog :=
  .ok { catalog with timestampFunction := true }

/-- `CREATE TRIGGER` on the one or the other table. -/
def createTrigger (table there : Catalog → Bool) (create : Catalog → Catalog)
    (catalog : Catalog) : Except UpgradeError Catalog :=
  if !table catalog || !catalog.timestampFunction then .error .undefinedObject
  else if there catalog then .error .duplicateObject
  else .ok (create catalog)

def createPropertiesTrigger : Catalog → Except UpgradeError Catalog :=
  createTrigger (·.properties.isSome) (·.propertiesTrigger) ({ · with propertiesTrigger := true })

def createPermissionsTrigger : Catalog → Except UpgradeError Catalog :=
  createTrigger (·.permissions.isSome) (·.permissionsTrigger)
    ({ · with permissionsTrigger := true })

/-- The statements of the array. -/
def upgrades : List (Catalog → Except UpgradeError Catalog) :=
  [createProperties, createPermissions, createFunction, createPropertiesTrigger,
    createPermissionsTrigger]

def currentDbVersion : Int := upgrades.length

/-- `find_property` for the version, as an `int`. -/
def selectVersion (asInt : Text → Option Int) (collation : Collation) (catalog : Catalog) :
    Except UpgradeError Int :=
  match catalog.properties with
  | none => .error .undefinedObject
  | some table =>
      match findProperty collation table versionKey {} with
      | none => .ok 0
      | some row =>
          match asInt row.value with
          | none => .error .conversion
          | some version => .ok version

/-- `update_property` for the version. -/
def recordVersion (catalog : Catalog) : Except UpgradeError Catalog :=
  match catalog.properties with
  | none => .error .undefinedObject
  | some table =>
      match upsertProperty table versionKey (toString currentDbVersion).toList {} with
      | .error error => .error (.statement error)
      | .ok table => .ok { catalog with properties := some table }

/-! ## The transaction -/

/-- A statement that returns no rows. -/
def execute (link : Link) (statement : Catalog → Except UpgradeError Catalog) :
    Statements Catalog UpgradeError Unit :=
  send link .brokenConnection fun catalog => (statement catalog).map ((), ·)

def query {Result : Type} (link : Link) (statement : Catalog → Except UpgradeError Result) :
    Statements Catalog UpgradeError Result :=
  send link .brokenConnection fun catalog => (statement catalog).map (·, catalog)

/-- The loop over the outstanding upgrades, from this index on. -/
def runUpgrades (link : Link) : Nat → Int → Statements Catalog UpgradeError Unit
  | 0, _ => pure ()
  | rounds + 1, index =>
      if index < 0 then
        throw .outOfBounds
      else
        match upgrades[index.toNat]? with
        | none => throw .outOfBounds
        | some upgrade => execute link upgrade >>= fun _ => runUpgrades link rounds (index + 1)

def dbVersion (asInt : Text → Option Int) (collation : Collation) (link : Link) :
    Statements Catalog UpgradeError Int :=
  query link (fun catalog => .ok catalog.properties.isSome) >>= fun found =>
    if found then query link (selectVersion asInt collation) else pure 0

/-- From the version on, up to the commit. -/
def runOutstanding (link : Link) (version : Int) : Statements Catalog UpgradeError Bool :=
  if version < currentDbVersion then
    runUpgrades link (currentDbVersion - version).toNat version >>= fun _ =>
      execute link recordVersion >>= fun _ => pure true
  else
    pure false

def upgradeWork (asInt : Text → Option Int) (collation : Collation) (link : Link) :
    Statements Catalog UpgradeError Bool :=
  dbVersion asInt collation link >>= runOutstanding link

/-- `as<int>` and the order of texts belong to the server and its library. -/
def upgradeDB (asInt : Text → Option Int) (collation : Collation) (link : Link)
    (catalog : Catalog) : Except UpgradeError Unit × Catalog :=
  transact link .brokenConnection (upgradeWork asInt collation link) catalog

/-! ## Interruptions -/

variable {asInt : Text → Option Int} {collation : Collation}

theorem runUpgrades_steadfast (rounds : Nat) (index : Int) :
    Steadfast fun link => runUpgrades link rounds index := by
  induction rounds generalizing index with
  | zero => exact .pure ()
  | succ rounds inductionHypothesis =>
      unfold runUpgrades
      split
      · exact .throw _
      · split
        · exact .throw _
        · exact (Steadfast.send _ _).bind fun _ => inductionHypothesis (index + 1)

theorem dbVersion_steadfast : Steadfast (dbVersion asInt collation) := by
  apply (Steadfast.send _ _).bind
  intro found
  cases found with
  | true => exact .send .brokenConnection fun catalog =>
      (selectVersion asInt collation catalog).map (·, catalog)
  | false => exact .pure 0

theorem runOutstanding_steadfast (version : Int) :
    Steadfast fun link => runOutstanding link version := by
  unfold runOutstanding
  split
  · exact (runUpgrades_steadfast _ _).bind fun _ =>
      (Steadfast.send _ _).bind fun _ => .pure true
  · exact .pure false

theorem upgradeWork_steadfast : Steadfast (upgradeWork asInt collation) :=
  dbVersion_steadfast.bind runOutstanding_steadfast

end Catalog

/-! ## Versions -/

/-- The row that the version is in. -/
def versionEntry : Text × Scope := (versionKey, {})

/-- The table has one row for the version, and that reads as this one. -/
structure Recorded (asInt : Text → Option Int) (version : Nat) (table : Table Property) :
    Prop where
  unique : table.Unique Property.primaryKey
  alone : ∀ row ∈ table, ∀ other ∈ table, row.entry = versionEntry → other.entry = versionEntry →
    row = other
  reads : ∃ row ∈ table, row.entry = versionEntry ∧ asInt row.value = some (version : Int)

/-- The rows of the version are the same. -/
def SpareVersion (before after : Table Property) : Prop :=
  ∀ row : Property, row.entry = versionEntry → (row ∈ after ↔ row ∈ before)

section Recorded

variable {asInt : Text → Option Int} {version : Nat}
  {table after : Table Property} {key value : Text} {scope : Scope}

theorem Recorded.spared (recorded : Recorded asInt version table)
    (unique : after.Unique Property.primaryKey) (spares : SpareVersion table after) :
    Recorded asInt version after := by
  refine ⟨unique, fun row inside other member same equal => ?_, ?_⟩
  · exact recorded.alone row ((spares row same).mp inside) other ((spares other equal).mp member)
      same equal
  · obtain ⟨row, inside, same, reads⟩ := recorded.reads
    exact ⟨row, (spares row same).mpr inside, same, reads⟩

/-- The scope of the version covers no other. -/
theorem Recorded.findProperty (collation : Collation) (recorded : Recorded asInt version table) :
    ∃ row, findProperty collation table versionKey {} = some row ∧
      asInt row.value = some (version : Int) := by
  obtain ⟨row, inside, same, reads⟩ := recorded.reads
  have selected (other : Property) : other ∈ table.select (fun row =>
      row.key = versionKey && row.scope.covers {}) ↔
        other ∈ table ∧ other.entry = versionEntry := by
    rw [Table.mem_select]
    apply and_congr_right
    intro _
    obtain ⟨otherKey, otherValue, network, receiver, sender⟩ := other
    simp [Scope.covers, Property.entry, versionEntry, and_assoc]
  refine ⟨row, ?_, reads⟩
  apply Table.head_orderBy_eq
  · exact fun first second => Table.byDescending_total collation.total _ first.scope second.scope
  · exact Collation.narrowestFirst_trans
  · exact (selected row).mpr ⟨inside, same⟩
  · intro other listed _
    obtain ⟨member, equal⟩ := (selected other).mp listed
    exact recorded.alone other member row inside equal same

/-- An update of a row that is alone with its entry leaves no two rows with one key. -/
theorem unique_update (unique : table.Unique Property.primaryKey)
    (alone : ∀ row ∈ table, ∀ other ∈ table, row.entry = (key, scope) →
      other.entry = (key, scope) → row = other) :
    Table.Unique Property.primaryKey
      (table.update (fun row => row.entry = (key, scope)) fun row => { row with value }) := by
  unfold Table.Unique List.Nodup Table.update at *
  rw [List.map_map, List.pairwise_map]
  rw [List.pairwise_map] at unique
  refine unique.imp_of_mem fun inside member different same => ?_
  rename_i row other
  have entries := entry_of_primaryKey same
  dsimp only [Function.comp] at same entries
  by_cases first : row.entry = (key, scope) <;> by_cases second : other.entry = (key, scope)
  · exact different (congrArg Property.primaryKey (alone row inside other member first second))
  · simp only [first, second, decide_true, decide_false, if_true, Bool.false_eq_true, if_false]
      at entries
    exact second (entries.symm.trans first)
  · simp only [first, second, decide_true, decide_false, if_true, Bool.false_eq_true, if_false]
      at entries
    exact first (entries.trans second)
  · simp only [first, second, decide_false, Bool.false_eq_true, if_false] at same
    exact different same

/-- `update_property` for the version, in its scope. -/
theorem Recorded.upsert (recorded : Recorded asInt version table) {next : Nat}
    (reads : asInt value = some (next : Int)) :
    ∃ after, upsertProperty table versionKey value {} = .ok after ∧
      Recorded asInt next after ∧
      ∀ row : Property, row.entry ≠ versionEntry → (row ∈ after ↔ row ∈ table) := by
  obtain ⟨row, inside, same, -⟩ := recorded.reads
  have unique : Table.Unique Property.primaryKey
      (table.update (fun row => row.entry = (versionKey, {})) fun row => { row with value }) :=
    unique_update recorded.unique recorded.alone
  have filled : (table.select fun row => row.entry = (versionKey, {})).isEmpty = false := by
    rw [List.isEmpty_eq_false_iff]
    exact List.ne_nil_of_mem (Table.mem_select.mpr ⟨inside, decide_eq_true same⟩)
  have rows (row : Property) :
      row ∈ table.update (fun row => row.entry = (versionKey, {})) (fun row => { row with value }) ↔
        row = ⟨versionKey, value, {}⟩ ∨ row ∈ table ∧ row.entry ≠ versionEntry :=
    mem_updated inside same row
  refine ⟨_, ?_, ⟨unique, ?_, ⟨versionKey, value, {}⟩, (rows _).mpr (.inl rfl), rfl, reads⟩, ?_⟩
  · unfold upsertProperty
    simp only [unique, filled, not_true_eq_false, if_false, Bool.false_eq_true]
  · intro first inside second member firstSame secondSame
    have new {other : Property} (listed : other ∈ table.update
        (fun row => row.entry = (versionKey, {})) fun row => { row with value })
        (entry : other.entry = versionEntry) : other = ⟨versionKey, value, {}⟩ :=
      ((rows other).mp listed).resolve_right fun old => old.2 entry
    exact (new inside firstSame).trans (new member secondSame).symm
  · intro other different
    rw [rows]
    constructor
    · rintro (rfl | old)
      · exact absurd rfl different
      · exact old.1
    · exact fun old => .inr ⟨old, different⟩

theorem versionKey_short : versionKey.length < 255 := by
  decide +kernel

/-- A text that is not cut has not been shortened. -/
theorem varchar_eq {limit : Nat} {text stored : Text} (assigned : varchar limit text = .ok stored)
    (short : stored.length < limit) : text = stored := by
  unfold varchar at assigned
  split at assigned
  · cases assigned
    rfl
  · next long =>
      split at assigned
      · cases assigned
        rw [List.length_take] at short
        omega
      · cases assigned

theorem insertProperty_unique {network receiver sender : Text}
    (unique : table.Unique Property.primaryKey)
    (completed : insertProperty table key value network receiver sender = .ok after) :
    after.Unique Property.primaryKey := by
  unfold insertProperty Table.insert at completed
  cases keys : varchar 255 key <;> cases networks : varchar 255 network <;>
    cases receivers : varchar 255 receiver <;> cases senders : varchar 255 sender <;>
      simp only [keys, networks, receivers, senders, bind, Except.bind, reduceCtorEq]
        at completed
  split at completed
  · next inserted =>
      split at inserted
      · cases inserted
      · next fresh =>
          cases inserted
          cases completed
          exact unique.append fresh
  · cases completed

/-- A statement for another entry leaves the version alone. -/
theorem Recorded.upsert_other (recorded : Recorded asInt version table)
    (other : (key, scope) ≠ versionEntry)
    (completed : upsertProperty table key value scope = .ok after) :
    Recorded asInt version after := by
  have updated : SpareVersion table
      (table.update (fun row => row.entry = (key, scope)) fun row => { row with value }) := by
    intro row same
    rw [Table.mem_update]
    constructor
    · rintro (old | ⟨old, -, matched, rfl⟩)
      · exact old.1
      · exact absurd ((of_decide_eq_true matched).symm.trans same) other
    · intro inside
      exact .inl ⟨inside, decide_eq_false fun equal => other (equal.symm.trans same)⟩
  unfold upsertProperty at completed
  dsimp only at completed
  split at completed
  · cases completed
  · next unique =>
      have unique := not_not.mp unique
      have middle := recorded.spared unique updated
      split at completed
      · refine middle.spared (insertProperty_unique unique completed) ?_
        obtain ⟨new, rfl, keys, networks, receivers, senders⟩ := insertProperty_stores completed
        intro row same
        rw [List.mem_append, List.mem_singleton]
        refine or_iff_left ?_
        rintro rfl
        -- what was stored of the new row is short, and so is all that was asked for
        obtain ⟨named, unscoped⟩ := Prod.mk.inj same
        rw [named] at keys
        rw [unscoped] at networks receivers senders
        apply other
        have empty {text : Text} (assigned : varchar 255 text = .ok []) : text = [] :=
          varchar_eq assigned (by decide)
        have unrestricted : scope = ⟨scope.network, scope.receiver, scope.sender⟩ := rfl
        rw [varchar_eq keys versionKey_short, unrestricted, empty networks, empty receivers,
          empty senders]
        rfl
      · cases completed
        exact middle

theorem Recorded.delete (recorded : Recorded asInt version table)
    (other : (key, scope) ≠ versionEntry) :
    Recorded asInt version (table.delete fun row => row.entry = (key, scope)) := by
  apply recorded.spared recorded.unique.delete
  intro row same
  rw [Table.mem_delete]
  exact and_iff_left (decide_eq_false fun equal => other (equal.symm.trans same))

end Recorded

namespace Catalog

/-- After so many upgrades, with these rows in the tables that exist. -/
def built (version : Nat) (properties : Table Property) (permissions : Table Permission) :
    Catalog where
  properties := if 1 ≤ version then some properties else none
  permissions := if 2 ≤ version then some permissions else none
  timestampFunction := decide (3 ≤ version)
  propertiesTrigger := decide (4 ≤ version)
  permissionsTrigger := decide (5 ≤ version)

/-- What releases with so many upgrades leave. -/
structure Upgraded (asInt : Text → Option Int) (version : Nat) (catalog : Catalog) : Prop where
  few : version ≤ 5
  content : ∃ properties permissions, catalog = built version properties permissions ∧
    (1 ≤ version → Recorded asInt version properties)

/-- Except for the version, the rows are the same. -/
def KeepsRows (before after : Catalog) : Prop :=
  (∀ row : Property, row.entry ≠ versionEntry →
    (row ∈ after.properties.getD [] ↔ row ∈ before.properties.getD [])) ∧
  after.permissions.getD [] = before.permissions.getD []

/-- A step of the loop; a new table is empty. -/
theorem upgrade_built {version : Nat} (few : version < 5) (properties : Table Property)
    (permissions : Table Permission) :
    ∃ upgrade, upgrades[version]? = some upgrade ∧
      upgrade (built version properties permissions) =
        .ok (built (version + 1) (if 1 ≤ version then properties else [])
          (if 2 ≤ version then permissions else [])) := by
  match version with
  | 0 => exact ⟨_, rfl, rfl⟩
  | 1 => exact ⟨_, rfl, rfl⟩
  | 2 => exact ⟨_, rfl, rfl⟩
  | 3 => exact ⟨_, rfl, rfl⟩
  | 4 => exact ⟨_, rfl, rfl⟩

variable {asInt : Text → Option Int} {version : Nat} {catalog : Catalog}

theorem execute_ok {statement : Catalog → Except UpgradeError Catalog} {before after : Catalog}
    (sent : Nat) (effect : statement before = .ok after) :
    execute {} statement ⟨before, sent⟩ = .ok ((), ⟨after, sent + 1⟩) := by
  unfold execute send
  simp only [Bool.false_eq_true, if_false, effect, Except.map]

theorem query_ok {Result : Type} {statement : Catalog → Except UpgradeError Result}
    {before : Catalog} {result : Result} (sent : Nat) (answer : statement before = .ok result) :
    query {} statement ⟨before, sent⟩ = .ok (result, ⟨before, sent + 1⟩) := by
  unfold query send
  simp only [Bool.false_eq_true, if_false, answer, Except.map]

/-- The loop from a version on. -/
theorem runUpgrades_built {rounds : Nat} (reaches : version + rounds = 5)
    (properties : Table Property) (permissions : Table Permission) (sent : Nat) :
    ∃ after, runUpgrades {} rounds version ⟨built version properties permissions, sent⟩ =
      .ok ((), ⟨built 5 (if 1 ≤ version then properties else [])
        (if 2 ≤ version then permissions else []), after⟩) := by
  induction rounds generalizing version properties permissions sent with
  | zero =>
      obtain rfl : version = 5 := reaches
      exact ⟨sent, rfl⟩
  | succ rounds inductionHypothesis =>
      have few : version < 5 := by omega
      have more : version + 1 + rounds = 5 := by omega
      obtain ⟨upgrade, found, effect⟩ := upgrade_built few properties permissions
      obtain ⟨after, rest⟩ := inductionHypothesis more
        (if 1 ≤ version then properties else []) (if 2 ≤ version then permissions else [])
        (sent + 1)
      have kept {Row : Type} (count : Nat) (rows : Table Row) :
          (if count ≤ version + 1 then if count ≤ version then rows else [] else []) =
            if count ≤ version then rows else [] := by
        by_cases old : count ≤ version
        · rw [if_pos (Nat.le_succ_of_le old)]
        · rw [if_neg old, ite_self]
      refine ⟨after, ?_⟩
      have next : ((version + 1 : Nat) : Int) = (version : Int) + 1 := rfl
      rw [next] at rest
      unfold runUpgrades
      rw [if_neg (by omega), Int.toNat_natCast, found]
      simp only [Bind.bind, StateT.bind, execute_ok sent effect, Except.bind, rest, kept]

theorem Upgraded.dbVersion (collation : Collation)
    (upgraded : Upgraded asInt version catalog) :
    ∃ sent, dbVersion asInt collation {} ⟨catalog, 0⟩ = .ok ((version : Int), ⟨catalog, sent⟩) := by
  obtain ⟨properties, permissions, rfl, recorded⟩ := upgraded.content
  unfold Catalog.dbVersion
  by_cases created : 1 ≤ version
  · have there : (built version properties permissions).properties = some properties :=
      if_pos created
    obtain ⟨row, found, reads⟩ := (recorded created).findProperty collation
    have answer : selectVersion asInt collation (built version properties permissions) =
        .ok (version : Int) := by
      unfold selectVersion
      simp only [there, found, reads]
    have listed : query {} (fun catalog => .ok catalog.properties.isSome)
        ⟨built version properties permissions, 0⟩ = .ok (true, ⟨_, 1⟩) :=
      query_ok 0 (by rw [there]; rfl)
    refine ⟨2, ?_⟩
    simp only [Bind.bind, StateT.bind, listed, Except.bind, if_true, query_ok 1 answer]
  · obtain rfl : version = 0 := by omega
    exact ⟨1, rfl⟩

/-- The statement after the loop. -/
theorem recordVersion_built {properties : Table Property}
    (recorded : 1 ≤ version → Recorded asInt version properties)
    (reads : asInt (toString currentDbVersion).toList = some 5) (permissions : Table Permission) :
    let rows := if 1 ≤ version then properties else []
    ∃ table, recordVersion (built 5 rows permissions) = .ok (built 5 table permissions) ∧
      Recorded asInt 5 table ∧
      ∀ row : Property, row.entry ≠ versionEntry → (row ∈ table ↔ row ∈ rows) := by
  intro rows
  have upserted {table : Table Property}
      (stored : upsertProperty rows versionKey (toString currentDbVersion).toList {} = .ok table) :
      recordVersion (built 5 rows permissions) = .ok (built 5 table permissions) := by
    have there : (built 5 rows permissions).properties = some rows := rfl
    unfold recordVersion
    simp only [there, stored]
    rfl
  by_cases created : 1 ≤ version
  · have same : rows = properties := if_pos created
    obtain ⟨table, stored, done, kept⟩ := (recorded created).upsert reads
    rw [← same] at stored kept
    exact ⟨table, upserted stored, done, kept⟩
  · have empty : rows = [] := if_neg created
    have stored : upsertProperty rows versionKey (toString currentDbVersion).toList {} =
        .ok [⟨versionKey, (toString currentDbVersion).toList, {}⟩] := by
      rw [empty]
      decide +kernel
    refine ⟨_, upserted stored, ⟨List.nodup_singleton _, ?_, _, List.mem_singleton_self _, rfl,
      reads⟩, fun row different => ?_⟩
    · intro row inside other member _ _
      exact (List.mem_singleton.mp inside).trans (List.mem_singleton.mp member).symm
    · rw [empty]
      refine iff_of_false (fun inside => different ?_) List.not_mem_nil
      rw [List.mem_singleton.mp inside]
      rfl

/-- A call that is not interrupted arrives at the last version and keeps all other rows. -/
theorem Upgraded.undisturbed (collation : Collation) (upgraded : Upgraded asInt version catalog)
    (reads : asInt (toString currentDbVersion).toList = some 5) :
    ∃ after, upgradeDB asInt collation {} catalog = (.ok (), after) ∧ Upgraded asInt 5 after ∧
      KeepsRows catalog after := by
  obtain ⟨sent, found⟩ := upgraded.dbVersion collation
  obtain ⟨properties, permissions, rfl, recorded⟩ := upgraded.content
  have few := upgraded.few
  unfold upgradeDB transact upgradeWork
  simp only [Bind.bind, StateT.bind, found, Except.bind]
  by_cases recent : version = 5
  · subst recent
    exact ⟨_, rfl, upgraded, fun row _ => Iff.rfl, rfl⟩
  · have rounds : (currentDbVersion - (version : Int)).toNat = 5 - version := by
      have target : currentDbVersion = 5 := rfl
      omega
    have outstanding : (version : Int) < currentDbVersion := by
      have target : currentDbVersion = 5 := rfl
      omega
    have reaches : version + (5 - version) = 5 := by omega
    obtain ⟨later, looped⟩ := runUpgrades_built reaches properties permissions sent
    obtain ⟨table, stored, done, kept⟩ := recordVersion_built recorded reads
      (if 2 ≤ version then permissions else [])
    have whole : runOutstanding {} (version : Int)
        ⟨built version properties permissions, sent⟩ = .ok (true,
          ⟨built 5 table (if 2 ≤ version then permissions else []), later + 1⟩) := by
      unfold runOutstanding
      rw [if_pos outstanding, rounds]
      simp only [Bind.bind, StateT.bind, looped, Except.bind, execute_ok later stored]
      rfl
    rw [whole]
    refine ⟨_, rfl, ⟨Nat.le_refl 5, table, _, rfl, fun _ => done⟩, fun row different => ?_, ?_⟩
    · apply (kept row different).trans
      unfold built
      by_cases created : 1 ≤ version <;> simp [created]
    · unfold built
      by_cases created : 2 ≤ version <;> simp [created]

end Catalog

/-! ## Whole runs -/

/-- A request that changes a table. -/
inductive Write where
  | setProperty (key value : Text) (scope : Scope)
  | setPermission (permission : Bool) (name : Text) (scope : Scope)
  | unsetPermission (name : Text) (scope : Scope)

def PostgreSQLDatabase.write (db : PostgreSQLDatabase) : Write → Except SqlError PostgreSQLDatabase
  | .setProperty key value scope => db.setProperty key value scope
  | .setPermission permission name scope => db.setPermission scope permission name
  | .unsetPermission name scope => db.unsetPermission scope name

inductive CatalogEvent where
  /-- A bot opens its database. -/
  | connect (link : Link)
  /-- A bot whose `open` has returned makes a request; if that fails nothing is changed. -/
  | write (request : Write)

namespace Catalog

def database (catalog : Catalog) : Option PostgreSQLDatabase :=
  match catalog.properties, catalog.permissions with
  | some properties, some permissions => some { properties, permissions }
  | _, _ => none

def write (catalog : Catalog) (request : Write) : Catalog :=
  match catalog.database with
  | none => catalog
  | some db =>
      match db.write request with
      | .error _ => catalog
      | .ok db =>
          { catalog with properties := some db.properties, permissions := some db.permissions }

/-- A database and the bots that use it, one after the other or together. -/
def system (asInt : Text → Option Int) (collation : Collation) :
    TransitionSystem Catalog CatalogEvent where
  initial catalog := catalog = {}
  step before event after :=
    match event with
    | .connect link => after = (before.upgradeDB asInt collation link).2
    | .write request => after = before.write request

/-- Nobody sets the version in the scope that restricts nothing. -/
def SparesVersion (_before : Catalog) : CatalogEvent → Prop
  | .write (.setProperty key _ scope) => (key, scope) ≠ versionEntry
  | _ => True

variable {asInt : Text → Option Int} {collation : Collation} {version : Nat}
  {catalog start finish : Catalog}

theorem Upgraded.write (upgraded : Upgraded asInt version catalog) {request : Write}
    (spares : SparesVersion catalog (.write request)) :
    Upgraded asInt version (catalog.write request) := by
  obtain ⟨properties, permissions, rfl, recorded⟩ := upgraded.content
  by_cases both : 2 ≤ version
  · have created : 1 ≤ version := Nat.le_of_succ_le both
    have there : (built version properties permissions).database =
        some { properties, permissions } := by
      unfold database built
      simp only [if_pos created, if_pos both]
    have result (table : Table Property) (others : Table Permission)
        (kept : Recorded asInt version table) : Upgraded asInt version
          { built version properties permissions with
            properties := some table, permissions := some others } := by
      refine ⟨upgraded.few, table, others, ?_, fun _ => kept⟩
      unfold built
      simp only [if_pos created, if_pos both]
    unfold Catalog.write
    simp only [there]
    split
    · exact upgraded
    · next db outcome =>
        apply result
        cases request with
        | setProperty key value scope =>
            have other : (key, scope) ≠ versionEntry := spares
            unfold PostgreSQLDatabase.write PostgreSQLDatabase.setProperty prepared at outcome
            dsimp only at outcome
            split at outcome
            · cases outcome
              exact (recorded created).delete other
            · cases upserted : upsertProperty properties key value scope with
              | error error =>
                  rw [upserted] at outcome
                  cases outcome
              | ok table =>
                  rw [upserted] at outcome
                  cases outcome
                  exact (recorded created).upsert_other other upserted
        | setPermission permission name scope =>
            cases inserted : insertPermission permissions name scope with
            | error error =>
                simp only [PostgreSQLDatabase.write, PostgreSQLDatabase.setPermission, inserted]
                  at outcome
                cases outcome
            | ok table =>
                simp only [PostgreSQLDatabase.write, PostgreSQLDatabase.setPermission, inserted]
                  at outcome
                cases outcome
                exact recorded created
        | unsetPermission name scope =>
            cases outcome
            exact recorded created
  · have missing : (built version properties permissions).database = none := by
      unfold database built
      simp only [if_neg both]
      cases (if 1 ≤ version then some properties else none) <;> rfl
    unfold Catalog.write
    rw [missing]
    exact upgraded

/-- In every run in which nobody sets the version, from what any release left: however many opens
were interrupted, the database is at the version it had or at the last one.  An open commits
everything or nothing, and the next one that is not interrupted arrives at the last version and
keeps all other rows. -/
theorem schema_recovers (begun : Upgraded asInt version start)
    (reads : asInt (toString currentDbVersion).toList = some 5)
    (run : ((system asInt collation).guard SparesVersion).Reaches start finish) :
    (Upgraded asInt version finish ∨ Upgraded asInt 5 finish) ∧
      ∃ after, upgradeDB asInt collation {} finish = (.ok (), after) ∧ Upgraded asInt 5 after ∧
        KeepsRows finish after ∧
        ∀ link, let opened := upgradeDB asInt collation link finish
          (opened.2 = finish ∨ opened.2 = after) ∧ (opened.1 = .ok () → opened.2 = after) := by
  have whole (link : Link) {catalog after : Catalog}
      (undisturbed : upgradeDB asInt collation {} catalog = (.ok (), after)) :
      ((upgradeDB asInt collation link catalog).2 = catalog ∨
        (upgradeDB asInt collation link catalog).2 = after) ∧
      ((upgradeDB asInt collation link catalog).1 = .ok () →
        (upgradeDB asInt collation link catalog).2 = after) := by
    have same {other : Catalog} (equal : upgradeDB asInt collation {} catalog = (.ok (), other)) :
        other = after := (Prod.mk.inj (equal.symm.trans undisturbed)).2
    have atomic := transact_atomic upgradeWork_steadfast link
      (Prod.mk.eta (p := upgradeDB asInt collation link catalog)).symm
    exact ⟨atomic.1.imp_right same, fun returned => same (atomic.2 returned)⟩
  have holds : Upgraded asInt version finish ∨ Upgraded asInt 5 finish := by
    apply run.invariant
      (motive := fun catalog => Upgraded asInt version catalog ∨ Upgraded asInt 5 catalog)
    · rintro before (link | request) after holds ⟨spares, rfl⟩
      · have opens {version : Nat} (upgraded : Upgraded asInt version before) :
            Upgraded asInt version (upgradeDB asInt collation link before).2 ∨
              Upgraded asInt 5 (upgradeDB asInt collation link before).2 := by
          obtain ⟨after, undisturbed, done, -⟩ := upgraded.undisturbed collation reads
          rcases (whole link undisturbed).1 with same | same <;> rw [same]
          · exact .inl upgraded
          · exact .inr done
        exact holds.elim opens fun done => .inr ((opens done).elim id id)
      · exact holds.imp (Upgraded.write · spares) (Upgraded.write · spares)
    · exact .inl begun
  refine ⟨holds, ?_⟩
  have undisturbed := holds.elim (fun upgraded => upgraded.undisturbed collation reads)
    fun upgraded => upgraded.undisturbed collation reads
  obtain ⟨after, arrives, done, keeps⟩ := undisturbed
  exact ⟨after, arrives, done, keeps, fun link => whole link arrives⟩

/-- From an empty database, the first open loses its connection at the fourth statement, and the
second one at the commit, which has arrived. -/
theorem schema_recovers_interrupted :
    let asInt := fun text => (stoi text).toOption
    let first := (upgradeDB asInt binary { lost := (· = 3) } {}).2
    let second := (upgradeDB asInt binary { commitment := .unheard true } first).2
    ∃ after, upgradeDB asInt binary {} second = (.ok (), after) ∧ Upgraded asInt 5 after := by
  intro asInt first second
  have empty : Upgraded asInt 0 {} := ⟨Nat.zero_le 5, [], [], rfl, nofun⟩
  have reads : asInt (toString currentDbVersion).toList = some 5 := by decide +kernel
  have begun : ((system asInt binary).guard SparesVersion).Reaches {} first :=
    (TransitionSystem.Reaches.refl _).snoc
      (show ((system asInt binary).guard SparesVersion).step {}
        (.connect { lost := (· = 3) }) first from ⟨trivial, rfl⟩)
  have run : ((system asInt binary).guard SparesVersion).Reaches {} second :=
    begun.snoc (show ((system asInt binary).guard SparesVersion).step first
      (.connect { commitment := .unheard true }) second from ⟨trivial, rfl⟩)
  obtain ⟨-, after, arrives, done, -⟩ := schema_recovers empty reads run
  exact ⟨after, arrives, done⟩

end Catalog

end DaZeus.Database
