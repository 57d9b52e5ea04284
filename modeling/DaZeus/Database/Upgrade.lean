import DaZeus.Database.Agreement

/-!
# The version of the schema

`SQLiteDatabase::open` on a database file.  The version that `upgradeDB` goes by
is a row of `dazeus_properties` like those of the plugins, in whatever scope,
and is only as good as the last request that wrote it.
-/

namespace DaZeus.Database

open Library

/-! ## `std::stoi` -/

/-- How `open` ends if it does not return. -/
inductive OpenFailure where
  /-- A `db::exception`, which the bot reports. -/
  | exception (what : String)
  /-- What `std::stoi` throws; the bot catches neither. -/
  | invalidArgument
  | outOfRange
  /-- A read of `upgrades` outside of the array. -/
  | outOfBounds
  deriving DecidableEq

/-- `isspace` in the C locale. -/
def isBlank (character : Char) : Bool :=
  character = ' ' || ('\t' ≤ character && character ≤ '\r')

/-- The sign in front of a number, and what follows. -/
def signed : Text → Bool × Text
  | '-' :: digits => (true, digits)
  | '+' :: digits => (false, digits)
  | digits => (false, digits)

/-- Base ten, with anything after the digits ignored. -/
def stoi (text : Text) : Except OpenFailure Int :=
  let (negative, rest) := signed (text.dropWhile isBlank)
  let digits := rest.takeWhile Char.isDigit
  let magnitude : Int := Nat.ofDigitChars 10 digits 0
  let number := if negative then -magnitude else magnitude
  if digits.isEmpty then .error .invalidArgument
  else if -2 ^ 31 ≤ number ∧ number < 2 ^ 31 then .ok number
  else .error .outOfRange

/-! ## Opening a file -/

/-- What the file of a SQLite database holds: a table may not have been created yet. -/
structure SQLiteFile where
  properties : Option (Table Property) := none
  permissions : Option (Table Permission) := none
  deriving DecidableEq

def versionKey : Text := "dazeus_version".toList

namespace SQLiteFile

def createProperties (file : SQLiteFile) : Except String SQLiteFile :=
  match file.properties with
  | none => .ok { file with properties := some [] }
  | some _ => .error "table dazeus_properties already exists"

def createPermissions (file : SQLiteFile) : Except String SQLiteFile :=
  match file.permissions with
  | none => .ok { file with permissions := some [] }
  | some _ => .error "table dazeus_permissions already exists"

/-- The statements of the array. -/
def upgrades : List (SQLiteFile → Except String SQLiteFile) :=
  [createProperties, createPermissions]

def targetVersion : Int := upgrades.length

/-- The first part of `upgradeDB`.  `LIMIT 1` without an order leaves it to SQLite which row of
the key is read; `choice` says which. -/
def readVersion (choice : Nat) (file : SQLiteFile) : Except OpenFailure Int :=
  match file.properties with
  | none => .ok 0
  | some table =>
      let rows := table.select fun row => row.key = versionKey
      match rows[choice % rows.length]? with
      | none => .ok 0
      | some row => stoi row.value

/-- The loop over the outstanding upgrades, from this index on. -/
def runUpgrades : Nat → Int → SQLiteFile → Except OpenFailure Unit × SQLiteFile
  | 0, _, file => (.ok (), file)
  | rounds + 1, index, file =>
      if index < 0 then
        (.error .outOfBounds, file)
      else
        match upgrades[index.toNat]? with
        | none => (.error .outOfBounds, file)
        | some upgrade =>
            match upgrade file with
            | .error message =>
                (.error (.exception ("Could not run upgrade " ++ toString index ++
                  ", got error: " ++ message)), file)
            | .ok file => runUpgrades rounds (index + 1) file

/-- The result is the version that the file has from then on. -/
def upgradeDB (choice : Nat) (file : SQLiteFile) : Except OpenFailure Int × SQLiteFile :=
  match file.readVersion choice with
  | .error failure => (.error failure, file)
  | .ok version =>
      if version < targetVersion then
        match runUpgrades (targetVersion - version).toNat version file with
        | (.error failure, file) => (.error failure, file)
        | (.ok (), file) =>
            match file.properties with
            | none =>
                (.error (.exception ("Could not set dazeus_version to latest version, " ++
                  "got error: no such table: dazeus_properties")), file)
            | some table =>
                let row : Property := ⟨versionKey, (toString targetVersion).toList, {}⟩
                (.ok targetVersion, { file with
                  properties := some (table.insertOrReplace Property.entry row) })
      else
        (.ok version, file)

/-- `upgradeDB` and `bootstrapDB`, which prepares statements on both tables. -/
def openDB (choice : Nat) (file : SQLiteFile) : Except OpenFailure SQLiteDatabase × SQLiteFile :=
  match file.upgradeDB choice with
  | (.error failure, file) => (.error failure, file)
  | (.ok _, file) =>
      match file.properties, file.permissions with
      | some properties, some permissions => (.ok { properties, permissions }, file)
      | none, _ =>
          (.error (.exception ("Failed to prepare SQL statement, got an error: " ++
            "no such table: dazeus_properties")), file)
      | some _, none =>
          (.error (.exception ("Failed to prepare SQL statement, got an error: " ++
            "no such table: dazeus_permissions")), file)

end SQLiteFile

namespace SQLiteDatabase

/-- What is in the file while the database is open. -/
def file (db : SQLiteDatabase) : SQLiteFile :=
  { properties := some db.properties, permissions := some db.permissions }

/-- The property requests of plugins, one after the other; unsetting a property sets it to the
empty text. -/
def serve (db : SQLiteDatabase) (requests : List PropertyCall) : SQLiteDatabase :=
  requests.foldl (fun db request => (db.call request).1) db

end SQLiteDatabase

/-! ## The rows that requests leave -/

/-- What the last request that wrote the entry gave it. -/
def lastWrite (requests : List PropertyCall) (entry : Text × Scope) : Option Text :=
  requests.foldl
    (fun last request =>
      match request with
      | .setProperty key value scope => if entry = (key, scope) then some value else last
      | _ => last)
    none

variable {db : SQLiteDatabase} {requests : List PropertyCall} {row : Property}

theorem lastWrite_concat (requests : List PropertyCall) (request : PropertyCall)
    (entry : Text × Scope) :
    lastWrite (requests ++ [request]) entry =
      match request with
      | .setProperty key value scope =>
          if entry = (key, scope) then some value else lastWrite requests entry
      | _ => lastWrite requests entry := by
  unfold lastWrite
  rw [List.foldl_concat]

theorem mem_setProperty {key value : Text} {scope : Scope} :
    row ∈ (db.setProperty key value scope).properties ↔
      if row.entry = (key, scope) then row.value = value ∧ value ≠ [] else row ∈ db.properties := by
  unfold SQLiteDatabase.setProperty
  by_cases empty : value = []
  · simp only [if_pos empty, Table.mem_delete, decide_eq_false_iff_not]
    by_cases same : row.entry = (key, scope) <;> simp [same, empty]
  · simp only [if_neg empty, Table.mem_insertOrReplace]
    by_cases same : row.entry = (key, scope)
    · obtain ⟨rowKey, rowValue, rowScope⟩ := row
      cases same
      simp [Property.entry, empty]
    · have other : row ≠ ⟨key, value, scope⟩ := by
        rintro rfl
        exact same rfl
      rw [if_neg same]
      simp only [other, false_or]
      exact and_iff_left same

theorem mem_serve :
    row ∈ (db.serve requests).properties ↔
      match lastWrite requests row.entry with
      | none => row ∈ db.properties
      | some value => row.value = value ∧ value ≠ [] := by
  induction requests using List.reverseRecOn with
  | nil => rfl
  | append_singleton requests request inductionHypothesis =>
      unfold SQLiteDatabase.serve at *
      rw [List.foldl_concat, lastWrite_concat]
      cases request with
      | setProperty key value scope =>
          apply mem_setProperty.trans
          dsimp only
          split
          · rfl
          · exact inductionHypothesis
      | property key scope => exact inductionHypothesis
      | propertyKeys start scope => exact inductionHypothesis

/-! ## The next open -/

/-- Each value that is left for the version, in whatever scope, reads as this version, and there
is one. -/
structure VersionSpared (db : SQLiteDatabase) (version : Int) (requests : List PropertyCall) :
    Prop where
  written : ∀ scope value, lastWrite requests (versionKey, scope) = some value → value ≠ [] →
    stoi value = .ok version
  old : ∀ row ∈ db.properties, row.key = versionKey → lastWrite requests row.entry = none →
    stoi row.value = .ok version
  remains : (∃ scope value, lastWrite requests (versionKey, scope) = some value ∧ value ≠ []) ∨
    ∃ row ∈ db.properties, row.key = versionKey ∧ lastWrite requests row.entry = none

theorem readVersion_iff {file : SQLiteFile} {table : Table Property}
    (created : file.properties = some table) {version : Int} (nonzero : version ≠ 0) :
    (∀ choice, file.readVersion choice = .ok version) ↔
      (∀ row ∈ table, row.key = versionKey → stoi row.value = .ok version) ∧
        ∃ row ∈ table, row.key = versionKey := by
  generalize rows : table.select (fun row => row.key = versionKey) = versions
  have listed (row : Property) : row ∈ versions ↔ row ∈ table ∧ row.key = versionKey := by
    rw [← rows, Table.mem_select, decide_eq_true_eq]
  have read (choice : Nat) : file.readVersion choice =
      match versions[choice % versions.length]? with
      | none => .ok 0
      | some row => stoi row.value := by
    rw [← rows, SQLiteFile.readVersion, created]
  simp only [read]
  constructor
  · intro same
    refine ⟨fun row stored key => ?_, ?_⟩
    · obtain ⟨index, bound, rfl⟩ := List.mem_iff_getElem.mp ((listed row).mpr ⟨stored, key⟩)
      have here := same index
      rwa [Nat.mod_eq_of_lt bound, List.getElem?_eq_getElem bound] at here
    · have first := same 0
      cases versions with
      | nil => exact absurd (Except.ok.inj first).symm nonzero
      | cons row rest => exact ⟨row, (listed row).mp List.mem_cons_self⟩
  · rintro ⟨every, row, stored, key⟩ choice
    have filled := List.length_pos_of_mem ((listed row).mpr ⟨stored, key⟩)
    have bound := Nat.mod_lt choice filled
    rw [List.getElem?_eq_getElem bound]
    have chosen := (listed _).mp (List.getElem_mem bound)
    exact every _ chosen.1 chosen.2

/-- An open that changes nothing. -/
theorem openDB_again {version : Int} {choice : Nat}
    (read : db.file.readVersion choice = .ok version)
    (recent : SQLiteFile.targetVersion ≤ version) :
    db.file.upgradeDB choice = (.ok version, db.file) ∧
      db.file.openDB choice = (.ok db, db.file) := by
  have upgraded : db.file.upgradeDB choice = (.ok version, db.file) := by
    unfold SQLiteFile.upgradeDB
    rw [read]
    exact if_neg (Int.not_lt.mpr recent)
  refine ⟨upgraded, ?_⟩
  rw [SQLiteFile.openDB, upgraded]
  rfl

theorem upgradeDB_recent {file after : SQLiteFile} {choice : Nat} {version : Int}
    (upgraded : file.upgradeDB choice = (.ok version, after)) :
    SQLiteFile.targetVersion ≤ version := by
  unfold SQLiteFile.upgradeDB at upgraded
  split at upgraded
  · cases upgraded
  · split at upgraded
    · split at upgraded
      · cases upgraded
      · split at upgraded <;> cases upgraded
        exact Int.le_refl _
    · next recent =>
        cases upgraded
        exact Int.not_lt.mp recent

/-- After an open that returned, whatever plugins ask for, the next one reads the same version
and changes nothing if and only if the requests spare the version. -/
theorem version_kept_iff {file : SQLiteFile} {choice : Nat} {version : Int}
    (upgraded : file.upgradeDB choice = (.ok version, db.file)) (requests : List PropertyCall) :
    (∀ next, (db.serve requests).file.readVersion next = .ok version ∧
      (db.serve requests).file.upgradeDB next = (.ok version, (db.serve requests).file) ∧
      (db.serve requests).file.openDB next =
        (.ok (db.serve requests), (db.serve requests).file)) ↔
      VersionSpared db version requests := by
  have recent := upgradeDB_recent upgraded
  have nonzero : version ≠ 0 := by
    rintro rfl
    exact absurd recent (by decide)
  have created : (db.serve requests).file.properties = some (db.serve requests).properties := rfl
  have reads := readVersion_iff created nonzero
  constructor
  · intro kept
    obtain ⟨every, row, stored, key⟩ := reads.mp fun next => (kept next).1
    refine ⟨fun scope value last nonempty => ?_, fun row stored key last => ?_, ?_⟩
    · have stored : (⟨versionKey, value, scope⟩ : Property) ∈ (db.serve requests).properties := by
        rw [mem_serve, Property.entry, last]
        exact ⟨rfl, nonempty⟩
      exact every _ stored rfl
    · apply every row ?_ key
      rw [mem_serve, last]
      exact stored
    · rw [mem_serve] at stored
      cases last : lastWrite requests row.entry with
      | none =>
          rw [last] at stored
          exact .inr ⟨row, stored, key, last⟩
      | some value =>
          rw [last] at stored
          rw [Property.entry, key] at last
          exact .inl ⟨row.scope, value, last, stored.2⟩
  · intro spared next
    have read := reads.mpr ⟨fun row stored key => ?_, ?_⟩ next
    · exact ⟨read, openDB_again read recent⟩
    · rw [mem_serve] at stored
      cases last : lastWrite requests row.entry with
      | none =>
          rw [last] at stored
          exact spared.old row stored key last
      | some value =>
          rw [last] at stored
          rw [Property.entry, key] at last
          rw [stored.1]
          exact spared.written row.scope value last stored.2
    · rcases spared.remains with ⟨scope, value, last, nonempty⟩ | ⟨row, stored, key, last⟩
      · refine ⟨⟨versionKey, value, scope⟩, ?_, rfl⟩
        rw [mem_serve, Property.entry, last]
        exact ⟨rfl, nonempty⟩
      · refine ⟨row, ?_, key⟩
        rw [mem_serve, last]
        exact stored

/-- A new file, and a plugin that keeps to its own keys. -/
theorem version_kept_iff_new :
    let db : SQLiteDatabase := { properties := [⟨versionKey, ['2'], {}⟩] }
    ({} : SQLiteFile).upgradeDB 0 = (.ok 2, db.file) ∧
      (db.serve [.setProperty "count".toList ['x'] {}]).file.readVersion 0 = .ok 2 := by
  intro db
  have upgraded : ({} : SQLiteFile).upgradeDB 0 = (.ok 2, db.file) := by decide +kernel
  have untouched (entry : Text × Scope) (written : entry.1 = versionKey) :
      lastWrite [.setProperty "count".toList ['x'] {}] entry = none := by
    refine if_neg fun same => ?_
    rw [same] at written
    exact absurd written (by decide)
  refine ⟨upgraded, ((version_kept_iff upgraded _).mpr ⟨?_, ?_, ?_⟩ 0).1⟩
  · intro scope value last
    rw [untouched (versionKey, scope) rfl] at last
    cases last
  · intro row stored _ _
    rw [List.mem_singleton.mp stored]
    decide +kernel
  · exact .inr ⟨_, List.mem_singleton_self _, rfl, untouched _ rfl⟩

/-- Requests for the key of the version: the open fails, throws what the bot does not catch, reads
outside of an array, or takes the file for a later one. -/
theorem version_overwritten :
    let db : SQLiteDatabase := { properties := [⟨versionKey, ['2'], {}⟩] }
    let written (value : Text) : SQLiteFile := (db.serve [.setProperty versionKey value {}]).file
    ({} : SQLiteFile).openDB 0 = (.ok db, db.file) ∧
      ((written []).openDB 0).1 = .error (.exception
        "Could not run upgrade 0, got error: table dazeus_properties already exists") ∧
      ((written ['x']).openDB 0).1 = .error .invalidArgument ∧
      ((written ['-', '1']).openDB 0).1 = .error .outOfBounds ∧
      (written ['3']).readVersion 0 = .ok 3 := by
  decide +kernel

end DaZeus.Database
