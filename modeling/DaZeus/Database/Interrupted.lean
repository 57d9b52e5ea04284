import DaZeus.Database.Upgrade

/-!
# An upgrade that does not get to its end

`upgradeDB` sends one statement after the other and records the new version
with the last of them.  A statement that fails, or a process that stops, after
the first outstanding upgrade and before that leaves a table behind that no
later call knows of.
-/

namespace DaZeus.Database

open Library

/-- The statements of `upgradeDB`. -/
inductive Statement where
  | findTable
  | selectVersion
  | upgrade (index : Int)
  | recordVersion
  deriving DecidableEq

/-- What becomes of a statement: it has its effect, or it has none. -/
inductive Fate where
  | runs
  | fails (message : String)
  /-- The process is gone before it is sent. -/
  | stops
  deriving DecidableEq

/-- How a call of `upgradeDB` ends if it does not return. -/
inductive Halt where
  | threw (failure : OpenFailure)
  | stopped
  deriving DecidableEq

/-- A database file, and the statements that have been sent to it. -/
structure Session where
  file : SQLiteFile
  sent : List Statement := []

namespace SQLiteFile

def recordVersion (file : SQLiteFile) : Except String SQLiteFile :=
  match file.properties with
  | none => .error "no such table: dazeus_properties"
  | some table =>
      let row : Property := ⟨versionKey, (toString targetVersion).toList, {}⟩
      .ok { file with properties := some (table.insertOrReplace Property.entry row) }

/-- The upgrades whose tables are not there. -/
def missing (file : SQLiteFile) : List Int :=
  (if file.properties.isNone then [0] else []) ++ if file.permissions.isNone then [1] else []

end SQLiteFile

namespace Session

/-- `onError` is what is thrown when the statement fails. -/
def send (fates : Nat → Fate) (statement : Statement)
    (effect : SQLiteFile → Except String SQLiteFile) (onError : String → OpenFailure)
    (session : Session) : Except Halt Unit × Session :=
  match fates session.sent.length with
  | .stops => (.error .stopped, session)
  | .fails message =>
      (.error (.threw (onError message)), { session with sent := session.sent ++ [statement] })
  | .runs =>
      match effect session.file with
      | .error message =>
          (.error (.threw (onError message)), { session with sent := session.sent ++ [statement] })
      | .ok file => (.ok (), { file, sent := session.sent ++ [statement] })

def runUpgrades (fates : Nat → Fate) : Nat → Int → Session → Except Halt Unit × Session
  | 0, _, session => (.ok (), session)
  | rounds + 1, index, session =>
      if index < 0 then
        (.error (.threw .outOfBounds), session)
      else
        match SQLiteFile.upgrades[index.toNat]? with
        | none => (.error (.threw .outOfBounds), session)
        | some upgrade =>
            match session.send fates (.upgrade index) upgrade fun message =>
                .exception ("Could not run upgrade " ++ toString index ++
                  ", got error: " ++ message) with
            | (.error halt, session) => (.error halt, session)
            | (.ok (), session) => runUpgrades fates rounds (index + 1) session

/-- The second part of `upgradeDB`, from the version that the first part has found. -/
def runOutstanding (fates : Nat → Fate) (version : Int) (session : Session) :
    Except Halt Int × Session :=
  if version < SQLiteFile.targetVersion then
    match session.runUpgrades fates (SQLiteFile.targetVersion - version).toNat version with
    | (.error halt, session) => (.error halt, session)
    | (.ok (), session) =>
        match session.send fates .recordVersion SQLiteFile.recordVersion fun message =>
            .exception ("Could not set dazeus_version to latest version, got error: " ++
              message) with
        | (.error halt, session) => (.error halt, session)
        | (.ok (), session) => (.ok SQLiteFile.targetVersion, session)
  else
    (.ok version, session)

/-- The upgrades that were sent. -/
def upgrades (session : Session) : List Int :=
  session.sent.filterMap fun statement =>
    match statement with
    | .upgrade index => some index
    | _ => none

end Session

namespace SQLiteFile

/-- `upgradeDB`, when these are the fates of the statements it sends.  It does not look at whether
the one that reads the version has failed. -/
def upgradeDBWith (fates : Nat → Fate) (choice : Nat) (file : SQLiteFile) :
    Except Halt Int × Session :=
  match Session.send fates .findTable .ok
      (fun message => .exception ("Failed to retrieve database version: " ++ message))
      { file } with
  | (.error halt, session) => (.error halt, session)
  | (.ok (), session) =>
      if file.properties.isSome then
        match session.send fates .selectVersion .ok .exception with
        | (.error .stopped, session) => (.error .stopped, session)
        | (.error (.threw _), session) => session.runOutstanding fates 0
        | (.ok (), session) =>
            match file.readVersion choice with
            | .error failure => (.error (.threw failure), session)
            | .ok version => session.runOutstanding fates version
      else
        session.runOutstanding fates 0

end SQLiteFile

theorem Session.runUpgrades_runs (rounds : Nat) (index : Int) (session : Session) :
    let result := session.runUpgrades (fun _ => .runs) rounds index
    let plain := SQLiteFile.runUpgrades rounds index session.file
    result.1 = plain.1.mapError .threw ∧ result.2.file = plain.2 := by
  induction rounds generalizing index session with
  | zero => exact ⟨rfl, rfl⟩
  | succ rounds inductionHypothesis =>
      simp only [runUpgrades, SQLiteFile.runUpgrades]
      split
      · exact ⟨rfl, rfl⟩
      · cases SQLiteFile.upgrades[index.toNat]? with
        | none => exact ⟨rfl, rfl⟩
        | some upgrade =>
            simp only [send]
            cases upgrade session.file with
            | error message => exact ⟨rfl, rfl⟩
            | ok file => exact inductionHypothesis (index + 1) _

/-- If every statement runs, this is `upgradeDB`. -/
theorem SQLiteFile.upgradeDBWith_runs (choice : Nat) (file : SQLiteFile) :
    let result := file.upgradeDBWith (fun _ => .runs) choice
    result.1 = (file.upgradeDB choice).1.mapError .threw ∧
      result.2.file = (file.upgradeDB choice).2 := by
  have outstanding (version : Int) (session : Session) (same : session.file = file)
      (read : file.readVersion choice = .ok version) :
      (session.runOutstanding (fun _ => .runs) version).1 =
          (file.upgradeDB choice).1.mapError .threw ∧
        (session.runOutstanding (fun _ => .runs) version).2.file = (file.upgradeDB choice).2 := by
    obtain ⟨ended, left⟩ := session.runUpgrades_runs (targetVersion - version).toNat version
    rw [same] at ended left
    simp only [Session.runOutstanding, upgradeDB, read]
    split
    · generalize session.runUpgrades (fun _ => .runs) (targetVersion - version).toNat version =
        ran at ended left
      generalize runUpgrades (targetVersion - version).toNat version file = plain at ended left
      obtain ⟨result, session⟩ := ran
      obtain ⟨plain, file⟩ := plain
      cases left
      cases plain with
      | error failure =>
          cases ended
          exact ⟨rfl, rfl⟩
      | ok done =>
          cases ended
          simp only [Session.send, recordVersion]
          cases session.file.properties <;> exact ⟨rfl, rfl⟩
    · exact ⟨rfl, same⟩
  unfold upgradeDBWith
  simp only [Session.send]
  split
  · split
    · next failure read =>
        rw [upgradeDB, read]
        exact ⟨rfl, rfl⟩
    · next version read => exact outstanding version _ rfl read
  · next absent =>
      apply outstanding 0 _ rfl
      rw [readVersion, Option.not_isSome_iff_eq_none.mp absent]

/-! ## What a later call of `open` makes of a file -/

/-- The tables of a version, and no key of the version but the one that `upgradeDB` has set. -/
structure AtVersion (version : Nat) (file : SQLiteFile) : Prop where
  properties : file.properties.isSome ↔ 0 < version
  permissions : file.permissions.isSome ↔ 1 < version
  recorded : ∀ table, file.properties = some table →
    (∃ row ∈ table, row.key = versionKey) ∧
      ∀ row ∈ table, row.key = versionKey → row.scope = {} ∧ stoi row.value = .ok version

/-- Whichever row is read, `open` runs the upgrades that are missing, returns, and leaves a file
of the target version, or of the later one it was of.  The next `open` does not change that. -/
def Recovers (version : Nat) (file : SQLiteFile) : Prop :=
  ∀ choice, (file.upgradeDBWith (fun _ => .runs) choice).2.upgrades = file.missing ∧
    ∃ db : SQLiteDatabase, file.openDB choice = (.ok db, db.file) ∧
      ∀ next, db.file.readVersion next = .ok (max version SQLiteFile.targetVersion) ∧
        db.file.openDB next = (.ok db, db.file)

variable {version : Nat} {file : SQLiteFile}

theorem AtVersion.readVersion (stored : AtVersion version file) (choice : Nat) :
    file.readVersion choice = .ok version := by
  cases created : file.properties with
  | none =>
      have zero := stored.properties
      rw [created] at zero
      rw [SQLiteFile.readVersion, created, Nat.eq_zero_of_not_pos (mt zero.mpr (by decide))]
      rfl
  | some table =>
      have positive := stored.properties.mp (by rw [created]; rfl)
      obtain ⟨one, every⟩ := stored.recorded table created
      exact (readVersion_iff created (by omega)).mpr
        ⟨fun row membership key => (every row membership key).2, one⟩ choice

/-- The row that is written for the version replaces any other. -/
theorem AtVersion.record {table : Table Property} {permissions : Table Permission}
    (alone : ∀ row ∈ table, row.key = versionKey → row.scope = {}) :
    AtVersion 2
      { properties := some (table.insertOrReplace Property.entry ⟨versionKey, ['2'], {}⟩),
        permissions := some permissions } where
  properties := by simp
  permissions := by simp
  recorded _ created := by
    cases created
    refine ⟨⟨_, Table.mem_insertOrReplace.mpr (.inl rfl), rfl⟩, fun row membership key => ?_⟩
    rcases Table.mem_insertOrReplace.mp membership with rfl | ⟨stored, other⟩
    · exact ⟨rfl, by decide +kernel⟩
    · exact absurd (Prod.ext key (alone row stored key)) other

/-- At the target version there is nothing to do. -/
theorem AtVersion.open_again {db : SQLiteDatabase} (stored : AtVersion version db.file)
    (recent : 2 ≤ version) (choice : Nat) :
    db.file.openDB choice = (.ok db, db.file) :=
  (openDB_again (stored.readVersion choice) (by exact Int.ofNat_le.mpr recent)).2

/-- Undisturbed, `upgradeDB` runs what is missing. -/
theorem AtVersion.upgraded (stored : AtVersion version file) (choice : Nat) :
    (file.upgradeDBWith (fun _ => .runs) choice).2.upgrades = file.missing ∧
      ∃ db : SQLiteDatabase, file.openDB choice = (.ok db, db.file) ∧
        AtVersion (max version 2) db.file := by
  have read := stored.readVersion choice
  obtain ⟨properties, permissions⟩ := file
  match version with
  | 0 =>
      obtain rfl : properties = none := by simpa using stored.properties
      obtain rfl : permissions = none := by simpa using stored.permissions
      have none (row : Property) (membership : row ∈ ([] : Table Property)) :
          row.key = versionKey → row.scope = {} :=
        absurd membership List.not_mem_nil
      exact ⟨rfl, ⟨_, []⟩, rfl, AtVersion.record none⟩
  | 1 =>
      obtain ⟨table, rfl⟩ := Option.isSome_iff_exists.mp (stored.properties.mpr Nat.one_pos)
      obtain rfl : permissions = none := by simpa using stored.permissions
      refine ⟨?_, ⟨_, []⟩, ?_, AtVersion.record fun row membership key =>
        ((stored.recorded table rfl).2 row membership key).1⟩
      · simp only [SQLiteFile.upgradeDBWith, Session.send, read]
        rfl
      · rw [SQLiteFile.openDB, SQLiteFile.upgradeDB, read]
        rfl
  | later + 2 =>
      obtain ⟨table, rfl⟩ := Option.isSome_iff_exists.mp (stored.properties.mpr (by omega))
      obtain ⟨rows, rfl⟩ := Option.isSome_iff_exists.mp (stored.permissions.mpr (by omega))
      have recent : SQLiteFile.targetVersion ≤ (later + 2 : Nat) :=
        Int.ofNat_le.mpr (Nat.le_add_left 2 later)
      have opened : (SQLiteDatabase.file ⟨table, rows⟩).openDB choice =
        (.ok ⟨table, rows⟩, _) := (openDB_again read recent).2
      refine ⟨?_, ⟨table, rows⟩, opened, ?_⟩
      · simp only [SQLiteFile.upgradeDBWith, Session.send, read, Session.runOutstanding,
          if_neg (Int.not_lt.mpr recent)]
        rfl
      · rwa [Nat.max_eq_left (by omega)]

theorem AtVersion.recovers (stored : AtVersion version file) : Recovers version file := by
  intro choice
  obtain ⟨upgrades, db, opened, after⟩ := stored.upgraded choice
  have later : ((max version 2 : Nat) : Int) = max (version : Int) 2 := by omega
  have recent : 2 ≤ max version 2 := Nat.le_max_right version 2
  refine ⟨upgrades, db, opened, fun next => ⟨?_, after.open_again recent next⟩⟩
  exact (after.readVersion next).trans (congrArg Except.ok later)

theorem SQLiteFile.openDB_file (choice : Nat) (file : SQLiteFile) :
    (file.openDB choice).2 = (file.upgradeDB choice).2 := by
  unfold openDB
  split
  · next failed => rw [failed]
  · next upgraded =>
      rw [upgraded]
      split <;> rfl

theorem outstanding_rounds {upgrade : SQLiteFile → Except String SQLiteFile}
    (listed : SQLiteFile.upgrades[version]? = some upgrade) :
    (version : Int) < SQLiteFile.targetVersion ∧
      (SQLiteFile.targetVersion - version).toNat =
        (SQLiteFile.upgrades.length - version - 1) + 1 := by
  have bound : version < SQLiteFile.upgrades.length := (List.getElem?_eq_some_iff.mp listed).1
  unfold SQLiteFile.targetVersion
  omega

/-- An upgrade that fails stops every later call of `open` in the same place. -/
theorem openDB_stuck {upgrade : SQLiteFile → Except String SQLiteFile} {message : String}
    {choice : Nat} (read : file.readVersion choice = .ok version)
    (listed : SQLiteFile.upgrades[version]? = some upgrade)
    (fails : upgrade file = .error message) :
    file.openDB choice =
      (.error (.exception ("Could not run upgrade " ++ toString (version : Int) ++
        ", got error: " ++ message)), file) := by
  obtain ⟨low, rounds⟩ := outstanding_rounds listed
  simp only [SQLiteFile.openDB, SQLiteFile.upgradeDB, read, if_pos low, rounds,
    SQLiteFile.runUpgrades, Int.toNat_natCast, listed, fails,
    if_neg (Int.not_lt.mpr (Int.natCast_nonneg version))]

/-! ## Where a call of `upgradeDB` can be left -/

section Halts

variable {session : Session} {fates : Nat → Fate}

theorem Session.send_halts {statement : Statement}
    {effect : SQLiteFile → Except String SQLiteFile} {onError : String → OpenFailure}
    (fails : fates session.sent.length = .runs → ∃ message, effect session.file = .error message) :
    ∃ halt sent, session.send fates statement effect onError =
      (.error halt, ⟨session.file, sent⟩) := by
  unfold send
  split
  · exact ⟨_, _, rfl⟩
  · exact ⟨_, _, rfl⟩
  · next runs =>
      obtain ⟨message, failed⟩ := fails runs
      rw [failed]
      exact ⟨_, _, rfl⟩

/-- Where the first upgrade does not run or fails, nothing is sent after it. -/
theorem Session.runOutstanding_halts {version : Int}
    (fails : fates session.sent.length = .runs → ∀ upgrade,
      SQLiteFile.upgrades[version.toNat]? = some upgrade →
        ∃ message, upgrade session.file = .error message) :
    (session.runOutstanding fates version).2.file = session.file := by
  have halts (rounds : Nat) : ∃ halt sent, session.runUpgrades fates (rounds + 1) version =
      (.error halt, ⟨session.file, sent⟩) := by
    unfold runUpgrades
    split
    · exact ⟨_, _, rfl⟩
    · split
      · exact ⟨_, _, rfl⟩
      · next upgrade listed =>
          obtain ⟨halt, sent, halted⟩ := send_halts fun runs => fails runs upgrade listed
          rw [halted]
          exact ⟨_, _, rfl⟩
  unfold runOutstanding
  split
  · obtain ⟨rounds, more⟩ : ∃ rounds, (SQLiteFile.targetVersion - version).toNat = rounds + 1 :=
      ⟨(SQLiteFile.targetVersion - version).toNat - 1, by omega⟩
    obtain ⟨halt, sent, halted⟩ := halts rounds
    rw [more, halted]
  · rfl

theorem Session.send_error {statement : Statement}
    {effect : SQLiteFile → Except String SQLiteFile} {onError : String → OpenFailure} {halt : Halt}
    {after : Session} (sent : session.send fates statement effect onError = (.error halt, after)) :
    after.file = session.file := by
  unfold send at sent
  split at sent
  · cases sent
    rfl
  · cases sent
    rfl
  · split at sent <;> cases sent
    rfl

theorem Session.send_ok {statement : Statement} {effect : SQLiteFile → Except String SQLiteFile}
    {onError : String → OpenFailure} {after : Session}
    (sent : session.send fates statement effect onError = (.ok (), after)) :
    fates session.sent.length = .runs ∧ effect session.file = .ok after.file ∧
      after.sent = session.sent ++ [statement] := by
  unfold send at sent
  split at sent
  · cases sent
  · cases sent
  · next runs =>
      split at sent
      · cases sent
      · next worked =>
          cases sent
          exact ⟨runs, worked, rfl⟩

/-- If all the upgrades are done, each of their statements has run. -/
theorem Session.runUpgrades_ok {rounds : Nat} {index : Int} {after : Session}
    (done : session.runUpgrades fates rounds index = (.ok (), after)) :
    after.sent.length = session.sent.length + rounds ∧
      ∀ place, session.sent.length ≤ place → place < after.sent.length → fates place = .runs := by
  induction rounds generalizing index session with
  | zero =>
      cases done
      exact ⟨rfl, fun place low high => absurd high (Nat.not_lt.mpr low)⟩
  | succ rounds inductionHypothesis =>
      unfold runUpgrades at done
      split at done
      · cases done
      · split at done
        · cases done
        · split at done
          · cases done
          · next next sent =>
              obtain ⟨runs, -, noted⟩ := send_ok sent
              obtain ⟨length, rest⟩ := inductionHypothesis done
              rw [noted, List.length_append, List.length_singleton] at length rest
              refine ⟨by omega, fun place low high => ?_⟩
              rcases Nat.eq_or_lt_of_le low with rfl | later
              · exact runs
              · exact rest place later high

theorem Session.send_congr {others : Nat → Fate} {statement : Statement}
    {effect : SQLiteFile → Except String SQLiteFile} {onError : String → OpenFailure}
    (same : fates session.sent.length = others session.sent.length) :
    session.send fates statement effect onError = session.send others statement effect onError := by
  unfold send
  rw [same]

/-- Only the fates of the statements that can be sent matter. -/
theorem Session.runUpgrades_congr {others : Nat → Fate} {rounds : Nat} {index : Int}
    (same : ∀ place, session.sent.length ≤ place → place < session.sent.length + rounds →
      fates place = others place) :
    session.runUpgrades fates rounds index = session.runUpgrades others rounds index := by
  induction rounds generalizing index session with
  | zero => rfl
  | succ rounds inductionHypothesis =>
      unfold runUpgrades
      split
      · rfl
      · split
        · rfl
        · rw [send_congr (same _ (Nat.le_refl _) (by omega))]
          split
          · rfl
          · next after sent =>
              obtain ⟨-, -, noted⟩ := send_ok sent
              have length : after.sent.length = session.sent.length + 1 := by
                rw [noted, List.length_append, List.length_singleton]
              apply inductionHypothesis
              intro place low high
              exact same place (by omega) (by omega)

theorem Session.runOutstanding_congr {others : Nat → Fate} {version : Nat}
    (same : ∀ place, session.sent.length ≤ place →
      place ≤ session.sent.length + (SQLiteFile.upgrades.length - version) →
      fates place = others place) :
    session.runOutstanding fates version = session.runOutstanding others version := by
  have rounds : (SQLiteFile.targetVersion - version).toNat =
      SQLiteFile.upgrades.length - version := by
    unfold SQLiteFile.targetVersion
    omega
  unfold runOutstanding
  rw [rounds, runUpgrades_congr fun place low high => same place low (Nat.le_of_lt high)]
  split
  · split
    · rfl
    · next after done =>
        obtain ⟨length, -⟩ := runUpgrades_ok done
        rw [send_congr (same _ (by omega) (Nat.le_of_eq length))]
  · rfl

section Invariant

variable {Kept : SQLiteFile → Prop}
  (kept : ∀ upgrade ∈ SQLiteFile.upgrades, ∀ file after, upgrade file = .ok after →
    Kept file → Kept after)

include kept

theorem Session.runUpgrades_invariant (rounds : Nat) (index : Int) (holds : Kept session.file) :
    Kept (session.runUpgrades fates rounds index).2.file := by
  induction rounds generalizing index session with
  | zero => exact holds
  | succ rounds inductionHypothesis =>
      unfold runUpgrades
      split
      · exact holds
      · split
        · exact holds
        · next upgrade listed =>
            split
            · next sent =>
                rw [send_error sent]
                exact holds
            · next sent =>
                obtain ⟨-, worked, -⟩ := send_ok sent
                exact inductionHypothesis (index + 1)
                  (kept upgrade (List.mem_of_getElem? listed) _ _ worked holds)

/-- Where the first upgrade is done, but not all that follows, the version is not recorded. -/
theorem Session.runOutstanding_left {version : Nat} {next : SQLiteFile}
    {upgrade : SQLiteFile → Except String SQLiteFile}
    (listed : SQLiteFile.upgrades[version]? = some upgrade)
    (begun : fates session.sent.length = .runs) (worked : upgrade session.file = .ok next)
    (holds : Kept next)
    (halted : ∃ place, session.sent.length ≤ place ∧
      place ≤ session.sent.length + (SQLiteFile.upgrades.length - version) ∧
      fates place ≠ .runs) :
    Kept (session.runOutstanding fates version).2.file := by
  obtain ⟨low, rounds⟩ := outstanding_rounds listed
  have reached : Kept (session.runUpgrades fates (SQLiteFile.targetVersion - version).toNat
      version).2.file := by
    rw [rounds, runUpgrades, if_neg (Int.not_lt.mpr (Int.natCast_nonneg version)),
      Int.toNat_natCast, listed]
    simp only [send, begun, worked]
    exact runUpgrades_invariant kept _ _ holds
  unfold runOutstanding
  rw [if_pos low]
  split
  · next ran =>
      rw [ran] at reached
      exact reached
  · next after ran =>
      rw [ran] at reached
      obtain ⟨length, done⟩ := runUpgrades_ok ran
      obtain ⟨place, least, most, halted⟩ := halted
      have last : place = after.sent.length := by
        by_contra other
        exact halted (done place least (by omega))
      rw [last] at halted
      obtain ⟨halt, sent, stays⟩ := send_halts fun runs => absurd runs halted
      rw [stays]
      exact reached

end Invariant

end Halts

/-- The statements before the first upgrade that is outstanding. -/
def reads (version : Nat) : Nat :=
  if version = 0 then 1 else 2

/-- A statement up to the first outstanding upgrade does not run, or the whole call does. -/
def Harmless (version : Nat) (fates : Nat → Fate) : Prop :=
  SQLiteFile.upgrades.length ≤ version ∨ (∃ index ≤ reads version, fates index ≠ .runs) ∨
    ∀ index ≤ reads version + (SQLiteFile.upgrades.length - version), fates index = .runs

/-- Until the first outstanding upgrade has run, the file is as it was. -/
theorem AtVersion.untouched {fates : Nat → Fate} (stored : AtVersion version file)
    (choice : Nat)
    (early : SQLiteFile.upgrades.length ≤ version ∨ ∃ index ≤ reads version, fates index ≠ .runs) :
    (file.upgradeDBWith fates choice).2.file = file := by
  have read := stored.readVersion choice
  have late (run : ∀ index ≤ reads version, fates index = .runs) :
      SQLiteFile.upgrades.length ≤ version := by
    rcases early with none | ⟨index, bound, halted⟩
    · exact none
    · exact absurd (run index bound) halted
  unfold SQLiteFile.upgradeDBWith Session.send
  cases first : fates 0 with
  | stops => simp only
  | fails message => simp only
  | runs =>
      simp only [List.nil_append]
      split
      · next created =>
          have positive := stored.properties.mp created
          simp only [List.length_singleton]
          cases second : fates 1 with
          | stops => rfl
          | fails message =>
              -- the version counts as 0, and the table is there already
              apply Session.runOutstanding_halts
              intro _ upgrade listed
              cases listed
              obtain ⟨table, found⟩ := Option.isSome_iff_exists.mp created
              exact ⟨_, by rw [SQLiteFile.createProperties, found]⟩
          | runs =>
              simp only [read]
              apply Session.runOutstanding_halts
              intro third upgrade listed
              have bound := (List.getElem?_eq_some_iff.mp listed).1
              refine absurd (late fun index upTo => ?_) (Nat.not_le.mpr bound)
              rw [reads, if_neg (Nat.ne_of_gt positive)] at upTo
              match index with
              | 0 => exact first
              | 1 => exact second
              | 2 => exact third
      · next absent =>
          have zero := Nat.eq_zero_of_not_pos (mt stored.properties.mpr absent)
          subst zero
          apply Session.runOutstanding_halts
          intro second upgrade listed
          refine absurd (late fun index upTo => ?_) (by decide)
          match index with
          | 0 => exact first
          | 1 => exact second

theorem upgrade_keeps {upgrade : SQLiteFile → Except String SQLiteFile} {after : SQLiteFile}
    (listed : upgrade ∈ SQLiteFile.upgrades) (worked : upgrade file = .ok after) :
    (∀ table, file.properties = some table → after.properties = some table) ∧
      (file.permissions.isSome = true → after.permissions.isSome = true) := by
  obtain ⟨properties, permissions⟩ := file
  rcases List.mem_pair.mp listed with rfl | rfl
  · cases properties with
    | none =>
        cases worked
        exact ⟨fun table created => (by cases created), id⟩
    | some table => cases worked
  · cases permissions with
    | none =>
        cases worked
        exact ⟨fun table => id, fun created => (by cases created)⟩
    | some table => cases worked

section Left

variable {fates : Nat → Fate} (choice : Nat)

/-- A new file that is left before the version is recorded has the table, and no row. -/
theorem AtVersion.left_new (stored : AtVersion 0 file)
    (begun : ∀ index ≤ reads 0, fates index = .runs) {index : Nat}
    (bound : index ≤ reads 0 + SQLiteFile.upgrades.length) (halted : fates index ≠ .runs) :
    (file.upgradeDBWith fates choice).2.file.properties = some [] := by
  obtain ⟨properties, permissions⟩ := file
  obtain rfl : properties = none := by simpa using stored.properties
  let Kept (file : SQLiteFile) : Prop := file.properties = some []
  have kept (upgrade : SQLiteFile → Except String SQLiteFile)
      (listed : upgrade ∈ SQLiteFile.upgrades) (file after : SQLiteFile)
      (worked : upgrade file = .ok after) : Kept file → Kept after :=
    (upgrade_keeps listed worked).1 []
  have started : index ≠ 0 := by
    rintro rfl
    exact halted (begun 0 (Nat.zero_le _))
  unfold SQLiteFile.upgradeDBWith Session.send
  simp only [List.length_nil, begun 0 (Nat.zero_le _), List.nil_append, Option.isSome_none,
    Bool.false_eq_true, if_false]
  exact Session.runOutstanding_left kept rfl (begun 1 (Nat.le_refl 1)) rfl rfl
    ⟨index, Nat.pos_of_ne_zero started, bound, halted⟩

/-- A file of version 1 keeps its rows, and has the table of permissions. -/
theorem AtVersion.left_one (stored : AtVersion 1 file)
    (begun : ∀ index ≤ reads 1, fates index = .runs) {index : Nat}
    (bound : index ≤ reads 1 + (SQLiteFile.upgrades.length - 1)) (halted : fates index ≠ .runs) :
    (file.upgradeDBWith fates choice).2.file.properties = file.properties ∧
      (file.upgradeDBWith fates choice).2.file.permissions.isSome = true := by
  have read := stored.readVersion
  obtain ⟨properties, permissions⟩ := file
  obtain ⟨table, rfl⟩ := Option.isSome_iff_exists.mp (stored.properties.mpr Nat.one_pos)
  obtain rfl : permissions = none := by simpa using stored.permissions
  let Kept (file : SQLiteFile) : Prop :=
    file.properties = some table ∧ file.permissions.isSome = true
  have kept (upgrade : SQLiteFile → Except String SQLiteFile)
      (listed : upgrade ∈ SQLiteFile.upgrades) (file after : SQLiteFile)
      (worked : upgrade file = .ok after) (holds : Kept file) : Kept after :=
    ⟨(upgrade_keeps listed worked).1 table holds.1, (upgrade_keeps listed worked).2 holds.2⟩
  have started : 2 ≤ index := by
    by_contra early
    have before : index ≤ reads 1 := Nat.le_of_not_le early
    exact halted (begun index before)
  unfold SQLiteFile.upgradeDBWith Session.send
  simp only [List.length_nil, begun 0 (Nat.zero_le _), List.nil_append, Option.isSome_some,
    if_true, List.length_singleton, begun 1 (Nat.le_succ 1), read]
  exact Session.runOutstanding_left kept rfl (begun 2 (Nat.le_refl 2)) rfl ⟨rfl, rfl⟩
    ⟨index, started, bound, halted⟩

/-- After it, every later call reads the same version and fails in the upgrade that has run,
until the version has been recorded. -/
theorem AtVersion.left (stored : AtVersion version file)
    (low : version < SQLiteFile.upgrades.length)
    (begun : ∀ index ≤ reads version, fates index = .runs)
    (halted : ∃ index ≤ reads version + (SQLiteFile.upgrades.length - version),
      fates index ≠ .runs) :
    let left := (file.upgradeDBWith fates choice).2.file
    (∀ next, left.readVersion next = .ok version) ∧
      ∃ upgrade message, SQLiteFile.upgrades[version]? = some upgrade ∧
        upgrade left = .error message := by
  obtain ⟨index, bound, halted⟩ := halted
  match version with
  | 0 =>
      have left := stored.left_new choice begun bound halted
      refine ⟨fun next => ?_, _, "table dazeus_properties already exists", rfl, ?_⟩
      · rw [SQLiteFile.readVersion, left]
        rfl
      · rw [SQLiteFile.createProperties, left]
  | 1 =>
      obtain ⟨same, made⟩ := stored.left_one choice begun bound halted
      obtain ⟨rows, created⟩ := Option.isSome_iff_exists.mp made
      refine ⟨fun next => ?_, _, "table dazeus_permissions already exists", rfl, ?_⟩
      · rw [SQLiteFile.readVersion, same]
        exact stored.readVersion next
      · rw [SQLiteFile.createPermissions, created]

end Left

/-- When all of the statements run, the call is not disturbed. -/
theorem AtVersion.undisturbed {fates : Nat → Fate} (stored : AtVersion version file)
    (choice : Nat)
    (run : ∀ index ≤ reads version + (SQLiteFile.upgrades.length - version),
      fates index = .runs) :
    file.upgradeDBWith fates choice = file.upgradeDBWith (fun _ => .runs) choice := by
  have read := stored.readVersion choice
  have first := run 0 (Nat.zero_le _)
  unfold SQLiteFile.upgradeDBWith Session.send
  simp only [List.length_nil, first, List.nil_append]
  split
  · next created =>
      have two : reads version = 2 :=
        if_neg (Nat.ne_of_gt (stored.properties.mp created))
      rw [two] at run
      simp only [List.length_singleton, run 1 (by omega), read]
      exact Session.runOutstanding_congr fun place low high => run place high
  · next absent =>
      have zero := Nat.eq_zero_of_not_pos (mt stored.properties.mpr absent)
      subst zero
      exact Session.runOutstanding_congr fun place low high => run place high

/-- A call of `upgradeDB` leaves a file that the next `open` makes good if and only if it fails or
stops before the first outstanding upgrade is done, or not at all. -/
theorem recovers_iff (stored : AtVersion version file) (choice : Nat) (fates : Nat → Fate) :
    (Recovers version (file.upgradeDBWith fates choice).2.file ↔ Harmless version fates) ∧
      (SQLiteFile.upgrades.length ≤ version →
        ∃ db : SQLiteDatabase, file.openDB choice = (.ok db, file)) := by
  refine ⟨⟨fun recovers => ?_, ?_⟩, fun recent => ?_⟩
  · by_contra harmful
    simp only [Harmless, not_or, not_le, not_exists, not_and, not_not, not_forall,
      exists_prop] at harmful
    obtain ⟨low, begun, halted⟩ := harmful
    obtain ⟨read, upgrade, message, listed, fails⟩ := stored.left choice low begun halted
    obtain ⟨-, db, opened, -⟩ := recovers 0
    rw [openDB_stuck (read 0) listed fails] at opened
    cases opened
  · rintro (recent | early | run)
    · rw [stored.untouched choice (.inl recent)]
      exact stored.recovers
    · rw [stored.untouched choice (.inr early)]
      exact stored.recovers
    · rw [stored.undisturbed choice run, (SQLiteFile.upgradeDBWith_runs choice file).2,
        ← SQLiteFile.openDB_file]
      obtain ⟨-, db, opened, after⟩ := stored.upgraded choice
      have final : max ((max version 2 : Nat) : Int) SQLiteFile.targetVersion =
          max (version : Int) SQLiteFile.targetVersion := by
        have two : SQLiteFile.targetVersion = 2 := rfl
        omega
      have recovers := after.recovers
      unfold Recovers at recovers ⊢
      rw [final] at recovers
      rw [opened]
      exact recovers
  · obtain ⟨properties, permissions⟩ := file
    have two : 2 ≤ version := recent
    obtain ⟨table, rfl⟩ := Option.isSome_iff_exists.mp (stored.properties.mpr (by omega))
    obtain ⟨rows, rfl⟩ := Option.isSome_iff_exists.mp (stored.permissions.mpr two)
    have again : AtVersion version (SQLiteDatabase.file ⟨table, rows⟩) := stored
    exact ⟨_, again.open_again two choice⟩

/-- A new file, and a process that is gone after the first look at it. -/
theorem recovers_iff_new :
    Recovers 0 (SQLiteFile.upgradeDBWith
      (fun index => if index = 1 then .stops else .runs) 0 {}).2.file := by
  have stored : AtVersion 0 {} := ⟨by decide, by decide, fun table created => (by cases created)⟩
  apply (recovers_iff stored 0 _).1.mpr
  exact .inr (.inl ⟨1, by decide, by decide⟩)

/-- A new file, and a process that is gone after the first upgrade: no later `open` gets past
that. -/
theorem stopped_upgrade_stuck :
    let fates (index : Nat) : Fate := if index = 2 then .stops else .runs
    let left := (SQLiteFile.upgradeDBWith fates 0 {}).2.file
    AtVersion 0 {} ∧
      (∀ choice, left.openDB choice = (.error (.exception
        "Could not run upgrade 0, got error: table dazeus_properties already exists"), left)) ∧
      ¬Recovers 0 left := by
  intro fates left
  have stored : AtVersion 0 {} := ⟨by decide, by decide, fun table created => (by cases created)⟩
  have stuck (choice : Nat) : left.openDB choice = (.error (.exception
      "Could not run upgrade 0, got error: table dazeus_properties already exists"), left) := rfl
  refine ⟨stored, stuck, fun recovers => ?_⟩
  obtain ⟨-, db, opened, -⟩ := recovers 0
  cases (stuck 0).symm.trans opened

end DaZeus.Database
