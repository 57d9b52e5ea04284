import DaZeus.Bot.Run

/-!
# Reloads that fail

A call of `loadConfig` that returns `false` should leave the bot as it was.
`failedReload_iff` says when it does: the old database is deleted before there
is a new one, and plugins are registered before the configuration is known to
be accepted.
-/

namespace DaZeus

open Library
open Std (TreeMap)

namespace Bot

variable {lib : Libraries} {built : Backend → Bool} {answers : LoadAnswers}
  {bot before after : Bot} {config : ConfigReader}

/-- The database can be used, and neither networks nor supervised plugins have changed. -/
structure Kept (before after : Bot) : Prop where
  healthy : after.Healthy
  networks : after.networks = before.networks
  supervised : ∀ name, after.Supervises name ↔ before.Supervises name

/-- The names that the configuration asks for. -/
def pluginNames (config : ConfigReader) : List ByteString :=
  PluginMonitor.instanceNames config.networks config.plugins

/-- Registering the plugins, up to a name that repeats, makes none supervised that was not;
and if none repeats, no supervised plugin is missing. -/
structure KeepsPlugins (bot : Bot) (config : ConfigReader) : Prop where
  supervised : ∀ name ∈ PluginMonitor.uptoRepeat [] (pluginNames config), bot.Supervises name
  complete : (pluginNames config).Nodup → ∀ name, bot.Supervises name → name ∈ pluginNames config

/-- A file that can be read has a database that can be opened, and keeps the plugins. -/
def Harmless (built : Backend → Bool) (answers : LoadAnswers) (bot : Bot) : Prop :=
  match answers.read with
  | .error _ => bot.Healthy
  | .ok config => Available built config answers.opens ∧ bot.KeepsPlugins config

/-- A reload with a file that can be read gets its database. -/
def GetsDatabase (built : Backend → Bool) (_ : Bot) : Event → Prop
  | .reload answers => ∀ config, answers.read = .ok config → Available built config answers.opens
  | _ => True

/-! ## The database in a run -/

theorem Step.healthy {event : Event} (step : Step lib built before event after)
    (gets : GetsDatabase built before event) (healthy : before.Healthy) : after.Healthy := by
  obtain ⟨database, pc, current, alive, found, same⟩ := healthy
  cases step with
  | reload returned =>
      cases loadConfig_loaded returned with
      | unread read => exact ⟨database, pc, current, alive, found, same⟩
      | rejected read prepared =>
          have available := gets _ read
          exact prepared.healthy.mpr available
      | accepted read reached prepared =>
          have available := gets _ read
          exact loadNetworks_healthy (prepared.healthy.mpr available)
  | plugins constructed possible performed =>
      cases constructed.symm.trans found
      exact ⟨database, _, current, alive, rfl, (PluginComm.perform_database performed).trans same⟩
  | runOnce constructed returned => exact ⟨database, pc, current, alive, found, same⟩
  | process constructed => exact ⟨database, pc, current, alive, found, same⟩

theorem healthy_of_loaded (returned : before.loadConfig lib built answers = (.ok true, after)) :
    after.Healthy := by
  cases loadConfig_loaded returned with
  | accepted read reached prepared =>
      exact loadNetworks_healthy (prepared.healthy.mpr (prepared.available rfl))

/-- As long as every reload gets its database, the database can be used. -/
theorem healthy_of_reachable
    (reached : ((system lib built).guard (GetsDatabase built)).Reachable bot) : bot.Healthy := by
  apply reached.invariant
  · rintro start ⟨answers, returned⟩
    exact healthy_of_loaded returned
  · rintro middle event next healthy ⟨gets, step⟩
    exact step.healthy gets healthy

/-! ## The plugins of a rejected configuration -/

/-- Registration up to the repeated name is all that `configReloaded` did, or it has
supervised exactly what the configuration asks for. -/
theorem supervised_iff {monitor result : PluginMonitor} {what : ByteString}
    (reloaded : PluginMonitor.Reloaded (pluginNames config) monitor
      (.error (.exception what), result))
    (same : ∀ name, monitor.autostarts name = true ↔ bot.Supervises name) :
    (∀ name, result.autostarts name = true ↔ bot.Supervises name) ↔ bot.KeepsPlugins config := by
  cases reloaded with
  | accepted distinct autostarts =>
      have whole : PluginMonitor.uptoRepeat [] (pluginNames config) = pluginNames config :=
        (PluginMonitor.uptoRepeat_eq_self [] _).mpr ⟨distinct, by simp⟩
      simp only [autostarts, decide_eq_true_eq]
      constructor
      · intro unchanged
        exact ⟨fun name wanted => (unchanged name).mp (whole ▸ wanted),
          fun _ name supervised => (unchanged name).mpr supervised⟩
      · intro keeps name
        exact ⟨fun wanted => keeps.supervised name (whole.symm ▸ wanted),
          keeps.complete distinct name⟩
  | repeated cut registers =>
      simp only [registers _, Bool.or_eq_true, decide_eq_true_eq, same]
      constructor
      · intro unchanged
        exact ⟨fun name wanted => (unchanged name).mp (.inr wanted), (absurd · cut)⟩
      · intro keeps name
        exact ⟨fun started => started.elim id (keeps.supervised name), .inl⟩

/-! ## One failed reload -/

theorem Prepared.kept_iff
    (prepared : Prepared built answers (before.configured config) false after) :
    Kept before after ↔ Available built config answers.opens ∧ before.KeepsPlugins config := by
  have usable : after.Healthy ↔ Available built config answers.opens := prepared.healthy
  have supervised (available : Available built config answers.opens) :
      (∀ name, after.Supervises name ↔ before.Supervises name) ↔ before.KeepsPlugins config := by
    obtain ⟨what, monitor, found, outcome⟩ := prepared.rejected rfl available
    have reloaded := PluginMonitor.configReloaded_reloaded
      { (before.configured config).config with sockets := after.config.sockets }
      ((before.configured config).monitor answers)
    rw [outcome] at reloaded
    have decided : (∀ name, monitor.autostarts name = true ↔ before.Supervises name) ↔
        before.KeepsPlugins config :=
      supervised_iff reloaded (monitor_autostarts answers (before.configured config))
    rw [← decided]
    apply forall_congr'
    intro name
    simp only [Supervises, found, Option.some.injEq, exists_eq_left']
  constructor
  · intro kept
    have available := usable.mp kept.healthy
    exact ⟨available, (supervised available).mp kept.supervised⟩
  · rintro ⟨available, keeps⟩
    exact ⟨usable.mpr available, prepared.networks, (supervised available).mpr keeps⟩

/-- A failed reload keeps everything if and only if it is harmless; and in a run in which every
reload got its database, one with a file that cannot be read is. -/
theorem failedReload_iff (failed : before.loadConfig lib built answers = (.ok false, after)) :
    (Kept before after ↔ Harmless built answers before) ∧
      (((system lib built).guard (GetsDatabase built)).Reachable before → before.Healthy) := by
  refine ⟨?_, healthy_of_reachable⟩
  unfold Harmless
  cases loadConfig_loaded failed with
  | unread read =>
      rw [read]
      exact ⟨Kept.healthy, fun healthy => ⟨healthy, rfl, fun _ => Iff.rfl⟩⟩
  | rejected read prepared =>
      rw [read]
      exact prepared.kept_iff

/-! ## What comes after -/

/-- A reload whose file can be read begins with the deletion. -/
theorem loadConfig_deletion {stop : LoadStop} (read : answers.read = .ok config)
    (stopped : (before.configured config).deleteDatabase = .error stop) :
    (before.loadConfig lib built answers).1 = .error stop := by
  have isRead : (before.configured config).config.isRead = true := rfl
  simp [loadConfig, read, prepare, connectDatabase, isRead, stopped]

/-- Once a reload found its backend missing, the next one whose file can be read deletes the
old database again. -/
theorem deleted_again {database : DatabaseId} (healthy : before.Healthy)
    (current : before.database = some database) (read : answers.read = .ok config)
    (missing : createDb built config.databaseConfig = none)
    (failed : before.loadConfig lib built answers = (.ok false, after)) {later : LoadAnswers}
    {other : ConfigReader} (laterRead : later.read = .ok other) :
    (after.loadConfig lib built later).1 = .error (.doubleDelete database) := by
  obtain ⟨owned, pc, same, alive, -⟩ := healthy
  cases current.symm.trans same
  have lost : after = { before.configured config with
      databases := before.databases.erase database } := by
    simp only [loadConfig, read, prepare, connectDatabase, configured, Bool.not_true,
      Bool.false_eq_true, if_false, deleteDatabase, current, alive, createDatabase, missing,
      Prod.mk.injEq, true_and] at failed
    rw [← failed, configured, current]
  subst lost
  apply loadConfig_deletion laterRead
  simp [configured, deleteDatabase, current]

/-- Once a reload could not open its database, the next one whose file can be read deletes an
object whose members were never set. -/
theorem deleted_unopened {backend : Backend} (read : answers.read = .ok config)
    (supported : createDb built config.databaseConfig = some backend)
    (threw : openDatabase answers backend = .failed false)
    (failed : before.loadConfig lib built answers = (.ok false, after)) {later : LoadAnswers}
    {other : ConfigReader} (laterRead : later.read = .ok other) :
    (after.loadConfig lib built later).1 = .error (.uninitialised before.nextDatabase) := by
  have closed : answers.opens = false := by
    cases opens : answers.opens with
    | false => rfl
    | true => simp [openDatabase, opens] at threw
  have lost : after.database = some before.nextDatabase ∧
      after.databases[before.nextDatabase]? = some (.failed false) := by
    have isRead : (before.configured config).config.isRead = true := rfl
    cases deletion : (before.configured config).deleteDatabase with
    | error stop =>
        have stopped : (before.loadConfig lib built answers).1 = .error stop :=
          loadConfig_deletion read deletion
        rw [failed] at stopped
        cases stopped
    | ok deleted =>
        simp only [loadConfig, read, prepare, connectDatabase, isRead, deletion, Bool.not_true,
          Bool.false_eq_true, if_false] at failed
        obtain ⟨databases, rfl, -⟩ := deleteDatabase_deleted deletion
        simp only [createDatabase, configured, supported, closed, threw, Prod.mk.injEq,
          true_and] at failed
        simp [← failed]
  apply loadConfig_deletion laterRead
  simp [configured, deleteDatabase, lost]

theorem supervises_iff_any (bot : Bot) (name : ByteString) :
    bot.pluginMonitor.any (·.autostarts name) = true ↔ bot.Supervises name := by
  cases found : bot.pluginMonitor <;> simp [Supervises, found]

instance (bot : Bot) (name : ByteString) : Decidable (bot.Supervises name) :=
  decidable_of_iff _ (supervises_iff_any bot name)

/-- The bot was built with SQLite only. -/
def sqliteOnly (backend : Backend) : Bool := backend == .sqlite

/-- It is configured with one plugin. -/
def sqliteConfig : ConfigReader where
  plugins := [{ name := ascii "p" }]
  databaseConfig := { type := ascii "sqlite" }

def started : Bot :=
  (({} : Bot).loadConfig (.knowing []) sqliteOnly { read := .ok sqliteConfig }).2

theorem started_reachable : (system (.knowing []) sqliteOnly).Reachable started :=
  .start ⟨{ read := .ok sqliteConfig }, Prod.ext (by decide +kernel) rfl⟩

/-- The new file has the plugin twice. -/
def repeatedPlugin : LoadAnswers where
  read := .ok { sqliteConfig with plugins := [{ name := ascii "p" }, { name := ascii "p" }] }

theorem repeated_plugin_kept :
    ∃ after, started.loadConfig (.knowing []) sqliteOnly repeatedPlugin = (.ok false, after) ∧
      Kept started after := by
  have failed : started.loadConfig (.knowing []) sqliteOnly repeatedPlugin =
      (.ok false, (started.loadConfig (.knowing []) sqliteOnly repeatedPlugin).2) :=
    Prod.ext (by decide +kernel) rfl
  refine ⟨_, failed, (failedReload_iff failed).1.mpr ⟨⟨by decide, rfl⟩, ?_, ?_⟩⟩
  · decide +kernel
  · exact fun distinct => absurd distinct (by decide)

/-- The new file asks for a backend that there is not. -/
def unsupportedBackend : LoadAnswers where
  read := .ok { sqliteConfig with databaseConfig := { type := ascii "mongodb" } }

/-- The reload fails, the pointers dangle, and the old file cannot be loaded any more. -/
theorem unsupported_backend_dangles :
    (system (.knowing []) sqliteOnly).Reachable started ∧
      ∃ after, started.loadConfig (.knowing []) sqliteOnly unsupportedBackend = (.ok false, after) ∧
        ¬Kept started after ∧ (after.loadConfig (.knowing []) sqliteOnly
          { read := .ok sqliteConfig }).1 = .error (.doubleDelete 1) := by
  refine ⟨started_reachable, _, Prod.ext (by decide +kernel) rfl, ?_, by decide +kernel⟩
  rintro ⟨⟨database, pc, current, alive, -⟩, -, -⟩
  have first : (started.loadConfig (.knowing []) sqliteOnly unsupportedBackend).2.database =
      some 1 := by decide +kernel
  cases first.symm.trans current
  exact absurd alive (by decide +kernel)

end Bot

end DaZeus
