import DaZeus.Bot.Load
import DaZeus.PluginComm.References
import DaZeus.PluginMonitor.Plans

/-!
# Runs of the bot

The main loop as a transition system: reloads, actions of the plugin interface,
supervision and the signals in between, in any order.  Then what a call of
`loadConfig` does up to the networks (`Prepared`) and what is preserved while
it works on them.
-/

namespace DaZeus

open Library
open Std (TreeMap)

namespace Bot

/-- A reference that the plugin interface of the bot holds. -/
def References (bot : Bot) (network : NetworkId) : Prop :=
  ∃ pc, bot.plugins = some pc ∧ pc.References network

/-- The bot and its plugin interface use one database, which is alive and open. -/
def Healthy (bot : Bot) : Prop :=
  ∃ database pc, bot.database = some database ∧ bot.databases[database]? = some .opened ∧
    bot.plugins = some pc ∧ pc.database = some database

/-- The plugin of this name is supervised. -/
def Supervises (bot : Bot) (name : ByteString) : Prop :=
  ∃ monitor, bot.pluginMonitor = some monitor ∧ monitor.autostarts name = true

/-- What requests see of the bot. -/
def view (bot : Bot) (memory : NetworkId → NetworkState) (database : DatabaseView) : View where
  networks := bot.networks
  memory
  config := bot.config
  database

/-- Only networks that the bot has raise events. -/
def CanHappen (bot : Bot) : PluginComm.Action → Prop
  | .ircEvent network _ _ _ => ∃ name : ByteString, bot.networks[name]? = some network
  | _ => True

inductive Event where
  | reload (answers : LoadAnswers)
  | plugins (memory : NetworkId → NetworkState) (database : DatabaseView)
      (action : PluginComm.Action)
  | runOnce (script : List Moment)
  | process (event : ProcessEvent)

variable (lib : Libraries) (built : Backend → Bool)

/-- What happens in `run`, as long as every call returns. -/
inductive Step : Bot → Event → Bot → Prop
  | reload {before after : Bot} {answers : LoadAnswers} {result : Bool}
      (returned : before.loadConfig lib built answers = (.ok result, after)) :
      Step before (.reload answers) after
  | plugins {before : Bot} {pc after : PluginComm} {memory : NetworkId → NetworkState}
      {database : DatabaseView} {action : PluginComm.Action}
      (constructed : before.plugins = some pc) (possible : before.CanHappen action)
      (performed : pc.perform lib (before.view memory database) action = .ok after) :
      Step before (.plugins memory database action) { before with plugins := some after }
  | runOnce {before : Bot} {monitor after : PluginMonitor} {script : List Moment}
      (constructed : before.pluginMonitor = some monitor)
      (returned : { monitor with script }.runOnce before.config = (.ok (), after)) :
      Step before (.runOnce script) { before with pluginMonitor := some after }
  | process {before : Bot} {monitor : PluginMonitor} {event : ProcessEvent}
      (constructed : before.pluginMonitor = some monitor) :
      Step before (.process event)
        { before with pluginMonitor := some (monitor.happen event) }

/-- The runs after the first call of `loadConfig`, which has to succeed. -/
def system : TransitionSystem Bot Event where
  initial bot := ∃ answers, ({} : Bot).loadConfig lib built answers = (.ok true, bot)
  step := Step lib built

/-! ## The database -/

/-- The configured backend is there, and the database can be opened. -/
def Available (config : ConfigReader) (opens : Bool) : Prop :=
  (createDb built config.databaseConfig).isSome = true ∧ opens = true

/-- What `connectDatabase` leaves behind when it returns. -/
inductive Connected (answers : LoadAnswers) (bot : Bot) : Bool → Bot → Prop
  | unsupported {databases : TreeMap DatabaseId DatabaseObject}
      (missing : createDb built bot.config.databaseConfig = none)
      (deleted : ∀ database, bot.database = some database → database ∉ databases) :
      Connected answers bot false { bot with databases }
  | created {connected : Bool} {databases : TreeMap DatabaseId DatabaseObject}
      (supported : (createDb built bot.config.databaseConfig).isSome = true)
      (opens : answers.opens = connected)
      (opened : databases[bot.nextDatabase]? = some .opened ↔ connected = true) :
      Connected answers bot connected { bot with
        database := some bot.nextDatabase, databases, nextDatabase := bot.nextDatabase + 1 }

variable {lib built} {answers : LoadAnswers} {bot before after : Bot} {result : Bool}

theorem deleteDatabase_deleted (returned : before.deleteDatabase = .ok after) :
    ∃ databases, after = { before with databases } ∧
      ∀ database, before.database = some database → database ∉ databases := by
  unfold deleteDatabase at returned
  split at returned
  · next none =>
      cases returned
      exact ⟨before.databases, rfl, by simp [none]⟩
  · next current found =>
      split at returned
      · cases returned
      · cases returned
      · cases returned
        refine ⟨_, rfl, fun database same => ?_⟩
        cases found.symm.trans same
        simp

theorem openDatabase_opened (answers : LoadAnswers) (backend : Backend) :
    openDatabase answers backend = .opened ↔ answers.opens = true := by
  unfold openDatabase
  cases answers.opens <;> simp

theorem connectDatabase_connected
    (returned : before.connectDatabase built answers = (.ok result, after)) :
    Connected built answers before result after := by
  unfold connectDatabase at returned
  split at returned
  · cases returned
  · split at returned
    · cases returned
    · next deletion =>
        obtain ⟨databases, rfl, deleted⟩ := deleteDatabase_deleted deletion
        unfold createDatabase at returned
        dsimp only at returned
        split at returned
        · next missing =>
            cases returned
            exact .unsupported missing deleted
        · next backend found =>
            cases returned
            exact .created (by rw [found]; rfl) rfl (by simp [openDatabase_opened])

/-! ## The plugin interface and the plugin monitor -/

/-- The plugin interface gets the pointer of the bot, and refers to nothing new. -/
theorem attachPlugins_attached (attached : before.attachPlugins answers = .ok after) :
    ∃ pc sockets, after = { before with
        plugins := some pc, config := { before.config with sockets } } ∧
      pc.database = before.database ∧ ∀ network, pc.References network →
        before.References network := by
  unfold attachPlugins at attached
  split at attached
  · next pc found =>
      cases attached
      refine ⟨pc.setDatabase before.database, before.config.sockets, rfl, rfl, ?_⟩
      intro network refers
      refine ⟨pc, found, ?_⟩
      cases refers with
      | queued membership => exact .queued membership
      | registered found membership wanted => exact .registered found membership wanted
  · dsimp only at attached
    split at attached
    · cases attached
    · next startup completed =>
        cases attached
        refine ⟨_, _, rfl, ?_, fun network refers => ?_⟩
        · rw [Startup.init_pc completed]
        · rw [Startup.init_pc completed] at refers
          cases refers with
          | queued membership => cases membership
          | registered found membership wanted => simp at found

theorem reloadMonitor_reloaded (returned : before.reloadMonitor answers = (.ok result, after)) :
    ∃ monitor, after = { before with pluginMonitor := some monitor } ∧
      (result = false → ∃ what, (before.monitor answers).configReloaded before.config =
        (.error (.exception what), monitor)) := by
  unfold reloadMonitor at returned
  split at returned
  · cases returned
    exact ⟨_, rfl, nofun⟩
  · next outcome =>
      cases returned
      exact ⟨_, rfl, fun _ => ⟨_, outcome⟩⟩
  · cases returned

theorem monitor_autostarts (answers : LoadAnswers) (bot : Bot) (name : ByteString) :
    (bot.monitor answers).autostarts name = true ↔ bot.Supervises name := by
  unfold monitor Supervises
  split
  · next monitor found =>
      constructor
      · exact fun started => ⟨monitor, found, started⟩
      · rintro ⟨other, same, started⟩
        cases found.symm.trans same
        exact started
  · next none => simp [none, PluginMonitor.autostarts, PluginMonitor.planAt]

/-- What `prepare` does when it returns. -/
structure Prepared (built : Backend → Bool) (answers : LoadAnswers) (before : Bot)
    (result : Bool) (after : Bot) : Prop where
  healthy : after.Healthy ↔ Available built before.config answers.opens
  available : result = true → Available built before.config answers.opens
  networks : after.networks = before.networks
  configured : after.config.networks = before.config.networks
  references : ∀ network, after.References network → before.References network
  rejected : result = false → Available built before.config answers.opens →
    ∃ what monitor, after.pluginMonitor = some monitor ∧
      (before.monitor answers).configReloaded { before.config with
        sockets := after.config.sockets } = (.error (.exception what), monitor)

/-- Without a database nothing but the pointers has changed. -/
theorem Prepared.unavailable (unavailable : ¬Available built before.config answers.opens)
    (unusable : ¬after.Healthy) (networks : after.networks = before.networks)
    (config : after.config = before.config) (plugins : after.plugins = before.plugins) :
    Prepared built answers before false after where
  healthy := ⟨(absurd · unusable), (absurd · unavailable)⟩
  available := nofun
  networks := networks
  configured := congrArg ConfigReader.networks config
  references network := by
    rintro ⟨pc, found, refers⟩
    exact ⟨pc, plugins ▸ found, refers⟩
  rejected _ available := absurd available unavailable

theorem Connected.prepared (connected : Connected built answers before result after)
    (failed : result = false) : Prepared built answers before result after := by
  subst failed
  cases connected with
  | unsupported missing deleted =>
      have unavailable : ¬Available built before.config answers.opens := by
        simp [Available, missing]
      refine .unavailable unavailable ?_ rfl rfl rfl
      rintro ⟨database, pc, current, alive, -⟩
      have alive : database ∈ _ := TreeMap.mem_iff_isSome_getElem?.mpr (by rw [alive]; rfl)
      exact absurd alive (deleted database current)
  | created supported opens opened =>
      have unavailable : ¬Available built before.config answers.opens := by
        simp [Available, opens]
      refine .unavailable unavailable ?_ rfl rfl rfl
      rintro ⟨database, pc, current, alive, -⟩
      cases current
      exact absurd (opened.mp alive) Bool.false_ne_true

theorem prepare_prepared (returned : before.prepare built answers = (.ok result, after)) :
    Prepared built answers before result after := by
  unfold prepare at returned
  split at returned
  · cases returned
  · next outcome =>
      cases returned
      exact (connectDatabase_connected outcome).prepared rfl
  · next connected outcome =>
      split at returned
      · cases returned
      · next attached attachment =>
          obtain ⟨pc, sockets, rfl, database, references⟩ := attachPlugins_attached attachment
          obtain ⟨monitor, rfl, rejected⟩ := reloadMonitor_reloaded returned
          cases connectDatabase_connected outcome with
          | created supported opens opened =>
              have available : Available built before.config answers.opens := ⟨supported, opens⟩
              refine ⟨⟨fun _ => available, fun _ => ?_⟩, fun _ => available, rfl, rfl, ?_, ?_⟩
              · exact ⟨before.nextDatabase, pc, rfl, opened.mpr rfl, rfl, database⟩
              · rintro network ⟨other, same, refers⟩
                cases same
                exact references network refers
              · intro failed _
                obtain ⟨what, outcome⟩ := rejected failed
                exact ⟨what, monitor, rfl, outcome⟩

/-! ## The networks -/

/-- What is no matter of the networks and survives the calls on them, survives both loops. -/
theorem loadNetworks_invariant {motive : Bot → Prop}
    (called : ∀ {bot : Bot} (network : NetworkId) (call : ConfigCall), motive bot →
      motive (bot.callNetwork lib answers network call))
    (changed : ∀ {bot : Bot} (networks : TreeMap ByteString NetworkId) (nextNetwork : NetworkId),
      motive bot → motive { bot with networks, nextNetwork })
    (holds : motive before) : motive (before.loadNetworks lib answers) := by
  unfold loadNetworks
  refine List.foldlRecOn _ _ (List.foldlRecOn _ _ holds ?_) ?_
  · intro bot holds network _
    unfold loadNetwork
    split
    · dsimp only
      split
      · exact called _ _ (changed _ _ holds)
      · exact changed _ _ holds
    · exact called _ _ holds
  · intro bot holds entry _
    unfold dropNetwork
    split
    · exact holds
    · exact called _ _ (changed _ bot.nextNetwork holds)

theorem callNetwork_plugins {network : NetworkId} {call : ConfigCall} {pc : PluginComm}
    (found : (bot.callNetwork lib answers network call).plugins = some pc) :
    ∃ old, bot.plugins = some old ∧ pc.database = old.database ∧
      ∀ target, pc.References target → old.References target := by
  obtain ⟨old, oldFound, rfl⟩ := Option.map_eq_some_iff.mp found
  refine ⟨old, oldFound, List.foldlRecOn (motive := fun pc : PluginComm =>
    pc.database = old.database ∧ ∀ target, pc.References target → old.References target) _ _
    ⟨rfl, fun _ => id⟩ ?_⟩
  rintro pc ⟨database, references⟩ raise _
  refine ⟨(congrArg Prod.fst (PluginComm.ircEvent_wiring lib raise.memory
    bot.config.globalConfig network raise.event raise.origin raise.params pc)).trans database, ?_⟩
  intro target refers
  rcases PluginComm.ircEvent_references refers with earlier | ⟨message, -⟩
  · exact references target earlier
  · exact absurd message raise.noMessage

theorem loadNetworks_references {network : NetworkId}
    (refers : (before.loadNetworks lib answers).References network) :
    before.References network := by
  refine loadNetworks_invariant (motive := fun bot => ∀ network, bot.References network →
    before.References network) ?_ ?_ (fun _ => id) network refers
  · rintro bot target call holds network ⟨pc, found, refers⟩
    obtain ⟨old, oldFound, -, references⟩ := callNetwork_plugins found
    exact holds network ⟨old, oldFound, references network refers⟩
  · rintro bot _ _ holds network ⟨pc, found, refers⟩
    exact holds network ⟨pc, found, refers⟩

theorem loadNetworks_healthy (healthy : before.Healthy) :
    (before.loadNetworks lib answers).Healthy := by
  refine loadNetworks_invariant ?_ ?_ healthy
  · rintro bot network call ⟨database, pc, current, alive, found, same⟩
    obtain ⟨called, calledFound⟩ :
        ∃ called, (bot.callNetwork lib answers network call).plugins = some called :=
      ⟨_, congrArg (Option.map _) found⟩
    obtain ⟨old, oldFound, kept, -⟩ := callNetwork_plugins calledFound
    cases found.symm.trans oldFound
    exact ⟨database, called, current, alive, calledFound, kept.trans same⟩
  · rintro bot _ _ healthy
    exact healthy

/-! ## Whole calls -/

/-- The ways in which `loadConfig` returns. -/
inductive Loaded (lib : Libraries) (built : Backend → Bool) (answers : LoadAnswers)
    (before : Bot) : Bool → Bot → Prop
  | unread {what : ByteString} (read : answers.read = .error (.exception what)) :
      Loaded lib built answers before false
        { before with config := { before.config with isRead := false } }
  | rejected {config : ConfigReader} {after : Bot} (read : answers.read = .ok config)
      (prepared : Prepared built answers (before.configured config) false after) :
      Loaded lib built answers before false after
  | accepted {config : ConfigReader} {middle : Bot} (read : answers.read = .ok config)
      (reached : (before.configured config).prepare built answers = (.ok true, middle))
      (prepared : Prepared built answers (before.configured config) true middle) :
      Loaded lib built answers before true (middle.loadNetworks lib answers)

theorem loadConfig_loaded
    (returned : before.loadConfig lib built answers = (.ok result, after)) :
    Loaded lib built answers before result after := by
  unfold loadConfig at returned
  split at returned
  · next read =>
      cases returned
      exact .unread read
  · cases returned
  · next config read =>
      generalize outcome : (before.configured config).prepare built answers = prepared at returned
      rcases prepared with ⟨stop | goesOn, middle⟩
      · cases returned
      · cases goesOn with
        | false =>
            cases returned
            exact .rejected read (prepare_prepared outcome)
        | true =>
            cases counted : answers.counts <;> simp only [counted] at returned <;> cases returned
            exact .accepted read outcome (prepare_prepared outcome)

end Bot

end DaZeus
