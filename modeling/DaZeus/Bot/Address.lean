import DaZeus.Bot.Run
import DaZeus.PluginComm.Address
import DaZeus.PluginMonitor.Forks
import DaZeus.PluginMonitor.Stops

/-!
# The address that plugins are told

`%s` in the parameters of a plugin stands for the first socket of the
configuration.  `init` resolves the sockets in the first load, and every later
one puts the blocks of the file in their place.  `plugins_informed` says for
which files plugins are told an address where the plugin interface listens.
-/

namespace DaZeus

open Library
open Std (TreeMap)

namespace LoadAnswers

/-- The blocks of the file, and what `init` gets for each. -/
def blocks (answers : LoadAnswers) : List (SocketConfig × SetupAnswers) :=
  match answers.read with
  | .ok config => config.sockets.zipIdx.map fun block => (block.1, answers.setup block.2)
  | .error _ => []

/-- What `init` starts from, when this is the first load. -/
def startup (first : LoadAnswers) : Startup :=
  { pc := { database := some 1 }, descriptors := first.descriptors }

/-- The first load sets this descriptor up, for a block with this address. -/
def SetsUp (first : LoadAnswers) (fd : Nat) (address : ByteString) : Prop :=
  ∃ done block rest before, first.blocks = done ++ block :: rest ∧
    first.startup.init done = .ok before ∧ before.Succeeds block ∧
    fd = before.descriptors.lowestFree ∧ (before.resolve block).toString = some address

/-- The socket reads as an address that the first load sets up. -/
def Reaches (first : LoadAnswers) (socket : Option SocketConfig) : Prop :=
  ∃ fd address, socket.bind (·.toString) = some address ∧ first.SetsUp fd address

end LoadAnswers

/-- No plugin has a `%s` in its parameters that the parser comes to. -/
def ConfigReader.Undemanding (config : ConfigReader) : Prop :=
  ∀ entry ∈ config.instances, ∀ network, ¬Plan.Asks ⟨entry.config, network, true⟩

namespace Bot

/-- The plugin interface listens at this address, which is in the form that `init` gave it. -/
def ListensAt (first : LoadAnswers) (bot : Bot) (address : ByteString) : Prop :=
  ∃ fd final pc, first.SetsUp fd address ∧ first.startup.init first.blocks = .ok final ∧
    final.Listening fd ∧ bot.plugins = some pc ∧ fd ∈ pc.tcpServers ++ pc.localServers

/-- An entry has these arguments, and if its parameters ask for the address of a socket, they
got one where the plugin interface listens. -/
def Told (first : LoadAnswers) (bot : Bot) (monitor : PluginMonitor)
    (arguments : List ByteString) : Prop :=
  ∃ name plan, monitor.planAt name = some plan ∧ plan.willAutostart = true ∧
    plan.arguments bot.config = .ok arguments ∧
    (plan.Asks → ∃ address, bot.config.pluginSocketText = .ok address ∧
      bot.ListensAt first address)

def supervisionLog (bot : Bot) : List SupervisionEvent :=
  (bot.pluginMonitor.map (·.log)).getD []

variable (lib : Libraries) (built : Backend → Bool)

/-- Every load succeeds, and unless no plugin asks, the first socket of its file reads as an
address of the first load: at once, or in the first load itself once it is resolved. -/
def Faithful (first : LoadAnswers) (bot : Bot) : Event → Prop
  | .reload answers =>
      (bot.loadConfig lib built answers).1 = .ok true ∧
      (bot.plugins = none → answers = first) ∧
      ∀ config, answers.read = .ok config → config.Undemanding ∨
        first.Reaches (if bot.plugins.isSome then config.sockets.head?
          else first.blocks.head?.map first.startup.resolve)
  | _ => True

variable {lib built} {first answers : LoadAnswers} {bot before after : Bot}

/-! ## Successful loads -/

theorem connectDatabase_ok
    (returned : before.connectDatabase built answers = (.ok true, after)) :
    ∃ databases, after = { before with
      database := some before.nextDatabase, databases
      nextDatabase := before.nextDatabase + 1 } := by
  cases connectDatabase_connected returned with
  | created supported opens opened => exact ⟨_, rfl⟩

theorem prepare_ok (returned : before.prepare built answers = (.ok true, after)) :
    ∃ databases attached monitor,
      { before with
        database := some before.nextDatabase, databases,
        nextDatabase := before.nextDatabase + 1 }.attachPlugins answers = .ok attached ∧
      (attached.monitor answers).configReloaded attached.config = (.ok (), monitor) ∧
      after = { attached with pluginMonitor := some monitor } := by
  unfold prepare at returned
  split at returned
  · cases returned
  · cases returned
  · next connected connection =>
      obtain ⟨databases, rfl⟩ := connectDatabase_ok connection
      split at returned
      · cases returned
      · next attached attachment =>
          unfold reloadMonitor at returned
          split at returned
          · next monitor outcome =>
              cases returned
              exact ⟨databases, attached, monitor, attachment, outcome, rfl⟩
          · cases returned
          · cases returned

variable (lib answers) in
/-- The calls on the networks change none of this. -/
theorem loadNetworks_same (before : Bot) :
    (before.loadNetworks lib answers).config = before.config ∧
      (before.loadNetworks lib answers).pluginMonitor = before.pluginMonitor ∧
      (before.loadNetworks lib answers).plugins.map (·.wiring.2) =
        before.plugins.map (·.wiring.2) := by
  refine loadNetworks_invariant (motive := fun bot => bot.config = before.config ∧
    bot.pluginMonitor = before.pluginMonitor ∧
    bot.plugins.map (·.wiring.2) = before.plugins.map (·.wiring.2)) ?_ ?_ ⟨rfl, rfl, rfl⟩
  · rintro bot network call ⟨config, monitor, wiring⟩
    refine ⟨config, monitor, Eq.trans ?_ wiring⟩
    rw [callNetwork, Option.map_map]
    congr 1
    funext pc
    refine congrArg Prod.snd (List.foldlRecOn (motive := fun after : PluginComm =>
      after.wiring = pc.wiring) _ _ rfl ?_)
    intro after same raise _
    exact (PluginComm.ircEvent_wiring lib raise.memory bot.config.globalConfig network raise.event
      raise.origin raise.params after).trans same
  · intro bot _ _ same
    exact same

/-- The plugin interface has the servers that the first load gave it. -/
def Wired (first : LoadAnswers) (bot : Bot) : Prop :=
  ∃ final pc, first.startup.init first.blocks = .ok final ∧ bot.plugins = some pc ∧
    pc.wiring.2 = final.pc.wiring.2

theorem Wired.of_map (wired : before.Wired first)
    (same : after.plugins.map (·.wiring.2) = before.plugins.map (·.wiring.2)) :
    after.Wired first := by
  obtain ⟨final, pc, completed, found, servers⟩ := wired
  rw [found] at same
  obtain ⟨other, found, wiring⟩ := Option.map_eq_some_iff.mp same
  exact ⟨final, other, completed, found, wiring.trans servers⟩

/-- An address that the first load set up is one where the plugin interface listens. -/
theorem Wired.listensAt (wired : bot.Wired first)
    (reaches : first.Reaches bot.config.sockets.head?) :
    ∃ address, bot.config.pluginSocketText = .ok address ∧ bot.ListensAt first address := by
  obtain ⟨final, pc, completed, found, servers⟩ := wired
  obtain ⟨fd, address, reads, setsUp⟩ := reaches
  refine ⟨address, ?_, fd, final, pc, setsUp, completed, ?_⟩
  · unfold ConfigReader.pluginSocketText
    cases sockets : bot.config.sockets with
    | nil =>
        rw [sockets] at reads
        cases reads
    | cons socket rest =>
        rw [sockets] at reads
        have reads : socket.toString = some address := reads
        simp only [reads]
  · obtain ⟨done, block, rest, reached, split, initialised, succeeds, rfl, -⟩ := setsUp
    rw [split] at completed
    obtain ⟨server, listening⟩ := Startup.init_serves initialised succeeds completed
    refine ⟨listening, found, ?_⟩
    obtain ⟨tcp, unix⟩ := Prod.ext_iff.mp servers
    have tcp : pc.tcpServers = final.pc.tcpServers := tcp
    have unix : pc.localServers = final.pc.localServers := unix
    rwa [tcp, unix]

theorem attachPlugins_wired {config : ConfigReader}
    (attached : before.attachPlugins answers = .ok after) (read : answers.read = .ok config)
    (sockets : before.config.sockets = config.sockets)
    (start : before.plugins = none → answers = first ∧ before.database = some 1)
    (wired : ∀ pc, before.plugins = some pc → before.Wired first) :
    after.Wired first ∧ after.pluginMonitor = before.pluginMonitor ∧
      after.config.instances = before.config.instances ∧
      after.config.sockets.head? = if before.plugins.isSome then config.sockets.head?
        else first.blocks.head?.map first.startup.resolve := by
  unfold attachPlugins at attached
  split at attached
  · next pc found =>
      cases attached
      refine ⟨(wired pc found).of_map ?_, rfl, rfl, ?_⟩
      · rw [found]
        rfl
      · rw [found, sockets]
        rfl
  · next absent =>
      obtain ⟨rfl, database⟩ := start absent
      dsimp only at attached
      split at attached
      · cases attached
      · next startup completed =>
          cases attached
          have completed : answers.startup.init answers.blocks = .ok startup := by
            rw [sockets] at completed
            rw [LoadAnswers.startup, LoadAnswers.blocks, read, ← database]
            exact completed
          refine ⟨⟨startup, startup.pc, completed, rfl, rfl⟩, rfl, rfl, ?_⟩
          rw [absent]
          exact Startup.init_head rfl completed

/-- The first socket reads as an address of the first load, or no plugin that may be started
asks for it. -/
def Settled (first : LoadAnswers) (bot : Bot) : Prop :=
  first.Reaches bot.config.sockets.head? ∨
    ∀ monitor, bot.pluginMonitor = some monitor → ∀ name plan,
      monitor.planAt name = some plan → plan.willAutostart = true → ¬plan.Asks

/-! ## One step -/

theorem Settled.told {monitor : PluginMonitor} {arguments : List ByteString}
    (settled : bot.Settled first) (wired : bot.Wired first)
    (found : bot.pluginMonitor = some monitor)
    (given : PluginMonitor.Given bot.config monitor arguments) :
    bot.Told first monitor arguments := by
  obtain ⟨name, plan, entry, wanted, parsed⟩ := given
  refine ⟨name, plan, entry, wanted, parsed, fun asks => ?_⟩
  rcases settled with reaches | content
  · exact wired.listensAt reaches
  · exact absurd asks (content monitor found name plan entry wanted)

theorem monitor_log (answers : LoadAnswers) (bot : Bot) :
    (bot.monitor answers).log = bot.supervisionLog := by
  unfold monitor supervisionLog
  split <;> next found => rw [found]; rfl

/-- A faithful load leaves the bot wired and settled, and informs what it starts. -/
theorem loadConfig_told (start : before = {} ∨ before.Wired first)
    (allowed : Faithful lib built first before (.reload answers))
    (returned : before.loadConfig lib built answers = (.ok true, after)) :
    after.Wired first ∧ after.Settled first ∧ ∀ monitor, after.pluginMonitor = some monitor →
      PluginMonitor.InformedSince after.config before.supervisionLog monitor := by
  obtain ⟨-, same, faithful⟩ := allowed
  cases loadConfig_loaded returned with
  | @accepted config middle read reached prepared =>
      obtain ⟨databases, attached, monitor, attachment, reloaded, rfl⟩ := prepare_ok reached
      have absent (none : before.plugins = none) : before = {} := by
        rcases start with fresh | ⟨final, pc, completed, found, servers⟩
        · exact fresh
        · cases none.symm.trans found
      have wired (pc : PluginComm) (found : before.plugins = some pc) : before.Wired first := by
        rcases start with fresh | wired
        · rw [fresh] at found
          cases found
        · exact wired
      obtain ⟨wired, kept, instances, head⟩ := attachPlugins_wired attachment read rfl
        (fun none => ⟨same none, by rw [absent none]; rfl⟩) wired
      obtain ⟨sameConfig, sameMonitor, sameServers⟩ := loadNetworks_same lib answers
        { attached with pluginMonitor := some monitor }
      refine ⟨wired.of_map sameServers, ?_, ?_⟩
      · unfold Settled
        rw [sameConfig, sameMonitor]
        rcases faithful config read with undemanding | reaches
        · right
          intro other found name plan entry wanted
          cases found
          obtain ⟨listed, inside, network, rfl⟩ :=
            PluginMonitor.configReloaded_wanted reloaded entry wanted
          rw [instances] at inside
          exact undemanding listed inside network
        · exact .inl (head ▸ reaches)
      · intro other found
        rw [sameMonitor] at found
        cases found
        have informed := PluginMonitor.configReloaded_informs attached.config
          (attached.monitor answers)
        rw [reloaded, monitor_log, supervisionLog, kept] at informed
        rw [sameConfig]
        exact informed

/-- Where the monitor goes on with the configuration there is. -/
theorem Settled.informs {monitor other : PluginMonitor} (settled : before.Settled first)
    (found : before.pluginMonitor = some monitor)
    (informs : PluginMonitor.Informs before.config monitor other) :
    Settled first { before with pluginMonitor := some other } := by
  rcases settled with reaches | content
  · exact .inl reaches
  · right
    intro last same name plan entry wanted
    cases same
    rw [informs.plans name] at entry
    exact content monitor found name plan entry wanted

theorem Step.told {event : Event} (step : Step lib built before event after)
    (allowed : Faithful lib built first before event)
    (holds : before = {} ∨ before.Wired first ∧ before.Settled first) :
    after.Wired first ∧ after.Settled first ∧ ∀ monitor, after.pluginMonitor = some monitor →
      PluginMonitor.InformedSince after.config before.supervisionLog monitor := by
  cases step with
  | reload returned =>
      rename_i answers result
      have succeeds := allowed.1
      rw [returned] at succeeds
      cases succeeds
      exact loadConfig_told (holds.imp_right And.left) allowed returned
  | @plugins pc after memory database action constructed possible performed =>
      obtain ⟨wired, settled⟩ := holds.resolve_left fun fresh => by
        rw [fresh] at constructed
        cases constructed
      refine ⟨wired.of_map ?_, settled, fun monitor found => ⟨[], ?_, nofun⟩⟩
      · rw [constructed, Option.map_some, Option.map_some, PluginComm.perform_wiring performed]
      · have found : before.pluginMonitor = some monitor := found
        rw [supervisionLog, found]
        rfl
  | @runOnce monitor result script constructed returned =>
      obtain ⟨wired, settled⟩ := holds.resolve_left fun fresh => by
        rw [fresh] at constructed
        cases constructed
      have informs := (PluginMonitor.informs_frame before.config).runOnce { monitor with script }
      rw [returned] at informs
      refine ⟨wired.of_map rfl, settled.informs constructed ⟨?_, informs.since⟩, ?_⟩
      · exact informs.plans
      · intro other found
        cases found
        rw [supervisionLog, constructed]
        exact informs.since
  | @process monitor event constructed =>
      obtain ⟨wired, settled⟩ := holds.resolve_left fun fresh => by
        rw [fresh] at constructed
        cases constructed
      have informs := (PluginMonitor.informs_frame before.config).passed
        (PluginMonitor.happen_passed monitor event)
      refine ⟨wired.of_map rfl, settled.informs constructed informs, ?_⟩
      intro other found
      cases found
      rw [supervisionLog, constructed]
      exact informs.since

end Bot

end DaZeus
