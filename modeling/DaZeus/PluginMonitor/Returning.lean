import DaZeus.ConfigFile.Read
import DaZeus.PluginMonitor.Stops

/-!
# Calls of `runOnce` that return

A configuration is accepted without a Socket block, or with one whose type
nobody knows.  `returns_iff` says that this matters as soon as a plugin whose
parameters have a `%s` is due: `runOnce` does not return, and SIGCHLD stays
blocked.
-/

namespace DaZeus

open Library
open Std (TreeMap)

/-- What the rest of the bot asks a reader for. -/
def ConfigFile.ConfigReader.published (reader : ConfigFile.ConfigReader) :
    DaZeus.ConfigReader where
  networks := reader.networks.map fun network =>
    { name := network.name, autoConnect := network.autoConnect }
  plugins := reader.plugins
  sockets := reader.sockets
  globalConfig := reader.global.getD {}
  databaseConfig := { type := (reader.database.getD {}).type }
  isRead := reader.isRead

/-- The first Socket block is of a type that `toString` knows. -/
def ConfigReader.HasPluginSocket (config : ConfigReader) : Prop :=
  ∃ socket ∈ config.sockets.head?, socket.type = ascii "unix" ∨ socket.type = ascii "tcp"

theorem ConfigReader.hasPluginSocket_iff {config : ConfigReader} :
    config.HasPluginSocket ↔ ∃ text, config.pluginSocketText = .ok text := by
  unfold HasPluginSocket pluginSocketText SocketConfig.toString
  cases config.sockets with
  | nil => simp
  | cons socket rest =>
      by_cases unix : socket.type = ascii "unix"
      · simp [unix]
      · have different : ascii "tcp" ≠ ascii "unix" := by decide
        by_cases tcp : socket.type = ascii "tcp" <;> simp [unix, tcp, different]

namespace PluginMonitor

variable {config : ConfigReader} {name : ByteString} {state : PluginState}
  {before : PluginMonitor}

/-- The parser comes through if it meets no `%s`, or knows what to put for it. -/
theorem arguments_returns_iff :
    (∃ arguments, state.arguments config = .ok arguments) ↔
      config.HasPluginSocket ∨ ¬state.plan.Asks := by
  rw [ConfigReader.hasPluginSocket_iff]
  cases outcome : state.arguments config with
  | error stop =>
      obtain ⟨socket, asks⟩ := arguments_stop outcome
      simp [socket, asks]
  | ok arguments =>
      refine ⟨fun _ => ?_, fun _ => ⟨arguments, rfl⟩⟩
      cases socket : config.pluginSocketText with
      | ok text => exact .inl ⟨text, rfl⟩
      | error stop =>
          right
          rintro ⟨other, asked⟩
          obtain ⟨_, last, failed⟩ := ArgumentParser.parse_stop (.inl rfl) socket asked
          have parsed : ArgumentParser.parse config state.network state.config.parameters {} =
              .error last := failed
          rw [PluginState.arguments, parsed] at outcome
          cases outcome

theorem startPlugin_returns_iff (config : ConfigReader) (name : ByteString)
    (before : PluginMonitor) (free : state.pid = 0) :
    (∃ started, (before.startPlugin config name state).1 = .ok started) ↔
      config.HasPluginSocket ∨ ¬state.plan.Asks := by
  rw [← arguments_returns_iff]
  unfold startPlugin
  dsimp only [time]
  rw [if_neg (by simp [free])]
  split
  · next outcome => simp [outcome]
  · next arguments outcome =>
      refine ⟨fun _ => ⟨arguments, outcome⟩, fun _ => ?_⟩
      split
      · exact ⟨false, rfl⟩
      · split
        · exact ⟨false, rfl⟩
        · exact ⟨true, rfl⟩

/-- When the start loop finds an entry due, its parameters do not ask for the plugin socket. -/
def NoneAsks (config : ConfigReader) : List ByteString → PluginMonitor → Prop
  | [], _ => True
  | name :: rest, monitor =>
      match monitor.candidate name with
      | none => NoneAsks config rest monitor
      | some state =>
          if Due state monitor.elapse.clock then
            ¬state.plan.Asks ∧
              NoneAsks config rest (monitor.elapse.startPlugin config name state).2
          else
            NoneAsks config rest monitor.elapse

theorem startPlugins_returns_iff (config : ConfigReader) (names : List ByteString)
    (waiting : Bool) (before : PluginMonitor) :
    (∃ waits, (before.startPlugins config names waiting).1 = .ok waits) ↔
      config.HasPluginSocket ∨ NoneAsks config names before := by
  induction names generalizing before waiting with
  | nil => simp [startPlugins, NoneAsks]
  | cons name rest inductionHypothesis =>
      cases found : before.candidate name with
      | none =>
          simp only [startPlugins, NoneAsks, found]
          exact inductionHypothesis waiting before
      | some state =>
          rw [startPlugins_candidate config rest waiting found]
          simp only [NoneAsks, found]
          split
          · have started := startPlugin_returns_iff config name before.elapse
              (candidate_some found).2.2
            split <;> rename_i outcome <;> rw [outcome] at started ⊢
            · simp only [reduceCtorEq, exists_false, false_iff, not_or, not_not] at started ⊢
              exact ⟨started.1, fun quiet => quiet.1 started.2⟩
            · rw [inductionHypothesis, or_and_left, ← started]
              exact (and_iff_right ⟨true, rfl⟩).symm
            · rw [inductionHypothesis, or_and_left, ← started]
              exact (and_iff_right ⟨false, rfl⟩).symm
          · exact inductionHypothesis true before.elapse

/-- A call of `runOnce` that returns and leaves SIGCHLD unblocked. -/
def ReturnsUnblocked (config : ConfigReader) (monitor : PluginMonitor) : Prop :=
  (monitor.runOnce config).1 = .ok () ∧ (monitor.runOnce config).2.blocked = false

/-- A call that has anything to do returns if and only if the plugin socket can be printed, or no
plugin that is due asks for it.  Otherwise SIGCHLD is left as it was. -/
theorem returns_iff (config : ConfigReader) (monitor : PluginMonitor) :
    ReturnsUnblocked config monitor ↔
      if monitor.shouldRun then
        config.HasPluginSocket ∨ NoneAsks config monitor.block.reap.state.keys monitor.block.reap
      else
        monitor.blocked = false := by
  unfold ReturnsUnblocked runOnce
  cases running : monitor.shouldRun with
  | false => simp
  | true =>
      have started := startPlugins_returns_iff config monitor.block.reap.state.keys false
        monitor.block.reap
      simp only [Bool.not_true, Bool.false_eq_true, if_false, if_true, ← started]
      split <;> rename_i outcome <;> rw [outcome]
      · simp
      · simp [unblock]

/-- A file with a Database block and a plugin that asks for the socket. -/
def askingFile : List ConfigFile.Callback :=
  [.sectOpen .database, .sectClose .database, .sectOpen (.plugin (ascii "p>")),
    .option { name := .parameters, str := ascii "%s" }, .sectClose .plugin]

/-- Before that, a Socket block of a type that there is not. -/
def unknownSocketFile : List ConfigFile.Callback :=
  [.sectOpen .socket, .option { name := .type, str := ascii "udp" }, .sectClose .socket] ++
    askingFile

/-- Both files are accepted.  The reload throws or stops the bot, and after the exception, which is
caught there, the next `runOnce` throws it again. -/
theorem asking_plugin_stops :
    let accepted (file : List ConfigFile.Callback) :=
      ConfigFile.ConfigReader.read (.knowing []) .plain {} (some file)
    let loaded (file : List ConfigFile.Callback) :=
      ({} : PluginMonitor).configReloaded (accepted file).2.published
    (accepted askingFile).1 = .ok () ∧ (accepted unknownSocketFile).1 = .ok () ∧
      (loaded unknownSocketFile).1 = .error .assertion ∧
      ((loaded askingFile).2.runOnce (accepted askingFile).2.published).1 =
        .error (.exception (ascii "No sockets defined, cannot run plugins")) ∧
      ((loaded askingFile).2.runOnce (accepted askingFile).2.published).2.blocked = true ∧
      ¬ReturnsUnblocked (accepted askingFile).2.published (loaded askingFile).2 := by
  intro accepted loaded
  have thrown : ((loaded askingFile).2.runOnce (accepted askingFile).2.published).1 =
      .error (.exception (ascii "No sockets defined, cannot run plugins")) := by
    decide +kernel
  refine ⟨by decide +kernel, by decide +kernel, by decide +kernel, thrown, by decide +kernel, ?_⟩
  rintro ⟨returned, -⟩
  cases thrown.symm.trans returned

end PluginMonitor

end DaZeus
