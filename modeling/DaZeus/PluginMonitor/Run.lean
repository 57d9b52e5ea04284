import DaZeus.PluginMonitor.Start

/-!
# Supervision

`runOnce`, `kill_plugins`, `configReloaded` and the destructor.  A function
that may stop returns the state it stopped in as well.
-/

namespace DaZeus

open Library
open Std (TreeMap)

/-- The seconds to wait after this many failures.  Past the width of `int` the shift takes
its count modulo 32 and the product wraps: C++ leaves both undefined. -/
def waitSeconds (numFailures : Int) : Int :=
  let seconds :=
    if numFailures > 0 then wrap32 (5 * wrap32 (2 ^ ((numFailures - 1).toNat % 32))) else 0
  if seconds > 300 then 300 else seconds

namespace PluginMonitor

/-! ## The reap loop -/

/-- The entry of a process. -/
def findPid (monitor : PluginMonitor) (pid : Nat) : Option ByteString :=
  monitor.state.keys.find? fun name => monitor.pidAt name == pid

/-- `state->pid = 0` and what follows it. -/
def childExited (name : ByteString) (monitor : PluginMonitor) : PluginMonitor :=
  let monitor := monitor.modify name ({ · with pid := 0 })
  let (now, monitor) := monitor.time
  monitor.modify name fun state =>
    let numFailures := if state.lastStart + 3600 < now then 0 else state.numFailures
    { state with numFailures := wrap32 (numFailures + 1) }

/-- `while((child = wait4(...)))`; every round but the last takes a child away. -/
def reapChildren : Nat → PluginMonitor → PluginMonitor
  | 0, monitor => monitor
  | fuel + 1, monitor =>
      match monitor.wait4 with
      | (none, monitor) => monitor
      | (some pid, monitor) =>
          match monitor.findPid pid with
          | none => reapChildren fuel monitor
          | some name => reapChildren fuel (monitor.childExited name)

/-- The loop with as many rounds as it can take. -/
def reap (monitor : PluginMonitor) : PluginMonitor :=
  reapChildren (monitor.children.length + 1) monitor

/-! ## The start loop -/

/-- The time for the next start has come. -/
def Due (state : PluginState) (now : Int) : Prop :=
  ¬state.lastStart + waitSeconds state.numFailures > now

instance (state : PluginState) (now : Int) : Decidable (Due state now) :=
  inferInstanceAs (Decidable (¬_))

/-- The state of an entry that the loop does not skip: it may be started, and has no process. -/
def candidate (monitor : PluginMonitor) (name : ByteString) : Option PluginState :=
  monitor.state[name]?.filter fun state => state.willAutostart && state.pid == 0

/-- The loop over `state_`, which says whether a plugin is waiting to be started. -/
def startPlugins (config : ConfigReader) :
    List ByteString → Bool → PluginMonitor → Except Stop Bool × PluginMonitor
  | [], waiting, monitor => (.ok waiting, monitor)
  | name :: rest, waiting, monitor =>
      match monitor.candidate name with
      | none => startPlugins config rest waiting monitor
      | some state =>
          let (now, monitor) := monitor.time
          if ¬Due state now then
            startPlugins config rest true monitor
          else
            match monitor.startPlugin config name state with
            | (.error stop, monitor) => (.error stop, monitor)
            | (.ok true, monitor) => startPlugins config rest waiting monitor
            | (.ok false, monitor) => startPlugins config rest true monitor

theorem startPlugins_candidate (config : ConfigReader) (rest : List ByteString) (waiting : Bool)
    {name : ByteString} {state : PluginState} {monitor : PluginMonitor}
    (found : monitor.candidate name = some state) :
    monitor.startPlugins config (name :: rest) waiting =
      if Due state monitor.elapse.clock then
        match monitor.elapse.startPlugin config name state with
        | (.error stop, monitor) => (.error stop, monitor)
        | (.ok true, monitor) => startPlugins config rest waiting monitor
        | (.ok false, monitor) => startPlugins config rest true monitor
      else
        startPlugins config rest true monitor.elapse := by
  rw [startPlugins, found]
  exact ite_not _ _ _

theorem candidate_some {monitor : PluginMonitor} {name : ByteString} {state : PluginState}
    (found : monitor.candidate name = some state) :
    monitor.state[name]? = some state ∧ state.willAutostart = true ∧ state.pid = 0 := by
  simpa [candidate, Option.filter_eq_some_iff] using found

def runOnce (config : ConfigReader) (monitor : PluginMonitor) : Except Stop Unit × PluginMonitor :=
  if !monitor.shouldRun then
    (.ok (), monitor)
  else
    let monitor := monitor.block.reap
    match monitor.startPlugins config monitor.state.keys false with
    | (.error stop, monitor) => (.error stop, monitor)
    | (.ok waiting, monitor) => (.ok (), { monitor with shouldRun := waiting }.unblock)

/-! ## Stopping plugins -/

/-- `stop_plugin`; whether `kill` succeeds makes no difference. -/
def stopPlugin (hard : Bool) (pid : Nat) (monitor : PluginMonitor) : PluginMonitor :=
  monitor.elapse.record (.killed pid hard)

/-- One of the two loops of `kill_plugins` that stop what is running. -/
def stopPlugins (hard : Bool) : List ByteString → Bool → PluginMonitor → Bool × PluginMonitor
  | [], stopped, monitor => (stopped, monitor)
  | name :: rest, stopped, monitor =>
      if monitor.pidAt name ≠ 0 then
        stopPlugins hard rest true (monitor.stopPlugin hard (monitor.pidAt name))
      else
        stopPlugins hard rest stopped monitor

/-- Stop, `sleep(2)`, and reap what exited. -/
def stopStage (config : ConfigReader) (hard : Bool) (names : List ByteString)
    (monitor : PluginMonitor) : Except Stop Unit × PluginMonitor :=
  let (stopped, monitor) := monitor.stopPlugins hard names false
  if stopped then monitor.elapse.runOnce config else (.ok (), monitor)

def killPlugins (config : ConfigReader) (names : List ByteString) (monitor : PluginMonitor) :
    Except Stop Unit × PluginMonitor :=
  match monitor.stopStage config false names with
  | (.error stop, monitor) => (.error stop, monitor)
  | (.ok (), monitor) => monitor.stopStage config true names

/-- `~PluginMonitor`, up to the end of `kill_plugins`. -/
def destroy (config : ConfigReader) (monitor : PluginMonitor) : Except Stop Unit × PluginMonitor :=
  monitor.killPlugins config monitor.state.keys

/-! ## Loading a configuration -/

/-- What a plugin block asks for: the network and the name of each of its states. -/
def instances (networks : List NetworkConfig) (config : PluginConfig) :
    List (ByteString × ByteString) :=
  if config.perNetwork then
    networks.map fun network => (network.name, config.name ++ ascii "!" ++ network.name)
  else
    [([], config.name)]

/-- The inner loop of `configReloaded`; the result is `plugins_seen`. -/
def registerInstances (config : PluginConfig) :
    List (ByteString × ByteString) → List ByteString → PluginMonitor →
      Except Stop (List ByteString) × PluginMonitor
  | [], seen, monitor => (.ok seen, monitor)
  | (network, name) :: rest, seen, monitor =>
      if name ∈ seen then
        (.error (.exception (ascii "Multiple plugins exist with name " ++ name)), monitor)
      else
        match monitor.state[name]? with
        | none =>
            -- the assertions in the constructor of `PluginState`
            if config.perNetwork = network.isEmpty then
              (.error .assertion, monitor)
            else
              registerInstances config rest (seen ++ [name])
                { monitor with state := monitor.state.insert name { config, network } }
        | some _ =>
            registerInstances config rest (seen ++ [name])
              (monitor.modify name
                ({ · with numFailures := 0, willAutostart := true, config }))

def registerPlugins (networks : List NetworkConfig) :
    List PluginConfig → List ByteString → PluginMonitor →
      Except Stop (List ByteString) × PluginMonitor
  | [], seen, monitor => (.ok seen, monitor)
  | config :: rest, seen, monitor =>
      if config.name.length = 0 then
        (.error .assertion, monitor)
      else
        match registerInstances config (instances networks config) seen monitor with
        | (.error stop, monitor) => (.error stop, monitor)
        | (.ok seen, monitor) => registerPlugins networks rest seen monitor

/-- The active plugins that the configuration does not have. -/
def pluginsToKill (seen : List ByteString) (monitor : PluginMonitor) : List ByteString :=
  monitor.state.keys.filter fun name =>
    match monitor.state[name]? with
    | some state => name ∉ seen && (state.pid > 0 || state.willAutostart)
    | none => false

def configReloaded (config : ConfigReader) (monitor : PluginMonitor) :
    Except Stop Unit × PluginMonitor :=
  match registerPlugins config.networks config.plugins [] monitor with
  | (.error stop, monitor) => (.error stop, monitor)
  | (.ok seen, monitor) =>
      let names := monitor.pluginsToKill seen
      let monitor := names.foldl
        (fun monitor name => monitor.modify name ({ · with willAutostart := false })) monitor
      match monitor.killPlugins config names with
      | (.error stop, monitor) => (.error stop, monitor)
      | (.ok (), monitor) => { monitor with shouldRun := true }.runOnce config

/-- What a new entry and a known one preserve, the registration loops preserve. -/
theorem registerPlugins_invariant {motive : PluginMonitor → Prop}
    (inserted : ∀ {monitor : PluginMonitor} (config : PluginConfig) (network name : ByteString),
      monitor.state[name]? = none → motive monitor →
      motive { monitor with state := monitor.state.insert name { config, network } })
    (modified : ∀ {monitor : PluginMonitor} (config : PluginConfig) (name : ByteString),
      motive monitor →
      motive (monitor.modify name ({ · with numFailures := 0, willAutostart := true, config })))
    (networks : List NetworkConfig) (plugins : List PluginConfig) (seen : List ByteString)
    {before : PluginMonitor} (holds : motive before) :
    motive (before.registerPlugins networks plugins seen).2 := by
  have registerInstances (config : PluginConfig) (entries : List (ByteString × ByteString))
      (seen : List ByteString) {before : PluginMonitor} (holds : motive before) :
      motive (before.registerInstances config entries seen).2 := by
    induction entries generalizing before seen with
    | nil => exact holds
    | cons entry rest inductionHypothesis =>
        obtain ⟨network, name⟩ := entry
        unfold PluginMonitor.registerInstances
        split
        · exact holds
        · split
          · next absent =>
              split
              · exact holds
              · exact inductionHypothesis _ (inserted config network name absent holds)
          · exact inductionHypothesis _ (modified config name holds)
  induction plugins generalizing before seen with
  | nil => exact holds
  | cons config rest inductionHypothesis =>
      unfold registerPlugins
      split
      · exact holds
      · have registered := registerInstances config (instances networks config) seen holds
        split <;> rename_i outcome <;> rw [outcome] at registered
        · exact registered
        · exact inductionHypothesis _ registered

/-- What the registrations establish, and the rest preserves, holds after `configReloaded`,
whether it returns or not. -/
theorem configReloaded_invariant {config : ConfigReader} {before : PluginMonitor}
    {motive : PluginMonitor → Prop}
    (registered : motive (before.registerPlugins config.networks config.plugins []).2)
    (disabled : ∀ {monitor : PluginMonitor} (name : ByteString), motive monitor →
      motive (monitor.modify name ({ · with willAutostart := false })))
    (killed : ∀ {monitor : PluginMonitor} (names : List ByteString), motive monitor →
      motive (monitor.killPlugins config names).2)
    (woken : ∀ {monitor : PluginMonitor}, motive monitor →
      motive ({ monitor with shouldRun := true }.runOnce config).2) :
    motive (before.configReloaded config).2 := by
  unfold configReloaded
  split <;> rename_i outcome <;> rw [outcome] at registered
  · exact registered
  · next seen middle =>
      have spared := List.foldlRecOn (motive := motive) (middle.pluginsToKill seen)
        (fun monitor name => monitor.modify name ({ · with willAutostart := false })) registered
        fun _ holds name _ => disabled name holds
      have stopped := killed (middle.pluginsToKill seen) spared
      dsimp only
      split <;> rename_i outcome <;> rw [outcome] at stopped
      · exact stopped
      · exact woken stopped

end PluginMonitor

end DaZeus
