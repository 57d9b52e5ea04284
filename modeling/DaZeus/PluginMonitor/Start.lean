import DaZeus.PluginMonitor.State

/-!
# Starting a plugin

`PluginMonitor::start_plugin` with the parser for the plugin's parameters.
`startPlugin_spec` is all that the supervision relies on: either no process
came into being, or the entry has the process that did.
-/

namespace DaZeus

open Library
open Std (TreeMap)

/-- How a function of the monitor stops without returning. -/
inductive Stop where
  /-- A `std::runtime_error`. -/
  | exception (what : ByteString)
  | assertion
  deriving DecidableEq

def slash : UInt8 := 47

/-- `config_->getPluginSocket().toString()` -/
def ConfigReader.pluginSocketText (config : ConfigReader) : Except Stop ByteString :=
  match config.sockets with
  | [] => .error (.exception (ascii "No sockets defined, cannot run plugins"))
  | socket :: _ =>
      match socket.toString with
      | some text => .ok text
      | none => .error .assertion

/-- The local variables of the parameter loop. -/
structure ArgumentParser where
  arguments : List ByteString := []
  currentArg : ByteString := []
  inQuotes : Bool := false
  inDoublequotes : Bool := false
  inEscape : Bool := false
  deriving DecidableEq

namespace ArgumentParser

def append (parser : ArgumentParser) (text : ByteString) : ArgumentParser :=
  { parser with currentArg := parser.currentArg ++ text }

/-- `arguments.push_back(current_arg); current_arg.clear();` -/
def push (parser : ArgumentParser) : ArgumentParser :=
  { parser with arguments := parser.arguments ++ [parser.currentArg], currentArg := [] }

/-- The loop through the characters.  Nothing in it sets `in_escape`. -/
def parse (config : ConfigReader) (network : ByteString) :
    ByteString → ArgumentParser → Except Stop ArgumentParser
  | [], parser => .ok parser
  | byte :: rest, parser =>
      if parser.inEscape then
        parse config network rest { parser.append [byte] with inEscape := false }
      else if parser.inQuotes || parser.inDoublequotes then
        if parser.inQuotes && parser.inDoublequotes then
          .error .assertion
        else if (parser.inQuotes && byte == apostrophe)
            || (parser.inDoublequotes && byte == quote) then
          parse config network rest
            { parser.push with inQuotes := false, inDoublequotes := false }
        else
          parse config network rest (parser.append [byte])
      else if byte = apostrophe then
        parse config network rest { parser with inQuotes := true }
      else if byte = quote then
        parse config network rest { parser with inDoublequotes := true }
      else if isSpace byte then
        parse config network rest
          (if parser.currentArg.length > 0 then parser.push else parser)
      else if byte = percent then
        match rest with
        | [] => .ok (parser.append [percent])
        | next :: later =>
            if next = 115 then
              match config.pluginSocketText with
              | .error stop => .error stop
              | .ok text => parse config network later (parser.append text)
            else if next = 110 then
              parse config network later (parser.append network)
            else
              parse config network (next :: later) (parser.append [percent])
      else
        parse config network rest (parser.append [byte])

end ArgumentParser

/-- The argument list that the plugin's parameters stand for. -/
def PluginState.arguments (config : ConfigReader) (state : PluginState) :
    Except Stop (List ByteString) := do
  let parser ← ArgumentParser.parse config state.network state.config.parameters {}
  return (if parser.currentArg.length > 0 then parser.push else parser).arguments

/-- The directory of the plugin: by default its name, and relative to the plugin directory. -/
def PluginState.path (pluginDirectory : ByteString) (state : PluginState) : ByteString :=
  let path := if state.config.path.length = 0 then state.config.name else state.config.path
  if path.head? = some slash then path else pluginDirectory ++ slash :: path

def PluginState.executable (state : PluginState) : ByteString :=
  if state.config.executable.length = 0 then state.config.name else state.config.executable

/-- The value of a signed 64-bit integer in a signed 32-bit one. -/
def wrap32 (value : Int) : Int := value.bmod (2 ^ 32)

namespace PluginMonitor

def pluginFailed (name : ByteString) (monitor : PluginMonitor) (permanent : Bool := false) :
    PluginMonitor :=
  monitor.modify name fun state =>
    if permanent then
      { state with willAutostart := false }
    else
      { state with numFailures := wrap32 (state.numFailures + 1) }

/-- `directory_exists`, `file_exists` and `executable_exists`, until one of them fails. -/
def sanityCheck (monitor : PluginMonitor) : Bool × PluginMonitor :=
  match monitor.check with
  | (false, monitor) => (false, monitor)
  | (true, monitor) =>
      match monitor.check with
      | (false, monitor) => (false, monitor)
      | (true, monitor) => monitor.check

def startPlugin (config : ConfigReader) (name : ByteString) (state : PluginState)
    (monitor : PluginMonitor) : Except Stop Bool × PluginMonitor :=
  let monitor := monitor.record (.started name)
  if state.pid ≠ 0 then
    (.error .assertion, monitor)
  else
    let (now, monitor) := monitor.time
    let monitor := monitor.modify name ({ · with lastStart := now })
    match state.arguments config with
    | .error stop => (.error stop, monitor)
    | .ok arguments =>
        let (sane, monitor) := monitor.sanityCheck
        if !sane then
          (.ok false, monitor.pluginFailed name)
        else
          match monitor.forkPlugin (state.path monitor.pluginDirectory) state.executable
              arguments with
          | (none, monitor) => (.ok false, monitor.pluginFailed name)
          | (some pid, monitor) => (.ok true, monitor.modify name ({ · with pid }))

/-! ## What a start can change -/

theorem pluginFailed_idle (name : ByteString) (monitor : PluginMonitor) (permanent : Bool) :
    Idle monitor (monitor.pluginFailed name permanent) := by
  apply Idle.modify
  intro state
  cases permanent <;> rfl

theorem check_passed (monitor : PluginMonitor) : Passed monitor monitor.check.2 :=
  elapse_passed monitor

theorem sanityCheck_passed (monitor : PluginMonitor) :
    Passed monitor monitor.sanityCheck.2 := by
  unfold sanityCheck
  have first := check_passed monitor
  revert first
  rcases monitor.check with ⟨_ | _, second⟩
  · exact id
  · intro first
    have next := first.trans (check_passed second)
    revert next
    dsimp only
    rcases second.check with ⟨_ | _, third⟩
    · exact id
    · exact fun next => next.trans (check_passed third)

/-- A process that was just forked, and is in the entry it was forked for. -/
structure Forked (name : ByteString) (pid : Nat) (before after : PluginMonitor) : Prop where
  positive : pid ≠ 0
  fresh : pid ∉ before.children.map (·.pid)
  children : after.children = before.children ++ [⟨pid, false⟩]
  pidAt : ∀ other, after.pidAt other = if other = name then pid else before.pidAt other
  blocked : after.blocked = before.blocked
  pending : after.pending = before.pending
  shouldRun : after.shouldRun = before.shouldRun

/-- The names of the plugins that `start_plugin` was entered for. -/
def starts (monitor : PluginMonitor) : List ByteString :=
  monitor.log.filterMap fun
    | .started name => some name
    | _ => none

theorem Passed.starts {before after : PluginMonitor} (passed : Passed before after) :
    after.starts = before.starts := by
  rw [PluginMonitor.starts, passed.log, PluginMonitor.starts]

/-- What `start_plugin` can do, by what it returns. -/
inductive Started (name : ByteString) (before : PluginMonitor) :
    Except Stop Bool × PluginMonitor → Prop
  | idle {result after} (notStarted : result ≠ .ok true) (idle : Idle before after) :
      Started name before (result, after)
  | forked {middle after pid} (idle : Idle before middle) (forked : Forked name pid middle after) :
      Started name before (.ok true, after)

theorem forkPlugin_forked {path executable : ByteString} {arguments : List ByteString}
    {before after : PluginMonitor} {pid : Nat} {name : ByteString} (present : name ∈ before.state)
    (forked : before.forkPlugin path executable arguments = (some pid, after)) :
    Forked name pid before.elapse (after.modify name ({ · with pid })) := by
  unfold forkPlugin at forked
  dsimp only at forked
  split at forked
  · cases forked
  · next free =>
      cases forked
      simp only [Bool.or_eq_true, decide_eq_true_eq, not_or] at free
      refine ⟨free.1, ?_, rfl, fun other => ?_, rfl, rfl, rfl⟩
      · simpa using free.2
      · rw [pidAt_modify]
        by_cases same : other = name
        · rw [if_pos same, if_pos same]
          have present := (elapse_passed before).present name present
          rw [record, TreeMap.getElem?_eq_some_getElem present]
          rfl
        · rw [if_neg same, if_neg same]
          rfl

theorem forkPlugin_failed {path executable : ByteString} {arguments : List ByteString}
    {before after : PluginMonitor}
    (failed : before.forkPlugin path executable arguments = (none, after)) :
    after = before.elapse := by
  unfold forkPlugin at failed
  dsimp only at failed
  split at failed
  · cases failed
    rfl
  · cases failed

theorem startPlugin_spec (config : ConfigReader) {name : ByteString} (state : PluginState)
    {before : PluginMonitor} (present : name ∈ before.state) :
    Started name before (before.startPlugin config name state) := by
  unfold startPlugin
  dsimp only [time]
  have entered := Idle.record before (.started name)
  split
  · exact .idle nofun entered
  · have begun : Idle before ((before.record (.started name)).elapse.modify name
        ({ · with lastStart := (before.record (.started name)).elapse.clock })) :=
      (entered.trans (elapse_passed _).toIdle).trans (.modify _ name fun _ => rfl)
    split
    · exact .idle nofun begun
    · next arguments _ =>
        have checked := begun.trans (sanityCheck_passed _).toIdle
        split
        · exact .idle nofun (checked.trans (pluginFailed_idle name _ false))
        · split
          · next failed =>
              rw [forkPlugin_failed failed]
              exact .idle nofun ((checked.trans (elapse_passed _).toIdle).trans
                (pluginFailed_idle name _ false))
          · next forked =>
              exact .forked (checked.trans (elapse_passed _).toIdle)
                (forkPlugin_forked (checked.present name present) forked)

theorem forkPlugin_starts (path executable : ByteString) (arguments : List ByteString)
    (monitor : PluginMonitor) :
    (monitor.forkPlugin path executable arguments).2.starts = monitor.starts := by
  unfold forkPlugin
  dsimp only
  split <;> exact (elapse_passed monitor).starts

theorem startPlugin_starts (config : ConfigReader) (name : ByteString) (state : PluginState)
    (before : PluginMonitor) :
    (before.startPlugin config name state).2.starts = name :: before.starts := by
  unfold startPlugin
  dsimp only [time]
  have entered : (before.record (.started name)).starts = name :: before.starts := rfl
  split
  · exact entered
  · have begun := (elapse_passed (before.record (.started name))).starts.trans entered
    split
    · exact begun
    · next arguments _ =>
        generalize checked : sanityCheck _ = result
        have same := congrArg (fun result => result.2.starts) checked
        rw [(sanityCheck_passed _).starts] at same
        split
        · exact same.symm.trans begun
        · have forked := (forkPlugin_starts (state.path result.2.pluginDirectory) state.executable
            arguments result.2).trans (same.symm.trans begun)
          split <;> next outcome =>
            exact (congrArg (fun pair => pair.2.starts) outcome).symm.trans forked

end PluginMonitor

end DaZeus
