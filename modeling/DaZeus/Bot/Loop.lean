import DaZeus.Bot.Run
import DaZeus.PluginComm.Select

/-!
# The main loop

`DaZeus::run` pass by pass, with the signals that arrive meanwhile.  A pass is
a run of the bot in the sense of `Bot.system`: a load if one is asked for, and
then stages in which no configuration is loaded.
-/

namespace DaZeus

open Library
open Std (TreeMap)

/-- What `run` did, as far as reloads are concerned. -/
inductive LoopEvent where
  /-- `reloadConfig` was called, by the handler of SIGHUP or for a plugin. -/
  | requested
  /-- `loadConfig` was called. -/
  | loading
  deriving DecidableEq

/-- The class `DaZeus` with the variables of `run`.  `history`, the newest first, is read by no
function. -/
structure MainLoop where
  bot : Bot := {}
  running : Bool := false
  configReloadPending : Bool := true
  initialConfig : Bool := true
  history : List LoopEvent := []

/-- The environment's part in one pass of the loop.  A number says how often SIGHUP arrives in
some stage, a list of process events what the children do between two calls. -/
structure PassAnswers where
  /-- Until `config_reload_pending_` is tested. -/
  hangUpsBefore : Nat := 0
  /-- Between the test and the assignment. -/
  hangUpsTested : Nat := 0
  load : LoadAnswers
  hangUpsLoading : Nat := 0
  beforeRunOnce : List ProcessEvent := []
  script : List Moment := []
  hangUpsSupervising : Nat := 0
  afterRunOnce : List ProcessEvent := []
  memory : NetworkId → NetworkState
  database : DatabaseView
  round : RoundAnswers
  hangUpsWaiting : Nat := 0
  duringRound : List ProcessEvent := []

/-- How the loop stops without being left. -/
inductive LoopStop where
  | load (stop : LoadStop)
  | supervise (stop : Stop)
  | round (fault : RoundFault)
  /-- A method is called on an object that was never constructed. -/
  | nullPointer
  deriving DecidableEq

def TraceEvent.isReload : TraceEvent → Bool
  | .reloadConfig => true
  | _ => false

/-- What the children of the bot do; SIGCHLD goes to the monitor. -/
def Bot.happenAll (events : List ProcessEvent) (bot : Bot) : Bot :=
  { bot with pluginMonitor := bot.pluginMonitor.map fun monitor =>
      events.foldl PluginMonitor.happen monitor }

namespace Bot

variable {lib : Libraries} {built : Backend → Bool}

/-! ## Between two loads -/

/-- The runs of the bot in which no configuration is loaded. -/
def between (lib : Libraries) (built : Backend → Bool) : TransitionSystem Bot Event :=
  (system lib built).guard fun _ event => ∀ answers, event ≠ .reload answers

theorem happenAll_reaches (events : List ProcessEvent) (bot : Bot) :
    (between lib built).Reaches bot (bot.happenAll events) := by
  cases constructed : bot.pluginMonitor with
  | none =>
      have same : bot.happenAll events = bot := by
        unfold happenAll
        rw [constructed, Option.map_none, ← constructed]
      rw [same]
      exact .refl bot
  | some monitor =>
      have reaches (events : List ProcessEvent) {monitor : PluginMonitor} {bot : Bot}
          (constructed : bot.pluginMonitor = some monitor) :
          (between lib built).Reaches bot
            { bot with pluginMonitor := some (events.foldl PluginMonitor.happen monitor) } := by
        induction events generalizing monitor bot with
        | nil =>
            rw [List.foldl_nil, ← constructed]
            exact .refl bot
        | cons event rest inductionHypothesis =>
            have first : (between lib built).Next bot
                { bot with pluginMonitor := some (monitor.happen event) } :=
              ⟨.process event, nofun, .process constructed⟩
            exact Relation.ReflTransGen.head first (inductionHypothesis rfl)
      unfold happenAll
      rw [constructed]
      exact reaches events constructed

/-- Actions of the plugin interface on the view of the bot, as long as only its own networks raise
events. -/
theorem performAll_reaches {actions : List (View × PluginComm.Action)} {bot : Bot}
    {pc after : PluginComm} (constructed : bot.plugins = some pc)
    (possible : ∀ action ∈ actions, (∃ memory database, action.1 = bot.view memory database) ∧
      bot.CanHappen action.2)
    (performed : PluginComm.performAll lib pc actions = .ok after) :
    (between lib built).Reaches bot { bot with plugins := some after } := by
  induction actions generalizing bot pc with
  | nil =>
      cases performed
      rw [← constructed]
      exact .refl bot
  | cons action rest inductionHypothesis =>
      obtain ⟨view, action⟩ := action
      obtain ⟨⟨⟨memory, database, same⟩, happens⟩, others⟩ := List.forall_mem_cons.mp possible
      have same : view = bot.view memory database := same
      subst same
      cases first : pc.perform lib (bot.view memory database) action with
      | error fault =>
          rw [PluginComm.performAll, List.foldlM_cons, first] at performed
          cases performed
      | ok middle =>
          have other : ∀ answers, Event.plugins memory database action ≠ .reload answers := by
            intro answers same
            cases same
          have step : (between lib built).Next bot { bot with plugins := some middle } :=
            ⟨.plugins memory database action, other, .plugins constructed happens first⟩
          refine Relation.ReflTransGen.head step (inductionHypothesis rfl others ?_)
          rw [PluginComm.performAll, List.foldlM_cons, first] at performed
          exact performed

/-- What a round does is possible for the bot. -/
theorem roundActions_possible (bot : Bot) (memory : NetworkId → NetworkState)
    (database : DatabaseView) (answers : RoundAnswers) (pc : PluginComm) :
    ∀ action ∈ PluginComm.roundActions (bot.view memory database) answers pc,
      (∃ memory database, action.1 = bot.view memory database) ∧ bot.CanHappen action.2 := by
  have here {action : PluginComm.Action} (possible : bot.CanHappen action) :
      (∃ other database', (bot.view memory database, action).1 = bot.view other database') ∧
        bot.CanHappen (bot.view memory database, action).2 := ⟨⟨memory, database, rfl⟩, possible⟩
  have events (raised : NetworkId → Option (List NetworkEvent)) :
      ∀ action ∈ PluginComm.roundEvents (bot.view memory database) raised,
        (∃ memory database, action.1 = bot.view memory database) ∧ bot.CanHappen action.2 := by
    intro action inside
    obtain ⟨⟨name, network⟩, listed, inside⟩ := List.mem_flatMap.mp inside
    obtain ⟨raise, -, rfl⟩ := List.mem_map.mp inside
    exact ⟨⟨raise.memory, database, rfl⟩, name, TreeMap.mem_toList_iff_getElem?_eq_some.mp listed⟩
  intro action inside
  unfold PluginComm.roundActions at inside
  split at inside
  · cases inside
  · cases inside
  · rw [List.mem_singleton.mp inside]
    exact here trivial
  · exact events _ action inside
  · simp only [List.mem_append, List.mem_map] at inside
    rcases inside with (⟨connection, accepted, rfl⟩ | polled) | raised
    · obtain ⟨fd, type, rfl⟩ := PluginComm.roundConnections_connect accepted
      exact here trivial
    · split at polled
      · rw [List.mem_singleton.mp polled]
        exact here trivial
      · cases polled
    · exact events _ action raised

end Bot

namespace MainLoop

variable (lib : Libraries) (built : Backend → Bool)

/-- `DaZeus::reloadConfig`. -/
def reloadConfig (loop : MainLoop) : MainLoop :=
  { loop with configReloadPending := true, history := .requested :: loop.history }

/-- So many calls of `reloadConfig`. -/
def requests : Nat → MainLoop → MainLoop
  | 0, loop => loop
  | count + 1, loop => requests count loop.reloadConfig

/-- The first statement of the loop, which says whether the loop goes on. -/
def reload (answers : PassAnswers) (loop : MainLoop) : Except LoopStop (Bool × MainLoop) :=
  if !loop.configReloadPending then
    .ok (true, loop)
  else
    let loop := loop.requests answers.hangUpsTested
    let loop := { loop with
      configReloadPending := false, history := .loading :: loop.history }
    match loop.bot.loadConfig lib built answers.load with
    | (.error stop, _) => .error (.load stop)
    | (.ok loaded, bot) =>
        let loop := { loop with bot }.requests answers.hangUpsLoading
        if !loaded && loop.initialConfig then
          .ok (false, loop)
        else
          .ok (true, { loop with initialConfig := false })

/-- `plugin_monitor_->runOnce()`. -/
def supervise (answers : PassAnswers) (loop : MainLoop) : Except LoopStop MainLoop :=
  let bot := loop.bot.happenAll answers.beforeRunOnce
  match bot.pluginMonitor with
  | none => .error .nullPointer
  | some monitor =>
      match { monitor with script := answers.script }.runOnce bot.config with
      | (.error stop, _) => .error (.supervise stop)
      | (.ok (), monitor) =>
          let bot := { bot with pluginMonitor := some monitor }.happenAll answers.afterRunOnce
          .ok ({ loop with bot }.requests answers.hangUpsSupervising)

/-- `plugin_monitor_->shouldRun() ? 1 : 30` -/
def timeout (loop : MainLoop) : Nat :=
  if loop.bot.pluginMonitor.any (·.shouldRun) then 1 else 30

/-- `plugins_->run(...)`; plugins ask for reloads meanwhile. -/
def communicate (answers : PassAnswers) (loop : MainLoop) : Except LoopStop MainLoop :=
  match loop.bot.plugins with
  | none => .error .nullPointer
  | some pc =>
      match pc.run lib (loop.bot.view answers.memory answers.database) answers.round with
      | .error fault => .error (.round fault)
      | .ok after =>
          let bot := { loop.bot with plugins := some after }.happenAll answers.duringRound
          let asked := after.trace.countP (·.isReload) - pc.trace.countP (·.isReload)
          .ok ({ loop with bot }.requests (asked + answers.hangUpsWaiting))

/-- One iteration of the loop in `run`; `false` says that the loop is left. -/
def pass (answers : PassAnswers) (loop : MainLoop) : Except LoopStop (Bool × MainLoop) :=
  if !loop.running then
    .ok (false, loop)
  else do
    let (goesOn, loop) ← (loop.requests answers.hangUpsBefore).reload lib built answers
    if !goesOn then
      .ok (false, loop)
    else do
      let loop ← loop.supervise answers
      let loop ← loop.communicate lib answers
      .ok (true, loop)

/-- The constructor, and `running_ = true`. -/
def start : MainLoop := { running := true }

/-- The passes of `run`. -/
def system : TransitionSystem MainLoop PassAnswers where
  initial loop := loop = start
  step before answers after := before.pass lib built answers = .ok (true, after)

variable {lib built} {answers : PassAnswers} {loop after : MainLoop} {goesOn : Bool}

/-! ## The stages -/

@[simp]
theorem requests_bot (count : Nat) (loop : MainLoop) : (loop.requests count).bot = loop.bot := by
  induction count generalizing loop with
  | zero => rfl
  | succ count inductionHypothesis => exact inductionHypothesis loop.reloadConfig

@[simp]
theorem requests_running (count : Nat) (loop : MainLoop) :
    (loop.requests count).running = loop.running := by
  induction count generalizing loop with
  | zero => rfl
  | succ count inductionHypothesis => exact inductionHypothesis loop.reloadConfig

@[simp]
theorem requests_initialConfig (count : Nat) (loop : MainLoop) :
    (loop.requests count).initialConfig = loop.initialConfig := by
  induction count generalizing loop with
  | zero => rfl
  | succ count inductionHypothesis => exact inductionHypothesis loop.reloadConfig

theorem requests_pending (count : Nat) {loop : MainLoop}
    (pending : loop.configReloadPending = true) :
    (loop.requests count).configReloadPending = true := by
  induction count generalizing loop with
  | zero => exact pending
  | succ count inductionHypothesis => exact inductionHypothesis rfl

/-- A stage after the load is a run of the bot, in which reloads are asked for so often. -/
structure Stage (lib : Libraries) (built : Backend → Bool) (count : Nat)
    (before after : MainLoop) : Prop where
  asked : ∃ bot, after = { before with bot }.requests count
  reaches : (Bot.between lib built).Reaches before.bot after.bot

/-- The ways in which the first statement ends without an exception. -/
inductive Reloaded (lib : Libraries) (built : Backend → Bool) (answers : PassAnswers)
    (before : MainLoop) : Bool → MainLoop → Prop
  | skipped (quiet : before.configReloadPending = false) :
      Reloaded lib built answers before true before
  | loaded {loaded : Bool} {bot : Bot} (pending : before.configReloadPending = true)
      (returned : before.bot.loadConfig lib built answers.load = (.ok loaded, bot))
      (usable : loaded = true ∨ before.initialConfig = false) :
      Reloaded lib built answers before true
        { { before.requests answers.hangUpsTested with
            configReloadPending := false
            history := .loading :: (before.requests answers.hangUpsTested).history
            bot }.requests answers.hangUpsLoading with initialConfig := false }
  | refused {bot : Bot} {after : MainLoop} (pending : before.configReloadPending = true)
      (returned : before.bot.loadConfig lib built answers.load = (.ok false, bot))
      (initial : before.initialConfig = true) :
      Reloaded lib built answers before false after

theorem reload_reloaded (returned : loop.reload lib built answers = .ok (goesOn, after)) :
    Reloaded lib built answers loop goesOn after := by
  unfold reload at returned
  split at returned
  · next quiet =>
      cases returned
      exact .skipped (by simpa using quiet)
  · next asked =>
      have pending : loop.configReloadPending = true := by simpa using asked
      dsimp only at returned
      rw [requests_bot] at returned
      split at returned
      · cases returned
      · next loaded bot outcome =>
          split at returned
          · next leaves =>
              cases returned
              simp only [requests_initialConfig, Bool.and_eq_true, Bool.not_eq_true'] at leaves
              obtain ⟨rfl, initial⟩ := leaves
              exact .refused pending outcome initial
          · next stays =>
              cases returned
              refine .loaded pending outcome ?_
              simp only [requests_initialConfig, Bool.and_eq_true, Bool.not_eq_true', not_and]
                at stays
              cases loaded with
              | true => exact .inl rfl
              | false => exact .inr (Bool.eq_false_iff.mpr (stays rfl))

theorem supervise_stage (returned : loop.supervise answers = .ok after) :
    Stage lib built answers.hangUpsSupervising loop after := by
  unfold supervise at returned
  dsimp only at returned
  have before : (Bot.between lib built).Reaches loop.bot
      (loop.bot.happenAll answers.beforeRunOnce) := Bot.happenAll_reaches _ _
  split at returned
  · cases returned
  · next monitor constructed =>
      split at returned
      · cases returned
      · next result outcome =>
          cases returned
          refine ⟨⟨_, rfl⟩, ?_⟩
          rw [requests_bot]
          have step : (Bot.between lib built).step (loop.bot.happenAll answers.beforeRunOnce)
              (.runOnce answers.script) { loop.bot.happenAll answers.beforeRunOnce with
                pluginMonitor := some result } :=
            ⟨nofun, .runOnce constructed outcome⟩
          exact (before.snoc step).trans (Bot.happenAll_reaches _ _)

/-- The round of the plugin interface that a pass runs, and what is noted in it. -/
structure Round (lib : Libraries) (answers : PassAnswers) (before after : MainLoop)
    (pc finish : PluginComm) (noted : List TraceEvent) : Prop where
  begins : before.bot.plugins = some pc
  runs : pc.run lib (before.bot.view answers.memory answers.database) answers.round = .ok finish
  ends : after.bot.plugins = some finish
  trace : finish.trace = noted ++ pc.trace

theorem communicate_stage (built : Backend → Bool)
    (returned : loop.communicate lib answers = .ok after) :
    ∃ pc finish noted, Round lib answers loop after pc finish noted ∧
      Stage lib built (noted.countP (·.isReload) + answers.hangUpsWaiting) loop after := by
  unfold communicate at returned
  split at returned
  · cases returned
  · next pc constructed =>
      split at returned
      · cases returned
      · next result outcome =>
          cases returned
          have performed := PluginComm.run_performAll outcome
          obtain ⟨noted, trace⟩ := PluginComm.performAll_trace performed
          have asked : result.trace.countP (·.isReload) - pc.trace.countP (·.isReload) =
              noted.countP (·.isReload) := by
            rw [trace, List.countP_append, Nat.add_sub_cancel]
          refine ⟨pc, result, noted, ⟨constructed, outcome, ?_, trace⟩, ⟨_, by rw [asked]⟩, ?_⟩
          · rw [requests_bot]
            rfl
          · rw [requests_bot]
            exact (Bot.performAll_reaches constructed
              (loop.bot.roundActions_possible answers.memory answers.database answers.round pc)
              performed).trans (Bot.happenAll_reaches _ _)

/-! ## A pass -/

/-- The stages of a pass, and the states between them. -/
structure Passed (lib : Libraries) (built : Backend → Bool) (answers : PassAnswers)
    (before reloaded supervised after : MainLoop) : Prop where
  running : before.running = true
  loads : Reloaded lib built answers (before.requests answers.hangUpsBefore) true reloaded
  supervises : reloaded.supervise answers = .ok supervised
  communicates : supervised.communicate lib answers = .ok after

theorem pass_passed (returned : loop.pass lib built answers = .ok (true, after)) :
    ∃ reloaded supervised, Passed lib built answers loop reloaded supervised after := by
  unfold pass at returned
  split at returned
  · cases returned
  · next running =>
      cases first : (loop.requests answers.hangUpsBefore).reload lib built answers with
      | error stop =>
          rw [first] at returned
          cases returned
      | ok outcome =>
          obtain ⟨goesOn, reloaded⟩ := outcome
          simp only [first, bind, Except.bind] at returned
          split at returned
          · cases returned
          · next stays =>
              have goesOn : goesOn = true := by simpa using stays
              subst goesOn
              cases second : reloaded.supervise answers with
              | error stop =>
                  rw [second] at returned
                  cases returned
              | ok supervised =>
                  simp only [second] at returned
                  cases third : supervised.communicate lib answers with
                  | error stop =>
                      rw [third] at returned
                      cases returned
                  | ok finish =>
                      rw [third] at returned
                      cases returned
                      exact ⟨reloaded, supervised, by simpa using running, reload_reloaded first,
                        second, third⟩

/-- Before the first load nothing was constructed; after it the bot is in a state of its runs. -/
structure Refines (lib : Libraries) (built : Backend → Bool) (loop : MainLoop) : Prop where
  running : loop.running = true
  state : loop.initialConfig = true ∧ loop.bot = {} ∧ loop.configReloadPending = true ∨
    loop.initialConfig = false ∧ (Bot.system lib built).Reachable loop.bot

theorem Refines.requests (count : Nat) (refines : Refines lib built loop) :
    Refines lib built (loop.requests count) := by
  refine ⟨?_, ?_⟩
  · rw [requests_running]
    exact refines.running
  · rw [requests_initialConfig, requests_bot]
    exact refines.state.imp
      (fun fresh => ⟨fresh.1, fresh.2.1, requests_pending count fresh.2.2⟩) id

theorem Stage.refines {before : MainLoop} {count : Nat}
    (stage : Stage lib built count before after)
    (refines : before.running = true ∧ before.initialConfig = false ∧
      (Bot.system lib built).Reachable before.bot) :
    after.running = true ∧ after.initialConfig = false ∧
      (Bot.system lib built).Reachable after.bot := by
  obtain ⟨bot, same⟩ := stage.asked
  refine ⟨?_, ?_, refines.2.2.append (stage.reaches.mono And.right)⟩
  · rw [same, requests_running]
    exact refines.1
  · rw [same, requests_initialConfig]
    exact refines.2.1

theorem Reloaded.refines {before : MainLoop} (refines : Refines lib built before)
    (reloaded : Reloaded lib built answers before true after) :
    after.running = true ∧ after.initialConfig = false ∧
      (Bot.system lib built).Reachable after.bot := by
  cases reloaded with
  | skipped quiet =>
      rcases refines.state with ⟨-, -, pending⟩ | state
      · exact absurd (quiet.symm.trans pending) Bool.false_ne_true
      · exact ⟨refines.running, state⟩
  | loaded pending returned usable =>
      simp only [requests_running, requests_bot]
      refine ⟨refines.running, trivial, ?_⟩
      rcases refines.state with ⟨initial, fresh, -⟩ | ⟨-, reached⟩
      · rw [fresh] at returned
        rcases usable with rfl | later
        · exact .start ⟨_, returned⟩
        · exact absurd (later.symm.trans initial) Bool.false_ne_true
      · exact reached.snoc _ (.reload returned)

/-- The bot is in a state of its runs at every stage of a pass. -/
theorem Passed.refines {before reloaded supervised : MainLoop} (refines : Refines lib built before)
    (passed : Passed lib built answers before reloaded supervised after) :
    (Bot.system lib built).Reachable reloaded.bot ∧
      (Bot.system lib built).Reachable supervised.bot ∧ Refines lib built after ∧
        after.initialConfig = false := by
  have first := passed.loads.refines (refines.requests _)
  have second := (supervise_stage passed.supervises).refines first
  obtain ⟨-, -, noted, -, stage⟩ := communicate_stage built passed.communicates
  have third := stage.refines second
  exact ⟨first.2.2, second.2.2, ⟨third.1, .inr third.2⟩, third.2.1⟩

theorem refines_of_reachable (reached : (system lib built).Reachable loop) :
    Refines lib built loop ∧ (loop = start ∨ loop.initialConfig = false) := by
  apply reached.invariant
    (motive := fun loop => Refines lib built loop ∧ (loop = start ∨ loop.initialConfig = false))
  · rintro begun rfl
    exact ⟨⟨rfl, .inl ⟨rfl, rfl, rfl⟩⟩, .inl rfl⟩
  · rintro before answers next ⟨refines, -⟩ returned
    obtain ⟨reloaded, supervised, passed⟩ := pass_passed returned
    obtain ⟨-, -, later, initial⟩ := passed.refines refines
    exact ⟨later, .inr initial⟩

end MainLoop

end DaZeus
