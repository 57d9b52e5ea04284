import DaZeus.Bot.Loop
import DaZeus.Bot.Reload
import DaZeus.PluginMonitor.Progress

/-!
# What a pass can rely on

From the refinement of the main loop follow the properties of its passes: the
objects that it calls exist, a reload that is asked for happens, no plugin is
neglected, and `select` waits long only if none waits to be started.
-/

namespace DaZeus

open Library
open Std (TreeMap)

namespace Bot

variable {lib : Libraries} {built : Backend → Bool}

/-- The plugin interface and the plugin monitor exist. -/
def Constructed (bot : Bot) : Prop :=
  bot.plugins.isSome = true ∧ bot.pluginMonitor.isSome = true

theorem prepare_constructed {answers : LoadAnswers} {before after : Bot} {result : Bool}
    (returned : before.prepare built answers = (.ok result, after)) :
    (before.Constructed → after.Constructed) ∧ (result = true → after.Constructed) := by
  have kept {connected : Bool} {middle : Bot}
      (outcome : before.connectDatabase built answers = (.ok connected, middle)) :
      middle.plugins = before.plugins ∧ middle.pluginMonitor = before.pluginMonitor := by
    cases connectDatabase_connected outcome with
    | unsupported missing deleted => exact ⟨rfl, rfl⟩
    | created supported opens opened => exact ⟨rfl, rfl⟩
  unfold prepare at returned
  split at returned
  · cases returned
  · next outcome =>
      cases returned
      obtain ⟨plugins, monitor⟩ := kept outcome
      refine ⟨fun constructed => ?_, nofun⟩
      rwa [Constructed, plugins, monitor]
  · next outcome =>
      split at returned
      · cases returned
      · next attached attachment =>
          obtain ⟨pc, sockets, rfl, -, -⟩ := attachPlugins_attached attachment
          obtain ⟨monitor, rfl, -⟩ := reloadMonitor_reloaded returned
          exact ⟨fun _ => ⟨rfl, rfl⟩, fun _ => ⟨rfl, rfl⟩⟩

theorem loadConfig_constructed {answers : LoadAnswers} {before after : Bot} {result : Bool}
    (returned : before.loadConfig lib built answers = (.ok result, after)) :
    (before.Constructed → after.Constructed) ∧ (result = true → after.Constructed) := by
  unfold loadConfig at returned
  split at returned
  · cases returned
    exact ⟨id, nofun⟩
  · cases returned
  · next config read =>
      generalize outcome : (before.configured config).prepare built answers = prepared at returned
      rcases prepared with ⟨stop | goesOn, middle⟩
      · cases returned
      · have prepared := prepare_constructed outcome
        cases goesOn with
        | false =>
            cases returned
            exact prepared
        | true =>
            have loaded : (middle.loadNetworks lib answers).Constructed := by
              refine loadNetworks_invariant ?_ (fun _ _ constructed => constructed)
                (prepared.2 rfl)
              intro bot network call constructed
              exact ⟨Option.isSome_map.trans constructed.1, constructed.2⟩
            cases counted : answers.counts <;> simp only [counted] at returned <;> cases returned
            exact ⟨fun _ => loaded, fun _ => loaded⟩

theorem constructed_of_reachable {bot : Bot} (reached : (system lib built).Reachable bot) :
    bot.Constructed := by
  apply reached.invariant (motive := Constructed)
  · rintro start ⟨answers, returned⟩
    exact (loadConfig_constructed returned).2 rfl
  · intro before event after constructed step
    cases step with
    | reload returned => exact (loadConfig_constructed returned).1 constructed
    | plugins _ _ _ => exact ⟨rfl, constructed.2⟩
    | runOnce _ _ => exact ⟨constructed.1, rfl⟩
    | process _ => exact ⟨constructed.1, rfl⟩

end Bot

namespace MainLoop

variable {lib : Libraries} {built : Backend → Bool} {answers : PassAnswers}
  {loop after : MainLoop}

/-! ## How a pass ends -/

/-- The first pass of a bot that was built with SQLite and configured with one plugin. -/
def firstPass : PassAnswers where
  load := { read := .ok Bot.sqliteConfig }
  memory := View.bare.memory
  database := View.bare.database
  round := { select := .timeout }

theorem firstPass_returns :
    ∃ after, start.pass (.knowing []) Bot.sqliteOnly firstPass = .ok (true, after) := by
  have goesOn : (start.pass (.knowing []) Bot.sqliteOnly firstPass).map Prod.fst = .ok true := by
    decide +kernel
  cases returned : start.pass (.knowing []) Bot.sqliteOnly firstPass with
  | error stop =>
      rw [returned] at goesOn
      cases goesOn
  | ok outcome =>
      obtain ⟨goes, after⟩ := outcome
      rw [returned] at goesOn
      cases goesOn
      exact ⟨after, rfl⟩

/-- Every pass is a run of the bot: a load if one is asked for, and stages between which no
configuration is loaded. -/
theorem passes_refine (reached : (system lib built).Reachable loop)
    (returned : loop.pass lib built answers = .ok (true, after)) :
    ∃ reloaded supervised, Passed lib built answers loop reloaded supervised after ∧
      (Bot.system lib built).Reachable reloaded.bot ∧
      (Bot.between lib built).Reaches reloaded.bot supervised.bot ∧
      (Bot.between lib built).Reaches supervised.bot after.bot := by
  obtain ⟨reloaded, supervised, passed⟩ := pass_passed returned
  have second : Stage lib built _ reloaded supervised := supervise_stage passed.supervises
  obtain ⟨-, -, noted, -, third⟩ := communicate_stage built passed.communicates
  exact ⟨reloaded, supervised, passed, (passed.refines (refines_of_reachable reached).1).1,
    second.reaches, third.reaches⟩

theorem passes_refine_first :
    ∃ after reloaded supervised,
      start.pass (.knowing []) Bot.sqliteOnly firstPass = .ok (true, after) ∧
      Passed (.knowing []) Bot.sqliteOnly firstPass start reloaded supervised after ∧
      (Bot.system (.knowing []) Bot.sqliteOnly).Reachable reloaded.bot := by
  obtain ⟨after, returned⟩ := firstPass_returns
  obtain ⟨reloaded, supervised, passed, state, -, -⟩ := passes_refine (.start rfl) returned
  exact ⟨after, reloaded, supervised, returned, passed, state⟩

/-- A pass with a file that can be read gets its database. -/
def GetsDatabase (built : Backend → Bool) (_ : MainLoop) (answers : PassAnswers) : Prop :=
  ∀ config, answers.load.read = .ok config → Bot.Available built config answers.load.opens

theorem healthy_between {before later : Bot} (run : (Bot.between lib built).Reaches before later)
    (healthy : before.Healthy) : later.Healthy := by
  apply run.invariant (motive := Bot.Healthy) ?_ healthy
  rintro middle event next healthy ⟨unloaded, step⟩
  apply step.healthy ?_ healthy
  cases event with
  | reload answers => exact absurd rfl (unloaded answers)
  | _ => exact trivial

theorem Reloaded.healthy {before reloaded : MainLoop}
    (gets : ∀ config, answers.load.read = .ok config →
      Bot.Available built config answers.load.opens)
    (healthy : before.initialConfig = false → before.bot.Healthy)
    (refines : Refines lib built before)
    (loads : Reloaded lib built answers before true reloaded) : reloaded.bot.Healthy := by
  cases loads with
  | skipped quiet =>
      rcases refines.state with ⟨-, -, pending⟩ | ⟨later, -⟩
      · exact absurd (quiet.symm.trans pending) Bool.false_ne_true
      · exact healthy later
  | @loaded loaded bot pending returned usable =>
      simp only [requests_bot]
      rcases usable with rfl | later
      · exact Bot.healthy_of_loaded returned
      · have step : Bot.Step lib built before.bot (.reload answers.load) bot := .reload returned
        exact step.healthy gets (healthy later)

/-- As long as every file that can be read gets its database, all that plugins ask for in a pass
is answered by the database of the bot, alive and open. -/
theorem database_alive
    (reached : ((system lib built).guard (GetsDatabase built)).Reachable loop)
    (gets : GetsDatabase built loop answers)
    (returned : loop.pass lib built answers = .ok (true, after)) :
    ∃ reloaded supervised, Passed lib built answers loop reloaded supervised after ∧
      supervised.bot.Healthy ∧ after.bot.Healthy := by
  have stages {loop after : MainLoop} {answers : PassAnswers} (refines : Refines lib built loop)
      (healthy : loop.initialConfig = false → loop.bot.Healthy)
      (gets : GetsDatabase built loop answers)
      (returned : loop.pass lib built answers = .ok (true, after)) :
      ∃ reloaded supervised, Passed lib built answers loop reloaded supervised after ∧
        supervised.bot.Healthy ∧ after.bot.Healthy := by
    obtain ⟨reloaded, supervised, passed⟩ := pass_passed returned
    have second : Stage lib built _ reloaded supervised := supervise_stage passed.supervises
    obtain ⟨-, -, noted, -, third⟩ := communicate_stage built passed.communicates
    have first : reloaded.bot.Healthy := by
      refine passed.loads.healthy gets ?_ (refines.requests _)
      simpa using healthy
    have supervises := healthy_between second.reaches first
    exact ⟨reloaded, supervised, passed, supervises, healthy_between third.reaches supervises⟩
  have healthy : loop.initialConfig = false → loop.bot.Healthy := by
    have holds : Refines lib built loop ∧ (loop.initialConfig = false → loop.bot.Healthy) := by
      apply reached.invariant (motive := fun loop => Refines lib built loop ∧
        (loop.initialConfig = false → loop.bot.Healthy))
      · rintro begun rfl
        exact ⟨⟨rfl, .inl ⟨rfl, rfl, rfl⟩⟩, nofun⟩
      · rintro before answers next ⟨refines, healthy⟩ ⟨gets, returned⟩
        obtain ⟨reloaded, supervised, passed, -, last⟩ := stages refines healthy gets returned
        exact ⟨(passed.refines refines).2.2.1, fun _ => last⟩
    exact holds.2
  exact stages (refines_of_reachable reached.of_guard).1 healthy gets returned

theorem database_alive_first :
    ∃ after, start.pass (.knowing []) Bot.sqliteOnly firstPass = .ok (true, after) ∧
      after.bot.Healthy := by
  obtain ⟨after, returned⟩ := firstPass_returns
  have gets : GetsDatabase Bot.sqliteOnly start firstPass := by
    intro config read
    cases read
    exact ⟨by decide, rfl⟩
  obtain ⟨reloaded, supervised, -, -, healthy⟩ := database_alive (.start rfl) gets returned
  exact ⟨after, returned, healthy⟩

/-! ## Requests and loads -/

/-- No load has begun since the last request, or at all. -/
def unserved : List LoopEvent → Bool
  | [] => true
  | .requested :: _ => true
  | .loading :: _ => false

theorem requests_history (count : Nat) (loop : MainLoop) :
    (loop.requests count).history = List.replicate count .requested ++ loop.history := by
  induction count generalizing loop with
  | zero => rfl
  | succ count inductionHypothesis =>
      apply (inductionHypothesis loop.reloadConfig).trans
      rw [List.replicate_succ', List.append_assoc]
      rfl

/-- The flag says whether a request waits for a load, and no load was without a request. -/
structure Asked (loop : MainLoop) : Prop where
  pending : loop.configReloadPending = unserved loop.history
  loads : loop.history.count .loading + loop.configReloadPending.toNat ≤
    loop.history.count .requested + 1

theorem Asked.requests (count : Nat) (asked : Asked loop) : Asked (loop.requests count) := by
  induction count generalizing loop with
  | zero => exact asked
  | succ count inductionHypothesis =>
      apply inductionHypothesis
      refine ⟨rfl, ?_⟩
      have loads := asked.loads
      simp only [reloadConfig, List.count_cons, Bool.toNat_true]
      simp only [reduceCtorEq, beq_iff_eq, if_false, if_true]
      omega

theorem Stage.asked_after {before : MainLoop} {count : Nat}
    (stage : Stage lib built count before after) (asked : Asked before) : Asked after := by
  obtain ⟨bot, rfl⟩ := stage.asked
  have unchanged : Asked { before with bot } := ⟨asked.pending, asked.loads⟩
  exact unchanged.requests count

/-- Stages after the load note nothing but requests. -/
theorem Stage.history {before : MainLoop} {count : Nat}
    (stage : Stage lib built count before after) :
    after.history = List.replicate count .requested ++ before.history := by
  obtain ⟨bot, rfl⟩ := stage.asked
  exact requests_history count _

theorem Reloaded.asked {before : MainLoop} (asked : Asked before)
    (reloaded : Reloaded lib built answers before true after) :
    Asked after ∧ after.history = (if unserved before.history then
      List.replicate answers.hangUpsLoading .requested ++
        .loading :: List.replicate answers.hangUpsTested .requested else []) ++
      before.history := by
  rw [← asked.pending]
  cases reloaded with
  | skipped quiet =>
      rw [quiet]
      exact ⟨asked, rfl⟩
  | @loaded loaded bot pending returned usable =>
      rw [pending, if_pos rfl]
      let tested := before.requests answers.hangUpsTested
      have waiting : tested.configReloadPending = true := requests_pending _ pending
      have begun : Asked { tested with
          configReloadPending := false, history := .loading :: tested.history, bot } := by
        have loads := (asked.requests answers.hangUpsTested).loads
        rw [waiting, Bool.toNat_true] at loads
        refine ⟨rfl, ?_⟩
        simp only [List.count_cons, Bool.toNat_false, reduceCtorEq, beq_iff_eq, if_false, if_true]
        exact loads
      have finished := begun.requests answers.hangUpsLoading
      refine ⟨⟨finished.pending, finished.loads⟩, ?_⟩
      apply (requests_history answers.hangUpsLoading _).trans
      rw [requests_history, List.append_assoc, List.cons_append]

/-- What a pass notes, the newest first: the requests of its last two stages, and before them the
load, if a request waits by then, with the signals around it. -/
def passHistory (answers : PassAnswers) (noted : List TraceEvent) (history : List LoopEvent) :
    List LoopEvent :=
  let asked := List.replicate answers.hangUpsBefore .requested ++ history
  List.replicate (noted.countP (·.isReload) + answers.hangUpsWaiting) .requested ++
    List.replicate answers.hangUpsSupervising .requested ++
    (if unserved asked then
      List.replicate answers.hangUpsLoading .requested ++
        .loading :: List.replicate answers.hangUpsTested .requested else []) ++
    asked

theorem asked_of_passed {before reloaded supervised : MainLoop} (asked : Asked before)
    (passed : Passed lib built answers before reloaded supervised after) :
    Asked after ∧ ∃ pc finish noted, Round lib answers supervised after pc finish noted ∧
      after.history = passHistory answers noted before.history := by
  obtain ⟨first, loaded⟩ := passed.loads.asked (asked.requests answers.hangUpsBefore)
  have second : Stage lib built _ reloaded supervised := supervise_stage passed.supervises
  obtain ⟨pc, finish, noted, round, third⟩ := communicate_stage built passed.communicates
  refine ⟨third.asked_after (second.asked_after first), pc, finish, noted, round, ?_⟩
  rw [third.history, second.history, loaded, requests_history, passHistory]
  simp only [List.append_assoc]

/-- A reload that is asked for, whenever that is, happens: the flag is up exactly while a request
waits, each pass loads before it does anything else if there is a request by then, and only then.
What is asked for later in a pass are the signals and the reloads that plugins ask for in its
round. -/
theorem requests_served (reached : (system lib built).Reachable loop) :
    (loop.configReloadPending = true ↔ unserved loop.history = true) ∧
      loop.history.count .loading ≤ loop.history.count .requested + 1 ∧
      ∀ answers after, loop.pass lib built answers = .ok (true, after) →
        ∃ reloaded supervised pc finish noted,
          Passed lib built answers loop reloaded supervised after ∧
          Round lib answers supervised after pc finish noted ∧
          after.history = passHistory answers noted loop.history := by
  have asked : Asked loop := by
    apply reached.invariant (motive := Asked)
    · rintro begun rfl
      exact ⟨rfl, Nat.le_refl 1⟩
    · intro before answers next asked returned
      obtain ⟨reloaded, supervised, passed⟩ := pass_passed returned
      exact (asked_of_passed asked passed).1
  refine ⟨by rw [asked.pending], ?_, fun answers after returned => ?_⟩
  · exact (Nat.le_add_right _ _).trans asked.loads
  · obtain ⟨reloaded, supervised, passed⟩ := pass_passed returned
    obtain ⟨-, pc, finish, noted, round, history⟩ := asked_of_passed asked passed
    exact ⟨reloaded, supervised, pc, finish, noted, passed, round, history⟩

/-- After the first pass, for which there was no request, none waits. -/
theorem requests_served_first :
    ∃ loop, start.pass (.knowing []) Bot.sqliteOnly firstPass = .ok (true, loop) ∧
      (loop.configReloadPending = true ↔ unserved loop.history = true) := by
  obtain ⟨loop, returned⟩ := firstPass_returns
  have reached : (system (.knowing []) Bot.sqliteOnly).Reachable loop :=
    (TransitionSystem.Reachable.start rfl).snoc firstPass returned
  exact ⟨loop, returned, (requests_served reached).1⟩

/-! ## How long a pass waits -/

/-- The plugin monitor, if there is one, was left by calls that returned. -/
def Attends (bot : Bot) : Prop :=
  ∀ monitor, bot.pluginMonitor = some monitor → monitor.Attended ∧ monitor.Settled

/-- A load that fails does so before the plugin monitor hears of it. -/
def Accepts (lib : Libraries) (built : Backend → Bool) (loop : MainLoop) (answers : PassAnswers) :
    Prop :=
  ∀ bot, loop.bot.loadConfig lib built answers.load = (.ok false, bot) →
    bot.pluginMonitor = loop.bot.pluginMonitor

theorem happened_passed (events : List ProcessEvent) (monitor : PluginMonitor) :
    PluginMonitor.Passed monitor (events.foldl PluginMonitor.happen monitor) :=
  List.foldlRecOn (motive := PluginMonitor.Passed monitor) _ _ (.refl monitor)
    fun after passed event _ => passed.trans (PluginMonitor.happen_passed after event)

theorem Attends.happenAll {bot : Bot} (attends : Attends bot) (events : List ProcessEvent) :
    Attends (bot.happenAll events) := by
  intro monitor found
  obtain ⟨old, oldFound, rfl⟩ := Option.map_eq_some_iff.mp found
  obtain ⟨attended, settled⟩ := attends old oldFound
  have passed := happened_passed events old
  exact ⟨attended.passed passed, settled.idle passed.toIdle⟩

/-- The monitor when its `runOnce` is called. -/
def Supervised (loop : MainLoop) (answers : PassAnswers) (monitor : PluginMonitor) : Prop :=
  ∃ old, (loop.bot.happenAll answers.beforeRunOnce).pluginMonitor = some old ∧
    monitor = { old with script := answers.script }

theorem supervise_runs (returned : loop.supervise answers = .ok after) :
    ∃ monitor ran attended, Supervised loop answers monitor ∧
      monitor.runOnce (loop.bot.happenAll answers.beforeRunOnce).config = (.ok (), ran) ∧
      PluginMonitor.Passed ran attended ∧ after.bot.pluginMonitor = some attended := by
  unfold MainLoop.supervise at returned
  dsimp only at returned
  split at returned
  · cases returned
  · next monitor constructed =>
      split at returned
      · cases returned
      · next ran outcome =>
          cases returned
          refine ⟨_, ran, _, ⟨monitor, constructed, rfl⟩, outcome,
            happened_passed answers.afterRunOnce ran, ?_⟩
          rw [requests_bot]
          rfl

theorem Attends.supervised {monitor : PluginMonitor} (attends : Attends loop.bot)
    (supervised : Supervised loop answers monitor) : monitor.Attended ∧ monitor.Settled := by
  obtain ⟨old, constructed, rfl⟩ := supervised
  obtain ⟨attended, settled⟩ := attends.happenAll answers.beforeRunOnce old constructed
  have scripted : PluginMonitor.Passed old { old with script := answers.script } :=
    .environment old old.clock answers.script
  exact ⟨attended.passed scripted, settled.idle scripted.toIdle⟩

theorem Attends.monitor {bot : Bot} (attends : Attends bot) (answers : LoadAnswers) :
    (bot.monitor answers).Settled := by
  unfold Bot.monitor
  split
  · next monitor found =>
      exact (attends monitor found).2.idle
        (.environment monitor monitor.clock answers.script monitor.log)
  · exact PluginMonitor.system_settled (.start ⟨rfl, rfl, rfl, rfl, rfl⟩)

theorem Attends.reloadMonitor {before after : Bot} {answers : LoadAnswers}
    (attends : Attends before) (returned : before.reloadMonitor answers = (.ok true, after)) :
    Attends after := by
  unfold Bot.reloadMonitor at returned
  split at returned
  · next monitor outcome =>
      cases returned
      intro result found
      cases found
      have settled := (attends.monitor answers).configReloaded before.config
      rw [outcome] at settled
      exact ⟨PluginMonitor.configReloaded_attended outcome, settled⟩
  · cases returned
  · cases returned

theorem Attends.prepare {before after : Bot} {answers : LoadAnswers} (attends : Attends before)
    (returned : before.prepare built answers = (.ok true, after)) : Attends after := by
  unfold Bot.prepare at returned
  split at returned
  · cases returned
  · cases returned
  · next connected outcome =>
      have connects : Attends connected := by
        cases Bot.connectDatabase_connected outcome with
        | created supported opens opened => exact attends
      split at returned
      · cases returned
      · next attached attachment =>
          obtain ⟨pc, sockets, rfl, -, -⟩ := Bot.attachPlugins_attached attachment
          have attaches : Attends { connected with
              plugins := some pc, config := { connected.config with sockets } } := connects
          exact attaches.reloadMonitor returned

theorem Attends.loadConfig {before after : Bot} {answers : LoadAnswers} {loaded : Bool}
    (attends : Attends before)
    (accepts : ∀ bot, before.loadConfig lib built answers = (.ok false, bot) →
      bot.pluginMonitor = before.pluginMonitor)
    (returned : before.loadConfig lib built answers = (.ok loaded, after)) : Attends after := by
  cases loaded with
  | false =>
      have same := accepts after returned
      intro monitor found
      exact attends monitor (same.symm.trans found)
  | true =>
      cases Bot.loadConfig_loaded returned with
      | @accepted config middle read reached prepared =>
          have configured : Attends (before.configured config) := attends
          exact Bot.loadNetworks_invariant (motive := Attends) (fun _ _ holds => holds)
            (fun _ _ holds => holds) (configured.prepare reached)

theorem Attends.supervise (attends : Attends loop.bot)
    (returned : loop.supervise answers = .ok after) : Attends after.bot := by
  obtain ⟨monitor, ran, last, begun, outcome, passed, found⟩ := supervise_runs returned
  obtain ⟨attended, settled⟩ := attends.supervised begun
  have run := settled.runOnce (loop.bot.happenAll answers.beforeRunOnce).config
  rw [outcome] at run
  intro other same
  cases found.symm.trans same
  exact ⟨(attended.runOnce outcome).passed passed, run.idle passed.toIdle⟩

theorem Attends.communicate (attends : Attends loop.bot)
    (returned : loop.communicate lib answers = .ok after) : Attends after.bot := by
  unfold MainLoop.communicate at returned
  split at returned
  · cases returned
  · split at returned
    · cases returned
    · next result outcome =>
        cases returned
        rw [requests_bot]
        apply Attends.happenAll
        exact attends

theorem Attends.reloaded {reloaded : MainLoop} (attends : Attends loop.bot)
    (accepts : Accepts lib built loop answers)
    (loads : Reloaded lib built answers (loop.requests answers.hangUpsBefore) true reloaded) :
    Attends reloaded.bot := by
  cases loads with
  | skipped quiet =>
      rw [requests_bot]
      exact attends
  | loaded pending returned usable =>
      simp only [requests_bot] at returned ⊢
      exact attends.loadConfig accepts returned

theorem attends_of_reachable
    (reached : ((system lib built).guard (Accepts lib built)).Reachable loop) :
    Attends loop.bot := by
  apply reached.invariant (motive := fun loop => Attends loop.bot)
  · rintro begun rfl
    exact nofun
  · rintro before answers after attends ⟨accepts, returned⟩
    obtain ⟨reloaded, supervised, passed⟩ := pass_passed returned
    exact ((attends.reloaded accepts passed.loads).supervise passed.supervises).communicate
      passed.communicates

/-- As long as no failed load reaches the plugin monitor, a pass that lets `select` wait for more
than a second leaves nothing undone: every plugin that is supervised has a process, and none of
the processes has exited. -/
theorem long_wait_staffed
    (reached : ((system lib built).guard (Accepts lib built)).Reachable loop)
    (accepts : Accepts lib built loop answers) {reloaded supervised : MainLoop}
    (loads : (loop.requests answers.hangUpsBefore).reload lib built answers = .ok (true, reloaded))
    (supervises : reloaded.supervise answers = .ok supervised) (long : supervised.timeout ≠ 1) :
    ∃ monitor, supervised.bot.pluginMonitor = some monitor ∧ monitor.Staffed ∧
      ∀ child ∈ monitor.children, child.exited = false := by
  have loaded := reload_reloaded loads
  have attends := ((attends_of_reachable reached).reloaded accepts loaded).supervise supervises
  have usable := loaded.refines ((refines_of_reachable reached.of_guard).1.requests _)
  have later : Stage lib built _ reloaded supervised := supervise_stage supervises
  obtain ⟨monitor, constructed⟩ := Option.isSome_iff_exists.mp
    (Bot.constructed_of_reachable (later.refines usable).2.2).2
  obtain ⟨attended, settled⟩ := attends monitor constructed
  have asleep : monitor.shouldRun = false := by
    apply Bool.eq_false_iff.mpr
    intro running
    apply long
    rw [timeout, constructed, Option.any_some, running, if_pos rfl]
  refine ⟨monitor, constructed, attended.staffed asleep, fun child inside => ?_⟩
  apply Bool.eq_false_iff.mpr
  intro exited
  exact Bool.noConfusion (asleep.symm.trans (settled.signalled child inside exited))

/-- A bot that is configured without plugins has none to wait for. -/
def quietPass : PassAnswers where
  load := { read := .ok { Bot.sqliteConfig with plugins := [] } }
  memory := View.bare.memory
  database := View.bare.database
  round := { select := .timeout }

theorem long_wait_staffed_quiet :
    ∃ reloaded supervised,
      (start.requests 0).reload (.knowing []) Bot.sqliteOnly quietPass = .ok (true, reloaded) ∧
      reloaded.supervise quietPass = .ok supervised ∧ supervised.timeout = 30 ∧
      ∃ monitor, supervised.bot.pluginMonitor = some monitor ∧ monitor.Staffed := by
  have waits : (((start.requests 0).reload (.knowing []) Bot.sqliteOnly quietPass).bind
      fun outcome => (outcome.2.supervise quietPass).map fun supervised =>
        (outcome.1, supervised.timeout)) = .ok (true, 30) := by
    decide +kernel
  have accepts : Accepts (.knowing []) Bot.sqliteOnly start quietPass := by
    intro bot failed
    have loaded : (({} : Bot).loadConfig (.knowing []) Bot.sqliteOnly quietPass.load).1 =
        .ok true := by decide +kernel
    cases (congrArg Prod.fst failed).symm.trans loaded
  cases first : (start.requests 0).reload (.knowing []) Bot.sqliteOnly quietPass with
  | error stop =>
      rw [first] at waits
      cases waits
  | ok outcome =>
      obtain ⟨goesOn, reloaded⟩ := outcome
      rw [first] at waits
      cases second : reloaded.supervise quietPass with
      | error stop =>
          rw [Except.bind, second] at waits
          cases waits
      | ok supervised =>
          rw [Except.bind, second] at waits
          simp only [Except.map, Except.ok.injEq, Prod.mk.injEq] at waits
          obtain ⟨rfl, long⟩ := waits
          obtain ⟨monitor, constructed, staffed, -⟩ := long_wait_staffed (.start rfl) accepts first
            second (by rw [long]; decide)
          exact ⟨reloaded, supervised, rfl, second, long, monitor, constructed, staffed⟩

/-- As long as no failed load reaches the plugin monitor, and while the clock does not go back, a
pass neglects no plugin: each one that is supervised has a process, or `select` waits for a second
only and the plugin was tried in this pass or waits since less than five minutes. -/
theorem plugins_attended
    (reached : ((system lib built).guard (Accepts lib built)).Reachable loop)
    (accepts : Accepts lib built loop answers) {reloaded supervised : MainLoop}
    (loads : (loop.requests answers.hangUpsBefore).reload lib built answers = .ok (true, reloaded))
    (supervises : reloaded.supervise answers = .ok supervised)
    (steady : ∀ monitor, Supervised reloaded answers monitor → monitor.Steady) :
    ∃ before after, Supervised reloaded answers before ∧
      supervised.bot.pluginMonitor = some after ∧
      ∀ name state, after.state[name]? = some state → state.willAutostart = true →
        state.pid ≠ 0 ∨ supervised.timeout = 1 ∧
          (after.starts.count name = before.starts.count name + 1 ∨
            before.clock < state.lastStart + 300) := by
  have attends := (attends_of_reachable reached).reloaded accepts (reload_reloaded loads)
  obtain ⟨before, ran, after, begun, outcome, passed, constructed⟩ := supervise_runs supervises
  obtain ⟨attended, -⟩ := attends.supervised begun
  refine ⟨before, after, begun, constructed, fun name state found wanted => ?_⟩
  have found : ran.state[name]? = some state := by rwa [← passed.state]
  apply (attended.attends (steady before begun) outcome found wanted).imp_right
  rintro ⟨awake, tried⟩
  refine ⟨?_, by rwa [passed.starts]⟩
  rw [timeout, constructed, Option.any_some, passed.shouldRun awake, if_pos rfl]

/-- The plugin of the first configuration has no directory: the load tried it, and now it
waits. -/
theorem plugins_attended_first :
    ∃ (supervised : MainLoop) (monitor : PluginMonitor) (state : PluginState),
      supervised.bot.pluginMonitor = some monitor ∧ monitor.state[ascii "p"]? = some state ∧
      state.pid = 0 ∧ supervised.timeout = 1 := by
  let waiting : PluginState :=
    { config := { name := ascii "p" }, network := [], numFailures := 1 }
  have waits : (((start.requests 0).reload (.knowing []) Bot.sqliteOnly firstPass).bind
      fun outcome => (outcome.2.supervise firstPass).map fun supervised =>
        (outcome.1, supervised.bot.pluginMonitor.bind (·.state[ascii "p"]?))) =
      .ok (true, some waiting) := by
    decide +kernel
  have accepts : Accepts (.knowing []) Bot.sqliteOnly start firstPass := by
    intro bot failed
    have loaded : (({} : Bot).loadConfig (.knowing []) Bot.sqliteOnly firstPass.load).1 =
        .ok true := by decide +kernel
    cases (congrArg Prod.fst failed).symm.trans loaded
  cases first : (start.requests 0).reload (.knowing []) Bot.sqliteOnly firstPass with
  | error stop =>
      rw [first] at waits
      cases waits
  | ok outcome =>
      obtain ⟨goesOn, reloaded⟩ := outcome
      rw [first, Except.bind] at waits
      cases second : reloaded.supervise firstPass with
      | error stop =>
          rw [second] at waits
          cases waits
      | ok supervised =>
          rw [second] at waits
          obtain ⟨rfl, entry⟩ := Prod.mk.inj (Except.ok.inj waits)
          have steady : ∀ monitor, Supervised reloaded firstPass monitor → monitor.Steady := by
            rintro monitor ⟨old, -, rfl⟩
            exact List.pairwise_singleton _ _
          obtain ⟨before, after, -, constructed, attends⟩ :=
            plugins_attended (.start rfl) accepts first second steady
          rw [constructed, Option.bind_some] at entry
          refine ⟨supervised, after, waiting, constructed, entry, rfl, ?_⟩
          exact ((attends _ waiting entry rfl).resolve_left fun running => running rfl).1

end MainLoop

end DaZeus
