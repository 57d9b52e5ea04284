import DaZeus.PluginMonitor.Children
import DaZeus.PluginMonitor.Entries

/-!
# How a call stops

`start_plugin` fails for one reason only: the parameters ask for the plugin
socket, and the configuration has none that can be printed.
-/

namespace DaZeus

open Library
open Std (TreeMap)

namespace ArgumentParser

/-- The parser is in at most one kind of quotes. -/
def Proper (parser : ArgumentParser) : Prop :=
  parser.inQuotes = false ∨ parser.inDoublequotes = false

theorem Proper.not_both {parser : ArgumentParser} (proper : parser.Proper) :
    (parser.inQuotes && parser.inDoublequotes) = false := by
  rcases proper with single | double
  · rw [single, Bool.false_and]
  · rw [double, Bool.and_false]

/-- The parser can only stop at a `%s`, and does so there with any configuration that has no
socket that can be printed. -/
theorem parse_stop {config other : ConfigReader} {network text : ByteString}
    {parser : ArgumentParser} {stop otherStop : Stop} (proper : parser.Proper)
    (unprintable : other.pluginSocketText = .error otherStop)
    (failed : parse config network text parser = .error stop) :
    config.pluginSocketText = .error stop ∧
      ∃ stop, parse other network text parser = .error stop := by
  fun_induction parse config network text parser with
  | case1 => cases failed
  | case2 _ _ _ escaped inductionHypothesis =>
      rw [parse.eq_def]
      simp only [escaped, if_true]
      exact inductionHypothesis proper failed
  | case3 _ _ _ _ _ both =>
      rw [proper.not_both] at both
      cases both
  | case4 _ _ _ unescaped quoted one closes inductionHypothesis =>
      rw [parse.eq_def]
      simp only [unescaped, quoted, one, closes, if_true]
      exact inductionHypothesis (.inl rfl) failed
  | case5 _ _ _ unescaped quoted one closes inductionHypothesis =>
      rw [parse.eq_def]
      simp only [unescaped, quoted, one, closes, if_true]
      exact inductionHypothesis proper failed
  | case6 _ _ unescaped unquoted inductionHypothesis =>
      rw [parse.eq_def]
      simp only [if_neg unescaped, if_neg unquoted, if_true]
      simp only [Bool.or_eq_true, not_or, Bool.not_eq_true] at unquoted
      exact inductionHypothesis (.inr unquoted.2) failed
  | case7 _ _ unescaped unquoted other inductionHypothesis =>
      rw [parse.eq_def]
      simp only [if_neg unescaped, if_neg unquoted, if_neg other, if_true]
      simp only [Bool.or_eq_true, not_or, Bool.not_eq_true] at unquoted
      exact inductionHypothesis (.inl unquoted.1) failed
  | case8 _ _ _ _ _ _ _ _ inductionHypothesis =>
      rw [parse.eq_def]
      simp only [*, if_false, if_true, Bool.false_eq_true]
      apply inductionHypothesis ?_ failed
      split <;> exact proper
  | case9 => cases failed
  | case10 =>
      cases failed
      refine ⟨by assumption, ?_⟩
      rw [parse.eq_def]
      simp only [*, if_false, if_true, Bool.false_eq_true]
      exact ⟨_, rfl⟩
  | case11 =>
      rename_i inductionHypothesis
      refine ⟨(inductionHypothesis proper failed).1, ?_⟩
      rw [parse.eq_def]
      simp only [*, if_false, if_true, Bool.false_eq_true]
      exact ⟨_, rfl⟩
  | case12 | case13 | case14 =>
      rename_i inductionHypothesis
      rw [parse.eq_def]
      simp only [*, if_true, if_false, Bool.false_eq_true]
      exact inductionHypothesis proper failed

end ArgumentParser

/-- The parser comes to a `%s`: without any socket it does not get past it. -/
def Plan.Asks (plan : Plan) : Prop :=
  ∃ stop, ArgumentParser.parse {} plan.network plan.config.parameters {} = .error stop

namespace PluginMonitor

variable {config : ConfigReader} {stop : Stop} {before after : PluginMonitor}

theorem arguments_stop {state : PluginState} (failed : state.arguments config = .error stop) :
    config.pluginSocketText = .error stop ∧ state.plan.Asks := by
  unfold PluginState.arguments at failed
  cases parsed : ArgumentParser.parse config state.network state.config.parameters {} with
  | ok parser =>
      rw [parsed] at failed
      cases failed
  | error other =>
      rw [parsed] at failed
      cases failed
      exact ArgumentParser.parse_stop (.inl rfl) rfl parsed

/-- Some plugin that may be started asks for the socket that cannot be had. -/
def Unstartable (config : ConfigReader) (stop : Stop) (monitor : PluginMonitor) : Prop :=
  config.pluginSocketText = .error stop ∧
    ∃ name plan, monitor.planAt name = some plan ∧ plan.willAutostart = true ∧ plan.Asks

theorem SamePlans.unstartable (same : SamePlans before after)
    (unstartable : Unstartable config stop after) : Unstartable config stop before := by
  obtain ⟨socket, name, plan, found, wanted, asks⟩ := unstartable
  exact ⟨socket, name, plan, (same name).symm.trans found, wanted, asks⟩

theorem startPlugin_stop {name : ByteString} {state : PluginState} (free : state.pid = 0)
    (failed : (before.startPlugin config name state).1 = .error stop) :
    state.arguments config = .error stop := by
  unfold startPlugin at failed
  dsimp only [time] at failed
  rw [if_neg (by simp [free])] at failed
  split at failed
  · next other outcome =>
      cases failed
      exact outcome
  · split at failed
    · cases failed
    · split at failed <;> cases failed

theorem startPlugins_stop {names : List ByteString} {waiting : Bool}
    (failed : (before.startPlugins config names waiting).1 = .error stop) :
    Unstartable config stop before := by
  induction names generalizing before waiting with
  | nil => cases failed
  | cons name rest inductionHypothesis =>
      cases found : before.candidate name with
      | none =>
          simp only [startPlugins, found] at failed
          exact inductionHypothesis failed
      | some state =>
          rw [startPlugins_candidate config rest waiting found] at failed
          have elapsed := samePlans_frame.elapse before
          split at failed
          · have started := elapsed.trans (samePlans_frame.startPlugin config name state _)
            split at failed <;> rename_i outcome <;> rw [outcome] at started
            · obtain ⟨entry, wanted, free⟩ := candidate_some found
              have outcome := congrArg Prod.fst outcome
              obtain ⟨socket, asks⟩ := arguments_stop (startPlugin_stop free (outcome.trans failed))
              exact ⟨socket, name, state.plan, by rw [planAt, entry]; rfl, wanted, asks⟩
            · exact started.unstartable (inductionHypothesis failed)
            · exact started.unstartable (inductionHypothesis failed)
          · exact elapsed.unstartable (inductionHypothesis failed)

theorem runOnce_stop (failed : (before.runOnce config).1 = .error stop) :
    Unstartable config stop before := by
  unfold runOnce at failed
  split at failed
  · cases failed
  · have reaped := (samePlans_frame.block before).trans
      (samePlans_frame.reapChildren (before.block.children.length + 1) before.block)
    dsimp only at failed
    split at failed <;> rename_i outcome <;> cases failed
    exact reaped.unstartable (startPlugins_stop (congrArg Prod.fst outcome))

theorem stopStage_stop {hard : Bool} {names : List ByteString}
    (failed : (before.stopStage config hard names).1 = .error stop) :
    Unstartable config stop before := by
  have stopped := samePlans_frame.stopPlugins hard names false before
  unfold stopStage at failed
  dsimp only at failed
  split at failed
  · exact (stopped.trans (samePlans_frame.elapse _)).unstartable (runOnce_stop failed)
  · cases failed

theorem killPlugins_stop {names : List ByteString}
    (failed : (before.killPlugins config names).1 = .error stop) :
    Unstartable config stop before := by
  have graceful := samePlans_frame.stopStage config false names before
  unfold killPlugins at failed
  split at failed <;> rename_i outcome
  · exact stopStage_stop ((congrArg Prod.fst outcome).trans failed)
  · rw [outcome] at graceful
    exact graceful.unstartable (stopStage_stop failed)

/-- Once the instances are registered, a reload stops because of a plugin that it starts. -/
theorem configReloaded_stop {seen : List ByteString} {middle : PluginMonitor}
    (registered : before.registerPlugins config.networks config.plugins [] = (.ok seen, middle))
    (failed : (before.configReloaded config).1 = .error stop) :
    Unstartable config stop (before.configReloaded config).2 := by
  unfold configReloaded at failed ⊢
  simp only [registered] at failed ⊢
  generalize ready : (middle.pluginsToKill seen).foldl _ middle = monitor at failed ⊢
  have killed := samePlans_frame.killPlugins config (middle.pluginsToKill seen) monitor
  split at failed <;> rename_i outcome <;> rw [outcome] at killed
  · cases failed
    exact killed.symm.unstartable (killPlugins_stop (congrArg Prod.fst outcome))
  · exact (samePlans_frame.runOnce config _).symm.unstartable (runOnce_stop failed)

end PluginMonitor

end DaZeus
