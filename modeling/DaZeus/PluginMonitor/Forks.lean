import DaZeus.PluginMonitor.Ledger
import DaZeus.PluginMonitor.Plans

/-!
# What plugins are started with

Each process that a call of the monitor forks gets the arguments that an entry
of it has under the configuration of that call.
-/

namespace DaZeus

open Library

def Plan.arguments (config : ConfigReader) (plan : Plan) : Except Stop (List ByteString) :=
  PluginState.arguments config { config := plan.config, network := plan.network }

namespace PluginMonitor

variable {config : ConfigReader} {before after : PluginMonitor}

/-- Some entry that may be started has these arguments. -/
def Given (config : ConfigReader) (monitor : PluginMonitor) (arguments : List ByteString) : Prop :=
  ∃ name plan, monitor.planAt name = some plan ∧ plan.willAutostart = true ∧
    plan.arguments config = .ok arguments

theorem SamePlans.given {arguments : List ByteString} (same : SamePlans before after)
    (given : Given config after arguments) : Given config before arguments := by
  obtain ⟨name, plan, found, wanted, given⟩ := given
  exact ⟨name, plan, (same name).symm.trans found, wanted, given⟩

/-- What was logged after these events tells of no process but with arguments of an entry. -/
def InformedSince (config : ConfigReader) (log : List SupervisionEvent)
    (monitor : PluginMonitor) : Prop :=
  ∃ added, monitor.log = added ++ log ∧ ∀ pid path executable arguments,
    .forked pid path executable arguments ∈ added → Given config monitor arguments

/-- The entries are the same, and every process that was forked since got arguments of one. -/
structure Informs (config : ConfigReader) (before after : PluginMonitor) : Prop where
  plans : SamePlans before after
  since : InformedSince config before.log after

theorem Informs.silent (plans : SamePlans before after) (log : after.log = before.log) :
    Informs config before after :=
  ⟨plans, [], log, nofun⟩

theorem Informs.record (monitor : PluginMonitor) {event : SupervisionEvent}
    (noFork : ∀ pid path executable arguments,
      .forked pid path executable arguments ≠ event) :
    Informs config monitor (monitor.record event) := by
  refine ⟨.of_state rfl, [event], rfl, ?_⟩
  intro pid path executable arguments inside
  exact absurd (List.mem_singleton.mp inside) (noFork pid path executable arguments)

theorem Informs.trans {middle : PluginMonitor} (earlier : Informs config before middle)
    (later : Informs config middle after) : Informs config before after := by
  obtain ⟨firstPlans, first, firstLog, firstGiven⟩ := earlier
  obtain ⟨plans, second, log, given⟩ := later
  refine ⟨firstPlans.trans plans, second ++ first, ?_, ?_⟩
  · rw [log, firstLog, List.append_assoc]
  · intro pid path executable arguments inside
    rcases List.mem_append.mp inside with newer | older
    · exact given pid path executable arguments newer
    · apply plans.symm.given
      exact firstGiven pid path executable arguments older

theorem Informs.modify (monitor : PluginMonitor) (name : ByteString)
    {change : PluginState → PluginState} (kept : KeepsPlan change) :
    Informs config monitor (monitor.modify name change) :=
  .silent (samePlans_frame.modify monitor name kept) rfl

theorem Informs.pluginFailed (monitor : PluginMonitor) (name : ByteString) :
    Informs config monitor (monitor.pluginFailed name) :=
  .modify monitor name fun _ => ⟨rfl, rfl, rfl⟩

theorem forkPlugin_informs (path executable : ByteString) {arguments : List ByteString}
    (given : Given config before arguments) :
    Informs config before (before.forkPlugin path executable arguments).2 := by
  have elapsed : Informs config before before.elapse :=
    .silent (samePlans_frame.elapse before) (elapse_passed before).log
  apply elapsed.trans
  unfold forkPlugin
  dsimp only
  split
  · exact .silent (.refl _) rfl
  · refine ⟨.of_state rfl, [_], rfl, ?_⟩
    intro pid path executable other inside
    cases List.mem_singleton.mp inside
    exact SamePlans.given (.symm (.of_state rfl)) (elapsed.plans.symm.given given)

/-- Only here a process is forked, and the parser has seen the parameters of the entry. -/
theorem startPlugin_informs {name : ByteString} {state : PluginState}
    (entry : before.state[name]? = some state) (wanted : state.willAutostart = true) :
    Informs config before (before.startPlugin config name state).2 := by
  have entered : Informs config before (before.record (.started name)) :=
    .record before (by intros; simp)
  unfold startPlugin
  dsimp only [time]
  split
  · exact entered
  · have passed {first second : PluginMonitor} (passed : Passed first second) :
        Informs config first second :=
      .silent (samePlans_frame.passed passed) passed.log
    have begun : Informs config before ((before.record (.started name)).elapse.modify name
        ({ · with lastStart := (before.record (.started name)).elapse.clock })) :=
      (entered.trans (passed (elapse_passed _))).trans (.modify _ name fun _ => ⟨rfl, rfl, rfl⟩)
    split
    · exact begun
    · next arguments parsed =>
        have checked := begun.trans (passed (sanityCheck_passed _))
        generalize sanityCheck _ = result at checked ⊢
        split
        · exact checked.trans (.pluginFailed _ name)
        · have given : Given config before arguments :=
            ⟨name, state.plan, by rw [planAt, entry]; rfl, wanted, parsed⟩
          have forked := checked.trans (forkPlugin_informs
            (state.path result.2.pluginDirectory) state.executable
            (checked.plans.symm.given given))
          split <;> rename_i outcome <;> rw [outcome] at forked
          · exact forked.trans (.pluginFailed _ name)
          · exact forked.trans (.modify _ name fun _ => ⟨rfl, rfl, rfl⟩)

theorem informs_frame (config : ConfigReader) : StartFrame config (Informs config) where
  refl _ := .silent (.refl _) rfl
  trans := .trans
  passed passed := .silent (samePlans_frame.passed passed) passed.log
  reaped monitor _ := .record monitor (by intros; simp)
  killed monitor _ _ := .record monitor (by intros; simp)
  modify := .modify
  processes _ _ _ _ _ := .silent (.of_state rfl) rfl
  startPlugin := startPlugin_informs

/-- Registration logs nothing, and the entries stay as they are from then on. -/
theorem configReloaded_informs (config : ConfigReader) (before : PluginMonitor) :
    InformedSince config before.log (before.configReloaded config).2 := by
  have registered := registerPlugins_log config.networks config.plugins [] before
  unfold configReloaded
  split <;> rename_i outcome <;> rw [outcome] at registered
  · exact ⟨[], registered, nofun⟩
  · next seen middle =>
      have disabled : ((middle.pluginsToKill seen).foldl (fun monitor name =>
          monitor.modify name ({ · with willAutostart := false })) middle).log = before.log :=
        List.foldlRecOn (motive := fun monitor : PluginMonitor => monitor.log = before.log)
          _ _ registered fun _ same _ _ => same
      have killed := (informs_frame config).killPlugins (middle.pluginsToKill seen)
        ((middle.pluginsToKill seen).foldl
          (fun monitor name => monitor.modify name ({ · with willAutostart := false })) middle)
      rw [← disabled]
      dsimp only
      split <;> rename_i outcome <;> rw [outcome] at killed
      · exact killed.since
      · next after =>
          have woken : Informs config after { after with shouldRun := true } :=
            .silent (.of_state rfl) rfl
          exact ((killed.trans woken).trans ((informs_frame config).runOnce _)).since

end PluginMonitor

end DaZeus
