import DaZeus.PluginMonitor.Children

/-!
# The processes as the log has them

A second account of the processes, replayed from what the monitor did: which
plugin each was forked for, until it was waited for.  The entries agree with
it, and no plugin is started while it has a process in it.
-/

namespace DaZeus

open Library
open Std (TreeMap)

structure Ledger where
  /-- The plugin that `start_plugin` was entered for last. -/
  entered : ByteString := []
  /-- The processes that were forked and not yet waited for, each with its plugin. -/
  processes : List (ByteString × Nat) := []

def Ledger.enter (ledger : Ledger) : SupervisionEvent → Ledger
  | .started name => { ledger with entered := name }
  | .forked pid _ _ _ => { ledger with processes := ledger.processes ++ [(ledger.entered, pid)] }
  | .reaped pid => { ledger with processes := ledger.processes.filter (·.2 != pid) }
  | .killed _ _ => ledger

/-- The newest event is the first of the log. -/
def Ledger.replay : List SupervisionEvent → Ledger
  | [] => {}
  | event :: earlier => (replay earlier).enter event

namespace Ledger

/-- What is recorded for a process stays until the process is waited for. -/
theorem reaped_of_gone {name : ByteString} {pid : Nat} {log : List SupervisionEvent}
    (added : List SupervisionEvent) (present : (name, pid) ∈ (replay log).processes)
    (gone : (name, pid) ∉ (replay (added ++ log)).processes) : .reaped pid ∈ added := by
  induction added with
  | nil => exact absurd present gone
  | cons event rest inductionHypothesis =>
      by_cases kept : (name, pid) ∈ (replay (rest ++ log)).processes
      · cases event with
        | started other => exact absurd kept gone
        | killed other hard => exact absurd kept gone
        | forked other path executable arguments =>
            exact absurd (List.mem_append_left _ kept) gone
        | reaped other =>
            have same : other = pid := by
              by_contra different
              apply gone
              exact List.mem_filter.mpr ⟨kept, by simpa using Ne.symm different⟩
            rw [same]
            exact List.mem_cons_self
      · exact List.mem_cons_of_mem _ (inductionHypothesis kept)

end Ledger

namespace PluginMonitor

open Ledger (replay)

/-- At each start, the plugin had no process. -/
def Apart (log : List SupervisionEvent) : Prop :=
  ∀ name earlier, .started name :: earlier <:+ log →
    ∀ pid, (name, pid) ∉ (replay earlier).processes

/-- The entries are what the log says. -/
structure Recorded (monitor : PluginMonitor) : Prop extends Consistent monitor where
  agrees : ∀ name pid, (name, pid) ∈ (replay monitor.log).processes ↔
    pid ≠ 0 ∧ monitor.pidAt name = pid
  apart : Apart monitor.log

variable {before after : PluginMonitor} {name : ByteString} {pid : Nat}

theorem Apart.cons {log : List SupervisionEvent} {event : SupervisionEvent} (apart : Apart log)
    (free : ∀ name, event = .started name → ∀ pid, (name, pid) ∉ (replay log).processes) :
    Apart (event :: log) := by
  intro name earlier reached
  rcases List.suffix_cons_iff.mp reached with newest | older
  · cases newest
    exact free name rfl
  · exact apart name earlier older

/-- Nothing was done. -/
theorem Recorded.idle (recorded : Recorded before) (idle : Idle before after)
    (log : after.log = before.log) : Recorded after where
  toConsistent := recorded.toConsistent.idle idle
  agrees name pid := by
    rw [log, idle.pidAt]
    exact recorded.agrees name pid
  apart := by
    rw [log]
    exact recorded.apart

theorem Recorded.passed (recorded : Recorded before) (passed : Passed before after) :
    Recorded after :=
  recorded.idle passed.toIdle passed.log

/-- `start_plugin` is entered for a plugin without a process. -/
theorem Recorded.started (recorded : Recorded before) (free : before.pidAt name = 0) :
    Recorded (before.record (.started name)) where
  toConsistent := recorded.toConsistent.idle (.record before _)
  agrees := recorded.agrees
  apart := by
    apply recorded.apart.cons
    rintro other ⟨⟩ pid running
    obtain ⟨positive, same⟩ := (recorded.agrees name pid).mp running
    exact positive (same.symm.trans free)

theorem Recorded.killed (recorded : Recorded before) (hard : Bool) :
    Recorded (before.record (.killed pid hard)) where
  toConsistent := recorded.toConsistent.idle (.record before _)
  agrees := recorded.agrees
  apart := recorded.apart.cons nofun

/-- The process that was forked is entered for the plugin that is being started. -/
theorem Recorded.forked {path executable : ByteString} {arguments : List ByteString}
    (recorded : Recorded before) (free : before.pidAt name = 0)
    (entered : (replay before.log).entered = name) (forked : Forked name pid before after)
    (log : after.log = .forked pid path executable arguments :: before.log) : Recorded after where
  toConsistent := recorded.toConsistent.forked free forked
  agrees other process := by
    rw [log, forked.pidAt]
    simp only [replay, Ledger.enter, List.mem_append, List.mem_singleton, Prod.mk.injEq, entered,
      recorded.agrees]
    by_cases same : other = name
    · subst same
      rw [if_pos rfl, free]
      constructor
      · rintro (⟨positive, rfl⟩ | ⟨-, rfl⟩)
        · exact absurd rfl positive
        · exact ⟨forked.positive, rfl⟩
      · rintro ⟨-, rfl⟩
        exact .inr ⟨rfl, rfl⟩
    · rw [if_neg same]
      simp only [same, false_and, or_false]
  apart := by
    rw [log]
    exact recorded.apart.cons nofun

theorem Recorded.reaped (recorded : Recorded before) (reaped : Reaped name pid before after)
    (log : after.log = .reaped pid :: before.log) : Recorded after where
  toConsistent := reaped.consistent recorded.toConsistent
  agrees other process := by
    rw [log, reaped.pidAt]
    simp only [replay, Ledger.enter, List.mem_filter, bne_iff_ne, recorded.agrees]
    by_cases same : other = name
    · subst same
      rw [if_pos rfl, reaped.entry]
      constructor
      · rintro ⟨⟨-, rfl⟩, different⟩
        exact absurd rfl different
      · rintro ⟨positive, rfl⟩
        exact absurd rfl positive
    · rw [if_neg same]
      constructor
      · rintro ⟨running, -⟩
        exact running
      · rintro ⟨positive, rfl⟩
        refine ⟨⟨positive, rfl⟩, fun shared => same ?_⟩
        exact recorded.distinct (shared.trans reaped.entry.symm) positive
  apart := by
    rw [log]
    exact recorded.apart.cons nofun

/-! ## One lemma for each function -/

theorem Recorded.reapChildren (fuel : Nat) (recorded : Recorded before) :
    Recorded (reapChildren fuel before) := by
  induction fuel generalizing before with
  | zero => exact recorded
  | succ fuel inductionHypothesis =>
      unfold PluginMonitor.reapChildren
      split
      · next empty =>
          rw [(wait4_none empty).1]
          exact recorded.passed (elapse_passed before)
      · next pid middle waited =>
          obtain ⟨inside, rfl⟩ := wait4_some waited
          have elapsed := recorded.passed (elapse_passed before)
          obtain ⟨name, found⟩ := elapsed.findPid inside
          have positive : pid ≠ 0 := by
            rintro rfl
            exact elapsed.positive inside
          have reaped := elapsed.reaped
            (reaped_modify before.elapse (findPid_some found) positive) rfl
          have found : ({ before.elapse with
              children := before.elapse.children.filter (·.pid != pid) }.record
                (.reaped pid)).findPid pid = some name := found
          simp only [found]
          apply inductionHypothesis
          exact reaped.idle (childExited_idle name _) (elapse_passed _).log

theorem Recorded.pluginFailed (recorded : Recorded before) (name : ByteString) :
    Recorded (before.pluginFailed name) :=
  recorded.idle (pluginFailed_idle name before false) rfl

theorem Recorded.startPlugin (config : ConfigReader) (state : PluginState)
    (recorded : Recorded before) (present : name ∈ before.state) (free : before.pidAt name = 0) :
    Recorded (before.startPlugin config name state).2 := by
  have entered := recorded.started free
  unfold PluginMonitor.startPlugin
  dsimp only [time]
  split
  · exact entered
  · have passed := elapse_passed (before.record (.started name))
    have idle : Idle before ((before.record (.started name)).elapse.modify name
        ({ · with lastStart := (before.record (.started name)).elapse.clock })) :=
      ((Idle.record before _).trans passed.toIdle).trans (.modify _ name fun _ => rfl)
    have begun : Recorded ((before.record (.started name)).elapse.modify name
        ({ · with lastStart := (before.record (.started name)).elapse.clock })) :=
      (entered.passed passed).idle (.modify _ name fun _ => rfl) rfl
    split
    · exact begun
    · next arguments _ =>
        have checked := sanityCheck_passed ((before.record (.started name)).elapse.modify name
          ({ · with lastStart := (before.record (.started name)).elapse.clock }))
        have sane := begun.passed checked
        generalize sanityCheck _ = result at checked sane ⊢
        split
        · exact sane.pluginFailed name
        · have waited := elapse_passed result.2
          split
          · next failed =>
              rw [forkPlugin_failed failed]
              exact (sane.passed waited).pluginFailed name
          · next pid forkedMonitor outcome =>
              have there := checked.present name (idle.present name present)
              have forked := forkPlugin_forked there outcome
              have log : forkedMonitor.log = .forked pid
                  (state.path result.2.pluginDirectory) state.executable arguments ::
                    result.2.elapse.log := by
                unfold forkPlugin at outcome
                dsimp only at outcome
                split at outcome <;> cases outcome
                rfl
              refine (sane.passed waited).forked ?_ ?_ forked log
              · rw [waited.pidAt, checked.pidAt, idle.pidAt]
                exact free
              · rw [waited.log, checked.log]
                exact congrArg (fun log => (replay log).entered) passed.log

theorem Recorded.startPlugins (config : ConfigReader) (names : List ByteString) (waiting : Bool)
    (recorded : Recorded before) :
    Recorded (before.startPlugins config names waiting).2 := by
  induction names generalizing before waiting with
  | nil => exact recorded
  | cons name rest inductionHypothesis =>
      cases found : before.candidate name with
      | none =>
          simp only [PluginMonitor.startPlugins, found]
          exact inductionHypothesis waiting recorded
      | some state =>
          have passed := elapse_passed before
          have elapsed := recorded.passed passed
          rw [startPlugins_candidate config rest waiting found]
          obtain ⟨entry, -, free⟩ := candidate_some found
          split
          · have present : name ∈ before.elapse.state := by
              rw [passed.state, TreeMap.mem_iff_isSome_getElem?, entry]
              rfl
            have free : before.elapse.pidAt name = 0 := by
              rw [passed.pidAt, pidAt, entry]
              exact free
            have started := elapsed.startPlugin config state present free
            split <;> rename_i outcome <;> rw [outcome] at started
            · exact started
            · exact inductionHypothesis waiting started
            · exact inductionHypothesis true started
          · exact inductionHypothesis true elapsed

theorem Recorded.block (recorded : Recorded before) : Recorded before.block where
  toConsistent :=
    { recorded.toConsistent.idle (elapse_passed before).toIdle with held := fun _ => rfl }
  agrees := (recorded.passed (elapse_passed before)).agrees
  apart := (recorded.passed (elapse_passed before)).apart

theorem Recorded.unblock (recorded : Recorded before) (waiting : Bool) :
    Recorded ({ before with shouldRun := waiting }.unblock) := by
  have changed : Recorded { before with shouldRun := waiting } :=
    { recorded.toConsistent with agrees := recorded.agrees, apart := recorded.apart }
  have elapsed := changed.passed (elapse_passed _)
  exact { elapsed.toConsistent with
    held := nofun, agrees := elapsed.agrees, apart := elapsed.apart }

theorem Recorded.runOnce (config : ConfigReader) (recorded : Recorded before) :
    Recorded (before.runOnce config).2 := by
  unfold PluginMonitor.runOnce
  split
  · exact recorded
  · have reaped : Recorded before.block.reap := recorded.block.reapChildren _
    have started := reaped.startPlugins config before.block.reap.state.keys false
    dsimp only
    split <;> rename_i outcome <;> rw [outcome] at started
    · exact started
    · exact started.unblock _

theorem Recorded.stopPlugins (hard : Bool) (names : List ByteString) (stopped : Bool)
    (recorded : Recorded before) : Recorded (before.stopPlugins hard names stopped).2 := by
  induction names generalizing before stopped with
  | nil => exact recorded
  | cons name rest inductionHypothesis =>
      unfold PluginMonitor.stopPlugins
      split
      · apply inductionHypothesis
        exact (recorded.passed (elapse_passed before)).killed hard
      · exact inductionHypothesis stopped recorded

theorem Recorded.stopStage (config : ConfigReader) (hard : Bool) (names : List ByteString)
    (recorded : Recorded before) : Recorded (before.stopStage config hard names).2 := by
  have stopped := recorded.stopPlugins hard names false
  unfold PluginMonitor.stopStage
  dsimp only
  split
  · exact (stopped.passed (elapse_passed _)).runOnce config
  · exact stopped

theorem Recorded.killPlugins (config : ConfigReader) (names : List ByteString)
    (recorded : Recorded before) : Recorded (before.killPlugins config names).2 := by
  have graceful := recorded.stopStage config false names
  unfold PluginMonitor.killPlugins
  split <;> rename_i outcome <;> rw [outcome] at graceful
  · exact graceful
  · exact graceful.stopStage config true names

theorem registerPlugins_log (networks : List NetworkConfig) (plugins : List PluginConfig)
    (seen : List ByteString) (monitor : PluginMonitor) :
    (monitor.registerPlugins networks plugins seen).2.log = monitor.log := by
  apply registerPlugins_invariant (motive := fun after => after.log = monitor.log)
  · intro after config network name absent same
    exact same
  · intro after config name same
    exact same
  · rfl

theorem Recorded.configReloaded (config : ConfigReader) (recorded : Recorded before) :
    Recorded (before.configReloaded config).2 := by
  apply configReloaded_invariant (motive := Recorded)
  · exact recorded.idle (registerPlugins_idle config.networks config.plugins [] before)
      (registerPlugins_log _ _ _ _)
  · intro monitor name holds
    exact holds.idle (.modify monitor name fun _ => rfl) rfl
  · intro monitor names holds
    exact holds.killPlugins config names
  · intro monitor holds
    have woken : Recorded { monitor with shouldRun := true } :=
      { holds.toConsistent with agrees := holds.agrees, apart := holds.apart }
    exact woken.runOnce config

theorem Recorded.call (call : Call) (recorded : Recorded before) :
    Recorded (before.call call) := by
  cases call with
  | configReloaded config => exact recorded.configReloaded config
  | runOnce config => exact recorded.runOnce config
  | wait => exact recorded.passed (elapse_passed before)

/-! ## Runs -/

theorem Recorded.initial (initial : system.initial before) (fresh : before.log = []) :
    Recorded before where
  toConsistent := (system_settled (.start initial)).toConsistent
  agrees name pid := by
    rw [fresh, pidAt, TreeMap.getElem?_of_isEmpty initial.1]
    constructor
    · intro inside
      cases inside
    · rintro ⟨positive, rfl⟩
      exact absurd rfl positive
  apart := by
    rw [fresh]
    intro name earlier reached
    cases List.suffix_nil.mp reached

/-- The processes in the entries are those that were forked and not yet waited for, each in one
entry, and no plugin is ever started while it has one. -/
theorem processes_recorded {start monitor : PluginMonitor} (initial : system.initial start)
    (fresh : start.log = []) (run : system.Reaches start monitor) :
    (∀ first second, monitor.pidAt first = monitor.pidAt second → monitor.pidAt first ≠ 0 →
      first = second) ∧
    (∀ name pid, (name, pid) ∈ (replay monitor.log).processes ↔
      pid ≠ 0 ∧ monitor.pidAt name = pid) ∧
    (∀ pid, pid ∈ monitor.childPids ↔
      ∃ name, (name, pid) ∈ (replay monitor.log).processes) ∧
    Apart monitor.log := by
  have recorded : Recorded monitor := by
    apply run.invariant ?_ (Recorded.initial initial fresh)
    rintro before call after recorded rfl
    exact recorded.call call
  refine ⟨fun _ _ => recorded.distinct, recorded.agrees, fun pid => ?_, recorded.apart⟩
  simp only [recorded.agrees]
  constructor
  · intro inside
    have positive : pid ≠ 0 := by
      rintro rfl
      exact recorded.positive inside
    obtain ⟨name, entry⟩ := (recorded.recorded positive).mpr inside
    exact ⟨name, positive, entry⟩
  · rintro ⟨name, positive, entry⟩
    exact (recorded.recorded positive).mp ⟨name, entry⟩

/-- A plugin that exits and is started again. -/
theorem processes_recorded_restarted :
    let start : PluginMonitor := { script := List.replicate 8 { answer := 7 } ++
      [{ events := [.exit 7, .clock 99] }] ++ List.replicate 20 { answer := 8 } }
    let started := start.call (.configReloaded { plugins := [{ name := ascii "p" }] })
    let monitor := (started.call .wait).call (.runOnce {})
    monitor.log.length = 5 ∧ monitor.childPids = [8] ∧ Apart monitor.log := by
  intro start started monitor
  have loaded : system.step start (.configReloaded { plugins := [{ name := ascii "p" }] })
    started := rfl
  have waited : system.step started .wait (started.call .wait) := rfl
  have restarted : system.step (started.call .wait) (.runOnce {}) monitor := rfl
  have run := (((TransitionSystem.Reaches.refl start).snoc loaded).snoc waited).snoc restarted
  have initial : system.initial start := ⟨rfl, rfl, rfl, rfl, rfl⟩
  exact ⟨by decide +kernel, by decide +kernel, (processes_recorded initial rfl run).2.2.2⟩

end PluginMonitor

end DaZeus
