import DaZeus.PluginMonitor.Run

/-!
# What supervision leaves alone

`runOnce` and `kill_plugins` change processes and the bookkeeping of entries,
and nothing else.  A relation between states that survives such changes, and
can be chained, holds across every call, whether it returns or not.
-/

namespace DaZeus

open Library

namespace PluginMonitor

/-- Nothing was changed but what belongs to the process of the entry. -/
def KeepsPlan (change : PluginState → PluginState) : Prop :=
  ∀ state, (change state).config = state.config ∧ (change state).network = state.network ∧
    (change state).willAutostart = state.willAutostart

/-- A relation that survives what supervision does besides starts, and every start of a plugin
that may be started with this configuration. -/
structure StartFrame (config : ConfigReader) (related : PluginMonitor → PluginMonitor → Prop) :
    Prop where
  refl : ∀ monitor, related monitor monitor
  trans : ∀ {first second third}, related first second → related second third →
    related first third
  passed : ∀ {before after}, Passed before after → related before after
  reaped : ∀ monitor pid, related monitor (monitor.record (.reaped pid))
  killed : ∀ monitor pid hard, related monitor (monitor.record (.killed pid hard))
  modify : ∀ monitor name {change}, KeepsPlan change → related monitor (monitor.modify name change)
  processes : ∀ (monitor : PluginMonitor) (children : List Child)
    (blocked pending shouldRun : Bool),
    related monitor { monitor with children, blocked, pending, shouldRun }
  startPlugin : ∀ {monitor : PluginMonitor} {name : ByteString} {state : PluginState},
    monitor.state[name]? = some state → state.willAutostart = true →
      related monitor (monitor.startPlugin config name state).2

namespace StartFrame

variable {config : ConfigReader} {related : PluginMonitor → PluginMonitor → Prop}
  (frame : StartFrame config related)

include frame

theorem elapse (monitor : PluginMonitor) : related monitor monitor.elapse :=
  frame.passed (elapse_passed monitor)

theorem childExited (name : ByteString) (monitor : PluginMonitor) :
    related monitor (monitor.childExited name) := by
  have freed : related monitor (monitor.modify name ({ · with pid := 0 })) :=
    frame.modify monitor name fun _ => ⟨rfl, rfl, rfl⟩
  apply frame.trans (frame.trans freed (frame.elapse _))
  exact frame.modify _ name fun _ => ⟨rfl, rfl, rfl⟩

theorem wait4 (monitor : PluginMonitor) : related monitor monitor.wait4.2 := by
  apply frame.trans (frame.elapse monitor)
  unfold PluginMonitor.wait4
  dsimp only
  split
  · exact frame.refl _
  · exact frame.trans (frame.processes monitor.elapse _ _ _ _) (frame.reaped _ _)

theorem reapChildren (fuel : Nat) (monitor : PluginMonitor) :
    related monitor (reapChildren fuel monitor) := by
  induction fuel generalizing monitor with
  | zero => exact frame.refl monitor
  | succ fuel inductionHypothesis =>
      have waited := frame.wait4 monitor
      unfold PluginMonitor.reapChildren
      split <;> rename_i outcome <;> rw [outcome] at waited
      · exact waited
      · split
        · exact frame.trans waited (inductionHypothesis _)
        · exact frame.trans (frame.trans waited (frame.childExited _ _)) (inductionHypothesis _)

theorem startPlugins (names : List ByteString) (waiting : Bool) (monitor : PluginMonitor) :
    related monitor (monitor.startPlugins config names waiting).2 := by
  induction names generalizing monitor waiting with
  | nil => exact frame.refl monitor
  | cons name rest inductionHypothesis =>
      cases found : monitor.candidate name with
      | none =>
          simp only [PluginMonitor.startPlugins, found]
          exact inductionHypothesis waiting monitor
      | some state =>
          rw [startPlugins_candidate config rest waiting found]
          have elapsed := frame.elapse monitor
          obtain ⟨entry, wanted, -⟩ := candidate_some found
          rw [← (elapse_passed monitor).state] at entry
          split
          · have started := frame.trans elapsed (frame.startPlugin entry wanted)
            split <;> rename_i outcome <;> rw [outcome] at started
            · exact started
            · exact frame.trans started (inductionHypothesis _ _)
            · exact frame.trans started (inductionHypothesis _ _)
          · exact frame.trans elapsed (inductionHypothesis _ _)

theorem block (monitor : PluginMonitor) : related monitor monitor.block :=
  frame.trans (frame.elapse monitor) (frame.processes monitor.elapse _ _ _ _)

theorem unblock (monitor : PluginMonitor) : related monitor monitor.unblock :=
  frame.trans (frame.elapse monitor) (frame.processes monitor.elapse _ _ _ _)

theorem runOnce (monitor : PluginMonitor) : related monitor (monitor.runOnce config).2 := by
  unfold PluginMonitor.runOnce
  split
  · exact frame.refl monitor
  · have started := frame.trans (frame.trans (frame.block monitor) (frame.reapChildren _ _))
      (frame.startPlugins monitor.block.reap.state.keys false monitor.block.reap)
    dsimp only
    split <;> rename_i outcome <;> rw [outcome] at started
    · exact started
    · next after =>
        exact frame.trans (frame.trans started (frame.processes after _ _ _ _)) (frame.unblock _)

theorem stopPlugins (hard : Bool) (names : List ByteString) (stopped : Bool)
    (monitor : PluginMonitor) : related monitor (monitor.stopPlugins hard names stopped).2 := by
  induction names generalizing monitor stopped with
  | nil => exact frame.refl monitor
  | cons name rest inductionHypothesis =>
      unfold PluginMonitor.stopPlugins
      split
      · apply frame.trans ?_ (inductionHypothesis true _)
        exact frame.trans (frame.elapse monitor) (frame.killed _ _ _)
      · exact inductionHypothesis stopped monitor

theorem stopStage (hard : Bool) (names : List ByteString) (monitor : PluginMonitor) :
    related monitor (monitor.stopStage config hard names).2 := by
  have stopped := frame.stopPlugins hard names false monitor
  unfold PluginMonitor.stopStage
  dsimp only
  split
  · exact frame.trans (frame.trans stopped (frame.elapse _)) (frame.runOnce _)
  · exact stopped

theorem killPlugins (names : List ByteString) (monitor : PluginMonitor) :
    related monitor (monitor.killPlugins config names).2 := by
  have graceful := frame.stopStage false names monitor
  unfold PluginMonitor.killPlugins
  split <;> rename_i outcome <;> rw [outcome] at graceful
  · exact graceful
  · exact frame.trans graceful (frame.stopStage true names _)

end StartFrame

/-! ## Relations that survive any event -/

structure Frame (related : PluginMonitor → PluginMonitor → Prop) : Prop where
  refl : ∀ monitor, related monitor monitor
  trans : ∀ {first second third}, related first second → related second third →
    related first third
  passed : ∀ {before after}, Passed before after → related before after
  record : ∀ monitor event, related monitor (monitor.record event)
  modify : ∀ monitor name {change}, KeepsPlan change → related monitor (monitor.modify name change)
  processes : ∀ (monitor : PluginMonitor) (children : List Child)
    (blocked pending shouldRun : Bool),
    related monitor { monitor with children, blocked, pending, shouldRun }

namespace Frame

variable {related : PluginMonitor → PluginMonitor → Prop} (frame : Frame related)

include frame

theorem elapse (monitor : PluginMonitor) : related monitor monitor.elapse :=
  frame.passed (elapse_passed monitor)

theorem forkPlugin (path executable : ByteString) (arguments : List ByteString)
    (monitor : PluginMonitor) :
    related monitor (monitor.forkPlugin path executable arguments).2 := by
  apply frame.trans (frame.elapse monitor)
  unfold PluginMonitor.forkPlugin
  dsimp only
  split
  · exact frame.refl _
  · exact frame.trans (frame.processes monitor.elapse _ _ _ _) (frame.record _ _)

theorem startPlugin (config : ConfigReader) (name : ByteString) (state : PluginState)
    (monitor : PluginMonitor) : related monitor (monitor.startPlugin config name state).2 := by
  have entered := frame.record monitor (.started name)
  unfold PluginMonitor.startPlugin
  dsimp only [time]
  split
  · exact entered
  · have begun : related monitor ((monitor.record (.started name)).elapse.modify name
        ({ · with lastStart := (monitor.record (.started name)).elapse.clock })) :=
      frame.trans (frame.trans entered (frame.elapse _))
        (frame.modify _ name fun _ => ⟨rfl, rfl, rfl⟩)
    have failed (other : PluginMonitor) : related other (other.pluginFailed name) :=
      frame.modify other name fun _ => ⟨rfl, rfl, rfl⟩
    split
    · exact begun
    · next arguments _ =>
        have checked := frame.trans begun (frame.passed (sanityCheck_passed _))
        generalize sanityCheck _ = result at checked ⊢
        split
        · exact frame.trans checked (failed _)
        · have forked := frame.trans checked (frame.forkPlugin
            (state.path result.2.pluginDirectory) state.executable arguments result.2)
          split <;> rename_i outcome <;> rw [outcome] at forked
          · exact frame.trans forked (failed _)
          · exact frame.trans forked (frame.modify _ name fun _ => ⟨rfl, rfl, rfl⟩)

/-- With every event, the ones of a start are covered. -/
theorem starts (config : ConfigReader) : StartFrame config related where
  refl := frame.refl
  trans := frame.trans
  passed := frame.passed
  reaped monitor _ := frame.record monitor _
  killed monitor _ _ := frame.record monitor _
  modify := frame.modify
  processes := frame.processes
  startPlugin _ _ := frame.startPlugin config _ _ _

theorem reapChildren (fuel : Nat) (monitor : PluginMonitor) :
    related monitor (reapChildren fuel monitor) :=
  (frame.starts {}).reapChildren fuel monitor

theorem startPlugins (config : ConfigReader) (names : List ByteString) (waiting : Bool)
    (monitor : PluginMonitor) : related monitor (monitor.startPlugins config names waiting).2 :=
  (frame.starts config).startPlugins names waiting monitor

theorem block (monitor : PluginMonitor) : related monitor monitor.block :=
  (frame.starts {}).block monitor

theorem runOnce (config : ConfigReader) (monitor : PluginMonitor) :
    related monitor (monitor.runOnce config).2 :=
  (frame.starts config).runOnce monitor

theorem stopPlugins (hard : Bool) (names : List ByteString) (stopped : Bool)
    (monitor : PluginMonitor) : related monitor (monitor.stopPlugins hard names stopped).2 :=
  (frame.starts {}).stopPlugins hard names stopped monitor

theorem stopStage (config : ConfigReader) (hard : Bool) (names : List ByteString)
    (monitor : PluginMonitor) : related monitor (monitor.stopStage config hard names).2 :=
  (frame.starts config).stopStage hard names monitor

theorem killPlugins (config : ConfigReader) (names : List ByteString) (monitor : PluginMonitor) :
    related monitor (monitor.killPlugins config names).2 :=
  (frame.starts config).killPlugins names monitor

end Frame

end PluginMonitor

end DaZeus
