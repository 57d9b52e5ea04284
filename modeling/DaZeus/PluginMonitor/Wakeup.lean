import DaZeus.PluginMonitor.Children
import DaZeus.PluginMonitor.Plans

/-!
# No wake-up is lost

A monitor that does not want to run has nothing to do: every plugin it may
start has a process, and no child has exited.  The start loop says whether a
plugin is still waiting, and SIGCHLD is blocked from before the children are
waited for until that answer has been stored.
-/

namespace DaZeus

open Library
open Std (TreeMap)

namespace PluginMonitor

/-- Every plugin that may be started has a process. -/
def Staffed (monitor : PluginMonitor) : Prop :=
  ∀ name, monitor.autostarts name = true → monitor.pidAt name ≠ 0

variable {before after : PluginMonitor} {name : ByteString}

theorem candidate_none (skipped : before.candidate name = none)
    (wanted : before.autostarts name = true) : before.pidAt name ≠ 0 := by
  unfold candidate at skipped
  unfold autostarts planAt at wanted
  unfold pidAt
  cases found : before.state[name]? with
  | none => simp [found] at wanted
  | some state => simp_all [PluginState.plan, Option.filter]

theorem startPlugin_pidAt (config : ConfigReader) (state : PluginState)
    (present : name ∈ before.state) :
    (∀ other, before.pidAt other ≠ 0 →
      (before.startPlugin config name state).2.pidAt other ≠ 0) ∧
    ((before.startPlugin config name state).1 = .ok true →
      (before.startPlugin config name state).2.pidAt name ≠ 0) := by
  have spec := startPlugin_spec config state present
  generalize before.startPlugin config name state = result at spec ⊢
  cases spec with
  | idle notStarted idle =>
      refine ⟨fun other running => ?_, fun started => absurd started notStarted⟩
      rwa [idle.pidAt]
  | forked idle forked =>
      refine ⟨fun other running => ?_, fun _ => ?_⟩
      · rw [forked.pidAt]
        split
        · exact forked.positive
        · rwa [idle.pidAt]
      · rw [forked.pidAt, if_pos rfl]
        exact forked.positive

/-- What the start loop says of the plugins it went through, when it ends. -/
structure Staffs (names : List ByteString) (waiting : Bool) (before : PluginMonitor)
    (result : Bool) (after : PluginMonitor) : Prop where
  still : waiting = true → result = true
  keeps : ∀ name, before.pidAt name ≠ 0 → after.pidAt name ≠ 0
  staffs : ∀ name ∈ names, after.autostarts name = true → after.pidAt name = 0 → result = true

theorem startPlugins_staffs (config : ConfigReader) {names : List ByteString}
    {waiting result : Bool}
    (completed : before.startPlugins config names waiting = (.ok result, after)) :
    Staffs names waiting before result after := by
  induction names generalizing before waiting with
  | nil =>
      cases completed
      exact ⟨id, fun _ => id, nofun⟩
  | cons name rest inductionHypothesis =>
      have same := samePlans_frame.startPlugins config (name :: rest) waiting before
      rw [completed] at same
      cases found : before.candidate name with
      | none =>
          simp only [startPlugins, found] at completed
          have later := inductionHypothesis completed
          refine ⟨later.still, later.keeps, List.forall_mem_cons.mpr ⟨?_, later.staffs⟩⟩
          intro wanted unstaffed
          rw [same.autostarts] at wanted
          exact absurd unstaffed (later.keeps name (candidate_none found wanted))
      | some state =>
          have passed := elapse_passed before
          rw [startPlugins_candidate config rest waiting found] at completed
          split at completed
          · have present : name ∈ before.elapse.state := by
              rw [passed.state, TreeMap.mem_iff_isSome_getElem?, (candidate_some found).1]
              rfl
            have kept := startPlugin_pidAt config state present
            split at completed <;> rename_i outcome <;> rw [outcome] at kept
            · cases completed
            · have later := inductionHypothesis completed
              refine ⟨later.still, fun other running => later.keeps other (kept.1 other ?_),
                List.forall_mem_cons.mpr ⟨?_, later.staffs⟩⟩
              · rwa [passed.pidAt]
              · intro _ unstaffed
                exact absurd unstaffed (later.keeps name (kept.2 rfl))
            · have later := inductionHypothesis completed
              refine ⟨fun _ => later.still rfl, fun other running => later.keeps other
                (kept.1 other ?_), List.forall_mem_cons.mpr ⟨fun _ _ => later.still rfl,
                  later.staffs⟩⟩
              rwa [passed.pidAt]
          · have later := inductionHypothesis completed
            refine ⟨fun _ => later.still rfl, fun other running => later.keeps other ?_,
              List.forall_mem_cons.mpr ⟨fun _ _ => later.still rfl, later.staffs⟩⟩
            rwa [passed.pidAt]

/-- Between two calls that returned. -/
structure Attended (monitor : PluginMonitor) : Prop where
  unblocked : monitor.blocked = false
  staffed : monitor.shouldRun = false → monitor.Staffed

theorem Attended.elapse (attended : Attended before) : Attended before.elapse where
  unblocked := (elapse_passed before).blocked.trans attended.unblocked
  staffed asleep name wanted := by
    have passed := elapse_passed before
    rw [(samePlans_frame.elapse before).autostarts] at wanted
    rw [passed.pidAt]
    apply attended.staffed ?_ name wanted
    exact Bool.eq_false_iff.mpr fun running => Bool.eq_false_iff.mp asleep
      (passed.shouldRun running)

theorem Attended.passed (attended : Attended before) (passed : Passed before after) :
    Attended after where
  unblocked := passed.blocked.trans attended.unblocked
  staffed asleep name wanted := by
    rw [(samePlans_frame.passed passed).autostarts] at wanted
    rw [passed.pidAt]
    apply attended.staffed ?_ name wanted
    exact Bool.eq_false_iff.mpr fun running => Bool.eq_false_iff.mp asleep
      (passed.shouldRun running)

/-- The end of `runOnce`. -/
theorem Staffs.unblock {names : List ByteString} {middle : PluginMonitor} {result : Bool}
    (staffs : Staffs names false before result middle)
    (every : ∀ name, middle.autostarts name = true → name ∈ names) :
    Attended ({ middle with shouldRun := result }.unblock) where
  unblocked := rfl
  staffed asleep name wanted := by
    have passed := elapse_passed { middle with shouldRun := result }
    have wanted : middle.autostarts name = true :=
      ((samePlans_frame.elapse { middle with shouldRun := result }).autostarts name).symm.trans
        wanted
    have waits : result ≠ true := by
      intro waits
      have running := passed.shouldRun waits
      exact Bool.noConfusion (asleep.symm.trans (Bool.or_eq_true_iff.mpr (.inl running)))
    intro unstaffed
    apply waits
    exact staffs.staffs name (every name wanted) wanted ((passed.pidAt name).symm.trans unstaffed)

theorem runOnce_attended {config : ConfigReader} (running : before.shouldRun = true)
    (returned : before.runOnce config = (.ok (), after)) : Attended after := by
  unfold runOnce at returned
  rw [running, if_neg (by decide)] at returned
  dsimp only at returned
  split at returned
  · cases returned
  · next waiting middle outcome =>
      cases returned
      have same := samePlans_frame.startPlugins config before.block.reap.state.keys false
        before.block.reap
      rw [outcome] at same
      apply (startPlugins_staffs config outcome).unblock
      intro name wanted
      rw [same.autostarts] at wanted
      rw [TreeMap.mem_keys]
      by_contra absent
      rw [autostarts, planAt, TreeMap.getElem?_eq_none absent] at wanted
      cases wanted

theorem Attended.runOnce {config : ConfigReader} (attended : Attended before)
    (returned : before.runOnce config = (.ok (), after)) : Attended after := by
  by_cases running : before.shouldRun = true
  · exact runOnce_attended running returned
  · unfold PluginMonitor.runOnce at returned
    rw [Bool.eq_false_iff.mpr running] at returned
    cases returned
    exact attended

/-- A reload ends with a run of its own, whatever was before. -/
theorem configReloaded_attended {config : ConfigReader}
    (returned : before.configReloaded config = (.ok (), after)) : Attended after := by
  unfold configReloaded at returned
  split at returned
  · cases returned
  · dsimp only at returned
    split at returned
    · cases returned
    · exact runOnce_attended rfl returned

/-- The call returns. -/
def Returns (monitor : PluginMonitor) : Call → Prop
  | .configReloaded config => (monitor.configReloaded config).1 = .ok ()
  | .runOnce config => (monitor.runOnce config).1 = .ok ()
  | .wait => True

theorem Attended.call {call : Call} (attended : Attended before) (returns : before.Returns call) :
    Attended (before.call call) := by
  cases call with
  | configReloaded config => exact configReloaded_attended (Prod.ext returns rfl)
  | runOnce config => exact attended.runOnce (Prod.ext returns rfl)
  | wait => exact attended.elapse

/-- Between the calls of a run in which all return, the signal is not blocked, and a monitor
that does not want to run has nothing to do. -/
theorem wakeup_kept {monitor : PluginMonitor}
    (reached : (system.guard Returns).Reachable monitor) :
    monitor.blocked = false ∧ monitor.pending = false ∧
      (monitor.shouldRun = false →
        (∀ (name : ByteString) (state : PluginState), monitor.state[name]? = some state →
          state.willAutostart = true → state.pid ≠ 0) ∧
        ∀ child ∈ monitor.children, child.exited = false) := by
  have settled := system_settled reached.of_guard
  have attended : Attended monitor := by
    apply reached.invariant
    · rintro monitor ⟨empty, -, unblocked, -, running⟩
      exact ⟨unblocked, fun asleep => Bool.noConfusion (asleep.symm.trans running)⟩
    · rintro before call after attended ⟨returns, rfl⟩
      exact attended.call returns
  have unraised : monitor.pending = false := by
    apply Bool.eq_false_iff.mpr
    intro raised
    exact Bool.noConfusion (attended.unblocked.symm.trans (settled.held raised))
  refine ⟨attended.unblocked, unraised, fun asleep => ⟨fun name state found wanted => ?_, ?_⟩⟩
  · have staffed := attended.staffed asleep name
    simp only [autostarts, planAt, pidAt, found] at staffed
    exact staffed wanted
  · intro child inside
    apply Bool.eq_false_iff.mpr
    intro exited
    exact Bool.noConfusion (asleep.symm.trans (settled.signalled child inside exited))

/-- A monitor that has started its only plugin. -/
theorem wakeup_kept_started :
    let monitor := ({ script := List.replicate 9 { answer := 7 } } : PluginMonitor).call
      (.configReloaded { plugins := [{ name := ascii "p" }] })
    monitor.childPids = [7] ∧ ∀ child ∈ monitor.children, child.exited = false := by
  have initial : (system.guard Returns).initial { script := List.replicate 9 { answer := 7 } } :=
    ⟨rfl, rfl, rfl, rfl, rfl⟩
  have reached := (TransitionSystem.Reachable.start initial).snoc
    (.configReloaded { plugins := [{ name := ascii "p" }] })
    ⟨by unfold Returns; decide +kernel, rfl⟩
  exact ⟨by decide +kernel, ((wakeup_kept reached).2.2 (by decide +kernel)).2⟩

end PluginMonitor

end DaZeus
