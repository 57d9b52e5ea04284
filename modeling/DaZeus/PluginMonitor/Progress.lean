import DaZeus.PluginMonitor.Backoff
import DaZeus.PluginMonitor.Wakeup

/-!
# Every plugin gets its turn

The delays say how early a plugin may be started again.  `due_plugins_tried`
says how late: with a clock that does not go back, a call of `runOnce` tries
every plugin once whose delay is over, and no other, and a plugin that still has
to wait keeps the monitor awake.
-/

namespace DaZeus

open Library
open Std (TreeMap)

theorem waitSeconds_le (numFailures : Int) : waitSeconds numFailures ≤ 300 := by
  unfold waitSeconds
  dsimp only
  split <;> omega

namespace PluginMonitor

variable {config : ConfigReader} {before middle after : PluginMonitor} {name : ByteString}
  {state : PluginState} {waiting : Bool}

/-! ## Time goes on -/

theorem Steady.clock_reapChildren (fuel : Nat) (steady : Steady before) :
    before.clock ≤ (PluginMonitor.reapChildren fuel before).clock := by
  induction fuel generalizing before with
  | zero => exact Int.le_refl _
  | succ fuel inductionHypothesis =>
      have grown := (elapse_steady steady).1
      have kept := steady.wait4
      unfold PluginMonitor.reapChildren
      split <;> rename_i outcome <;> rw [outcome] at kept
      · rw [(wait4_none outcome).1]
        exact grown
      · next pid rest =>
          have waited : before.clock ≤ rest.clock := by
            rw [(wait4_some outcome).2]
            exact grown
          split
          · exact Int.le_trans waited (inductionHypothesis kept)
          · next holder _ =>
              have freed : Steady (rest.modify holder ({ · with pid := 0 })) := kept
              have exited : rest.clock ≤ (rest.childExited holder).clock := (elapse_steady freed).1
              exact Int.le_trans (Int.le_trans waited exited)
                (inductionHypothesis kept.childExited)

theorem Steady.clock_sanityCheck (steady : Steady before) :
    before.clock ≤ before.sanityCheck.2.clock := by
  have first : before.clock ≤ before.check.2.clock := (elapse_steady steady).1
  have next : Steady before.check.2 := steady.elapse
  unfold PluginMonitor.sanityCheck
  split <;> rename_i outcome <;> rw [outcome] at first next
  · exact first
  · next second =>
      have checked : second.clock ≤ second.check.2.clock := (elapse_steady next).1
      have last : Steady second.check.2 := next.elapse
      split <;> rename_i outcome <;> rw [outcome] at checked last
      · exact Int.le_trans first checked
      · exact Int.le_trans (Int.le_trans first checked) (elapse_steady last).1

theorem Steady.clock_forkPlugin (path executable : ByteString) (arguments : List ByteString)
    (steady : Steady before) :
    before.clock ≤ (before.forkPlugin path executable arguments).2.clock := by
  unfold PluginMonitor.forkPlugin
  dsimp only
  split
  · exact (elapse_steady steady).1
  · exact (elapse_steady steady).1

theorem Steady.clock_startPlugin (state : PluginState) (steady : Steady before) :
    before.clock ≤ (before.startPlugin config name state).2.clock := by
  have entered : Steady (before.record (.started name)) := steady
  have grown : before.clock ≤ (before.record (.started name)).elapse.clock :=
    (elapse_steady entered).1
  have begun : Steady ((before.record (.started name)).elapse.modify name
      ({ · with lastStart := (before.record (.started name)).elapse.clock })) := entered.elapse
  have checked := begun.sanityCheck
  have later := Int.le_trans grown begun.clock_sanityCheck
  unfold PluginMonitor.startPlugin
  dsimp only [time]
  split
  · exact Int.le_refl _
  · split
    · exact grown
    · next arguments _ =>
        generalize PluginMonitor.sanityCheck _ = result at checked later ⊢
        split
        · exact later
        · have forked := checked.clock_forkPlugin (state.path result.2.pluginDirectory)
            state.executable arguments
          split <;> rename_i outcome <;> rw [outcome] at forked <;>
            exact Int.le_trans later forked

/-! ## A turn in the start loop -/

/-- What a pass through the start loop does about a plugin that it does not skip.  When the plugin
is tried, its new start is its delay after the old one.  `waiting` says that the monitor is to run
again. -/
inductive Turn (name : ByteString) (state : PluginState) (before : PluginMonitor)
    (waiting : Bool) (after : PluginMonitor) : Prop
  | tried {now : Int} {started : Bool} {later : PluginState}
      (due : state.lastStart + waitSeconds state.numFailures ≤ now)
      (attempt : Attempt state now (.ok started) later) (entry : after.state[name]? = some later)
      (starts : after.starts.count name = before.starts.count name + 1)
      (again : started = false → waiting = true)
  | waits (early : before.clock < state.lastStart + waitSeconds state.numFailures)
      (untouched : Untouched name before after) (again : waiting = true)

theorem Turn.of_later (untouched : Untouched name before middle)
    (grown : before.clock ≤ middle.clock) (turn : Turn name state middle waiting after) :
    Turn name state before waiting after := by
  cases turn with
  | tried due attempt entry starts again =>
      rw [untouched.starts] at starts
      exact .tried due attempt entry starts again
  | waits early later again =>
      exact .waits (Int.lt_of_le_of_lt grown early) (untouched.trans later) again

theorem Turn.trans {still : Bool} (turn : Turn name state before waiting middle)
    (untouched : Untouched name middle after) (kept : waiting = true → still = true) :
    Turn name state before still after := by
  cases turn with
  | tried due attempt entry starts again =>
      exact .tried due attempt (untouched.entry.trans entry) (untouched.starts.trans starts)
        (kept ∘ again)
  | waits early earlier again => exact .waits early (earlier.trans untouched) (kept again)

theorem untouched_of_completed {rest : List ByteString} {first result : Bool}
    (absent : name ∉ rest)
    (completed : before.startPlugins config rest first = (.ok result, after)) :
    Untouched name before after := by
  have others : Untouched name before (before.startPlugins config rest first).2 :=
    startPlugins_untouched first absent
  rwa [completed] at others

/-- The turn of the plugin itself. -/
theorem startPlugins_turn_self {rest : List ByteString} {first result : Bool}
    (steady : Steady before) (found : before.candidate name = some state) (absent : name ∉ rest)
    (completed : before.startPlugins config (name :: rest) first = (.ok result, after)) :
    Turn name state before result after := by
  rw [startPlugins_candidate config rest first found] at completed
  have elapsed : Untouched name before before.elapse := (elapse_passed before).untouched
  have same := elapsed.candidate.trans found
  split at completed
  · next due =>
      obtain ⟨entry, -, free⟩ := candidate_some same
      obtain ⟨now, later, grown, attempt, left⟩ :=
        startPlugin_attempt config entry free steady.elapse
      have starts := startPlugin_starts config name state before.elapse
      have waited : state.lastStart + waitSeconds state.numFailures ≤ now :=
        Int.le_trans (Int.not_lt.mp due) grown
      split at completed <;> rename_i outcome <;> rw [outcome] at attempt left starts
      · cases completed
      · have others := untouched_of_completed absent completed
        refine .tried waited attempt (others.entry.trans left) ?_ nofun
        rw [others.starts, starts, List.count_cons_self, elapsed.starts]
      · have others := untouched_of_completed absent completed
        refine .tried waited attempt (others.entry.trans left) ?_
          fun _ => (startPlugins_staffs config completed).still rfl
        rw [others.starts, starts, List.count_cons_self, elapsed.starts]
  · next early =>
      have now : before.elapse.clock < state.lastStart + waitSeconds state.numFailures := by
        unfold Due at early
        omega
      exact .waits (Int.lt_of_le_of_lt (elapse_steady steady).1 now)
        (elapsed.trans (untouched_of_completed absent completed))
        ((startPlugins_staffs config completed).still rfl)

theorem startPlugins_turn {names : List ByteString} {first result : Bool}
    (steady : Steady before) (found : before.candidate name = some state)
    (distinct : names.Nodup) (listed : name ∈ names)
    (completed : before.startPlugins config names first = (.ok result, after)) :
    Turn name state before result after := by
  induction names generalizing before first with
  | nil => cases listed
  | cons other rest inductionHypothesis =>
      obtain ⟨absent, distinct⟩ := List.nodup_cons.mp distinct
      by_cases same : other = name
      · subst same
        exact startPlugins_turn_self steady found absent completed
      · have listed : name ∈ rest := by
          rcases List.mem_cons.mp listed with equal | later
          · exact absurd equal.symm same
          · exact later
        cases skipped : before.candidate other with
        | none =>
            simp only [startPlugins, skipped] at completed
            exact inductionHypothesis steady found distinct listed completed
        | some entry =>
            rw [startPlugins_candidate config rest first skipped] at completed
            have elapsed : Untouched name before before.elapse := (elapse_passed before).untouched
            obtain ⟨grown, kept⟩ := elapse_steady steady
            split at completed
            · have started : Untouched name before
                  (before.elapse.startPlugin config other entry).2 :=
                elapsed.trans (startPlugin_untouched (Ne.symm same))
              have stays : Steady (before.elapse.startPlugin config other entry).2 :=
                kept.startPlugin entry
              have later : before.clock ≤ (before.elapse.startPlugin config other entry).2.clock :=
                Int.le_trans grown (kept.clock_startPlugin entry)
              split at completed <;> rename_i outcome <;>
                rw [outcome] at started stays later
              · cases completed
              · exact (inductionHypothesis stays (started.candidate.trans found) distinct listed
                  completed).of_later started later
              · exact (inductionHypothesis stays (started.candidate.trans found) distinct listed
                  completed).of_later started later
            · exact (inductionHypothesis kept (elapsed.candidate.trans found) distinct listed
                completed).of_later elapsed grown

/-- A plugin that the loop skips is left alone. -/
theorem startPlugins_skipped {names : List ByteString} (first : Bool)
    (skipped : before.candidate name = none) :
    Untouched name before (before.startPlugins config names first).2 := by
  induction names generalizing before first with
  | nil => exact ⟨rfl, rfl⟩
  | cons other rest inductionHypothesis =>
      cases found : before.candidate other with
      | none =>
          simp only [startPlugins, found]
          exact inductionHypothesis first skipped
      | some entry =>
          have different : name ≠ other := by
            rintro rfl
            cases skipped.symm.trans found
          have elapsed : Untouched name before before.elapse := (elapse_passed before).untouched
          rw [startPlugins_candidate config rest first found]
          split
          · have started : Untouched name before
                (before.elapse.startPlugin config other entry).2 :=
              elapsed.trans (startPlugin_untouched different)
            split <;> rename_i outcome <;> rw [outcome] at started
            · exact started
            · exact started.trans (inductionHypothesis _ (started.candidate.trans skipped))
            · exact started.trans (inductionHypothesis _ (started.candidate.trans skipped))
          · exact elapsed.trans (inductionHypothesis _ (elapsed.candidate.trans skipped))

/-! ## A call of `runOnce` -/

/-- A call of `runOnce` that finds the flag up and returns gives every plugin its turn, once the
children are waited for and the clock is read: it leaves a plugin alone that it may not start or
that has a process, it tries every other one once when its delay is over, and the monitor wants to
run again when one still has to wait. -/
theorem due_plugins_tried (running : before.shouldRun = true) (steady : Steady before)
    (returned : before.runOnce config = (.ok (), after)) (name : ByteString) :
    before.clock ≤ before.block.reap.clock ∧
      (before.block.reap.candidate name = none → Untouched name before.block.reap after) ∧
      ∀ state, before.block.reap.candidate name = some state →
        Turn name state before.block.reap after.shouldRun after := by
  have blocked : Steady before.block := steady.elapse
  have reaped : Steady before.block.reap := blocked.reapChildren _
  have grown : before.clock ≤ before.block.reap.clock :=
    Int.le_trans (elapse_steady steady).1 (blocked.clock_reapChildren _)
  unfold runOnce at returned
  rw [running, if_neg (by decide)] at returned
  dsimp only at returned
  split at returned
  · cases returned
  · next waiting middle completed =>
      cases returned
      have passed := elapse_passed { middle with shouldRun := waiting }
      have unblocked : Untouched name middle ({ middle with shouldRun := waiting }.unblock) :=
        ⟨congrArg (·[name]?) passed.state, congrArg (·.count name) passed.starts⟩
      refine ⟨grown, fun skipped => ?_, fun state found => ?_⟩
      · have started : Untouched name before.block.reap
            (before.block.reap.startPlugins config before.block.reap.state.keys false).2 :=
          startPlugins_skipped false skipped
        rw [completed] at started
        exact started.trans unblocked
      · have listed : name ∈ before.block.reap.state.keys := by
          rw [TreeMap.mem_keys, TreeMap.mem_iff_isSome_getElem?, (candidate_some found).1]
          rfl
        apply (startPlugins_turn reaped found TreeMap.nodup_keys listed completed).trans unblocked
        intro again
        exact Bool.or_eq_true_iff.mpr (.inl (passed.shouldRun again))

/-- A plugin without a directory is tried at once, and the monitor stays awake. -/
theorem due_plugins_tried_missing :
    let config : ConfigReader := { plugins := [{ name := ascii "p" }] }
    let start := (({ script := List.replicate 6 {} } : PluginMonitor).registerPlugins []
      config.plugins []).2
    ∃ state after, start.runOnce config = (.ok (), after) ∧
      Turn (ascii "p") state start.block.reap after.shouldRun after := by
  intro config start
  have returns : (start.runOnce config).1 = .ok () := by decide +kernel
  have found : start.block.reap.candidate (ascii "p") =
      some { config := { name := ascii "p" }, network := [] } := by decide +kernel
  have steady : Steady start := by
    unfold Steady
    decide
  have returned : start.runOnce config = (.ok (), (start.runOnce config).2) := Prod.ext returns rfl
  exact ⟨_, _, returned, (due_plugins_tried rfl steady returned (ascii "p")).2.2 _ found⟩

theorem pidAt_found (found : before.state[name]? = some state) : before.pidAt name = state.pid := by
  rw [pidAt, found]
  rfl

/-- Where a call leaves a plugin without a process, the monitor wants to run again, and the plugin
was just tried or waits since less than five minutes. -/
theorem Attended.attends (attended : Attended before) (steady : Steady before)
    (returned : before.runOnce config = (.ok (), after)) (found : after.state[name]? = some state)
    (wanted : state.willAutostart = true) :
    state.pid ≠ 0 ∨ after.shouldRun = true ∧
      (after.starts.count name = before.starts.count name + 1 ∨
        before.clock < state.lastStart + 300) := by
  by_cases running : before.shouldRun = true
  · obtain ⟨grown, skips, turns⟩ := due_plugins_tried running steady returned name
    have starts : before.block.reap.starts = before.starts :=
      (reapChildren_starts _ _).trans (elapse_passed before).starts
    cases waits : before.block.reap.candidate name with
    | none =>
        have there : before.block.reap.state[name]? = some state :=
          (skips waits).entry.symm.trans found
        apply Or.inl
        rw [← pidAt_found there]
        apply candidate_none waits
        rw [autostarts, planAt, there]
        exact wanted
    | some old =>
        cases turns old waits with
        | tried due attempt entry count again =>
            cases entry.symm.trans found
            cases attempt with
            | failed => exact .inr ⟨again rfl, .inl (starts ▸ count)⟩
            | running positive => exact .inl positive
        | waits early untouched again =>
            cases (untouched.entry.trans (candidate_some waits).1).symm.trans found
            have bounded := waitSeconds_le state.numFailures
            exact .inr ⟨again, .inr (by omega)⟩
  · have asleep := Bool.eq_false_iff.mpr running
    unfold PluginMonitor.runOnce at returned
    rw [asleep] at returned
    cases returned
    apply Or.inl
    rw [← pidAt_found found]
    apply attended.staffed asleep
    rw [autostarts, planAt, found]
    exact wanted

end PluginMonitor

end DaZeus
