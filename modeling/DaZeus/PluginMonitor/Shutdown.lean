import DaZeus.PluginMonitor.Children

/-!
# Shutdown

What the destructor does to the plugins.  `cleanShutdown_iff` says when it
leaves nothing behind: when no entry is due for a start while `kill_plugins`
reaps.  Unlike `configReloaded`, the destructor does not clear
`will_autostart` first.
-/

namespace DaZeus

open Library
open Std (TreeMap)

/-- A start loop leaves the entry alone at this reading of the clock: it may not be started, has a
live process, or waits out its back-off. -/
def PluginState.Rests (state : PluginState) (now : Int) : Prop :=
  state.willAutostart = true → state.pid = 0 →
    now < state.lastStart + waitSeconds state.numFailures

instance (state : PluginState) (now : Int) : Decidable (state.Rests now) :=
  inferInstanceAs (Decidable (_ → _ → _))

namespace PluginMonitor

/-- A start loop that starts nothing: it reads the clock for each entry that may be started and has
no process. -/
def readings (names : List ByteString) (monitor : PluginMonitor) : PluginMonitor :=
  names.foldl (fun monitor name =>
    if (monitor.candidate name).isSome then monitor.elapse else monitor) monitor

/-- Each of the entries rests at its reading of the clock. -/
def AllRest (names : List ByteString) (monitor : PluginMonitor) : Prop :=
  ∀ earlier name later state, names = earlier ++ name :: later →
    monitor.state[name]? = some state → state.Rests (monitor.readings earlier).elapse.clock

/-- A call of `runOnce` has nothing to start: once the children that have exited are reaped, all
entries rest. -/
def QuietRun (monitor : PluginMonitor) : Prop :=
  monitor.shouldRun = true → monitor.block.reap.AllRest monitor.block.reap.state.keys

/-- A call of `runOnce` that starts nothing. -/
def runQuietly (monitor : PluginMonitor) : PluginMonitor :=
  if monitor.shouldRun then
    let reaped := monitor.block.reap
    { reaped.readings reaped.state.keys with
      shouldRun := reaped.state.keys.any fun name => (reaped.candidate name).isSome }.unblock
  else
    monitor

/-- The state in which a stage of `kill_plugins` calls `runOnce`, if it does. -/
def beforeReaping (hard : Bool) (names : List ByteString) (monitor : PluginMonitor) :
    PluginMonitor :=
  (monitor.stopPlugins hard names false).2.elapse

/-- A stage of `kill_plugins` has nothing to stop, or nothing to start when it reaps. -/
def QuietStage (hard : Bool) (names : List ByteString) (monitor : PluginMonitor) : Prop :=
  (∃ name ∈ names, monitor.pidAt name ≠ 0) → (monitor.beforeReaping hard names).QuietRun

/-- A stage of `kill_plugins` that starts nothing. -/
def stopQuietly (hard : Bool) (names : List ByteString) (monitor : PluginMonitor) :
    PluginMonitor :=
  if ∃ name ∈ names, monitor.pidAt name ≠ 0 then
    (monitor.beforeReaping hard names).runQuietly
  else
    monitor

/-- No `runOnce` in the destructor has anything to start. -/
structure Quiet (monitor : PluginMonitor) : Prop where
  graceful : monitor.QuietStage false monitor.state.keys
  hard : (monitor.stopQuietly false monitor.state.keys).QuietStage true monitor.state.keys

/-- The state after the graceful stage. -/
def afterGraceful (config : ConfigReader) (monitor : PluginMonitor) : PluginMonitor :=
  (monitor.stopStage config false monitor.state.keys).2

/-- Every child that is sent SIGKILL has exited by the `runOnce` that follows. -/
def KilledExited (config : ConfigReader) (monitor : PluginMonitor) : Prop :=
  ∀ name ∈ monitor.state.keys, (monitor.afterGraceful config).pidAt name ≠ 0 →
    ∃ child ∈ ((monitor.afterGraceful config).beforeReaping true monitor.state.keys).children,
      child.pid = (monitor.afterGraceful config).pidAt name ∧ child.exited = true

structure CleanShutdown (config : ConfigReader) (monitor : PluginMonitor) : Prop where
  startsNothing : (monitor.destroy config).2.starts = monitor.starts
  stopsAll : KilledExited config monitor → ∀ name, (monitor.destroy config).2.pidAt name = 0

variable {config : ConfigReader} {names : List ByteString} {monitor : PluginMonitor}

/-! ## The start loop -/

theorem readings_cons (name : ByteString) (names : List ByteString) (monitor : PluginMonitor) :
    monitor.readings (name :: names) = (monitor.readings [name]).readings names := rfl

theorem readings_passed (names : List ByteString) (monitor : PluginMonitor) :
    Passed monitor (monitor.readings names) := by
  apply List.foldlRecOn (motive := Passed monitor) _ _ (.refl monitor)
  intro reached passed name _
  split
  · exact passed.trans (elapse_passed reached)
  · exact passed

/-- The entries that a start loop skips rest at all times. -/
theorem rests_iff {name : ByteString} {now : Int} :
    (∀ state, monitor.state[name]? = some state → state.Rests now) ↔
      ∀ state, monitor.candidate name = some state → ¬Due state now := by
  constructor
  · intro rests state found
    obtain ⟨entry, starts, idle⟩ := candidate_some found
    exact not_not.mpr (rests state entry starts idle)
  · intro due state entry starts idle
    have found : monitor.candidate name = some state := by
      simp [PluginMonitor.candidate, entry, starts, idle]
    exact not_not.mp (due state found)

theorem allRest_cons {name : ByteString} :
    monitor.AllRest (name :: names) ↔
      (∀ state, monitor.candidate name = some state → ¬Due state monitor.elapse.clock) ∧
        (monitor.readings [name]).AllRest names := by
  have same := (readings_passed [name] monitor).state
  rw [← rests_iff]
  constructor
  · intro rests
    refine ⟨fun state found => rests [] name names state rfl found, ?_⟩
    intro earlier other later state split found
    rw [same] at found
    rw [← readings_cons]
    exact rests (name :: earlier) other later state (congrArg (name :: ·) split) found
  · rintro ⟨first, rests⟩ earlier other later state split found
    cases earlier with
    | nil =>
        obtain ⟨rfl, -⟩ := List.cons.inj split
        exact first state found
    | cons head earlier =>
        obtain ⟨rfl, tail⟩ := List.cons.inj split
        rw [readings_cons]
        rw [← same] at found
        exact rests earlier other later state tail found

theorem allRest_skip {name : ByteString} (found : monitor.candidate name = none) :
    monitor.AllRest (name :: names) ↔ monitor.AllRest names := by
  have skipped : monitor.readings [name] = monitor := by simp [readings, found]
  simp [allRest_cons, found, skipped]

theorem allRest_candidate {name : ByteString} {state : PluginState}
    (found : monitor.candidate name = some state) :
    monitor.AllRest (name :: names) ↔
      ¬Due state monitor.elapse.clock ∧ monitor.elapse.AllRest names := by
  have read : monitor.readings [name] = monitor.elapse := by simp [readings, found]
  simp [allRest_cons, found, read]

instance decidableAllRest : (names : List ByteString) → (monitor : PluginMonitor) →
    Decidable (monitor.AllRest names)
  | [], _ => .isTrue fun earlier _ _ _ split => by cases earlier <;> cases split
  | name :: rest, monitor =>
      match found : monitor.candidate name with
      | none =>
          have := decidableAllRest rest monitor
          decidable_of_iff (monitor.AllRest rest) (allRest_skip found).symm
      | some state =>
          have := decidableAllRest rest monitor.elapse
          decidable_of_iff (¬Due state monitor.elapse.clock ∧ monitor.elapse.AllRest rest)
            (allRest_candidate found).symm

instance (monitor : PluginMonitor) : Decidable monitor.QuietRun :=
  inferInstanceAs (Decidable (_ → _))

instance (hard : Bool) (names : List ByteString) (monitor : PluginMonitor) :
    Decidable (monitor.QuietStage hard names) :=
  inferInstanceAs (Decidable (_ → _))

theorem startPlugins_starts (config : ConfigReader) (names : List ByteString) (waiting : Bool)
    (monitor : PluginMonitor) :
    monitor.starts <:+ (monitor.startPlugins config names waiting).2.starts ∧
      ((monitor.startPlugins config names waiting).2.starts = monitor.starts ↔
        monitor.AllRest names) := by
  induction names generalizing monitor waiting with
  | nil =>
      refine ⟨List.suffix_refl _, iff_of_true rfl fun earlier _ _ _ split => ?_⟩
      cases earlier <;> cases split
  | cons name rest inductionHypothesis =>
      cases found : monitor.candidate name with
      | none =>
          simp only [startPlugins, found, allRest_skip found]
          exact inductionHypothesis waiting monitor
      | some state =>
          simp only [startPlugins_candidate config rest waiting found, allRest_candidate found]
          rw [← (elapse_passed monitor).starts]
          by_cases due : Due state monitor.elapse.clock
          · have started := startPlugin_starts config name state monitor.elapse
            have more {after : PluginMonitor}
                (longer : name :: monitor.elapse.starts <:+ after.starts) :
                monitor.elapse.starts <:+ after.starts ∧
                  (after.starts = monitor.elapse.starts ↔
                    ¬Due state monitor.elapse.clock ∧ monitor.elapse.AllRest rest) := by
              refine ⟨(List.suffix_cons _ _).trans longer, fun same => ?_, fun quiet => ?_⟩
              · rw [same] at longer
                exact absurd longer.length_le (Nat.not_succ_le_self _)
              · exact absurd due quiet.1
            rw [if_pos due]
            split <;> rename_i outcome <;> rw [outcome] at started <;> apply more
            · exact started ▸ List.suffix_refl (name :: monitor.elapse.starts)
            · exact started ▸ (inductionHypothesis waiting _).1
            · exact started ▸ (inductionHypothesis true _).1
          · rw [if_neg due]
            have later := inductionHypothesis true monitor.elapse
            exact ⟨later.1, later.2.trans ⟨fun quiet => ⟨due, quiet⟩, And.right⟩⟩

/-- A start loop that starts nothing only lets time pass. -/
theorem AllRest.startPlugins (config : ConfigReader) (waiting : Bool)
    (quiet : monitor.AllRest names) :
    monitor.startPlugins config names waiting =
      (.ok (waiting || names.any fun name => (monitor.candidate name).isSome),
        monitor.readings names) := by
  induction names generalizing monitor waiting with
  | nil => rw [PluginMonitor.startPlugins, List.any_nil, Bool.or_false, readings, List.foldl_nil]
  | cons name rest inductionHypothesis =>
      rw [readings_cons]
      cases found : monitor.candidate name with
      | none =>
          have skipped : monitor.readings [name] = monitor := by simp [readings, found]
          simp only [PluginMonitor.startPlugins, found]
          rw [inductionHypothesis waiting ((allRest_skip found).mp quiet), skipped]
          simp [found]
      | some state =>
          have read : monitor.readings [name] = monitor.elapse := by simp [readings, found]
          obtain ⟨first, later⟩ := (allRest_candidate found).mp quiet
          rw [startPlugins_candidate config rest waiting found, if_neg first,
            inductionHypothesis true later, read]
          simp [found]

/-! ## Starts -/

theorem block_starts (monitor : PluginMonitor) : monitor.block.starts = monitor.starts :=
  (elapse_passed monitor).starts

theorem runOnce_starts (config : ConfigReader) (monitor : PluginMonitor) :
    monitor.starts <:+ (monitor.runOnce config).2.starts ∧
      ((monitor.runOnce config).2.starts = monitor.starts ↔ monitor.QuietRun) := by
  unfold runOnce QuietRun
  cases running : monitor.shouldRun with
  | false => exact ⟨List.suffix_refl _, by simp⟩
  | true =>
      have reaped : monitor.block.reap.starts = monitor.starts :=
        (reapChildren_starts _ _).trans (block_starts monitor)
      have started := startPlugins_starts config monitor.block.reap.state.keys false
        monitor.block.reap
      rw [reaped] at started
      simp only [Bool.not_true, Bool.false_eq_true, if_false, true_implies]
      split <;> rename_i outcome <;> rw [outcome] at started
      · exact started
      · next waiting after =>
          have unblocked : ({ after with shouldRun := waiting }.unblock).starts = after.starts :=
            (elapse_passed { after with shouldRun := waiting }).starts
          rw [unblocked]
          exact started

theorem stopPlugins_starts (hard : Bool) (names : List ByteString) (stopped : Bool)
    (monitor : PluginMonitor) :
    (monitor.stopPlugins hard names stopped).2.starts = monitor.starts := by
  induction names generalizing monitor stopped with
  | nil => rfl
  | cons name rest inductionHypothesis =>
      unfold stopPlugins
      split
      · exact (inductionHypothesis true _).trans (elapse_passed monitor).starts
      · exact inductionHypothesis stopped monitor

theorem stopPlugins_stopped (hard : Bool) (names : List ByteString) (stopped : Bool)
    (monitor : PluginMonitor) :
    (monitor.stopPlugins hard names stopped).1 = true ↔
      stopped = true ∨ ∃ name ∈ names, monitor.pidAt name ≠ 0 := by
  induction names generalizing monitor stopped with
  | nil => simp [stopPlugins]
  | cons name rest inductionHypothesis =>
      unfold stopPlugins
      split
      · next running =>
          rw [inductionHypothesis]
          simp [running]
      · next idle =>
          rw [inductionHypothesis]
          simp only [List.mem_cons, exists_eq_or_imp, idle, false_or]

theorem stopStage_starts (config : ConfigReader) (hard : Bool) (names : List ByteString)
    (monitor : PluginMonitor) :
    monitor.starts <:+ (monitor.stopStage config hard names).2.starts ∧
      ((monitor.stopStage config hard names).2.starts = monitor.starts ↔
        monitor.QuietStage hard names) := by
  have running := stopPlugins_stopped hard names false monitor
  rw [or_iff_right Bool.false_ne_true] at running
  have stopped := stopPlugins_starts hard names false monitor
  unfold stopStage QuietStage beforeReaping
  rw [← running]
  dsimp only
  split
  · next some =>
      have run := runOnce_starts config (monitor.stopPlugins hard names false).2.elapse
      rw [(elapse_passed _).starts, stopped] at run
      simpa [some] using run
  · next none =>
      rw [stopped]
      exact ⟨List.suffix_refl _, by simp [none]⟩

/-! ## Processes -/

theorem unblock_pidAt (monitor : PluginMonitor) (name : ByteString) :
    monitor.unblock.pidAt name = monitor.pidAt name :=
  (elapse_passed monitor).pidAt name

/-- A quiet call returns, and starts nothing. -/
theorem QuietRun.runOnce (config : ConfigReader) (quiet : monitor.QuietRun) :
    monitor.runOnce config = (.ok (), monitor.runQuietly) := by
  unfold PluginMonitor.runOnce runQuietly
  cases running : monitor.shouldRun with
  | false => rfl
  | true =>
      have loop := (quiet running).startPlugins config false
      simp only [Bool.not_true, Bool.false_eq_true, if_false, if_true, loop, Bool.false_or]

/-- It keeps the processes that it does not reap. -/
theorem runQuietly_pidAt (awake : monitor.shouldRun = true) (name : ByteString) :
    monitor.runQuietly.pidAt name = monitor.block.reap.pidAt name := by
  unfold runQuietly
  rw [if_pos awake]
  dsimp only
  rw [unblock_pidAt]
  exact (readings_passed _ _).pidAt name

/-- The entries keep their processes or lose them. -/
theorem QuietRun.pidAt (config : ConfigReader) (quiet : QuietRun monitor)
    (settled : Settled monitor) (name : ByteString) :
    (monitor.runOnce config).2.pidAt name = 0 ∨
      (monitor.runOnce config).2.pidAt name = monitor.pidAt name := by
  rw [quiet.runOnce config]
  cases running : monitor.shouldRun with
  | false =>
      unfold runQuietly
      rw [running]
      exact .inr rfl
  | true =>
      dsimp only
      rw [runQuietly_pidAt running]
      have blocked := settled.block running
      have same : monitor.block.pidAt name = monitor.pidAt name :=
        (elapse_passed monitor).pidAt name
      rw [← same]
      exact (reapChildren_diminished _ blocked.toConsistent).pidAt name

theorem stopPlugins_none {hard : Bool} (none : ¬∃ name ∈ names, monitor.pidAt name ≠ 0)
    (stopped : Bool) : monitor.stopPlugins hard names stopped = (stopped, monitor) := by
  induction names with
  | nil => rfl
  | cons name rest inductionHypothesis =>
      have idle : ¬monitor.pidAt name ≠ 0 := fun running =>
        none ⟨name, List.mem_cons_self, running⟩
      rw [stopPlugins, if_neg idle]
      exact inductionHypothesis fun ⟨other, member, running⟩ =>
        none ⟨other, List.mem_cons_of_mem _ member, running⟩

theorem QuietStage.stopStage (config : ConfigReader) {hard : Bool}
    (quiet : monitor.QuietStage hard names) :
    monitor.stopStage config hard names = (.ok (), monitor.stopQuietly hard names) := by
  unfold PluginMonitor.stopStage stopQuietly
  by_cases running : ∃ name ∈ names, monitor.pidAt name ≠ 0
  · have stopped := (stopPlugins_stopped hard names false monitor).mpr (.inr running)
    dsimp only
    rw [if_pos stopped, if_pos running]
    exact (quiet running).runOnce config
  · rw [stopPlugins_none running, if_neg running]
    rfl

theorem QuietStage.pidAt (config : ConfigReader) {hard : Bool}
    (quiet : monitor.QuietStage hard names) (settled : Settled monitor) (name : ByteString) :
    (monitor.stopQuietly hard names).pidAt name = 0 ∨
      (monitor.stopQuietly hard names).pidAt name = monitor.pidAt name := by
  unfold stopQuietly
  split
  · next running =>
      have passed : Idle monitor (monitor.beforeReaping hard names) :=
        (stopPlugins_idle hard names false monitor).trans (elapse_passed _).toIdle
      have kept := (quiet running).pidAt config (settled.idle passed) name
      rw [(quiet running).runOnce config, passed.pidAt] at kept
      exact kept
  · exact .inr rfl

/-- Once all children have exited, a quiet stage reaps them all. -/
theorem QuietStage.reapsAll (config : ConfigReader) {hard : Bool}
    (quiet : monitor.QuietStage hard names) (settled : Settled monitor)
    (exited : ∀ name, monitor.pidAt name ≠ 0 → name ∈ names ∧
      ∃ child ∈ (monitor.beforeReaping hard names).children,
        child.pid = monitor.pidAt name ∧ child.exited = true) (name : ByteString) :
    (monitor.stopQuietly hard names).pidAt name = 0 := by
  by_contra remains
  have running : monitor.pidAt name ≠ 0 := by
    rcases quiet.pidAt config settled name with none | same
    · exact absurd none remains
    · rwa [← same]
  obtain ⟨member, child, inside, pid, ended⟩ := exited name running
  have passed : Idle monitor (monitor.beforeReaping hard names) :=
    (stopPlugins_idle hard names false monitor).trans (elapse_passed _).toIdle
  have settled := settled.idle passed
  -- SIGCHLD has set `should_run_`, so that the call does reap
  have awake := settled.signalled child inside ended
  have blocked := settled.block awake
  have diminished := reapChildren_diminished
    ((monitor.beforeReaping hard names).block.children.length + 1) blocked.toConsistent
  have final : (monitor.stopQuietly hard names).pidAt name =
      (monitor.beforeReaping hard names).block.reap.pidAt name := by
    rw [stopQuietly, if_pos ⟨name, member, running⟩]
    exact runQuietly_pidAt awake name
  rw [final] at remains
  have consistent := diminished.consistent blocked.toConsistent
  have same : (monitor.beforeReaping hard names).block.reap.pidAt name = child.pid := by
    rcases diminished.pidAt name with none | same
    · exact absurd none remains
    · rw [pid, ← passed.pidAt]
      exact same.trans ((elapse_passed (monitor.beforeReaping hard names)).pidAt name)
  have kept : child ∈ (monitor.beforeReaping hard names).block.reap.children := by
    apply diminished.stays child _ ended
    · rw [← same]
      exact (consistent.recorded remains).mp ⟨name, rfl⟩
    · exact (elapse_passed (monitor.beforeReaping hard names)).stays child inside ended
  rw [reap_exhausts _ child kept] at ended
  cases ended

/-! ## The destructor -/

/-- After a quiet first stage the second one follows. -/
theorem QuietStage.killPlugins (config : ConfigReader)
    (quiet : monitor.QuietStage false names) :
    monitor.killPlugins config names =
      (monitor.stopQuietly false names).stopStage config true names := by
  rw [PluginMonitor.killPlugins, quiet.stopStage config]

theorem killPlugins_starts (config : ConfigReader) (names : List ByteString)
    (monitor : PluginMonitor) :
    (monitor.killPlugins config names).2.starts = monitor.starts ↔
      monitor.QuietStage false names ∧
        (monitor.stopQuietly false names).QuietStage true names := by
  have graceful := stopStage_starts config false names monitor
  have hard := stopStage_starts config true names (monitor.stopStage config false names).2
  constructor
  · intro same
    have quiet : monitor.QuietStage false names := by
      rw [← graceful.2]
      unfold killPlugins at same
      split at same <;> rename_i outcome <;> rw [outcome] at graceful hard ⊢
      · exact same
      · rw [same] at hard
        exact graceful.1.eq_of_length_le hard.1.length_le |>.symm
    have first := graceful.2.mpr quiet
    rw [quiet.killPlugins config] at same
    rw [quiet.stopStage config] at hard first
    exact ⟨quiet, hard.2.mp (same.trans first.symm)⟩
  · rintro ⟨quiet, last⟩
    have first := graceful.2.mpr quiet
    rw [quiet.stopStage config] at hard first
    rw [quiet.killPlugins config]
    exact (hard.2.mpr last).trans first

theorem mem_keys_of_pidAt {name : ByteString} (running : monitor.pidAt name ≠ 0) :
    name ∈ monitor.state.keys := by
  rw [TreeMap.mem_keys]
  by_contra absent
  rw [pidAt, TreeMap.getElem?_eq_none absent] at running
  exact running rfl

/-- The destructor starts no plugin, and leaves none that exited after SIGKILL, if and only if each
time that it reaps, every entry that may be started and has no process by then waits out its
back-off. -/
theorem cleanShutdown_iff (config : ConfigReader) {monitor : PluginMonitor}
    (reached : system.Reachable monitor) :
    CleanShutdown config monitor ↔ monitor.Quiet := by
  have settled := system_settled reached
  constructor
  · rintro ⟨startsNothing, -⟩
    obtain ⟨graceful, hard⟩ := (killPlugins_starts config _ monitor).mp startsNothing
    exact ⟨graceful, hard⟩
  · rintro ⟨graceful, hard⟩
    refine ⟨(killPlugins_starts config _ monitor).mpr ⟨graceful, hard⟩, fun exited name => ?_⟩
    have later := settled.stopStage config false monitor.state.keys
    rw [graceful.stopStage config] at later
    rw [KilledExited, afterGraceful, graceful.stopStage config] at exited
    rw [destroy, graceful.killPlugins config, hard.stopStage config]
    apply hard.reapsAll config later
    intro name running
    have before : monitor.pidAt name ≠ 0 := by
      rcases graceful.pidAt config settled name with none | same
      · exact absurd none running
      · rwa [← same]
    exact ⟨mem_keys_of_pidAt before, exited name (mem_keys_of_pidAt before) running⟩

/-- One global plugin. -/
def onePlugin : ConfigReader := { plugins := [{ name := ascii "p" }], isRead := true }

/-- A monitor that is about to start it as process 7 at time 0, and what comes then. -/
def constructed (rest : List Moment) : PluginMonitor :=
  { script := [{}, {}, {}, {}, { answer := 1 }, { answer := 1 }, { answer := 1 },
      { answer := 7 }, {}] ++ rest }

def supervising (rest : List Moment) : PluginMonitor :=
  ((constructed rest).configReloaded onePlugin).2

theorem supervising_reachable (rest : List Moment) : system.Reachable (supervising rest) := by
  have initial : system.initial (constructed rest) := ⟨rfl, rfl, rfl, rfl, rfl⟩
  exact (TransitionSystem.Reachable.start initial).snoc (.configReloaded onePlugin) rfl

/-- Two seconds after its start the plugin exits on SIGINT. -/
theorem recent_plugin_stopped :
    CleanShutdown onePlugin (supervising [{}, { events := [.clock 2, .exit 7] }]) :=
  (cleanShutdown_iff onePlugin (supervising_reachable _)).mpr
    ⟨by decide +kernel, by decide +kernel⟩

/-- After a hundred seconds its restart is due as soon as it exits. -/
theorem old_plugin_restarted :
    system.Reachable (supervising [{}, { events := [.clock 100, .exit 7] }]) ∧
      ¬CleanShutdown onePlugin (supervising [{}, { events := [.clock 100, .exit 7] }]) :=
  ⟨supervising_reachable _, fun clean => absurd clean.startsNothing (by decide +kernel)⟩

end PluginMonitor

end DaZeus
