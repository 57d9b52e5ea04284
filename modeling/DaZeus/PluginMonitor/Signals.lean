import DaZeus.PluginMonitor.Ledger
import DaZeus.PluginMonitor.Plans
import DaZeus.PluginMonitor.Wakeup

/-!
# Which processes are signalled

Process ids are given out again once a process was waited for, so a signal must
not come late.  In every run, only a reload sends signals, and only to processes
of the plugins that the configuration does not have, each of which is still that
plugin's: within one reload SIGINT once at most, and SIGKILL once at most after it.
-/

namespace DaZeus

open Library
open Std (TreeMap)
open Ledger (replay)

namespace PluginMonitor

/-- The call loads a configuration that does not have the plugin. -/
def Call.Removes : Call → ByteString → Prop
  | .configReloaded config, name => name ∉ instanceNames config.networks config.plugins
  | .runOnce _, _ => False
  | .wait, _ => False

/-- A process may be signalled: it was there when the call began, for a plugin that the call
removes, and this is logged since.  -/
structure Warranted (call : Call) (before since : List SupervisionEvent) (pid : Nat)
    (hard : Bool) : Prop where
  removed : ∃ name, call.Removes name ∧ (name, pid) ∈ (replay before).processes
  unreaped : .reaped pid ∉ since
  first : .killed pid hard ∉ since
  asked : hard = true → .killed pid false ∈ since

/-- Every signal that was logged could be sent when it was. -/
def Justified (call : Call) (before added : List SupervisionEvent) : Prop :=
  ∀ later pid hard earlier, added = later ++ .killed pid hard :: earlier →
    Warranted call before earlier pid hard

/-- Nobody was signalled. -/
def Silent (added : List SupervisionEvent) : Prop :=
  ∀ pid hard, .killed pid hard ∉ added

variable {call : Call} {config : ConfigReader} {before middle after : PluginMonitor}
  {log added newer : List SupervisionEvent} {name : ByteString} {names : List ByteString}

theorem Silent.append (earlier : Silent added) (later : Silent newer) :
    Silent (newer ++ added) := by
  intro pid hard inside
  rcases List.mem_append.mp inside with new | old
  · exact later pid hard new
  · exact earlier pid hard old

theorem Justified.nil : Justified call log [] := by
  intro later pid hard earlier same
  cases (List.append_ne_nil_of_right_ne_nil later (List.cons_ne_nil _ _)) same.symm

theorem Justified.cons {event : SupervisionEvent} (justified : Justified call log added)
    (warranted : ∀ pid hard, event = .killed pid hard → Warranted call log added pid hard) :
    Justified call log (event :: added) := by
  intro later pid hard earlier same
  cases later with
  | nil =>
      obtain ⟨newest, rfl⟩ := List.cons.inj same
      exact warranted pid hard newest
  | cons _ rest => exact justified rest pid hard earlier (List.cons.inj same).2

theorem Justified.append (justified : Justified call log added) (silent : Silent newer) :
    Justified call log (newer ++ added) := by
  induction newer with
  | nil => exact justified
  | cons event rest inductionHypothesis =>
      apply Justified.cons
      · apply inductionHypothesis
        intro pid hard inside
        exact silent pid hard (List.mem_cons_of_mem _ inside)
      · intro pid hard same
        exact absurd (same ▸ List.mem_cons_self) (silent pid hard)

/-! ## Between the signals -/

/-- Nobody was signalled, and a plugin that may not be started has only processes that it had. -/
structure Tends (before after : PluginMonitor) : Prop where
  plans : SamePlans before after
  since : ∃ added, after.log = added ++ before.log ∧ Silent added ∧
    ∀ name pid, before.autostarts name = false → (name, pid) ∈ (replay after.log).processes →
      (name, pid) ∈ (replay before.log).processes ∧ .reaped pid ∉ added

theorem Tends.same (plans : SamePlans before after) (log : after.log = before.log) :
    Tends before after :=
  ⟨plans, [], log, nofun, fun _ _ _ present => ⟨log ▸ present, nofun⟩⟩

theorem Tends.trans (earlier : Tends before middle) (later : Tends middle after) :
    Tends before after := by
  obtain ⟨firstPlans, first, firstLog, firstSilent, firstKept⟩ := earlier
  obtain ⟨plans, second, log, silent, kept⟩ := later
  refine ⟨firstPlans.trans plans, second ++ first, ?_, firstSilent.append silent, ?_⟩
  · rw [log, firstLog, List.append_assoc]
  · intro name pid unwanted present
    have unwantedStill := (firstPlans.autostarts name).trans unwanted
    obtain ⟨between, unreaped⟩ := kept name pid unwantedStill present
    obtain ⟨there, firstUnreaped⟩ := firstKept name pid unwanted between
    refine ⟨there, fun inside => ?_⟩
    rcases List.mem_append.mp inside with new | old
    · exact unreaped new
    · exact firstUnreaped old

theorem Tends.passed (passed : Passed before after) : Tends before after :=
  .same (.of_state passed.state) passed.log

theorem Tends.modify (monitor : PluginMonitor) (name : ByteString)
    {change : PluginState → PluginState} (kept : KeepsPlan change) :
    Tends monitor (monitor.modify name change) :=
  .same (samePlans_frame.modify monitor name kept) rfl

theorem Tends.reaped (monitor : PluginMonitor) (pid : Nat) :
    Tends monitor (monitor.record (.reaped pid)) := by
  refine ⟨.of_state rfl, [.reaped pid], rfl, by simp [Silent], ?_⟩
  intro name other _ present
  obtain ⟨there, different⟩ := List.mem_filter.mp present
  refine ⟨there, fun inside => ?_⟩
  cases List.mem_singleton.mp inside
  simp at different

theorem Tends.started (monitor : PluginMonitor) (name : ByteString) :
    Tends monitor (monitor.record (.started name)) :=
  ⟨.of_state rfl, [.started name], rfl, by simp [Silent], fun _ _ _ present => ⟨present, by simp⟩⟩

theorem Tends.forkPlugin (path executable : ByteString) (arguments : List ByteString)
    (wanted : before.autostarts (replay before.log).entered = true) :
    Tends before (before.forkPlugin path executable arguments).2 := by
  have elapsed := Tends.passed (elapse_passed before)
  have entered : (replay before.elapse.log).entered = (replay before.log).entered :=
    congrArg (fun log => (replay log).entered) (elapse_passed before).log
  apply elapsed.trans
  unfold PluginMonitor.forkPlugin
  dsimp only
  split
  · exact .same (.refl _) rfl
  · refine ⟨.of_state rfl, [_], rfl, by simp [Silent], ?_⟩
    intro name pid unwanted present
    rcases List.mem_append.mp present with old | new
    · exact ⟨old, by simp⟩
    · cases List.mem_singleton.mp new
      rw [entered, elapsed.plans.autostarts, wanted] at unwanted
      cases unwanted

theorem Tends.startPlugin (config : ConfigReader) {state : PluginState}
    (entry : before.state[name]? = some state) (wanted : state.willAutostart = true) :
    Tends before (before.startPlugin config name state).2 := by
  have failed (other : PluginMonitor) : Tends other (other.pluginFailed name) :=
    .modify other name fun _ => ⟨rfl, rfl, rfl⟩
  have autostarts : before.autostarts name = true := by
    rw [PluginMonitor.autostarts, planAt, entry]
    exact wanted
  have entered := Tends.started before name
  unfold PluginMonitor.startPlugin
  dsimp only [time]
  split
  · exact entered
  · have passed := elapse_passed (before.record (.started name))
    have begun : Tends before ((before.record (.started name)).elapse.modify name
        ({ · with lastStart := (before.record (.started name)).elapse.clock })) :=
      (entered.trans (.passed passed)).trans (.modify _ name fun _ => ⟨rfl, rfl, rfl⟩)
    split
    · exact begun
    · next arguments _ =>
        have checked := sanityCheck_passed ((before.record (.started name)).elapse.modify name
          ({ · with lastStart := (before.record (.started name)).elapse.clock }))
        have sane := begun.trans (.passed checked)
        generalize sanityCheck _ = result at checked sane ⊢
        split
        · exact sane.trans (failed _)
        · have newest : (replay result.2.log).entered = name := by
            rw [checked.log]
            exact congrArg (fun log => (replay log).entered) passed.log
          have forked := sane.trans (.forkPlugin (state.path result.2.pluginDirectory)
            state.executable arguments (by rw [newest, sane.plans.autostarts, autostarts]))
          split <;> rename_i outcome <;> rw [outcome] at forked
          · exact forked.trans (failed _)
          · exact forked.trans (.modify _ name fun _ => ⟨rfl, rfl, rfl⟩)

theorem Tends.wait4 (monitor : PluginMonitor) : Tends monitor monitor.wait4.2 := by
  apply (Tends.passed (elapse_passed monitor)).trans
  unfold PluginMonitor.wait4
  dsimp only
  split
  · exact .same (.refl _) rfl
  · next child _ =>
      have taken : Tends monitor.elapse { monitor.elapse with
          children := monitor.elapse.children.filter (·.pid != child.pid) } :=
        .same (.of_state rfl) rfl
      exact taken.trans (.reaped _ child.pid)

theorem Tends.childExited (name : ByteString) (monitor : PluginMonitor) :
    Tends monitor (monitor.childExited name) := by
  have freed : Tends monitor (monitor.modify name ({ · with pid := 0 })) :=
    .modify monitor name fun _ => ⟨rfl, rfl, rfl⟩
  apply (freed.trans (.passed (elapse_passed _))).trans
  exact .modify _ name fun _ => ⟨rfl, rfl, rfl⟩

theorem Tends.reapChildren (fuel : Nat) (monitor : PluginMonitor) :
    Tends monitor (reapChildren fuel monitor) := by
  induction fuel generalizing monitor with
  | zero => exact .same (.refl monitor) rfl
  | succ fuel inductionHypothesis =>
      have waited := Tends.wait4 monitor
      unfold PluginMonitor.reapChildren
      split <;> rename_i outcome <;> rw [outcome] at waited
      · exact waited
      · split
        · exact waited.trans (inductionHypothesis _)
        · exact (waited.trans (.childExited _ _)).trans (inductionHypothesis _)

theorem Tends.startPlugins (config : ConfigReader) (names : List ByteString) (waiting : Bool)
    (monitor : PluginMonitor) : Tends monitor (monitor.startPlugins config names waiting).2 := by
  induction names generalizing monitor waiting with
  | nil => exact .same (.refl monitor) rfl
  | cons name rest inductionHypothesis =>
      cases found : monitor.candidate name with
      | none =>
          simp only [PluginMonitor.startPlugins, found]
          exact inductionHypothesis waiting monitor
      | some state =>
          rw [startPlugins_candidate config rest waiting found]
          have elapsed := Tends.passed (elapse_passed monitor)
          obtain ⟨entry, wanted, -⟩ := candidate_some found
          rw [← (elapse_passed monitor).state] at entry
          split
          · have started := elapsed.trans (.startPlugin config entry wanted)
            split <;> rename_i outcome <;> rw [outcome] at started
            · exact started
            · exact started.trans (inductionHypothesis _ _)
            · exact started.trans (inductionHypothesis _ _)
          · exact elapsed.trans (inductionHypothesis _ _)

theorem Tends.runOnce (config : ConfigReader) (monitor : PluginMonitor) :
    Tends monitor (monitor.runOnce config).2 := by
  have blocked : Tends monitor monitor.block :=
    (Tends.passed (elapse_passed monitor)).trans (.same (.of_state rfl) rfl)
  unfold PluginMonitor.runOnce
  split
  · exact .same (.refl monitor) rfl
  · have started := (blocked.trans (.reapChildren _ _)).trans
      (.startPlugins config monitor.block.reap.state.keys false monitor.block.reap)
    dsimp only
    split <;> rename_i outcome <;> rw [outcome] at started
    · exact started
    · next waiting after =>
        have woken : Tends after { after with shouldRun := waiting } := .same (.of_state rfl) rfl
        apply (started.trans woken).trans
        exact (Tends.passed (elapse_passed _)).trans (.same (.of_state rfl) rfl)

/-! ## The signals of `kill_plugins` -/

/-- What one of its two loops logs, in its order. -/
def signals (hard : Bool) (names : List ByteString) (monitor : PluginMonitor) :
    List SupervisionEvent :=
  ((names.map monitor.pidAt).filter (· != 0)).map (.killed · hard)

theorem mem_signals {hard : Bool} {monitor : PluginMonitor} {event : SupervisionEvent} :
    event ∈ monitor.signals hard names ↔
      ∃ name ∈ names, monitor.pidAt name ≠ 0 ∧ .killed (monitor.pidAt name) hard = event := by
  simp [signals, and_assoc]

theorem replay_signals (hard : Bool) (names : List ByteString) (monitor : PluginMonitor)
    (log : List SupervisionEvent) :
    (replay ((monitor.signals hard names).reverse ++ log)).processes = (replay log).processes := by
  unfold signals
  rw [← List.map_reverse]
  generalize ((names.map monitor.pidAt).filter (· != 0)).reverse = pids
  induction pids with
  | nil => rfl
  | cons pid rest inductionHypothesis => exact inductionHypothesis

theorem stopPlugins_log (hard : Bool) (names : List ByteString) (stopped : Bool)
    (monitor : PluginMonitor) :
    (monitor.stopPlugins hard names stopped).2.log =
      (monitor.signals hard names).reverse ++ monitor.log := by
  induction names generalizing monitor stopped with
  | nil => rfl
  | cons name rest inductionHypothesis =>
      have passed := elapse_passed monitor
      have others : (monitor.stopPlugin hard (monitor.pidAt name)).signals hard rest =
          monitor.signals hard rest := by
        have same : (monitor.stopPlugin hard (monitor.pidAt name)).pidAt = monitor.pidAt :=
          funext passed.pidAt
        rw [signals, same, signals]
      have log : (monitor.stopPlugin hard (monitor.pidAt name)).log =
          .killed (monitor.pidAt name) hard :: monitor.log :=
        congrArg (_ :: ·) passed.log
      unfold stopPlugins
      split
      · next running =>
          rw [inductionHypothesis, others, log]
          simp [signals, running]
      · next idle =>
          rw [inductionHypothesis]
          simp [signals, not_not.mp idle]

/-- Each process gets one of these signals, since no two plugins share one. -/
theorem Justified.signals {hard : Bool} {monitor : PluginMonitor} (distinct : names.Nodup)
    (consistent : Consistent monitor) (justified : Justified call log added)
    (warranted : ∀ name ∈ names, monitor.pidAt name ≠ 0 →
      Warranted call log added (monitor.pidAt name) hard) :
    Justified call log ((monitor.signals hard names).reverse ++ added) := by
  induction names generalizing added with
  | nil => exact justified
  | cons name rest inductionHypothesis =>
      obtain ⟨absent, distinct⟩ := List.nodup_cons.mp distinct
      by_cases running : monitor.pidAt name = 0
      · have skipped : monitor.signals hard (name :: rest) = monitor.signals hard rest := by
          simp [PluginMonitor.signals, running]
        rw [skipped]
        apply inductionHypothesis distinct justified
        intro other inside
        exact warranted other (List.mem_cons_of_mem _ inside)
      · have sent : monitor.signals hard (name :: rest) =
            .killed (monitor.pidAt name) hard :: monitor.signals hard rest := by
          simp [PluginMonitor.signals, running]
        rw [sent, List.reverse_cons, List.append_assoc]
        have own := warranted name List.mem_cons_self running
        apply inductionHypothesis distinct
        · apply justified.cons
          intro pid kind same
          cases same
          exact own
        · intro other inside busy
          have due := warranted other (List.mem_cons_of_mem _ inside) busy
          refine ⟨due.removed, by simpa using due.unreaped, ?_, ?_⟩
          · intro repeated
            rcases List.mem_cons.mp repeated with newest | older
            · injection newest with same
              rw [consistent.distinct same busy] at inside
              exact absent inside
            · exact due.first older
          · intro kind
            exact List.mem_cons_of_mem _ (due.asked kind)

/-- The signals of a stage, and what is logged until its `runOnce` is over. -/
structure Stage (hard : Bool) (names : List ByteString) (before after : PluginMonitor)
    (quiet : List SupervisionEvent) : Prop where
  log : after.log = quiet ++ ((before.signals hard names).reverse ++ before.log)
  silent : Silent quiet
  kept : ∀ name pid, before.autostarts name = false →
    (name, pid) ∈ (replay after.log).processes →
      (name, pid) ∈ (replay before.log).processes ∧ .reaped pid ∉ quiet

theorem stopStage_stage (config : ConfigReader) (hard : Bool) (names : List ByteString)
    (monitor : PluginMonitor) :
    ∃ quiet, Stage hard names monitor (monitor.stopStage config hard names).2 quiet := by
  have log := stopPlugins_log hard names false monitor
  have plans := samePlans_frame.stopPlugins hard names false monitor
  have processes := replay_signals hard names monitor monitor.log
  unfold stopStage
  dsimp only
  split
  · obtain ⟨-, quiet, later, silent, kept⟩ := (Tends.passed (elapse_passed
      (monitor.stopPlugins hard names false).2)).trans (.runOnce config _)
    refine ⟨quiet, by rw [later, log], silent, fun name pid unwanted present => ?_⟩
    have there := kept name pid ((plans.autostarts name).trans unwanted) present
    rw [log, processes] at there
    exact there
  · refine ⟨[], log, nofun, fun name pid _ present => ⟨?_, nofun⟩⟩
    rw [log, processes] at present
    exact present

/-- The processes of the plugin were asked to stop, and killed unless they did. -/
def Stopped (name : ByteString) (log added : List SupervisionEvent) : Prop :=
  ∀ pid, (name, pid) ∈ (replay log).processes →
    .killed pid false ∈ added ∧ (.killed pid true ∈ added ∨ .reaped pid ∈ added)

theorem Stopped.append (stopped : Stopped name log added) (newer : List SupervisionEvent) :
    Stopped name log (newer ++ added) := by
  intro pid own
  obtain ⟨asked, ended⟩ := stopped pid own
  refine ⟨List.mem_append_right _ asked, ?_⟩
  exact ended.imp (List.mem_append_right _) (List.mem_append_right _)

theorem killPlugins_justified (config : ConfigReader) (recorded : Recorded before)
    (distinct : names.Nodup) (removed : ∀ name ∈ names, call.Removes name)
    (unwanted : ∀ name ∈ names, before.autostarts name = false) :
    ∃ added, (before.killPlugins config names).2.log = added ++ before.log ∧
      Justified call before.log added ∧
        ((before.killPlugins config names).1 = .ok () →
          ∀ name ∈ names, Stopped name before.log added) := by
  have graceful := stopStage_stage config false names before
  have between := recorded.stopStage config false names
  have asked : Justified call before.log ((before.signals false names).reverse ++ []) := by
    apply Justified.signals distinct recorded.toConsistent .nil
    intro name inside running
    have own : (name, before.pidAt name) ∈ (replay before.log).processes :=
      (recorded.agrees _ _).mpr ⟨running, rfl⟩
    exact ⟨⟨name, removed name inside, own⟩, nofun, nofun, nofun⟩
  rw [List.append_nil] at asked
  unfold killPlugins
  split <;> rename_i middle outcome <;> rw [outcome] at graceful between
  · obtain ⟨quiet, graceful⟩ := graceful
    refine ⟨quiet ++ (before.signals false names).reverse, ?_, asked.append graceful.silent, nofun⟩
    rw [graceful.log, List.append_assoc]
  · obtain ⟨quiet, graceful⟩ := graceful
    obtain ⟨last, hard⟩ := stopStage_stage config true names middle
    have remains : ∀ name ∈ names, middle.pidAt name ≠ 0 →
        before.pidAt name = middle.pidAt name ∧ .reaped (middle.pidAt name) ∉ quiet ∧
          (name, middle.pidAt name) ∈ (replay before.log).processes := by
      intro name inside running
      obtain ⟨own, unreaped⟩ := graceful.kept name _ (unwanted name inside)
        ((between.agrees _ _).mpr ⟨running, rfl⟩)
      exact ⟨((recorded.agrees _ _).mp own).2, unreaped, own⟩
    have killed : Justified call before.log ((middle.signals true names).reverse ++
        (quiet ++ (before.signals false names).reverse)) := by
      apply Justified.signals distinct between.toConsistent (asked.append graceful.silent)
      intro name inside running
      obtain ⟨same, unreaped, own⟩ := remains name inside running
      refine ⟨⟨name, removed name inside, own⟩, ?_, ?_, fun _ => ?_⟩
      · simp [unreaped, mem_signals]
      · simp [graceful.silent _ true, mem_signals]
      · apply List.mem_append_right
        rw [List.mem_reverse, mem_signals]
        exact ⟨name, inside, same ▸ running, by rw [same]⟩
    refine ⟨_, ?_, killed.append hard.silent, fun _ name inside pid own => ?_⟩
    · rw [hard.log, graceful.log]
      simp only [List.append_assoc]
    · obtain ⟨positive, entry⟩ := (recorded.agrees name pid).mp own
      constructor
      · simp only [List.mem_append, List.mem_reverse, mem_signals]
        exact .inr (.inr (.inr ⟨name, inside, entry ▸ positive, by rw [entry]⟩))
      · by_cases gone : middle.pidAt name = 0
        · apply Or.inr
          apply List.mem_append_right
          apply List.mem_append_right
          apply Ledger.reaped_of_gone _ own
          rw [List.append_assoc, ← graceful.log]
          intro present
          obtain ⟨nonzero, same⟩ := (between.agrees name pid).mp present
          exact nonzero (same.symm.trans gone)
        · apply Or.inl
          have same := (remains name inside gone).1.symm.trans entry
          simp only [List.mem_append, List.mem_reverse, mem_signals]
          exact .inr (.inl ⟨name, inside, gone, by rw [same]⟩)

/-! ## Calls -/

/-- The active plugins that the configuration does not have may not be started any more. -/
theorem Recorded.disable (names : List ByteString) (recorded : Recorded before) :
    let after := names.foldl
      (fun monitor name => monitor.modify name ({ · with willAutostart := false })) before
    Recorded after ∧ after.log = before.log ∧ ∀ name ∈ names, after.autostarts name = false := by
  refine ⟨?_, ?_, fun name inside => ?_⟩
  · apply List.foldlRecOn (motive := Recorded) _ _ recorded
    intro monitor holds name _
    exact holds.idle (.modify monitor name fun _ => rfl) rfl
  · apply List.foldlRecOn (motive := fun monitor : PluginMonitor =>
      monitor.log = before.log) _ _ rfl
    intro monitor same name _
    exact same
  · rw [autostarts, planAt_disable, if_pos inside]
    cases before.planAt name <;> rfl

theorem Recorded.configReloaded_justified (config : ConfigReader) (recorded : Recorded before) :
    ∃ added, (before.configReloaded config).2.log = added ++ before.log ∧
      Justified (.configReloaded config) before.log added ∧
        ((before.configReloaded config).1 = .ok () →
          ∀ name, (Call.configReloaded config).Removes name → Stopped name before.log added) := by
  have listed := registerPlugins_registered config.networks config.plugins [] before
  have idle := registerPlugins_idle config.networks config.plugins [] before
  have log := registerPlugins_log config.networks config.plugins [] before
  have registered := recorded.idle idle log
  unfold PluginMonitor.configReloaded
  split <;> rename_i outcome <;> rw [outcome] at listed idle log registered
  · exact ⟨[], log, .nil, nofun⟩
  · next seen middle =>
      have removes : ∀ name, (Call.configReloaded config).Removes name ↔ name ∉ seen := by
        cases listed
        exact fun _ => Iff.rfl
      obtain ⟨disabled, kept, unwanted⟩ := registered.disable (middle.pluginsToKill seen)
      have distinct : (middle.pluginsToKill seen).Nodup := TreeMap.nodup_keys.filter _
      have removed : ∀ name ∈ middle.pluginsToKill seen,
          (Call.configReloaded config).Removes name := fun name inside =>
        (removes name).mpr (mem_pluginsToKill.mp inside).1
      obtain ⟨added, killed, justified, stopped⟩ :=
        killPlugins_justified config disabled distinct removed unwanted
      rw [kept, log] at killed justified stopped
      dsimp only
      split <;> rename_i outcome <;> rw [outcome] at killed stopped
      · exact ⟨added, killed, justified, nofun⟩
      · next last =>
          have woken : Tends last { last with shouldRun := true } := .same (.of_state rfl) rfl
          obtain ⟨-, quiet, later, silent, -⟩ := woken.trans (.runOnce config _)
          refine ⟨quiet ++ added, ?_, justified.append silent, fun _ name gone pid own => ?_⟩
          · rw [later, killed, List.append_assoc]
          · obtain ⟨positive, entry⟩ := (registered.agrees name pid).mp (log ▸ own)
            have running : ∃ state, middle.state[name]? = some state ∧ state.pid = pid := by
              unfold pidAt at entry
              cases found : middle.state[name]? with
              | none =>
                  rw [found] at entry
                  exact absurd entry.symm positive
              | some state =>
                  rw [found] at entry
                  exact ⟨state, rfl, entry⟩
            obtain ⟨state, found, rfl⟩ := running
            apply (stopped rfl name ?_).append quiet state.pid own
            exact mem_pluginsToKill.mpr
              ⟨(removes name).mp gone, state, found, .inl (Nat.pos_of_ne_zero positive)⟩

theorem Recorded.call_justified (call : Call) (recorded : Recorded before) :
    ∃ added, (before.call call).log = added ++ before.log ∧ Justified call before.log added ∧
      (before.Returns call → ∀ name, call.Removes name → Stopped name before.log added) := by
  cases call with
  | configReloaded config => exact recorded.configReloaded_justified config
  | runOnce config =>
      obtain ⟨-, quiet, log, silent, -⟩ := Tends.runOnce config before
      have nothing : Justified (.runOnce config) before.log [] := .nil
      have justified := nothing.append silent
      rw [List.append_nil] at justified
      exact ⟨quiet, log, justified, nofun⟩
  | wait => exact ⟨[], (elapse_passed before).log, .nil, nofun⟩

/-- In every run, only a reload signals processes: those of the plugins that the configuration does
not have, each of them at most once softly, and then at most once hard, and never after it was
waited for.  A reload that returns has asked them all to stop, and killed those that did not. -/
theorem removed_plugins_signalled {start : PluginMonitor} (initial : system.initial start)
    (fresh : start.log = []) (run : system.Reaches start before)
    (step : system.step before call after) :
    ∃ added, after.log = added ++ before.log ∧
      (∀ later pid hard earlier, added = later ++ .killed pid hard :: earlier →
        (∃ name, call.Removes name ∧ (name, pid) ∈ (replay before.log).processes) ∧
          .reaped pid ∉ earlier ∧ .killed pid hard ∉ earlier ∧
            (hard = true → .killed pid false ∈ earlier)) ∧
      (before.Returns call → ∀ name, call.Removes name →
        ∀ pid, (name, pid) ∈ (replay before.log).processes →
          .killed pid false ∈ added ∧ (.killed pid true ∈ added ∨ .reaped pid ∈ added)) := by
  have recorded : Recorded before := by
    apply run.invariant ?_ (Recorded.initial initial fresh)
    rintro before call after recorded rfl
    exact recorded.call call
  cases step
  obtain ⟨added, log, justified, stopped⟩ := recorded.call_justified call
  refine ⟨added, log, fun later pid hard earlier same => ?_, stopped⟩
  have warranted := justified later pid hard earlier same
  exact ⟨warranted.removed, warranted.unreaped, warranted.first, warranted.asked⟩

/-- A plugin that ignores SIGINT. -/
theorem removed_plugins_signalled_stubborn :
    let start : PluginMonitor := { script := List.replicate 30 { answer := 7 } }
    let started := start.call (.configReloaded { plugins := [{ name := ascii "p" }] })
    let after := started.call (.configReloaded {})
    ∃ added, after.log = added ++ started.log ∧ .killed 7 false ∈ added ∧
      (.killed 7 true ∈ added ∨ .reaped 7 ∈ added) := by
  intro start started after
  have loaded : system.step start (.configReloaded { plugins := [{ name := ascii "p" }] })
    started := rfl
  have run := (TransitionSystem.Reaches.refl start).snoc loaded
  have emptied : system.step started (.configReloaded {}) after := rfl
  have initial : system.initial start := ⟨rfl, rfl, rfl, rfl, rfl⟩
  have running : (ascii "p", 7) ∈ (replay started.log).processes := by decide +kernel
  have returns : started.Returns (.configReloaded {}) := by
    unfold Returns
    decide +kernel
  have removed : (Call.configReloaded {}).Removes (ascii "p") := List.not_mem_nil
  obtain ⟨added, log, -, stopped⟩ := removed_plugins_signalled initial rfl run emptied
  exact ⟨added, log, stopped returns (ascii "p") removed 7 running⟩

end PluginMonitor

end DaZeus
