import DaZeus.Library.TransitionSystem
import DaZeus.PluginMonitor.Run

/-!
# Processes and entries

The processes in the entries are the children of the bot, each in one entry,
and a child that exited has made the monitor run again or will.  `Settled`
holds of every state that the monitor is left in between two calls, whether
they returned or not.
-/

namespace DaZeus

open Library
open Std (TreeMap)

namespace PluginMonitor

def childPids (monitor : PluginMonitor) : List Nat := monitor.children.map (·.pid)

/-- The processes in the entries are the children, and no two entries share one. -/
structure Consistent (monitor : PluginMonitor) : Prop where
  distinct : ∀ {first second}, monitor.pidAt first = monitor.pidAt second →
    monitor.pidAt first ≠ 0 → first = second
  recorded : ∀ {pid}, pid ≠ 0 →
    ((∃ name, monitor.pidAt name = pid) ↔ pid ∈ monitor.childPids)
  positive : 0 ∉ monitor.childPids
  unique : monitor.childPids.Nodup
  held : monitor.pending = true → monitor.blocked = true

/-- No exited child is forgotten while the signal is blocked. -/
def Caught (monitor : PluginMonitor) : Prop :=
  ∀ child ∈ monitor.children, child.exited = true → monitor.pending = true

/-- Between the `sigprocmask` calls of `runOnce`. -/
structure Running (monitor : PluginMonitor) : Prop extends Consistent monitor where
  blocked : monitor.blocked = true
  shouldRun : monitor.shouldRun = true

/-- Between two calls.  The signal is still blocked after a call that did not return. -/
structure Settled (monitor : PluginMonitor) : Prop extends Consistent monitor where
  awake : monitor.blocked = true → monitor.shouldRun = true
  signalled : ∀ child ∈ monitor.children, child.exited = true → monitor.shouldRun = true

variable {before after : PluginMonitor} {name : ByteString} {pid : Nat}

theorem Consistent.idle (consistent : Consistent before) (idle : Idle before after) :
    Consistent after where
  distinct {first second} same positive := by
    rw [idle.pidAt] at positive
    rw [idle.pidAt, idle.pidAt] at same
    exact consistent.distinct same positive
  recorded positive := by
    simp only [idle.pidAt, childPids, idle.pids]
    exact consistent.recorded positive
  positive := by
    rw [childPids, idle.pids]
    exact consistent.positive
  unique := by
    rw [childPids, idle.pids]
    exact consistent.unique
  held raised := by
    rw [idle.blocked]
    by_contra unblocked
    have unblocked := Bool.eq_false_iff.mpr unblocked
    rw [idle.delivered unblocked] at raised
    exact absurd (consistent.held raised) (by simp [unblocked])

theorem Running.idle (running : Running before) (idle : Idle before after) : Running after :=
  ⟨running.toConsistent.idle idle, idle.blocked.trans running.blocked,
    idle.shouldRun running.shouldRun⟩

theorem Caught.idle (caught : Caught before) (blocked : before.blocked = true)
    (idle : Idle before after) : Caught after := by
  intro child inside exited
  rcases idle.exits child inside exited with earlier | signalled
  · exact idle.pending (caught child earlier exited)
  · rwa [Signalled, if_pos (idle.blocked.trans blocked)] at signalled

theorem Settled.idle (settled : Settled before) (idle : Idle before after) : Settled after where
  toConsistent := settled.toConsistent.idle idle
  awake blocked := idle.shouldRun (settled.awake (idle.blocked.symm.trans blocked))
  signalled child inside exited := by
    rcases idle.exits child inside exited with earlier | signalled
    · exact idle.shouldRun (settled.signalled child earlier exited)
    · unfold Signalled at signalled
      split at signalled
      · next blocked =>
          exact idle.shouldRun (settled.awake (idle.blocked.symm.trans blocked))
      · exact signalled

theorem Forked.childPids (forked : Forked name pid before after) :
    after.childPids = before.childPids ++ [pid] := by
  rw [PluginMonitor.childPids, forked.children, List.map_append]
  rfl

/-- A process that was forked for an entry without one. -/
theorem Consistent.forked (consistent : Consistent before) (free : before.pidAt name = 0)
    (forked : Forked name pid before after) : Consistent after where
  distinct {first second} same positive := by
    have fresh (other : ByteString) : pid ≠ before.pidAt other := by
      rintro rfl
      exact forked.fresh ((consistent.recorded forked.positive).mp ⟨other, rfl⟩)
    rw [forked.pidAt, forked.pidAt] at same
    rw [forked.pidAt] at positive
    split at same <;> split at same
    · next first second => exact first.trans second.symm
    · exact absurd same (fresh second)
    · exact absurd same.symm (fresh first)
    · next different _ =>
        rw [if_neg different] at positive
        exact consistent.distinct same positive
  recorded {other} positive := by
    rw [forked.childPids, List.mem_append, List.mem_singleton, ← consistent.recorded positive]
    constructor
    · rintro ⟨entry, rfl⟩
      rw [forked.pidAt]
      split
      · exact .inr rfl
      · exact .inl ⟨entry, rfl⟩
    · rintro (⟨entry, rfl⟩ | rfl)
      · refine ⟨entry, ?_⟩
        rw [forked.pidAt, if_neg]
        rintro rfl
        exact positive free
      · exact ⟨name, by rw [forked.pidAt, if_pos rfl]⟩
  positive := by
    rw [forked.childPids, List.mem_append, List.mem_singleton]
    rintro (old | new)
    · exact consistent.positive old
    · exact forked.positive new.symm
  unique := by
    rw [forked.childPids]
    refine List.nodup_append.mpr ⟨consistent.unique, List.nodup_singleton _, ?_⟩
    rintro old inside _ new rfl
    rw [List.mem_singleton.mp new] at inside
    exact forked.fresh inside
  held raised := by
    rw [forked.pending] at raised
    rw [forked.blocked]
    exact consistent.held raised

theorem Running.forked (running : Running before) (free : before.pidAt name = 0)
    (forked : Forked name pid before after) : Running after :=
  ⟨running.toConsistent.forked free forked, forked.blocked.trans running.blocked,
    forked.shouldRun.trans running.shouldRun⟩

theorem Caught.forked (caught : Caught before) (forked : Forked name pid before after) :
    Caught after := by
  intro child inside exited
  rw [forked.children, List.mem_append, List.mem_singleton] at inside
  rw [forked.pending]
  rcases inside with old | rfl
  · exact caught child old exited
  · cases exited

/-! ## The reap loop -/

/-- What the reap loop can do: children are taken away, and those that exited before it
are the first to go. -/
structure Diminished (before after : PluginMonitor) : Prop where
  consistent : Consistent before → Consistent after
  blocked : after.blocked = before.blocked
  kept : before.blocked = true → after.shouldRun = before.shouldRun
  pidAt : ∀ name, after.pidAt name = 0 ∨ after.pidAt name = before.pidAt name
  pids : after.childPids ⊆ before.childPids
  stays : ∀ child ∈ before.children, child.exited = true → child.pid ∈ after.childPids →
    child ∈ after.children

theorem Diminished.idle (idle : Idle before after) : Diminished before after where
  consistent consistent := consistent.idle idle
  blocked := idle.blocked
  kept := idle.kept
  pidAt name := .inr (idle.pidAt name)
  pids := by
    rw [childPids, childPids, idle.pids]
    exact List.Subset.refl _
  stays child inside exited _ := idle.stays child inside exited

theorem Diminished.trans {first second third : PluginMonitor}
    (earlier : Diminished first second) (later : Diminished second third) :
    Diminished first third where
  consistent := later.consistent ∘ earlier.consistent
  blocked := later.blocked.trans earlier.blocked
  kept blocked := (later.kept (earlier.blocked.trans blocked)).trans (earlier.kept blocked)
  pidAt name := by
    rcases later.pidAt name with none | same
    · exact .inl none
    · rw [same]
      exact earlier.pidAt name
  pids := List.Subset.trans later.pids earlier.pids
  stays child inside exited remains :=
    later.stays child (earlier.stays child inside exited (later.pids remains)) exited remains

theorem wait4_none (empty : before.wait4 = (none, after)) :
    after = before.elapse ∧ ∀ child ∈ after.children, child.exited = false := by
  unfold wait4 at empty
  dsimp only at empty
  split at empty
  · next nothing =>
      cases empty
      refine ⟨rfl, fun child inside => ?_⟩
      by_contra exited
      rw [List.getElem?_eq_none_iff] at nothing
      have zombie : child ∈ before.elapse.children.filter (·.exited) :=
        List.mem_filter.mpr ⟨inside, by simpa using exited⟩
      exact absurd (Nat.mod_lt _ (List.length_pos_of_mem zombie)) (Nat.not_lt.mpr nothing)
  · cases empty

theorem wait4_some (waited : before.wait4 = (some pid, after)) :
    pid ∈ before.elapse.childPids ∧ after = { before.elapse with
      children := before.elapse.children.filter (·.pid != pid) }.record (.reaped pid) := by
  unfold wait4 at waited
  dsimp only at waited
  split at waited
  · cases waited
  · next child found =>
      cases waited
      exact ⟨List.mem_map_of_mem (List.mem_filter.mp (List.mem_of_getElem? found)).1, rfl⟩

/-- The child of an entry was taken away, and the entry is left without one. -/
structure Reaped (name : ByteString) (pid : Nat) (before after : PluginMonitor) : Prop where
  positive : pid ≠ 0
  entry : before.pidAt name = pid
  children : after.children = before.children.filter (·.pid != pid)
  pidAt : ∀ other, after.pidAt other = if other = name then 0 else before.pidAt other
  blocked : after.blocked = before.blocked
  pending : after.pending = before.pending
  shouldRun : after.shouldRun = before.shouldRun

theorem reaped_modify (monitor : PluginMonitor) (entry : monitor.pidAt name = pid)
    (positive : pid ≠ 0) :
    Reaped name pid monitor (({ monitor with
      children := monitor.children.filter (·.pid != pid) }.record (.reaped pid)).modify name
        ({ · with pid := 0 })) := by
  refine ⟨positive, entry, rfl, fun other => ?_, rfl, rfl, rfl⟩
  have none (state : Option PluginState) :
      (state.map fun state => ({ state with pid := 0 } : PluginState).pid).getD 0 = 0 := by
    cases state <;> rfl
  rw [pidAt_modify]
  split
  · exact none _
  · rfl

namespace Reaped

variable (reaped : Reaped name pid before after)

include reaped

theorem sublist : after.childPids.Sublist before.childPids := by
  rw [childPids, reaped.children]
  exact List.filter_sublist.map _

theorem mem_childPids (other : Nat) :
    other ∈ after.childPids ↔ other ∈ before.childPids ∧ other ≠ pid := by
  rw [childPids, reaped.children]
  simp only [childPids, List.mem_map, List.mem_filter, bne_iff_ne, ne_eq]
  constructor
  · rintro ⟨child, ⟨inside, different⟩, rfl⟩
    exact ⟨⟨child, inside, rfl⟩, different⟩
  · rintro ⟨⟨child, inside, rfl⟩, different⟩
    exact ⟨child, ⟨inside, different⟩, rfl⟩

theorem consistent (consistent : Consistent before) : Consistent after where
  distinct {first second} same nonzero := by
    rw [reaped.pidAt] at nonzero
    rw [reaped.pidAt, reaped.pidAt] at same
    split at same
    · next first => exact absurd (if_pos first) nonzero
    · next first =>
        rw [if_neg first] at nonzero
        split at same
        · exact absurd same nonzero
        · exact consistent.distinct same nonzero
  recorded {other} nonzero := by
    rw [reaped.mem_childPids, ← consistent.recorded nonzero]
    constructor
    · rintro ⟨holder, rfl⟩
      rw [reaped.pidAt] at nonzero ⊢
      split at nonzero
      · exact absurd rfl nonzero
      · next different =>
          rw [if_neg different]
          refine ⟨⟨holder, rfl⟩, fun same => different ?_⟩
          exact consistent.distinct (same.trans reaped.entry.symm) nonzero
    · rintro ⟨⟨holder, rfl⟩, different⟩
      refine ⟨holder, ?_⟩
      rw [reaped.pidAt, if_neg]
      rintro rfl
      exact different reaped.entry
  positive inside := consistent.positive (reaped.sublist.subset inside)
  unique := reaped.sublist.nodup consistent.unique
  held raised := by
    rw [reaped.pending] at raised
    rw [reaped.blocked]
    exact consistent.held raised

theorem diminished : Diminished before after where
  consistent := reaped.consistent
  blocked := reaped.blocked
  kept _ := reaped.shouldRun
  pidAt other := by
    rw [reaped.pidAt]
    exact (ite_eq_or_eq _ _ _)
  pids := reaped.sublist.subset
  stays child inside exited remains := by
    rw [reaped.children]
    have different := ((reaped.mem_childPids _).mp remains).2
    exact List.mem_filter.mpr ⟨inside, by simpa using different⟩

end Reaped

theorem findPid_some (found : before.findPid pid = some name) : before.pidAt name = pid := by
  simpa using List.find?_some found

theorem Consistent.findPid (consistent : Consistent before) (inside : pid ∈ before.childPids) :
    ∃ name, before.findPid pid = some name := by
  have positive : pid ≠ 0 := by
    rintro rfl
    exact consistent.positive inside
  obtain ⟨name, entry⟩ := (consistent.recorded positive).mpr inside
  rw [← Option.isSome_iff_exists, PluginMonitor.findPid, List.find?_isSome]
  refine ⟨name, ?_, by simpa using entry⟩
  rw [TreeMap.mem_keys]
  by_contra absent
  rw [pidAt, TreeMap.getElem?_eq_none absent] at entry
  exact positive entry.symm

theorem childExited_idle (name : ByteString) (monitor : PluginMonitor) :
    Idle (monitor.modify name ({ · with pid := 0 })) (monitor.childExited name) :=
  (elapse_passed _).toIdle.trans (.modify _ name fun _ => rfl)

/-- One round of the reap loop that finds a child. -/
theorem Consistent.reapRound (consistent : Consistent before)
    (waited : before.wait4 = (some pid, after)) :
    ∃ name, after.findPid pid = some name ∧ Diminished before (after.childExited name) := by
  obtain ⟨inside, rfl⟩ := wait4_some waited
  have elapsed := consistent.idle (elapse_passed before).toIdle
  obtain ⟨name, found⟩ := elapsed.findPid inside
  have positive : pid ≠ 0 := by
    rintro rfl
    exact elapsed.positive inside
  refine ⟨name, found, ?_⟩
  apply Diminished.trans (.idle (elapse_passed before).toIdle)
  apply (reaped_modify before.elapse (findPid_some found) positive).diminished.trans
  exact .idle (childExited_idle name _)

theorem reapChildren_diminished (fuel : Nat) (consistent : Consistent before) :
    Diminished before (reapChildren fuel before) := by
  induction fuel generalizing before with
  | zero => exact .idle (.refl before)
  | succ fuel inductionHypothesis =>
      unfold reapChildren
      split
      · next empty =>
          rw [(wait4_none empty).1]
          exact .idle (elapse_passed before).toIdle
      · next waited =>
          obtain ⟨name, found, round⟩ := consistent.reapRound waited
          simp only [found]
          exact round.trans (inductionHypothesis (round.consistent consistent))

theorem Idle.length (idle : Idle before after) :
    after.children.length = before.children.length := by
  rw [← List.length_map, idle.pids, List.length_map]

theorem length_wait4 (waited : before.wait4 = (some pid, after)) :
    after.children.length < before.children.length := by
  obtain ⟨inside, rfl⟩ := wait4_some waited
  rw [← (elapse_passed before).toIdle.length]
  obtain ⟨child, member, rfl⟩ := List.mem_map.mp inside
  exact List.length_filter_lt_length_iff_exists.mpr ⟨child, member, by simp⟩

/-- With enough rounds the loop ends because no child is left that exited. -/
theorem reapChildren_exhausts (fuel : Nat) (monitor : PluginMonitor)
    (enough : monitor.children.length < fuel) :
    ∀ child ∈ (reapChildren fuel monitor).children, child.exited = false := by
  induction fuel generalizing monitor with
  | zero => exact absurd enough (Nat.not_lt_zero _)
  | succ fuel inductionHypothesis =>
      unfold reapChildren
      split
      · next empty => exact (wait4_none empty).2
      · next waited =>
          have fewer := length_wait4 waited
          split
          · exact inductionHypothesis _ (by omega)
          · apply inductionHypothesis
            rw [(childExited_idle _ _).length]
            exact Nat.lt_of_lt_of_le fewer (Nat.le_of_lt_succ enough)

theorem reap_exhausts (monitor : PluginMonitor) :
    ∀ child ∈ monitor.reap.children, child.exited = false :=
  reapChildren_exhausts _ monitor (Nat.lt_succ_self _)

theorem reapChildren_starts (fuel : Nat) (monitor : PluginMonitor) :
    (reapChildren fuel monitor).starts = monitor.starts := by
  induction fuel generalizing monitor with
  | zero => rfl
  | succ fuel inductionHypothesis =>
      unfold reapChildren
      split
      · next empty =>
          rw [(wait4_none empty).1]
          exact (elapse_passed monitor).starts
      · next waited =>
          have same := (wait4_some waited).2
          subst same
          have waited := (elapse_passed monitor).starts
          split
          · exact (inductionHypothesis _).trans waited
          · exact (inductionHypothesis _).trans ((elapse_passed _).starts.trans waited)

/-! ## The start loop -/

theorem Running.startPlugin (config : ConfigReader) {state : PluginState} (running : Running before)
    (caught : Caught before) (found : before.candidate name = some state) :
    Running (before.elapse.startPlugin config name state).2 ∧
      Caught (before.elapse.startPlugin config name state).2 := by
  obtain ⟨entry, -, free⟩ := candidate_some found
  have passed := elapse_passed before
  have free : before.elapse.pidAt name = 0 := by
    rw [passed.pidAt, pidAt, entry]
    exact free
  have present : name ∈ before.elapse.state := by
    rw [passed.state, TreeMap.mem_iff_isSome_getElem?, entry]
    rfl
  have caught := caught.idle running.blocked passed.toIdle
  have running := running.idle passed.toIdle
  generalize outcome : before.elapse.startPlugin config name state = result
  have spec := startPlugin_spec config state present
  rw [outcome] at spec
  cases spec with
  | idle _ idle => exact ⟨running.idle idle, caught.idle running.blocked idle⟩
  | forked idle forked =>
      rw [← idle.pidAt] at free
      exact ⟨(running.idle idle).forked free forked,
        (caught.idle running.blocked idle).forked forked⟩

theorem startPlugins_running (config : ConfigReader) (names : List ByteString) (waiting : Bool)
    (running : Running before) (caught : Caught before) :
    Running (before.startPlugins config names waiting).2 ∧
      Caught (before.startPlugins config names waiting).2 := by
  induction names generalizing before waiting with
  | nil => exact ⟨running, caught⟩
  | cons name rest inductionHypothesis =>
      cases found : before.candidate name with
      | none =>
          simp only [startPlugins, found]
          exact inductionHypothesis waiting running caught
      | some state =>
          rw [startPlugins_candidate config rest waiting found]
          split
          · have started := running.startPlugin config caught found
            split <;> rename_i outcome <;> rw [outcome] at started
            · exact started
            · exact inductionHypothesis waiting started.1 started.2
            · exact inductionHypothesis true started.1 started.2
          · have passed := (elapse_passed before).toIdle
            exact inductionHypothesis true (running.idle passed)
              (caught.idle running.blocked passed)

/-! ## Whole calls -/

theorem Settled.block (settled : Settled before) (running : before.shouldRun = true) :
    Running before.block where
  toConsistent :=
    { settled.toConsistent.idle (elapse_passed before).toIdle with held := fun _ => rfl }
  blocked := rfl
  shouldRun := (elapse_passed before).shouldRun running

theorem Running.unblock (running : Running before) (caught : Caught before) (waiting : Bool) :
    Settled ({ before with shouldRun := waiting }.unblock) := by
  have passed := (elapse_passed { before with shouldRun := waiting }).toIdle
  have consistent : Consistent { before with shouldRun := waiting } :=
    { running.toConsistent with }
  have caught : Caught { before with shouldRun := waiting } := caught
  constructor
  · exact { consistent.idle passed with held := nofun }
  · exact nofun
  · intro child inside exited
    have pending := caught.idle running.blocked passed child inside exited
    exact Bool.or_eq_true_iff.mpr (.inr pending)

theorem Running.settled (running : Running before) : Settled before :=
  ⟨running.toConsistent, fun _ => running.shouldRun, fun _ _ _ => running.shouldRun⟩

theorem Running.reap (running : Running before) : Running before.reap ∧ Caught before.reap := by
  have diminished := reapChildren_diminished (before.children.length + 1) running.toConsistent
  refine ⟨⟨diminished.consistent running.toConsistent, diminished.blocked.trans running.blocked,
    (diminished.kept running.blocked).trans running.shouldRun⟩, fun child inside exited => ?_⟩
  rw [reap_exhausts before child inside] at exited
  cases exited

theorem Settled.runOnce (config : ConfigReader) (settled : Settled before) :
    Settled (before.runOnce config).2 := by
  unfold PluginMonitor.runOnce
  split
  · exact settled
  · next shouldRun =>
      obtain ⟨running, caught⟩ := (settled.block (by simpa using shouldRun)).reap
      have started := startPlugins_running config before.block.reap.state.keys false running caught
      dsimp only
      split <;> rename_i outcome <;> rw [outcome] at started
      · exact started.1.settled
      · exact started.1.unblock started.2 _

theorem stopPlugins_idle (hard : Bool) (names : List ByteString) (stopped : Bool)
    (monitor : PluginMonitor) : Idle monitor (monitor.stopPlugins hard names stopped).2 := by
  induction names generalizing monitor stopped with
  | nil => exact .refl monitor
  | cons name rest inductionHypothesis =>
      unfold stopPlugins
      split
      · exact ((elapse_passed monitor).toIdle.trans (.record _ _)).trans
          (inductionHypothesis true _)
      · exact inductionHypothesis stopped monitor

theorem Settled.stopStage (config : ConfigReader) (hard : Bool) (names : List ByteString)
    (settled : Settled before) : Settled (before.stopStage config hard names).2 := by
  unfold PluginMonitor.stopStage
  have stopped := settled.idle (stopPlugins_idle hard names false before)
  dsimp only
  split
  · exact (stopped.idle (elapse_passed _).toIdle).runOnce config
  · exact stopped

theorem Settled.killPlugins (config : ConfigReader) (names : List ByteString)
    (settled : Settled before) : Settled (before.killPlugins config names).2 := by
  unfold PluginMonitor.killPlugins
  have graceful := settled.stopStage config false names
  split <;> rename_i outcome <;> rw [outcome] at graceful
  · exact graceful
  · exact graceful.stopStage config true names

/-- A new entry has no process. -/
theorem Idle.insert (monitor : PluginMonitor) {state : PluginState}
    (absent : monitor.state[name]? = none) (unstarted : state.pid = 0) :
    Idle monitor { monitor with state := monitor.state.insert name state } := by
  refine .entries monitor (fun other => ?_) (fun _ => TreeMap.mem_insert.mpr ∘ .inr) _ _ _
  rw [TreeMap.getElem?_insert, PluginMonitor.pidAt]
  split
  · next same =>
      rw [← Std.LawfulEqOrd.eq_of_compare same, absent, Option.map_some, unstarted]
      rfl
  · rfl

theorem registerPlugins_idle (networks : List NetworkConfig) (plugins : List PluginConfig)
    (seen : List ByteString) (monitor : PluginMonitor) :
    Idle monitor (monitor.registerPlugins networks plugins seen).2 := by
  apply registerPlugins_invariant (motive := Idle monitor)
  · intro after config network name absent idle
    exact idle.trans (.insert after absent rfl)
  · intro after config name idle
    exact idle.trans (.modify after name fun _ => rfl)
  · exact .refl monitor

/-- `should_run_ = 1` -/
theorem Settled.wake (settled : Settled before) : Settled { before with shouldRun := true } where
  toConsistent := { settled.toConsistent with }
  awake _ := rfl
  signalled _ _ _ := rfl

theorem Settled.configReloaded (config : ConfigReader) (settled : Settled before) :
    Settled (before.configReloaded config).2 := by
  apply configReloaded_invariant (motive := Settled)
  · exact settled.idle (registerPlugins_idle config.networks config.plugins [] before)
  · intro monitor name holds
    exact holds.idle (.modify monitor name fun _ => rfl)
  · intro monitor names holds
    exact holds.killPlugins config names
  · intro monitor holds
    exact holds.wake.runOnce config

/-! ## Runs -/

/-- What can be asked of a monitor, and the passing of time. -/
inductive Call where
  | configReloaded (config : ConfigReader)
  | runOnce (config : ConfigReader)
  | wait

def call (monitor : PluginMonitor) : Call → PluginMonitor
  | .configReloaded config => (monitor.configReloaded config).2
  | .runOnce config => (monitor.runOnce config).2
  | .wait => monitor.elapse

/-- The runs of a monitor from its construction.  Calls that throw are among them: the bot
goes on after a `configReloaded` that did. -/
def system : TransitionSystem PluginMonitor Call where
  initial monitor := monitor.state.isEmpty = true ∧ monitor.children = [] ∧
    monitor.blocked = false ∧ monitor.pending = false ∧ monitor.shouldRun = true
  step before call after := before.call call = after

theorem system_settled {monitor : PluginMonitor} (reached : system.Reachable monitor) :
    Settled monitor := by
  apply reached.invariant
  · rintro monitor ⟨empty, noChildren, unblocked, unraised, -⟩
    have nothing (name : ByteString) : monitor.pidAt name = 0 := by
      rw [pidAt, TreeMap.getElem?_of_isEmpty empty]
      rfl
    exact ⟨⟨fun _ nonzero => absurd (nothing _) nonzero,
      fun nonzero => by simp [nothing, childPids, noChildren, nonzero.symm],
      by simp [childPids, noChildren], by simp [childPids, noChildren], by simp [unraised]⟩,
      by simp [unblocked], by simp [noChildren]⟩
  · rintro before call after settled rfl
    cases call with
    | configReloaded config => exact settled.configReloaded config
    | runOnce config => exact settled.runOnce config
    | wait => exact settled.idle (elapse_passed before).toIdle

end PluginMonitor

end DaZeus
