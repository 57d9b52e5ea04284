import DaZeus.PluginMonitor.Children
import DaZeus.PluginMonitor.Entries
import Mathlib.Algebra.Order.Ring.Int
import Mathlib.Data.List.Chain
import Mathlib.Tactic.Positivity

/-!
# Increasing delays

The delay before a plugin is started again doubles with every failure, up to
five minutes.  `runOnce` computes it in an `int` before it bounds it, and the
thirtieth failure in a row is too much for that.  Up to there, and with a clock
that does not go back, two starts of a plugin are a delay apart.
-/

namespace DaZeus

open Library
open Std (TreeMap)

/-! ## The delay -/

/-- The delay that the failures ask for. -/
def delay (numFailures : Int) : Int :=
  if 1 ≤ numFailures then min 300 (5 * 2 ^ (numFailures - 1).toNat) else 0

/-- The count of the shift is less than the width of `int`, and neither the shift nor the
product leaves its range. -/
def InRange (numFailures : Int) : Prop :=
  numFailures - 1 < 32 ∧ (2 : Int) ^ (numFailures - 1).toNat < 2 ^ 31 ∧
    5 * (2 : Int) ^ (numFailures - 1).toNat < 2 ^ 31

theorem wrap32_eq_self {value : Int} (low : -2 ^ 31 ≤ value) (high : value < 2 ^ 31) :
    wrap32 value = value := by
  apply Int.bmod_eq_of_le_mul_two <;> push_cast <;> omega

theorem power_le {count bound : Nat} (few : count ≤ bound) : (2 : Int) ^ count ≤ 2 ^ bound :=
  pow_le_pow_right₀ (by decide) few

theorem waitSeconds_eq {numFailures : Int} (few : numFailures ≤ 29) :
    waitSeconds numFailures = delay numFailures := by
  unfold waitSeconds delay
  by_cases positive : numFailures > 0
  · have small : (numFailures - 1).toNat ≤ 28 := by omega
    have power := power_le small
    have nonneg : (0 : Int) ≤ 2 ^ (numFailures - 1).toNat := by positivity
    have reduced : (numFailures - 1).toNat % 32 = (numFailures - 1).toNat :=
      Nat.mod_eq_of_lt (by omega)
    have shifted : wrap32 (2 ^ (numFailures - 1).toNat) = 2 ^ (numFailures - 1).toNat :=
      wrap32_eq_self (by omega) (by omega)
    have product : wrap32 (5 * 2 ^ (numFailures - 1).toNat) = 5 * 2 ^ (numFailures - 1).toNat :=
      wrap32_eq_self (by omega) (by omega)
    have started : 1 ≤ numFailures := positive
    simp only [if_pos positive, if_pos started, reduced, shifted, product]
    omega
  · have unstarted : ¬1 ≤ numFailures := positive
    simp only [if_neg positive, if_neg unstarted]
    rfl

theorem inRange_iff {numFailures : Int} (positive : 1 ≤ numFailures) :
    InRange numFailures ↔ numFailures ≤ 29 := by
  constructor
  · rintro ⟨-, -, product⟩
    by_contra many
    have large : 29 ≤ (numFailures - 1).toNat := by omega
    have power := power_le large
    omega
  · intro few
    have small : (numFailures - 1).toNat ≤ 28 := by omega
    have power := power_le small
    exact ⟨by omega, by omega, by omega⟩

theorem delay_mono {fewer more : Int} (grown : fewer ≤ more) : delay fewer ≤ delay more := by
  unfold delay
  have power := power_le (Int.toNat_le_toNat (Int.sub_le_sub_right grown 1))
  have nonneg : (0 : Int) ≤ 2 ^ (more - 1).toNat := by positivity
  split <;> split <;> omega

def ProcessEvent.time? : ProcessEvent → Option Int
  | .exit _ => none
  | .clock now => some now

/-- What the clock is set to until the call returns. -/
def Moment.times (moment : Moment) : List Int := moment.events.filterMap (·.time?)

namespace PluginMonitor

variable {config : ConfigReader} {before after : PluginMonitor} {name : ByteString}

/-! ## A clock that does not go back -/

def Steady (monitor : PluginMonitor) : Prop :=
  (monitor.clock :: monitor.script.flatMap (·.times)).Pairwise (· ≤ ·)

theorem happen_script (event : ProcessEvent) (monitor : PluginMonitor) :
    (monitor.happen event).script = monitor.script := by
  cases event with
  | exit pid =>
      unfold happen
      dsimp only
      split <;> rfl
  | clock now => rfl

theorem happen_clock (event : ProcessEvent) (monitor : PluginMonitor) :
    (monitor.happen event).clock = event.time?.getD monitor.clock := by
  cases event with
  | exit pid =>
      unfold happen
      dsimp only
      split <;> rfl
  | clock now => rfl

theorem events_steady {events : List ProcessEvent} {later : List Int} (monitor : PluginMonitor)
    (steady : (monitor.clock :: (events.filterMap (·.time?) ++ later)).Pairwise (· ≤ ·)) :
    monitor.clock ≤ (events.foldl happen monitor).clock ∧
      (events.foldl happen monitor).script = monitor.script ∧
      ((events.foldl happen monitor).clock :: later).Pairwise (· ≤ ·) := by
  induction events generalizing monitor with
  | nil => exact ⟨Int.le_refl _, rfl, steady⟩
  | cons event rest inductionHypothesis =>
      have next : monitor.clock ≤ (monitor.happen event).clock ∧
          ((monitor.happen event).clock :: (rest.filterMap (·.time?) ++ later)).Pairwise
            (· ≤ ·) := by
        rw [happen_clock]
        cases event with
        | exit pid => exact ⟨Int.le_refl _, steady⟩
        | clock now =>
            obtain ⟨first, steady⟩ := List.pairwise_cons.mp steady
            exact ⟨first now List.mem_cons_self, steady⟩
      obtain ⟨grown, kept, steady⟩ := inductionHypothesis _ next.2
      exact ⟨Int.le_trans next.1 grown, kept.trans (happen_script event monitor), steady⟩

theorem elapse_steady (steady : Steady before) :
    before.clock ≤ before.elapse.clock ∧ Steady before.elapse := by
  unfold elapse Steady at *
  cases script : before.script with
  | nil => exact ⟨Int.le_refl _, by simp⟩
  | cons moment rest =>
      rw [script, List.flatMap_cons] at steady
      have elapsed := events_steady { before with script := rest } steady
      refine ⟨elapsed.1, ?_⟩
      simp only [List.headD_cons, List.tail_cons, elapsed.2.1]
      exact elapsed.2.2

theorem Steady.elapse (steady : Steady before) : Steady before.elapse := (elapse_steady steady).2

theorem Steady.wait4 (steady : Steady before) : Steady before.wait4.2 := by
  unfold PluginMonitor.wait4
  dsimp only
  split
  · exact steady.elapse
  · exact steady.elapse

theorem Steady.childExited (steady : Steady before) : Steady (before.childExited name) := by
  have freed : Steady (before.modify name ({ · with pid := 0 })) := steady
  exact freed.elapse

theorem Steady.reapChildren (fuel : Nat) (steady : Steady before) :
    Steady (reapChildren fuel before) := by
  induction fuel generalizing before with
  | zero => exact steady
  | succ fuel inductionHypothesis =>
      have waited := steady.wait4
      unfold PluginMonitor.reapChildren
      split <;> rename_i outcome <;> rw [outcome] at waited
      · exact waited
      · split
        · exact inductionHypothesis waited
        · exact inductionHypothesis waited.childExited

theorem Steady.sanityCheck (steady : Steady before) : Steady before.sanityCheck.2 := by
  have first : Steady before.check.2 := steady.elapse
  unfold PluginMonitor.sanityCheck
  split <;> rename_i outcome <;> rw [outcome] at first
  · exact first
  · next second =>
      have checked : Steady second.check.2 := first.elapse
      split <;> rename_i outcome <;> rw [outcome] at checked
      · exact checked
      · exact checked.elapse

theorem Steady.forkPlugin (path executable : ByteString) (arguments : List ByteString)
    (steady : Steady before) : Steady (before.forkPlugin path executable arguments).2 := by
  unfold PluginMonitor.forkPlugin
  dsimp only
  split
  · exact steady.elapse
  · exact steady.elapse

theorem Steady.startPlugin (state : PluginState) (steady : Steady before) :
    Steady (before.startPlugin config name state).2 := by
  have entered : Steady (before.record (.started name)) := steady
  have begun : Steady ((before.record (.started name)).elapse.modify name
      ({ · with lastStart := (before.record (.started name)).elapse.clock })) := entered.elapse
  have checked := begun.sanityCheck
  unfold PluginMonitor.startPlugin
  dsimp only [time]
  split
  · exact steady
  · split
    · exact begun
    · next arguments _ =>
        generalize PluginMonitor.sanityCheck _ = result at checked ⊢
        split
        · exact checked
        · have forked := checked.forkPlugin (state.path result.2.pluginDirectory)
            state.executable arguments
          split <;> rename_i outcome <;> rw [outcome] at forked <;> exact forked

/-! ## The entry of a plugin -/

/-- The entry after the process of it was waited for. -/
def exited (now : Int) (state : PluginState) : PluginState :=
  let numFailures := if state.lastStart + 3600 < now then 0 else state.numFailures
  { state with pid := 0, numFailures := wrap32 (numFailures + 1) }

theorem state_childExited (monitor : PluginMonitor) (name other : ByteString) :
    ∃ now, (monitor.childExited name).state[other]? =
      if other = name then monitor.state[name]?.map (exited now) else monitor.state[other]? := by
  refine ⟨(monitor.modify name ({ · with pid := 0 })).elapse.clock, ?_⟩
  unfold childExited
  dsimp only [time]
  rw [state_modify, (elapse_passed _).state, state_modify, state_modify, if_pos rfl]
  split
  · rw [Option.map_map]
    rfl
  · rfl

/-- How an attempt to start the plugin ends, and the entry it leaves. -/
inductive Attempt (state : PluginState) (now : Int) : Except Stop Bool → PluginState → Prop
  | threw {stop : Stop} : Attempt state now (.error stop) { state with lastStart := now }
  | failed : Attempt state now (.ok false)
      { state with lastStart := now, numFailures := wrap32 (state.numFailures + 1) }
  | running {pid : Nat} (positive : pid ≠ 0) :
      Attempt state now (.ok true) { state with lastStart := now, pid }

theorem Attempt.lastStart {state later : PluginState} {now : Int} {result : Except Stop Bool}
    (attempt : Attempt state now result later) : later.lastStart = now := by
  cases attempt <;> rfl

theorem forkPlugin_state {path executable : ByteString} {arguments : List ByteString}
    {result : Option Nat} (forked : before.forkPlugin path executable arguments = (result, after)) :
    after.state = before.state ∧ ∀ pid ∈ result, pid ≠ 0 := by
  have state := (elapse_passed before).state
  unfold forkPlugin at forked
  dsimp only at forked
  split at forked <;> cases forked
  · exact ⟨state, fun _ inside => by cases inside⟩
  · next free =>
      refine ⟨state, fun pid inside zero => free ?_⟩
      cases inside
      simp [zero]

/-- The entry of the plugin is changed, if there is one, and no other. -/
def EntryChanged (name : ByteString) (change : PluginState → PluginState)
    (before after : PluginMonitor) : Prop :=
  ∀ other, after.state[other]? =
    if other = name then before.state[name]?.map change else before.state[other]?

theorem EntryChanged.of_state {middle : PluginMonitor} {change : PluginState → PluginState}
    (changed : EntryChanged name change before middle) (same : after.state = middle.state) :
    EntryChanged name change before after := by
  intro other
  rw [same]
  exact changed other

theorem EntryChanged.modify {middle : PluginMonitor} {first : PluginState → PluginState}
    (changed : EntryChanged name first before middle) (second : PluginState → PluginState) :
    EntryChanged name (second ∘ first) before (middle.modify name second) := by
  intro other
  rw [state_modify, changed name, changed other, if_pos rfl]
  split
  · rw [Option.map_map]
  · rfl

theorem startPlugin_entry (config : ConfigReader) {state : PluginState} (free : state.pid = 0) :
    ∃ change : PluginState → PluginState,
      EntryChanged name change before (before.startPlugin config name state).2 ∧
      Attempt state (before.record (.started name)).elapse.clock
        (before.startPlugin config name state).1 (change state) := by
  have elapsed : EntryChanged name id before (before.record (.started name)).elapse := by
    intro other
    rw [(elapse_passed (before.record (.started name))).state, Option.map_id]
    split
    · next same =>
        rw [same]
        rfl
    · rfl
  have begun := elapsed.modify
    ({ · with lastStart := (before.record (.started name)).elapse.clock })
  unfold startPlugin
  dsimp only [time]
  rw [if_neg (by simp [free])]
  split
  · exact ⟨_, begun, .threw⟩
  · next arguments _ =>
      have checked := begun.of_state (sanityCheck_passed _).state
      generalize sanityCheck _ = result at checked ⊢
      split
      · exact ⟨_, checked.modify _, .failed⟩
      · split <;> rename_i outcome <;> obtain ⟨kept, positive⟩ := forkPlugin_state outcome
        · exact ⟨_, (checked.of_state kept).modify _, .failed⟩
        · exact ⟨_, (checked.of_state kept).modify _, .running (positive _ rfl)⟩

theorem startPlugin_attempt (config : ConfigReader) {state : PluginState}
    (found : before.state[name]? = some state)
    (free : state.pid = 0) (steady : Steady before) :
    ∃ now later, before.clock ≤ now ∧
      Attempt state now (before.startPlugin config name state).1 later ∧
      (before.startPlugin config name state).2.state[name]? = some later := by
  have entered : Steady (before.record (.started name)) := steady
  obtain ⟨change, changed, attempt⟩ := startPlugin_entry config free
  refine ⟨_, _, (elapse_steady entered).1, attempt, ?_⟩
  rw [changed, if_pos rfl, found, Option.map_some]

theorem startPlugin_others {state : PluginState} {other : ByteString} (different : other ≠ name) :
    (before.startPlugin config name state).2.state[other]? = before.state[other]? := by
  by_cases free : state.pid = 0
  · obtain ⟨change, changed, -⟩ := startPlugin_entry config free
    rw [changed, if_neg different]
  · unfold startPlugin
    rw [if_pos free]
    rfl

/-! ## The start loop -/

/-- Neither the entry of the plugin was changed, nor a start of it attempted. -/
structure Untouched (name : ByteString) (before after : PluginMonitor) : Prop where
  entry : after.state[name]? = before.state[name]?
  starts : after.starts.count name = before.starts.count name

theorem Untouched.trans {first second third : PluginMonitor}
    (earlier : Untouched name first second) (later : Untouched name second third) :
    Untouched name first third :=
  ⟨later.entry.trans earlier.entry, later.starts.trans earlier.starts⟩

theorem Passed.untouched (passed : Passed before after) : Untouched name before after :=
  ⟨by rw [passed.state], by rw [passed.starts]⟩

theorem startPlugin_untouched {state : PluginState} {other : ByteString}
    (different : other ≠ name) :
    Untouched other before (before.startPlugin config name state).2 where
  entry := startPlugin_others different
  starts := by rw [startPlugin_starts, List.count_cons_of_ne different.symm]

/-- What one pass through the start loop can do about the plugin: it is started once at most,
and only when its delay is over. -/
inductive Round (name : ByteString) (before : PluginMonitor) : Bool → PluginMonitor → Prop
  | untouched {returned after} (untouched : Untouched name before after) :
      Round name before returned after
  | attempted {returned after state later result now}
      (found : before.candidate name = some state)
      (due : state.lastStart + waitSeconds state.numFailures ≤ now)
      (attempt : Attempt state now result later) (entry : after.state[name]? = some later)
      (starts : after.starts.count name = before.starts.count name + 1)
      (returns : returned = true → result.isOk = true) :
      Round name before returned after

theorem Untouched.candidate (untouched : Untouched name before after) :
    after.candidate name = before.candidate name := by
  rw [PluginMonitor.candidate, untouched.entry, PluginMonitor.candidate]

theorem Untouched.round {middle : PluginMonitor} {returned : Bool}
    (untouched : Untouched name before middle) (round : Round name middle returned after) :
    Round name before returned after := by
  cases round with
  | untouched later => exact .untouched (untouched.trans later)
  | attempted found due attempt entry starts returns =>
      rw [untouched.candidate] at found
      rw [untouched.starts] at starts
      exact .attempted found due attempt entry starts returns

theorem Round.trans {middle : PluginMonitor} {returned : Bool}
    (round : Round name before returned middle) (untouched : Untouched name middle after) :
    Round name before returned after := by
  cases round with
  | untouched earlier => exact .untouched (earlier.trans untouched)
  | attempted found due attempt entry starts returns =>
      exact .attempted found due attempt (untouched.entry.trans entry)
        (untouched.starts.trans starts) returns

theorem startPlugins_untouched {names : List ByteString} (waiting : Bool)
    (absent : name ∉ names) :
    Untouched name before (before.startPlugins config names waiting).2 := by
  induction names generalizing before waiting with
  | nil => exact ⟨rfl, rfl⟩
  | cons other rest inductionHypothesis =>
      obtain ⟨different, absent⟩ := List.ne_and_not_mem_of_not_mem_cons absent
      cases found : before.candidate other with
      | none =>
          simp only [startPlugins, found]
          exact inductionHypothesis waiting absent
      | some state =>
          rw [startPlugins_candidate config rest waiting found]
          have elapsed : Untouched name before before.elapse := (elapse_passed before).untouched
          split
          · have started : Untouched name before (before.elapse.startPlugin config other state).2 :=
              elapsed.trans (startPlugin_untouched different)
            split <;> rename_i outcome <;> rw [outcome] at started
            · exact started
            · exact started.trans (inductionHypothesis _ absent)
            · exact started.trans (inductionHypothesis _ absent)
          · exact elapsed.trans (inductionHypothesis _ absent)

theorem Steady.startPlugins (names : List ByteString) (waiting : Bool) (steady : Steady before) :
    Steady (before.startPlugins config names waiting).2 := by
  induction names generalizing before waiting with
  | nil => exact steady
  | cons name rest inductionHypothesis =>
      cases found : before.candidate name with
      | none =>
          simp only [PluginMonitor.startPlugins, found]
          exact inductionHypothesis waiting steady
      | some state =>
          rw [startPlugins_candidate config rest waiting found]
          split
          · have started : Steady (before.elapse.startPlugin config name state).2 :=
              steady.elapse.startPlugin state
            split <;> rename_i outcome <;> rw [outcome] at started
            · exact started
            · exact inductionHypothesis _ started
            · exact inductionHypothesis _ started
          · exact inductionHypothesis _ steady.elapse

theorem startPlugins_round {names : List ByteString} (waiting : Bool) (distinct : names.Nodup)
    (steady : Steady before) :
    Round name before (before.startPlugins config names waiting).1.isOk
      (before.startPlugins config names waiting).2 := by
  induction names generalizing before waiting with
  | nil => exact .untouched ⟨rfl, rfl⟩
  | cons other rest inductionHypothesis =>
      obtain ⟨absent, distinct⟩ := List.nodup_cons.mp distinct
      cases found : before.candidate other with
      | none =>
          simp only [startPlugins, found]
          exact inductionHypothesis waiting distinct steady
      | some state =>
          rw [startPlugins_candidate config rest waiting found]
          have elapsed : Untouched name before before.elapse := (elapse_passed before).untouched
          split
          · next due =>
              by_cases same : other = name
              · -- its turn: the rest of the loop leaves it alone
                subst same
                have candidate := elapsed.candidate.trans found
                obtain ⟨entry, -, free⟩ := candidate_some candidate
                obtain ⟨now, later, grown, attempt, left⟩ :=
                  startPlugin_attempt config entry free steady.elapse
                have starts := startPlugin_starts config other state before.elapse
                have reached : state.lastStart + waitSeconds state.numFailures ≤ now :=
                  Int.le_trans (Int.not_lt.mp due) grown
                have finish (returned : Bool) (after : PluginMonitor)
                    (untouched : Untouched other (before.elapse.startPlugin config other state).2
                      after) (returns : returned = true →
                        (before.elapse.startPlugin config other state).1.isOk = true) :
                    Round other before returned after := by
                  refine .attempted found reached attempt (untouched.entry.trans left) ?_ returns
                  rw [untouched.starts, starts, List.count_cons_self, elapsed.starts]
                split <;> rename_i outcome <;> rw [outcome] at finish
                · exact finish _ _ ⟨rfl, rfl⟩ id
                · exact finish _ _ (startPlugins_untouched _ absent) fun _ => rfl
                · exact finish _ _ (startPlugins_untouched _ absent) fun _ => rfl
              · have started : Untouched name before
                    (before.elapse.startPlugin config other state).2 :=
                  elapsed.trans (startPlugin_untouched (Ne.symm same))
                have steady : Steady (before.elapse.startPlugin config other state).2 :=
                  steady.elapse.startPlugin state
                split <;> rename_i outcome <;> rw [outcome] at started steady
                · exact .untouched started
                · exact started.round (inductionHypothesis _ distinct steady)
                · exact started.round (inductionHypothesis _ distinct steady)
          · exact elapsed.round (inductionHypothesis _ distinct steady.elapse)

/-! ## What the failures count -/

/-- A call of `start_plugin` for the plugin. -/
structure Launch where
  /-- The `last_start` that it set. -/
  time : Int
  /-- The failures that the delay before it was computed from. -/
  failures : Int
  /-- The call of `runOnce` that made it did not throw. -/
  returned : Bool
  deriving DecidableEq

/-- The launches of the plugin in this call of `runOnce`. -/
def launches (config : ConfigReader) (name : ByteString) (monitor : PluginMonitor) : List Launch :=
  let result := monitor.runOnce config
  List.replicate (result.2.starts.count name - monitor.starts.count name)
    { time := (result.2.state[name]?.map (·.lastStart)).getD 0
      failures := (monitor.block.reap.state[name]?.map (·.numFailures)).getD 0
      returned := result.1.isOk }

/-- The second launch came no earlier than its delay after the first. -/
structure Spaced (first second : Launch) : Prop where
  failed : first.returned = true → 1 ≤ second.failures
  few : second.failures ≤ 29
  apart : first.time + delay second.failures ≤ second.time

/-- The entry of a plugin that may be started, after its last launch. -/
structure Counted (last : Option Launch) (state : PluginState) : Prop where
  nonneg : 0 ≤ state.numFailures
  bounded : state.numFailures ≤ 30
  running : state.pid ≠ 0 → state.numFailures ≤ 29
  lastStart : ∀ launch ∈ last, state.lastStart = launch.time
  failed : ∀ launch ∈ last, launch.returned = true → state.pid = 0 → 1 ≤ state.numFailures

def CountedAt (name : ByteString) (last : Option Launch) (monitor : PluginMonitor) : Prop :=
  ∀ state, monitor.state[name]? = some state → state.willAutostart = true → Counted last state

variable {last : Option Launch}

theorem CountedAt.of_entry (counted : CountedAt name last before)
    (same : after.state[name]? = before.state[name]?) : CountedAt name last after := by
  intro state found
  exact counted state (same.symm.trans found)

theorem Counted.exited {state : PluginState} (counted : Counted last state) (now : Int)
    (running : state.pid ≠ 0) : Counted last (exited now state) := by
  have nonneg := counted.nonneg
  have bounded := counted.running running
  have range : 1 ≤ (PluginMonitor.exited now state).numFailures ∧
      (PluginMonitor.exited now state).numFailures ≤ 30 := by
    unfold PluginMonitor.exited
    dsimp only
    split <;> rw [wrap32_eq_self (by omega) (by omega)] <;> omega
  exact ⟨Int.le_trans (by decide) range.1, range.2, fun positive => absurd rfl positive,
    counted.lastStart, fun _ _ _ _ => range.1⟩

theorem CountedAt.childExited {other : ByteString} (counted : CountedAt name last before)
    (running : before.pidAt other ≠ 0) : CountedAt name last (before.childExited other) := by
  obtain ⟨now, entry⟩ := state_childExited before other name
  intro state found wanted
  rw [entry] at found
  split at found
  · next same =>
      obtain ⟨old, there, rfl⟩ := Option.map_eq_some_iff.mp found
      have alive : old.pid ≠ 0 := by
        rw [pidAt, there] at running
        exact running
      exact (counted old (same ▸ there) wanted).exited now alive
  · exact counted state found wanted

theorem CountedAt.reapChildren (fuel : Nat) (consistent : Consistent before)
    (counted : CountedAt name last before) : CountedAt name last (reapChildren fuel before) := by
  induction fuel generalizing before with
  | zero => exact counted
  | succ fuel inductionHypothesis =>
      have elapsed := (elapse_passed before).state
      unfold PluginMonitor.reapChildren
      split
      · next empty =>
          rw [(wait4_none empty).1]
          exact counted.of_entry (by rw [elapsed])
      · next pid middle waited =>
          obtain ⟨holder, found, round⟩ := consistent.reapRound waited
          simp only [found]
          obtain ⟨inside, rfl⟩ := wait4_some waited
          apply inductionHypothesis (round.consistent consistent)
          apply CountedAt.childExited
          · exact counted.of_entry (by rw [record, elapsed])
          · rw [findPid_some found]
            rintro rfl
            exact (consistent.idle (elapse_passed before).toIdle).positive inside

theorem Counted.attempted {state later : PluginState} {now : Int} {result : Except Stop Bool}
    {launch : Launch} (counted : Counted last state) (free : state.pid = 0)
    (few : state.numFailures ≤ 29) (attempt : Attempt state now result later)
    (time : launch.time = now) (returned : launch.returned = true → result.isOk = true) :
    Counted (some launch) later := by
  have nonneg := counted.nonneg
  have bounded := counted.bounded
  have next : wrap32 (state.numFailures + 1) = state.numFailures + 1 :=
    wrap32_eq_self (by omega) (by omega)
  have lastStart : ∀ other ∈ some launch, later.lastStart = other.time := by
    intro other inside
    cases inside
    exact attempt.lastStart.trans time.symm
  cases attempt with
  | threw =>
      refine ⟨nonneg, bounded, fun _ => few, lastStart, fun other inside returns _ => ?_⟩
      cases inside
      cases returned returns
  | failed =>
      simp only [next] at *
      exact ⟨Int.le_add_one nonneg, Int.add_le_add_right few 1,
        fun positive => absurd free positive, lastStart,
        fun _ _ _ _ => Int.le_add_of_nonneg_left nonneg⟩
  | running positive =>
      refine ⟨nonneg, bounded, fun _ => few, lastStart, fun _ _ _ none => ?_⟩
      exact absurd none positive

/-! ## Runs without a reload -/

/-- The start loop finds 29 failures at most, unless it skips the plugin. -/
def FewFailures (name : ByteString) (monitor : PluginMonitor) : Prop :=
  monitor.shouldRun = true → ∀ state, monitor.block.reap.candidate name = some state →
    state.numFailures ≤ 29

theorem runOnce_round (config : ConfigReader) (name : ByteString)
    (running : before.shouldRun = true) (steady : Steady before) :
    Round name before.block.reap (before.runOnce config).1.isOk (before.runOnce config).2 ∧
      Steady (before.runOnce config).2 := by
  have blocked : Steady before.block := steady.elapse
  have reaped : Steady before.block.reap := blocked.reapChildren _
  have distinct : before.block.reap.state.keys.Nodup := TreeMap.nodup_keys
  have round : Round name before.block.reap
      (before.block.reap.startPlugins config before.block.reap.state.keys false).1.isOk
      (before.block.reap.startPlugins config before.block.reap.state.keys false).2 :=
    startPlugins_round false distinct reaped
  have started : Steady
      (before.block.reap.startPlugins config before.block.reap.state.keys false).2 :=
    reaped.startPlugins _ false
  unfold runOnce
  rw [if_neg (by simp [running])]
  dsimp only
  split <;> rename_i outcome <;> rw [outcome] at round started
  · exact ⟨round, started⟩
  · next waiting middle =>
      have awake : Steady { middle with shouldRun := waiting } := started
      have passed := elapse_passed { middle with shouldRun := waiting }
      refine ⟨round.trans ⟨?_, ?_⟩, awake.elapse⟩
      · exact congrArg (·[name]?) passed.state
      · exact congrArg (·.count name) passed.starts

theorem Steady.runOnce (config : ConfigReader) (steady : Steady before) :
    Steady (before.runOnce config).2 := by
  by_cases running : before.shouldRun = true
  · exact (runOnce_round config [] running steady).2
  · unfold PluginMonitor.runOnce
    rw [if_pos (by simpa using running)]
    exact steady

/-- A call of `runOnce` makes one launch at most, a delay after the last. -/
theorem runOnce_launches (config : ConfigReader) (settled : Settled before)
    (steady : Steady before) (counted : CountedAt name last before)
    (few : FewFailures name before) :
    (before.launches config name = [] ∧ CountedAt name last (before.runOnce config).2) ∨
    ∃ launch, before.launches config name = [launch] ∧
      CountedAt name (some launch) (before.runOnce config).2 ∧
      ∀ first ∈ last, Spaced first launch := by
  by_cases running : before.shouldRun = true
  · have blocked : CountedAt name last before.block :=
      counted.of_entry (congrArg (·[name]?) (elapse_passed before).state)
    have reaped : CountedAt name last before.block.reap :=
      blocked.reapChildren _ (settled.block running).toConsistent
    have starts : before.block.reap.starts = before.starts :=
      (reapChildren_starts _ _).trans (elapse_passed before).starts
    obtain ⟨round, -⟩ := runOnce_round config name running steady
    generalize returned : (before.runOnce config).1.isOk = ok at round
    cases round with
    | untouched untouched =>
        refine .inl ⟨?_, reaped.of_entry untouched.entry⟩
        unfold launches
        dsimp only
        rw [untouched.starts, starts, Nat.sub_self]
        rfl
    | @attempted state later result now found due attempt entry started returns =>
        obtain ⟨there, wanted, free⟩ := candidate_some found
        have counted := reaped state there wanted
        have few := few running state found
        refine .inr ⟨⟨now, state.numFailures, ok⟩, ?_, ?_, fun first inside => ?_⟩
        · unfold launches
          dsimp only
          rw [started, starts, Nat.add_sub_cancel_left, there, entry, returned]
          exact congrArg (fun time => [Launch.mk time state.numFailures ok]) attempt.lastStart
        · intro other found _
          cases entry.symm.trans found
          exact counted.attempted free few attempt rfl returns
        · refine ⟨fun returns => counted.failed first inside returns free, few, ?_⟩
          rw [← counted.lastStart first inside, ← waitSeconds_eq few]
          exact due
  · refine .inl ?_
    unfold launches PluginMonitor.runOnce
    rw [if_pos (by simpa using running)]
    exact ⟨by simp, counted⟩

/-- The launches of the plugin, and the state, in a run in which no configuration is loaded. -/
inductive Unattended (config : ConfigReader) (name : ByteString) (start : PluginMonitor) :
    List Launch → PluginMonitor → Prop
  | start : Unattended config name start [] start
  | waited {launches : List Launch} {monitor : PluginMonitor}
      (run : Unattended config name start launches monitor) :
      Unattended config name start launches monitor.elapse
  | stopped {launches : List Launch} {monitor : PluginMonitor} (hard : Bool) (pid : Nat)
      (run : Unattended config name start launches monitor) :
      Unattended config name start launches (monitor.stopPlugin hard pid)
  | awakened {launches : List Launch} {monitor : PluginMonitor}
      (run : Unattended config name start launches monitor) :
      Unattended config name start launches { monitor with shouldRun := true }
  | ranOnce {launches : List Launch} {monitor : PluginMonitor} (few : FewFailures name monitor)
      (run : Unattended config name start launches monitor) :
      Unattended config name start (launches ++ monitor.launches config name)
        (monitor.runOnce config).2

/-- As a reload leaves the plugin before it stops and starts any. -/
structure Reset (name : ByteString) (monitor : PluginMonitor) : Prop where
  settled : Settled monitor
  steady : Steady monitor
  unfailed : ∀ state, monitor.state[name]? = some state → state.willAutostart = true →
    state.numFailures = 0

theorem state_disable (names : List ByteString) (monitor : PluginMonitor) (name : ByteString) :
    (names.foldl (fun monitor name => monitor.modify name ({ · with willAutostart := false }))
      monitor).state[name]? =
        if name ∈ names then monitor.state[name]?.map ({ · with willAutostart := false })
        else monitor.state[name]? := by
  induction names generalizing monitor with
  | nil => rfl
  | cons other rest inductionHypothesis =>
      rw [List.foldl_cons, inductionHypothesis, state_modify]
      by_cases same : name = other
      · rw [if_pos same, if_pos (List.mem_cons.mpr (.inl same)), same, Option.map_map]
        split <;> rfl
      · rw [if_neg same]
        simp only [List.mem_cons, same, false_or]

/-- The entries of the configuration have not failed yet, and the others are not started. -/
theorem registerPlugins_reset {seen : List ByteString} {middle : PluginMonitor}
    (settled : Settled before) (steady : Steady before)
    (registered : before.registerPlugins config.networks config.plugins [] = (.ok seen, middle)) :
    Reset name ((middle.pluginsToKill seen).foldl
      (fun monitor name => monitor.modify name ({ · with willAutostart := false })) middle) := by
  have idle := registerPlugins_idle config.networks config.plugins [] before
  have kept : Steady (before.registerPlugins config.networks config.plugins []).2 :=
    registerPlugins_invariant (motive := Steady) (fun _ _ _ _ steady => steady)
      (fun _ _ steady => steady) config.networks config.plugins [] steady
  rw [registered] at idle kept
  constructor
  · apply List.foldlRecOn (motive := Settled)
    · exact settled.idle idle
    · exact fun monitor settled name _ => settled.idle (.modify monitor name fun _ => rfl)
  · apply List.foldlRecOn (motive := Steady)
    · exact kept
    · exact fun monitor steady name _ => steady
  · intro state found wanted
    rw [state_disable] at found
    split at found
    · obtain ⟨old, -, rfl⟩ := Option.map_eq_some_iff.mp found
      cases wanted
    · next spared =>
        have listed : name ∈ seen := by
          by_contra unseen
          exact spared (mem_pluginsToKill.mpr ⟨unseen, state, found, .inr wanted⟩)
        obtain ⟨rfl, distinct, -⟩ := registerPlugins_ok registered
        obtain ⟨entry, inside, rfl⟩ := List.mem_map.mp listed
        have pairwise := (List.pairwise_map.mp distinct).imp Ne.symm
        rw [registerPlugins_eq (registerPlugins_named registered)] at registered
        have left := (enlistAll_enlists before pairwise).listed entry inside
        rw [ConfigReader.instances, ← enroll_enlistAll registered, found] at left
        cases left
        unfold entered
        split <;> rfl

theorem Unattended.spaced {start monitor : PluginMonitor} {launches : List Launch}
    (registered : Reset name start)
    (run : Unattended config name start launches monitor) :
    Settled monitor ∧ Steady monitor ∧ CountedAt name launches.getLast? monitor ∧
      launches.IsChain Spaced := by
  induction run with
  | start =>
      refine ⟨registered.settled, registered.steady, fun state found wanted => ?_, .nil⟩
      have zero := registered.unfailed state found wanted
      constructor
      · omega
      · omega
      · exact fun _ => by omega
      · exact fun launch inside => by cases inside
      · exact fun launch inside => by cases inside
  | @waited _ middle _ inductionHypothesis =>
      obtain ⟨settled, steady, counted, spaced⟩ := inductionHypothesis
      have passed := elapse_passed middle
      exact ⟨settled.idle passed.toIdle, steady.elapse,
        counted.of_entry (congrArg (·[name]?) passed.state), spaced⟩
  | @stopped _ middle hard pid _ inductionHypothesis =>
      obtain ⟨settled, steady, counted, spaced⟩ := inductionHypothesis
      have passed := elapse_passed middle
      exact ⟨(settled.idle passed.toIdle).idle (.record _ _), steady.elapse,
        counted.of_entry (congrArg (·[name]?) passed.state), spaced⟩
  | awakened _ inductionHypothesis =>
      obtain ⟨settled, steady, counted, spaced⟩ := inductionHypothesis
      exact ⟨settled.wake, steady, counted, spaced⟩
  | @ranOnce earlier middle few _ inductionHypothesis =>
      obtain ⟨settled, steady, counted, spaced⟩ := inductionHypothesis
      refine ⟨settled.runOnce config, steady.runOnce config, ?_⟩
      rcases runOnce_launches config settled steady counted few with
        ⟨none, counted⟩ | ⟨launch, one, counted, apart⟩
      · rw [none, List.append_nil]
        exact ⟨counted, spaced⟩
      · rw [one, List.getLast?_concat]
        refine ⟨counted, spaced.append (.singleton launch) fun first inside second last => ?_⟩
        cases last
        exact apart first inside

/-- The delay is the one that is wanted, and is computed within `int`, up to 29 failures and no
more; up to there it does not decrease, and in every run in which the plugin has no more failures
when the start loop comes to it, its launches are a delay apart. -/
theorem delays_kept {numFailures : Int} (positive : 1 ≤ numFailures) :
    (InRange numFailures ∧ waitSeconds numFailures = min 300 (5 * 2 ^ (numFailures - 1).toNat) ↔
      numFailures ≤ 29) ∧
    (∀ more, numFailures ≤ more → more ≤ 29 → waitSeconds numFailures ≤ waitSeconds more) ∧
    ∀ (config : ConfigReader) (name : ByteString) (start monitor : PluginMonitor)
      (launches : List Launch), Reset name start →
      Unattended config name start launches monitor → launches.IsChain Spaced := by
  refine ⟨?_, fun more grown few => ?_, ?_⟩
  · rw [inRange_iff positive]
    refine ⟨And.left, fun few => ⟨few, ?_⟩⟩
    rw [waitSeconds_eq few, delay, if_pos positive]
  · rw [waitSeconds_eq (Int.le_trans grown few), waitSeconds_eq few]
    exact delay_mono grown
  · intro config name start monitor launches reset run
    exact (run.spaced reset).2.2.2

/-- A plugin without a directory, which is tried twice. -/
theorem delays_kept_missing :
    let config : ConfigReader := { plugins := [{ name := ascii "p" }] }
    let start := (({ script := List.replicate 6 {} ++ [{ events := [.clock 5] }] } :
      PluginMonitor).registerPlugins [] config.plugins []).2
    let again := (start.runOnce config).2.elapse
    start.launches config (ascii "p") ++ again.launches config (ascii "p") =
        [⟨0, 0, true⟩, ⟨5, 1, true⟩] ∧
      (start.launches config (ascii "p") ++ again.launches config (ascii "p")).IsChain Spaced ∧
      waitSeconds 1 ≤ waitSeconds 2 := by
  intro config start again
  have initial : system.initial { script := List.replicate 6 {} ++ [{ events := [.clock 5] }] } :=
    ⟨rfl, rfl, rfl, rfl, rfl⟩
  have registered : ({ script := List.replicate 6 {} ++ [{ events := [.clock 5] }] } :
      PluginMonitor).registerPlugins config.networks config.plugins [] = (.ok [ascii "p"], start) :=
    rfl
  have reset : Reset (ascii "p") start :=
    registerPlugins_reset (system_settled (.start initial)) (by unfold Steady; decide) registered
  have first : start.block.reap.candidate (ascii "p") =
      some { config := { name := ascii "p" }, network := [] } := by decide +kernel
  have second : again.block.reap.candidate (ascii "p") =
      some { config := { name := ascii "p" }, network := [], numFailures := 1 } := by decide +kernel
  have few : FewFailures (ascii "p") start ∧ FewFailures (ascii "p") again := by
    constructor
    · intro _ state found
      cases first.symm.trans found
      decide
    · intro _ state found
      cases second.symm.trans found
      decide
  have began : Unattended config (ascii "p") start [] start := .start
  have run := (began.ranOnce few.1).waited.ranOnce few.2
  rw [List.nil_append] at run
  obtain ⟨-, grown, spaced⟩ := delays_kept (Int.le_refl 1)
  exact ⟨by decide +kernel, spaced config (ascii "p") start _ _ reset run,
    grown 2 (by decide) (by decide)⟩

/-- The same plugin after 30 failures, at intervals of five minutes: it is started again at
once. -/
theorem thirtieth_failure :
    let config : ConfigReader := { plugins := [{ name := ascii "p" }] }
    let pause (round : Nat) : Moment :=
      { events := if round < 29 then [.clock (300 * (round + 1))] else [] }
    let script := (List.range 30).flatMap fun round =>
      List.replicate 6 ({} : Moment) ++ [pause round]
    let start := (({ script } : PluginMonitor).registerPlugins [] config.plugins []).2
    let later := Nat.repeat (fun monitor => (monitor.runOnce config).2.elapse) 30 start
    later.state[ascii "p"]?.map (fun state => (state.numFailures, state.lastStart)) =
        some (30, 8700) ∧
      waitSeconds 30 = -1610612736 ∧
      later.launches config (ascii "p") = [⟨8700, 30, true⟩] := by
  refine ⟨?_, ?_, ?_⟩ <;> decide +kernel

end PluginMonitor

end DaZeus
