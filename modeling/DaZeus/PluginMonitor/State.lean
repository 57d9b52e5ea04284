import DaZeus.Config

/-!
# Supervised plugins and their processes

The state of a `PluginMonitor` together with what the operating system keeps
for it: the child processes, the clock and the SIGCHLD that may be pending.
The environment is a script.  Each system call takes the next `Moment` from it:
what happens until the call returns, and what it answers where it has a choice.
-/

namespace DaZeus

open Library
open Std (TreeMap)

structure PluginState where
  config : PluginConfig
  willAutostart : Bool := true
  pid : Nat := 0
  network : ByteString
  numFailures : Int := 0
  lastStart : Int := 0
  deriving DecidableEq

/-- A process that was forked and not yet waited for. -/
structure Child where
  pid : Nat
  exited : Bool := false
  deriving DecidableEq

inductive ProcessEvent where
  | exit (pid : Nat)
  | clock (now : Int)

structure Moment where
  events : List ProcessEvent := []
  answer : Nat := 0

/-- What the monitor did about its plugins. -/
inductive SupervisionEvent where
  /-- `start_plugin` was entered. -/
  | started (name : ByteString)
  | forked (pid : Nat) (path executable : ByteString) (arguments : List ByteString)
  | reaped (pid : Nat)
  | killed (pid : Nat) (hard : Bool)
  deriving DecidableEq

/-- The fields of the class, except for the configuration, which it shares with
others; then the operating system's part.  `log`, the newest event first, is
read by no function. -/
structure PluginMonitor where
  pluginDirectory : ByteString := []
  state : TreeMap ByteString PluginState := ∅
  shouldRun : Bool := true
  clock : Int := 0
  children : List Child := []
  /-- SIGCHLD is blocked. -/
  blocked : Bool := false
  /-- SIGCHLD arrived while it was blocked. -/
  pending : Bool := false
  script : List Moment := []
  log : List SupervisionEvent := []

namespace PluginMonitor

def record (monitor : PluginMonitor) (event : SupervisionEvent) : PluginMonitor :=
  { monitor with log := event :: monitor.log }

/-- `monitor.state[name]` as a reference. -/
def modify (monitor : PluginMonitor) (name : ByteString) (change : PluginState → PluginState) :
    PluginMonitor :=
  { monitor with state := monitor.state.modify name change }

/-! ## System calls -/

/-- A child that exits raises SIGCHLD; its handler is `PluginMonitor::sigchild`. -/
def happen (monitor : PluginMonitor) : ProcessEvent → PluginMonitor
  | .exit pid =>
      if monitor.children.any fun child => child.pid == pid && !child.exited then
        { monitor with
          children := monitor.children.map fun child =>
            if child.pid = pid then { child with exited := true } else child
          shouldRun := monitor.shouldRun || !monitor.blocked
          pending := monitor.pending || monitor.blocked }
      else
        monitor
  | .clock now => { monitor with clock := now }

/-- The answer of the next system call. -/
def answer (monitor : PluginMonitor) : Nat := (monitor.script.headD {}).answer

/-- What happens until it returns. -/
def elapse (monitor : PluginMonitor) : PluginMonitor :=
  (monitor.script.headD {}).events.foldl happen { monitor with script := monitor.script.tail }

/-- `sigprocmask(SIG_BLOCK, ...)` for SIGCHLD. -/
def block (monitor : PluginMonitor) : PluginMonitor := { monitor.elapse with blocked := true }

/-- `sigprocmask(SIG_UNBLOCK, ...)`; a pending signal is delivered at once. -/
def unblock (monitor : PluginMonitor) : PluginMonitor :=
  let monitor := monitor.elapse
  { monitor with
    blocked := false, pending := false, shouldRun := monitor.shouldRun || monitor.pending }

/-- `wait4(-1, ..., WNOHANG, ...)`: some child that exited, if there is one. -/
def wait4 (monitor : PluginMonitor) : Option Nat × PluginMonitor :=
  let choice := monitor.answer
  let monitor := monitor.elapse
  let zombies := monitor.children.filter (·.exited)
  match zombies[choice % zombies.length]? with
  | none => (none, monitor)
  | some child =>
      (some child.pid, { monitor with
        children := monitor.children.filter (·.pid != child.pid) }.record (.reaped child.pid))

/-- `fork_plugin` in the parent; a process id that is in use is not given out. -/
def forkPlugin (path executable : ByteString) (arguments : List ByteString)
    (monitor : PluginMonitor) : Option Nat × PluginMonitor :=
  let pid := monitor.answer
  let monitor := monitor.elapse
  if pid = 0 || monitor.children.any (·.pid == pid) then
    (none, monitor)
  else
    (some pid, { monitor with children := monitor.children ++ [({ pid } : Child)] }.record
      (.forked pid path executable arguments))

/-- `stat` or `access`: whether it succeeds. -/
def check (monitor : PluginMonitor) : Bool × PluginMonitor :=
  (monitor.answer != 0, monitor.elapse)

/-- `time(NULL)` -/
def time (monitor : PluginMonitor) : Int × PluginMonitor :=
  (monitor.elapse.clock, monitor.elapse)

/-! ## What time can do -/

/-- What a child that exited leaves behind. -/
def Signalled (monitor : PluginMonitor) : Prop :=
  if monitor.blocked then monitor.pending = true else monitor.shouldRun = true

/-- The process of an entry; 0 if it has none, or there is no such entry. -/
def pidAt (monitor : PluginMonitor) (name : ByteString) : Nat :=
  (monitor.state[name]?.map (·.pid)).getD 0

/-- Children may have exited, but none was started or waited for. -/
structure Idle (before after : PluginMonitor) : Prop where
  pidAt : ∀ name, after.pidAt name = before.pidAt name
  present : ∀ name, name ∈ before.state → name ∈ after.state
  blocked : after.blocked = before.blocked
  pids : after.children.map (·.pid) = before.children.map (·.pid)
  stays : ∀ child ∈ before.children, child.exited = true → child ∈ after.children
  exits : ∀ child ∈ after.children, child.exited = true → child ∈ before.children ∨ after.Signalled
  shouldRun : before.shouldRun = true → after.shouldRun = true
  pending : before.pending = true → after.pending = true
  /-- While the signal is not blocked it is delivered, and while it is, it is kept. -/
  delivered : before.blocked = false → after.pending = before.pending
  kept : before.blocked = true → after.shouldRun = before.shouldRun

/-- What the time until a system call returns can do. -/
structure Passed (before after : PluginMonitor) : Prop extends Idle before after where
  pluginDirectory : after.pluginDirectory = before.pluginDirectory
  state : after.state = before.state
  log : after.log = before.log

/-- Neither the clock, the script nor the log matters here, nor what an entry holds besides
its process id. -/
theorem Idle.entries (monitor : PluginMonitor) {state : TreeMap ByteString PluginState}
    (same : ∀ name, (state[name]?.map (·.pid)).getD 0 = monitor.pidAt name)
    (present : ∀ name, name ∈ monitor.state → name ∈ state) (clock : Int)
    (script : List Moment) (log : List SupervisionEvent) :
    Idle monitor { monitor with state, clock, script, log } :=
  ⟨same, present, rfl, rfl, fun _ inside _ => inside, fun _ inside _ => .inl inside, id, id,
    fun _ => rfl, fun _ => rfl⟩

theorem Idle.environment (monitor : PluginMonitor) (clock : Int) (script : List Moment)
    (log : List SupervisionEvent) : Idle monitor { monitor with clock, script, log } :=
  .entries monitor (fun _ => rfl) (fun _ => id) clock script log

theorem Idle.refl (monitor : PluginMonitor) : Idle monitor monitor :=
  .environment monitor monitor.clock monitor.script monitor.log

theorem Idle.record (monitor : PluginMonitor) (event : SupervisionEvent) :
    Idle monitor (monitor.record event) :=
  .environment monitor monitor.clock monitor.script (event :: monitor.log)

theorem state_modify (monitor : PluginMonitor) (name other : ByteString)
    (change : PluginState → PluginState) :
    (monitor.modify name change).state[other]? =
      if other = name then monitor.state[name]?.map change else monitor.state[other]? := by
  unfold modify
  rw [TreeMap.getElem?_modify]
  by_cases same : other = name
  · subst same
    rw [if_pos rfl, if_pos Std.compare_self]
  · rw [if_neg same, if_neg]
    exact fun equal => same (Std.LawfulEqOrd.eq_of_compare equal).symm

theorem pidAt_modify (monitor : PluginMonitor) (name other : ByteString)
    (change : PluginState → PluginState) :
    (monitor.modify name change).pidAt other =
      if other = name then (monitor.state[name]?.map fun state => (change state).pid).getD 0
      else monitor.pidAt other := by
  unfold pidAt
  rw [state_modify]
  split
  · rw [Option.map_map]
    rfl
  · rfl

/-- An entry was changed, but not in its process id. -/
theorem Idle.modify (monitor : PluginMonitor) (name : ByteString)
    {change : PluginState → PluginState} (kept : ∀ state, (change state).pid = state.pid) :
    Idle monitor (monitor.modify name change) := by
  refine .entries monitor (fun other => ?_) (fun _ => TreeMap.mem_modify.mpr) _ _ _
  apply (pidAt_modify monitor name other change).trans
  split
  · next same =>
      rw [same, PluginMonitor.pidAt]
      simp only [kept]
  · rfl

/-- A signal that was raised stays raised. -/
theorem Idle.signalled {before after : PluginMonitor} (idle : Idle before after)
    (signalled : before.Signalled) : after.Signalled := by
  unfold Signalled at *
  rw [idle.blocked]
  split at signalled
  · next blocked =>
      rw [if_pos blocked]
      exact idle.pending signalled
  · next blocked =>
      rw [if_neg blocked]
      exact idle.shouldRun signalled

theorem Idle.trans {first second third : PluginMonitor} (earlier : Idle first second)
    (later : Idle second third) : Idle first third where
  pidAt name := (later.pidAt name).trans (earlier.pidAt name)
  present name := later.present name ∘ earlier.present name
  blocked := later.blocked.trans earlier.blocked
  pids := later.pids.trans earlier.pids
  stays child inside exited := later.stays child (earlier.stays child inside exited) exited
  exits child inside exited := by
    rcases later.exits child inside exited with before | signalled
    · exact (earlier.exits child before exited).imp id later.signalled
    · exact .inr signalled
  shouldRun := later.shouldRun ∘ earlier.shouldRun
  pending := later.pending ∘ earlier.pending
  delivered unblocked :=
    (later.delivered (earlier.blocked.trans unblocked)).trans (earlier.delivered unblocked)
  kept blocked := (later.kept (earlier.blocked.trans blocked)).trans (earlier.kept blocked)

theorem Passed.environment (monitor : PluginMonitor) (clock : Int) (script : List Moment) :
    Passed monitor { monitor with clock, script } :=
  ⟨.environment monitor clock script monitor.log, rfl, rfl, rfl⟩

theorem Passed.refl (monitor : PluginMonitor) : Passed monitor monitor :=
  .environment monitor monitor.clock monitor.script

theorem Passed.trans {first second third : PluginMonitor} (earlier : Passed first second)
    (later : Passed second third) : Passed first third :=
  ⟨earlier.toIdle.trans later.toIdle, later.pluginDirectory.trans earlier.pluginDirectory,
    later.state.trans earlier.state, later.log.trans earlier.log⟩

theorem exit_passed (monitor : PluginMonitor) (pid : Nat) :
    Passed monitor { monitor with
      children := monitor.children.map fun child =>
        if child.pid = pid then { child with exited := true } else child
      shouldRun := monitor.shouldRun || !monitor.blocked
      pending := monitor.pending || monitor.blocked } where
  pluginDirectory := rfl
  state := rfl
  log := rfl
  pidAt _ := rfl
  present _ := id
  blocked := rfl
  pids := by
    rw [List.map_map]
    apply List.map_congr_left
    intro child _
    by_cases same : child.pid = pid <;> simp [same]
  stays child inside exited := by
    refine List.mem_map.mpr ⟨child, inside, ?_⟩
    split
    · rw [← exited]
    · rfl
  exits child inside exited := by
    obtain ⟨old, membership, rfl⟩ := List.mem_map.mp inside
    by_cases same : old.pid = pid
    · apply Or.inr
      unfold Signalled
      cases monitor.blocked <;> simp
    · rw [if_neg same] at exited ⊢
      exact .inl membership
  shouldRun running := by simp [running]
  pending raised := by simp [raised]
  delivered unblocked := by simp [unblocked]
  kept blocked := by simp [blocked]

theorem happen_passed (monitor : PluginMonitor) (event : ProcessEvent) :
    Passed monitor (monitor.happen event) := by
  cases event with
  | clock now => exact .environment monitor now monitor.script
  | exit pid =>
      dsimp only [happen]
      split
      · exact exit_passed monitor pid
      · exact .refl monitor

theorem elapse_passed (monitor : PluginMonitor) : Passed monitor monitor.elapse := by
  apply List.foldlRecOn (motive := Passed monitor)
  · exact .environment monitor monitor.clock monitor.script.tail
  · intro after passed event _
    exact passed.trans (happen_passed after event)

end PluginMonitor

end DaZeus
