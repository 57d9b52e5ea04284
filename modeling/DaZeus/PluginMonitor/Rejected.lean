import DaZeus.PluginMonitor.Stops

/-!
# Rejected configurations

`configReloaded` finds a name that repeats while it enters the instances.  Those
before it have been entered by then, and nothing takes them back: what they
changed is there when the next `runOnce` looks for plugins to start.
-/

namespace DaZeus

open Library
open Std (TreeMap)

namespace PluginMonitor

variable {config : ConfigReader} {before after : PluginMonitor}

/-! ## What was entered before the exception -/

/-- The instances before the first whose name was seen already. -/
def beforeRepeat : List ByteString → List Instance → List Instance
  | _, [] => []
  | seen, entry :: rest =>
      if entry.name ∈ seen then [] else entry :: beforeRepeat (seen ++ [entry.name]) rest

theorem beforeRepeat_unseen (seen : List ByteString) (entries : List Instance) :
    ∀ entry ∈ beforeRepeat seen entries, entry.name ∉ seen := by
  induction entries generalizing seen with
  | nil => exact fun _ inside => absurd inside List.not_mem_nil
  | cons entry rest inductionHypothesis =>
      unfold beforeRepeat
      split
      · exact fun _ inside => absurd inside List.not_mem_nil
      · next fresh =>
          refine List.forall_mem_cons.mpr ⟨fresh, fun other later known => ?_⟩
          exact inductionHypothesis _ other later (List.mem_append_left _ known)

theorem beforeRepeat_distinct (seen : List ByteString) (entries : List Instance) :
    (beforeRepeat seen entries).Pairwise fun first second => second.name ≠ first.name := by
  induction entries generalizing seen with
  | nil => exact .nil
  | cons entry rest inductionHypothesis =>
      unfold beforeRepeat
      split
      · exact .nil
      · refine .cons (fun other later same => ?_) (inductionHypothesis _)
        apply beforeRepeat_unseen _ rest other later
        exact List.mem_append_right _ (List.mem_singleton.mpr same)

theorem enroll_exception {entries : List Instance} {seen : List ByteString} {what : ByteString}
    (thrown : before.enroll entries seen = (.error (.exception what), after)) :
    after = before.enlistAll (beforeRepeat seen entries) := by
  induction entries generalizing seen before with
  | nil => cases thrown
  | cons entry rest inductionHypothesis =>
      unfold enroll at thrown
      unfold beforeRepeat
      split at thrown
      · next known =>
          cases thrown
          rw [if_pos known]
          rfl
      · next fresh =>
          split at thrown
          · cases thrown
          · rw [if_neg fresh]
            exact inductionHypothesis thrown

/-- A plugin without a name fails an assertion instead. -/
theorem registerPlugins_exception {networks : List NetworkConfig} {plugins : List PluginConfig}
    {seen : List ByteString} {what : ByteString}
    (thrown : before.registerPlugins networks plugins seen = (.error (.exception what), after)) :
    before.enroll (instancesOf networks plugins) seen = (.error (.exception what), after) := by
  induction plugins generalizing seen before with
  | nil => cases thrown
  | cons config rest inductionHypothesis =>
      unfold registerPlugins at thrown
      rw [instancesOf, List.flatMap_cons, enroll_append]
      split at thrown
      · cases thrown
      · rw [registerInstances_eq] at thrown
        generalize before.enroll ((instances networks config).map fun entry =>
          ⟨config, entry.1, entry.2⟩) seen = outcome at thrown ⊢
        obtain ⟨_ | _, _⟩ := outcome
        · exact thrown
        · exact inductionHypothesis thrown

/-- If a name repeats, it is the registration that throws. -/
theorem configReloaded_exception {what : ByteString}
    (repeats : ¬(config.instances.map (·.name)).Nodup)
    (thrown : before.configReloaded config = (.error (.exception what), after)) :
    after = before.enlistAll (beforeRepeat [] config.instances) := by
  unfold configReloaded at thrown
  split at thrown
  · next stop middle registered =>
      cases thrown
      exact enroll_exception (registerPlugins_exception registered)
  · next registered => exact absurd (registerPlugins_ok registered).2.1 repeats

/-! ## The entries that it leaves -/

/-- The entry is there already, as the instance would leave it. -/
def Redundant (monitor : PluginMonitor) (entry : Instance) : Prop :=
  ∃ state, monitor.state[entry.name]? = some state ∧ state.config = entry.config ∧
    state.willAutostart = true ∧ state.numFailures = 0

theorem redundant_iff {monitor : PluginMonitor} {entry : Instance} :
    monitor.state[entry.name]? = some (entered entry monitor.state[entry.name]?) ↔
      Redundant monitor entry := by
  constructor
  · intro same
    cases found : monitor.state[entry.name]? with
    | none =>
        rw [found] at same
        cases same
    | some state =>
        rw [found] at same
        have unchanged : state = entered entry (some state) := Option.some.inj same
        refine ⟨state, found, ?_, ?_, ?_⟩ <;> rw [unchanged] <;> rfl
  · rintro ⟨⟨config, willAutostart, pid, network, numFailures, lastStart⟩, found, rfl, rfl, rfl⟩
    rw [found]
    rfl

/-- Nothing is changed if and only if no instance has anything to change. -/
theorem enlistAll_unchanged_iff {entries : List Instance} (before : PluginMonitor)
    (distinct : entries.Pairwise fun first second => second.name ≠ first.name) :
    (∀ name : ByteString, (before.enlistAll entries).state[name]? = before.state[name]?) ↔
      ∀ entry ∈ entries, Redundant before entry := by
  have enlists := enlistAll_enlists before distinct
  constructor
  · intro unchanged entry inside
    apply redundant_iff.mp
    exact (unchanged entry.name).symm.trans (enlists.listed entry inside)
  · intro redundant name
    by_cases listed : ∃ entry ∈ entries, entry.name = name
    · obtain ⟨entry, inside, rfl⟩ := listed
      exact (enlists.listed entry inside).trans (redundant_iff.mpr (redundant entry inside)).symm
    · apply enlists.others
      exact fun entry inside same => listed ⟨entry, inside, same.symm⟩

/-! ## What is started later -/

/-- The plugins started since then could be started then, and nothing else can be started now. -/
def StartsPlanned (before after : PluginMonitor) : Prop :=
  SamePlans before after ∧ ∃ started, after.starts = started ++ before.starts ∧
    ∀ name ∈ started, before.autostarts name = true

theorem StartsPlanned.of_starts (plans : SamePlans before after)
    (same : after.starts = before.starts) : StartsPlanned before after :=
  ⟨plans, [], same, fun _ inside => absurd inside List.not_mem_nil⟩

theorem startsPlanned_frame (config : ConfigReader) : StartFrame config StartsPlanned where
  refl monitor := .of_starts (.refl monitor) rfl
  trans := by
    intro first second third earlier later
    obtain ⟨plans, started, grown, planned⟩ := earlier
    obtain ⟨laterPlans, laterStarted, laterGrown, laterPlanned⟩ := later
    refine ⟨plans.trans laterPlans, laterStarted ++ started, ?_, fun name inside => ?_⟩
    · rw [laterGrown, grown, List.append_assoc]
    · rcases List.mem_append.mp inside with here | there
      · rw [← plans.autostarts]
        exact laterPlanned name here
      · exact planned name there
  passed passed := .of_starts (.of_state passed.state) passed.starts
  reaped monitor _ := .of_starts (.of_state rfl) rfl
  killed monitor _ _ := .of_starts (.of_state rfl) rfl
  modify monitor name {change} kept := by
    exact .of_starts (samePlans_frame.modify monitor name kept) rfl
  processes _ _ _ _ _ := .of_starts (.of_state rfl) rfl
  startPlugin := by
    intro monitor name state found wanted
    refine ⟨samePlans_frame.startPlugin config name state monitor, [name],
      startPlugin_starts config name state monitor, fun other inside => ?_⟩
    rw [List.mem_singleton.mp inside, autostarts, planAt, found]
    simpa [PluginState.plan] using wanted

def Call.Reloads : Call → Prop
  | .configReloaded _ => True
  | _ => False

theorem calls_planned (monitor : PluginMonitor) {calls : List Call}
    (none : ∀ call ∈ calls, ¬call.Reloads) :
    StartsPlanned monitor (calls.foldl PluginMonitor.call monitor) := by
  apply List.foldlRecOn (motive := StartsPlanned monitor)
  · exact (startsPlanned_frame {}).refl monitor
  · intro after planned call inside
    cases call with
    | configReloaded config => exact absurd trivial (none _ inside)
    | runOnce config =>
        exact (startsPlanned_frame config).trans planned
          ((startsPlanned_frame config).runOnce after)
    | wait => exact (startsPlanned_frame {}).trans planned ((startsPlanned_frame {}).elapse after)

/-- The rejected configuration changed no entry, so whatever the monitor starts until the next
one is loaded could have been started before. -/
def Rejected (before after : PluginMonitor) : Prop :=
  (∀ name : ByteString, after.state[name]? = before.state[name]?) ∧
    ∀ calls : List Call, (∀ call ∈ calls, ¬call.Reloads) →
      ∃ started, (calls.foldl call after).starts = started ++ before.starts ∧
        ∀ name ∈ started, before.autostarts name = true

theorem enlist_starts (entry : Instance) (monitor : PluginMonitor) :
    (monitor.enlist entry).starts = monitor.starts := by
  unfold enlist
  split <;> rfl

theorem enlistAll_starts (entries : List Instance) (monitor : PluginMonitor) :
    (monitor.enlistAll entries).starts = monitor.starts := by
  apply List.foldlRecOn (motive := fun after : PluginMonitor => after.starts = monitor.starts)
  · rfl
  · exact fun after same entry _ => (enlist_starts entry after).trans same

/-- When a name repeats, the configuration is rejected without a trace if and only if every
instance before the second of that name has an entry that it leaves as it is. -/
theorem rejected_iff {what : ByteString} (repeats : ¬(config.instances.map (·.name)).Nodup)
    (thrown : before.configReloaded config = (.error (.exception what), after)) :
    Rejected before after ↔
      ∀ entry ∈ beforeRepeat [] config.instances, Redundant before entry := by
  have unchanged := enlistAll_unchanged_iff before (beforeRepeat_distinct [] config.instances)
  rw [configReloaded_exception repeats thrown, ← unchanged]
  refine ⟨fun rejected => rejected.1, fun same => ⟨same, fun calls none => ?_⟩⟩
  obtain ⟨-, started, grown, planned⟩ := calls_planned
    (before.enlistAll (beforeRepeat [] config.instances)) none
  refine ⟨started, grown.trans (by rw [enlistAll_starts]), fun name inside => ?_⟩
  have wanted := planned name inside
  rw [autostarts, planAt, same] at wanted
  exact wanted

/-- The plugin is running, and has not failed. -/
theorem rejected_iff_running :
    let plugin : PluginConfig := { name := ascii "p" }
    let running := (({ script := List.replicate 12 { answer := 1 } } : PluginMonitor).configReloaded
      { plugins := [plugin] }).2
    Rejected running (running.configReloaded { plugins := [plugin, plugin] }).2 := by
  intro plugin running
  have thrown : (running.configReloaded { plugins := [plugin, plugin] }).1 =
      .error (.exception (ascii "Multiple plugins exist with name p")) := by decide +kernel
  have entry : running.state[ascii "p"]? = some { config := plugin, network := [], pid := 1 } := by
    decide +kernel
  have first : beforeRepeat [] ({ plugins := [plugin, plugin] } : ConfigReader).instances =
      [⟨plugin, [], ascii "p"⟩] := by decide
  clear_value running
  apply (rejected_iff (by decide) (Prod.ext thrown rfl)).mpr
  rw [first]
  intro other inside
  rw [List.mem_singleton.mp inside]
  exact ⟨_, entry, rfl, rfl, rfl⟩

/-- No configuration was loaded before, and the plugin is started nevertheless. -/
theorem rejected_plugin_started :
    let plugin : PluginConfig := { name := ascii "p" }
    let config : ConfigReader := { plugins := [plugin, plugin] }
    let after := (({} : PluginMonitor).configReloaded config).2
    ¬(config.instances.map (·.name)).Nodup ∧
      (({} : PluginMonitor).configReloaded config).1 =
        .error (.exception (ascii "Multiple plugins exist with name p")) ∧
      ¬Rejected {} after ∧ (after.runOnce config).2.starts = [ascii "p"] := by
  intro plugin config after
  refine ⟨by decide, by decide +kernel, fun rejected => ?_, by decide +kernel⟩
  have entry : after.state[ascii "p"]? = some { config := plugin, network := [] } := by
    decide +kernel
  cases entry.symm.trans (rejected.1 (ascii "p"))

end PluginMonitor

end DaZeus
