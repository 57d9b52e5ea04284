import DaZeus.PluginMonitor.Entries

/-!
# Reloads and restarts

A monitor that has loaded several configurations against one that was
constructed for the last of them.  They supervise the same plugins with the
same configurations, but an entry keeps its first network, and the monitor the
plugin directory it was constructed with.
-/

namespace DaZeus

open Library

namespace PluginMonitor

def freshMonitor (config : ConfigReader) (script : List Moment) : PluginMonitor :=
  { pluginDirectory := config.globalConfig.plugindirectory, script }

/-- The monitor was constructed for the first of these configurations and has loaded all of
them, each call having returned; the last one is the second argument. -/
inductive History : List ConfigReader → ConfigReader → PluginMonitor → Prop
  | loaded {config : ConfigReader} {script : List Moment}
      (returned : ((freshMonitor config script).configReloaded config).1 = .ok ()) :
      History [] config ((freshMonitor config script).configReloaded config).2
  | reloaded {earlier : List ConfigReader} {old config : ConfigReader} {monitor : PluginMonitor}
      (history : History earlier old monitor)
      (returned : (monitor.configReloaded config).1 = .ok ()) :
      History (earlier ++ [old]) config (monitor.configReloaded config).2
  | ranOnce {earlier : List ConfigReader} {config other : ConfigReader} {monitor : PluginMonitor}
      (history : History earlier config monitor) :
      History earlier config (monitor.runOnce other).2
  | waited {earlier : List ConfigReader} {config : ConfigReader} {monitor : PluginMonitor}
      (history : History earlier config monitor) : History earlier config monitor.elapse

/-- The network that the first configuration with an entry of this name gave it. -/
def firstNetwork (loads : List ConfigReader) (name : ByteString) : Option ByteString :=
  ((loads.flatMap (·.instances)).find? (·.name = name)).map (·.network)

/-- The supervision of the monitor is that of the other one, which has loaded only this. -/
structure SameSupervision (config : ConfigReader) (monitor fresh : PluginMonitor) : Prop where
  autostarts : ∀ name, monitor.autostarts name = true ↔ name ∈ config.instances.map (·.name)
  plans : ∀ name ∈ config.instances.map (·.name), monitor.planAt name = fresh.planAt name
  directory : config.instances ≠ [] → monitor.pluginDirectory = fresh.pluginDirectory

/-- No entry comes with another network than before or fails an assertion, and the plugin
directory, if it is used, is still the first one. -/
structure Refreshed (earlier : List ConfigReader) (config : ConfigReader) : Prop where
  sound : ∀ entry ∈ config.instances, entry.Sound
  networks : ∀ entry ∈ config.instances, ∀ network,
    firstNetwork earlier entry.name = some network → network = entry.network
  directory : config.instances ≠ [] →
    ((earlier ++ [config]).head?).map (·.globalConfig.plugindirectory) =
      some config.globalConfig.plugindirectory

variable {earlier : List ConfigReader} {config : ConfigReader} {before after : PluginMonitor}

/-! ## The plugin directory -/

theorem pluginDirectory_frame :
    Frame fun before after => after.pluginDirectory = before.pluginDirectory where
  refl _ := rfl
  trans earlier later := later.trans earlier
  passed passed := passed.pluginDirectory
  record _ _ := rfl
  modify _ _ _ _ := rfl
  processes _ _ _ _ _ := rfl

theorem enroll_pluginDirectory (entries : List Instance) (seen : List ByteString)
    (monitor : PluginMonitor) :
    (monitor.enroll entries seen).2.pluginDirectory = monitor.pluginDirectory := by
  induction entries generalizing seen monitor with
  | nil => rfl
  | cons entry rest inductionHypothesis =>
      unfold enroll
      split
      · rfl
      · split
        · rfl
        · rw [inductionHypothesis, enlist]
          split <;> rfl

theorem configReloaded_pluginDirectory (named : ∀ plugin ∈ config.plugins, plugin.name ≠ []) :
    (before.configReloaded config).2.pluginDirectory = before.pluginDirectory := by
  apply configReloaded_invariant
    (motive := fun after => after.pluginDirectory = before.pluginDirectory)
  · rw [registerPlugins_eq named]
    exact enroll_pluginDirectory config.instances [] before
  · intro monitor name same
    exact same
  · intro monitor names same
    exact (pluginDirectory_frame.killPlugins config names monitor).trans same
  · intro monitor same
    exact (pluginDirectory_frame.runOnce config _).trans same

/-! ## What the history leaves in the entries -/

theorem firstNetwork_append (first second : List ConfigReader) (name : ByteString) :
    firstNetwork (first ++ second) name =
      (firstNetwork first name).or (firstNetwork second name) := by
  unfold firstNetwork
  rw [List.flatMap_append, List.find?_append, Option.map_or]

theorem firstNetwork_single {entry : Instance}
    (distinct : (config.instances.map (·.name)).Nodup) (inside : entry ∈ config.instances) :
    firstNetwork [config] entry.name = some entry.network := by
  unfold firstNetwork
  rw [List.flatMap_singleton]
  generalize config.instances = entries at distinct inside
  induction entries with
  | nil => cases inside
  | cons first rest inductionHypothesis =>
      obtain ⟨apart, distinct⟩ := List.nodup_cons.mp distinct
      rcases List.mem_cons.mp inside with rfl | later
      · simp
      · have different : first.name ≠ entry.name := fun same =>
          apart (List.mem_map.mpr ⟨entry, later, same.symm⟩)
        rw [List.find?_cons_of_neg (by simpa using different)]
        exact inductionHypothesis distinct later

theorem firstNetwork_none {name : ByteString}
    (absent : name ∉ config.instances.map (·.name)) : firstNetwork [config] name = none := by
  unfold firstNetwork
  rw [List.flatMap_singleton, Option.map_eq_none_iff, List.find?_eq_none]
  intro entry inside
  simpa using fun same => absent (List.mem_map.mpr ⟨entry, inside, same⟩)

/-- The entries after the configurations were loaded, the last of them being the second one. -/
structure Carries (earlier : List ConfigReader) (config : ConfigReader)
    (monitor : PluginMonitor) : Prop where
  named : ∀ plugin ∈ config.plugins, plugin.name ≠ []
  distinct : (config.instances.map (·.name)).Nodup
  networks : ∀ name, monitor.networkAt name = firstNetwork (earlier ++ [config]) name
  listed : ∀ entry ∈ config.instances, monitor.planAt entry.name =
    some ⟨entry.config, (firstNetwork earlier entry.name).getD entry.network, true⟩
  others : ∀ name, name ∉ config.instances.map (·.name) → monitor.autostarts name = false
  directory : ((earlier ++ [config]).head?).map (·.globalConfig.plugindirectory) =
    some monitor.pluginDirectory

theorem load_carries
    (networks : ∀ name, before.networkAt name = firstNetwork earlier name)
    (directory : ((earlier ++ [config]).head?).map (·.globalConfig.plugindirectory) =
      some before.pluginDirectory)
    (returned : (before.configReloaded config).1 = .ok ()) :
    Carries earlier config (before.configReloaded config).2 := by
  obtain ⟨seen, middle, registered⟩ := configReloaded_registered returned
  have named := registerPlugins_named registered
  have plans := configReloaded_planAt registered
  obtain ⟨rfl, distinct, enrolls⟩ := registerPlugins_ok registered
  have listed : ∀ entry ∈ config.instances, (before.configReloaded config).2.planAt entry.name =
      some ⟨entry.config, (firstNetwork earlier entry.name).getD entry.network, true⟩ := by
    intro entry inside
    rw [plans, if_pos (List.mem_map_of_mem inside), enrolls.enrolled entry inside, planFor,
      networks]
  refine ⟨named, distinct, fun name => ?_, listed, fun name outside => ?_, ?_⟩
  · rw [firstNetwork_append]
    by_cases wanted : name ∈ config.instances.map (·.name)
    · obtain ⟨entry, inside, rfl⟩ := List.mem_map.mp wanted
      rw [networkAt, listed entry inside, firstNetwork_single distinct inside]
      cases firstNetwork earlier entry.name <;> rfl
    · rw [networkAt, plans, if_neg wanted, firstNetwork_none wanted, Option.or_none, ← networks,
        enrolls.others name wanted, Option.map_map]
      rfl
  · rw [autostarts, plans, if_neg outside]
    cases middle.planAt name <;> rfl
  · rw [configReloaded_pluginDirectory named]
    exact directory

theorem Carries.passed {monitor : PluginMonitor} (carries : Carries earlier config monitor)
    (same : SamePlans monitor after) (directory : after.pluginDirectory = monitor.pluginDirectory) :
    Carries earlier config after where
  named := carries.named
  distinct := carries.distinct
  networks name := by
    rw [networkAt, same name]
    exact carries.networks name
  listed entry inside := (same entry.name).trans (carries.listed entry inside)
  others name outside := (same.autostarts name).trans (carries.others name outside)
  directory := by
    rw [directory]
    exact carries.directory

theorem History.carries {monitor : PluginMonitor} (history : History earlier config monitor) :
    Carries earlier config monitor := by
  induction history with
  | loaded returned => exact load_carries (fun _ => rfl) rfl returned
  | reloaded _ returned inductionHypothesis =>
      apply load_carries inductionHypothesis.networks ?_ returned
      rw [← inductionHypothesis.directory]
      simp
  | ranOnce _ inductionHypothesis =>
      exact inductionHypothesis.passed (samePlans_frame.runOnce _ _)
        (pluginDirectory_frame.runOnce _ _)
  | waited _ inductionHypothesis =>
      exact inductionHypothesis.passed (samePlans_frame.elapse _) (pluginDirectory_frame.elapse _)

/-! ## The monitor that is constructed for the last configuration -/

/-- Without entries, the loop runs through if all instances are sound, and stops before it makes
the entry of the first that is not. -/
theorem enroll_fresh {entries : List Instance} {seen : List ByteString}
    (distinct : (entries.map (·.name)).Nodup) (unseen : ∀ entry ∈ entries, entry.name ∉ seen)
    (absent : ∀ entry ∈ entries, before.planAt entry.name = none) :
    ((∀ entry ∈ entries, entry.Sound) ∧ ∃ result, (before.enroll entries seen).1 = .ok result) ∨
      ∃ entry ∈ entries, ¬entry.Sound ∧ (before.enroll entries seen).1 = .error .assertion ∧
        (before.enroll entries seen).2.planAt entry.name = none := by
  induction entries generalizing seen before with
  | nil => exact .inl ⟨nofun, seen, rfl⟩
  | cons entry rest inductionHypothesis =>
      obtain ⟨apart, distinct⟩ := List.nodup_cons.mp distinct
      obtain ⟨fresh, unseen⟩ := List.forall_mem_cons.mp unseen
      obtain ⟨here, absent⟩ := List.forall_mem_cons.mp absent
      unfold enroll
      rw [if_neg fresh]
      by_cases sound : entry.Sound
      · rw [if_neg fun refused => refused.2 sound]
        have different : ∀ other ∈ rest, other.name ≠ entry.name := fun other inside same =>
          apart (List.mem_map.mpr ⟨other, inside, same⟩)
        have unseen : ∀ other ∈ rest, other.name ∉ seen ++ [entry.name] := by
          intro other inside
          simp only [List.mem_append, List.mem_singleton, not_or]
          exact ⟨unseen other inside, different other inside⟩
        have absent : ∀ other ∈ rest, (before.enlist entry).planAt other.name = none := by
          intro other inside
          rw [planAt_enlist, if_neg (different other inside)]
          exact absent other inside
        rcases inductionHypothesis distinct unseen absent with
          ⟨later, returned⟩ | ⟨other, inside, unsound, failed, missing⟩
        · exact .inl ⟨List.forall_mem_cons.mpr ⟨sound, later⟩, returned⟩
        · exact .inr ⟨other, List.mem_cons_of_mem _ inside, unsound, failed, missing⟩
      · rw [if_pos ⟨here, sound⟩]
        exact .inr ⟨entry, List.mem_cons_self, sound, rfl, here⟩

/-- What the fresh monitor has for each instance, if it gets that far. -/
theorem freshMonitor_planAt (named : ∀ plugin ∈ config.plugins, plugin.name ≠ [])
    (distinct : (config.instances.map (·.name)).Nodup) (script : List Moment) :
    ((∀ entry ∈ config.instances, entry.Sound) ∧ ∀ entry ∈ config.instances,
      ((freshMonitor config script).configReloaded config).2.planAt entry.name =
        some ⟨entry.config, entry.network, true⟩) ∨
    ∃ entry ∈ config.instances, ¬entry.Sound ∧
      ((freshMonitor config script).configReloaded config).2.planAt entry.name = none := by
  have absent : ∀ entry ∈ config.instances, (freshMonitor config script).planAt entry.name = none :=
    fun _ _ => rfl
  have cases := enroll_fresh distinct (fun _ _ => List.not_mem_nil) absent
  rw [ConfigReader.instances, ← registerPlugins_eq named] at cases
  rcases cases with ⟨sound, seen, returned⟩ | ⟨entry, inside, unsound, failed, missing⟩
  · refine .inl ⟨sound, fun entry inside => ?_⟩
    have registered : (freshMonitor config script).registerPlugins config.networks config.plugins
        [] = (.ok seen, _) := Prod.ext returned rfl
    have plans := configReloaded_planAt registered
    obtain ⟨rfl, -, enrolls⟩ := registerPlugins_ok registered
    rw [plans, if_pos (List.mem_map_of_mem inside), enrolls.enrolled entry inside]
    rfl
  · refine .inr ⟨entry, inside, unsound, ?_⟩
    unfold configReloaded
    split <;> rename_i outcome <;> rw [outcome] at failed missing
    · exact missing
    · cases failed

/-- After any history of reloads that returned, the supervision is that of a fresh start if and
only if the last configuration refreshes what the others left. -/
theorem restart_iff {monitor : PluginMonitor} (history : History earlier config monitor)
    (script : List Moment) :
    SameSupervision config monitor ((freshMonitor config script).configReloaded config).2 ↔
      Refreshed earlier config := by
  have carries := history.carries
  have directory : ((freshMonitor config script).configReloaded config).2.pluginDirectory =
      config.globalConfig.plugindirectory := configReloaded_pluginDirectory carries.named
  rcases freshMonitor_planAt carries.named carries.distinct script with ⟨sound, plans⟩ | unsound
  · constructor
    · intro same
      refine ⟨sound, fun entry inside network known => ?_, fun used => ?_⟩
      · have plan := same.plans entry.name (List.mem_map_of_mem inside)
        rw [carries.listed entry inside, plans entry inside, known] at plan
        exact congrArg Plan.network (Option.some.inj plan)
      · rw [carries.directory, same.directory used, directory]
    · intro refreshed
      refine ⟨fun name => ⟨fun started => ?_, fun listed => ?_⟩, fun name listed => ?_,
        fun used => ?_⟩
      · by_contra outside
        rw [carries.others name outside] at started
        cases started
      · obtain ⟨entry, inside, rfl⟩ := List.mem_map.mp listed
        rw [autostarts, carries.listed entry inside]
        rfl
      · obtain ⟨entry, inside, rfl⟩ := List.mem_map.mp listed
        rw [carries.listed entry inside, plans entry inside]
        cases known : firstNetwork earlier entry.name with
        | none => rfl
        | some network =>
            rw [refreshed.networks entry inside network known]
            rfl
      · rw [directory]
        exact Option.some.inj (carries.directory.symm.trans (refreshed.directory used))
  · obtain ⟨entry, inside, unsound, missing⟩ := unsound
    constructor
    · intro same
      have plan := same.plans entry.name (List.mem_map_of_mem inside)
      rw [carries.listed entry inside, missing] at plan
      cases plan
    · intro refreshed
      exact absurd (refreshed.sound entry inside) unsound

/-- The same configuration loaded twice. -/
theorem restart_iff_unchanged :
    let config : ConfigReader := { plugins := [{ name := ascii "p" }] }
    let fresh := ((freshMonitor config []).configReloaded config).2
    SameSupervision config (fresh.configReloaded config).2 fresh := by
  intro config fresh
  have loaded : History [] config fresh := .loaded (by decide +kernel)
  have history : History [config] config (fresh.configReloaded config).2 :=
    loaded.reloaded (by decide +kernel)
  refine (restart_iff history []).mpr ⟨by decide, ?_, fun _ => rfl⟩
  intro entry inside network known
  rw [List.mem_singleton.mp inside] at known ⊢
  have first : firstNetwork [config] (ascii "p") = some [] := by decide +kernel
  exact Option.some.inj (known.symm.trans first)

/-- A reload after which the plugins are found in another directory. -/
theorem plugindirectory_stays :
    let old : ConfigReader := { plugins := [{ name := ascii "p" }] }
    let config : ConfigReader :=
      { old with globalConfig := { plugindirectory := ascii "elsewhere" } }
    let monitor := ((freshMonitor old []).configReloaded old).2
    History [old] config (monitor.configReloaded config).2 ∧
      ¬SameSupervision config (monitor.configReloaded config).2
        ((freshMonitor config []).configReloaded config).2 := by
  intro old config monitor
  have loaded : History [] old monitor := .loaded (by decide +kernel)
  refine ⟨loaded.reloaded (by decide +kernel), fun same => ?_⟩
  have directory := same.directory (by decide)
  exact absurd directory (by decide +kernel)

end PluginMonitor

end DaZeus
