import DaZeus.PluginMonitor.Plans

/-!
# What a configuration enters into the map

The registration loops of `configReloaded` as one loop over instances: a plugin
block, or a plugin block for a network, and the name of its entry.  An entry
that is there already takes the configuration and keeps the network it has.
-/

namespace DaZeus

open Library
open Std (TreeMap)

structure Instance where
  config : PluginConfig
  network : ByteString
  name : ByteString
  deriving DecidableEq

/-- What the assertions in the constructor of `PluginState` ask for. -/
def Instance.Sound (entry : Instance) : Prop :=
  entry.config.perNetwork = !entry.network.isEmpty

instance (entry : Instance) : Decidable entry.Sound :=
  inferInstanceAs (Decidable (_ = _))

/-- The instances that the blocks ask for, in their order. -/
def instancesOf (networks : List NetworkConfig) (plugins : List PluginConfig) : List Instance :=
  plugins.flatMap fun config =>
    (PluginMonitor.instances networks config).map fun entry => ⟨config, entry.1, entry.2⟩

def ConfigReader.instances (config : ConfigReader) : List Instance :=
  instancesOf config.networks config.plugins

namespace PluginMonitor

/-- The name of an entry, from its configuration and its network. -/
def stateName (config : PluginConfig) (network : ByteString) : ByteString :=
  if config.perNetwork then config.name ++ ascii "!" ++ network else config.name

theorem instancesOf_name {networks : List NetworkConfig} {plugins : List PluginConfig}
    {entry : Instance} (inside : entry ∈ instancesOf networks plugins) :
    entry.name = stateName entry.config entry.network := by
  obtain ⟨config, -, listed⟩ := List.mem_flatMap.mp inside
  obtain ⟨pair, asked, rfl⟩ := List.mem_map.mp listed
  unfold instances at asked
  unfold stateName
  split at asked
  · next perNetwork =>
      obtain ⟨network, -, rfl⟩ := List.mem_map.mp asked
      rw [if_pos perNetwork]
  · next global =>
      rw [List.mem_singleton.mp asked, if_neg global]

/-- One round of the loop. -/
def enlist (entry : Instance) (monitor : PluginMonitor) : PluginMonitor :=
  match monitor.state[entry.name]? with
  | none =>
      let state : PluginState := { config := entry.config, network := entry.network }
      { monitor with state := monitor.state.insert entry.name state }
  | some _ =>
      monitor.modify entry.name
        ({ · with numFailures := 0, willAutostart := true, config := entry.config })

/-- The loops as one. -/
def enroll : List Instance → List ByteString → PluginMonitor →
    Except Stop (List ByteString) × PluginMonitor
  | [], seen, monitor => (.ok seen, monitor)
  | entry :: rest, seen, monitor =>
      if entry.name ∈ seen then
        (.error (.exception (ascii "Multiple plugins exist with name " ++ entry.name)), monitor)
      else if monitor.planAt entry.name = none ∧ ¬entry.Sound then
        (.error .assertion, monitor)
      else
        enroll rest (seen ++ [entry.name]) (monitor.enlist entry)

theorem enroll_append (first second : List Instance) (seen : List ByteString)
    (monitor : PluginMonitor) :
    monitor.enroll (first ++ second) seen =
      match monitor.enroll first seen with
      | (.error stop, monitor) => (.error stop, monitor)
      | (.ok seen, monitor) => monitor.enroll second seen := by
  induction first generalizing seen monitor with
  | nil => rfl
  | cons entry rest inductionHypothesis =>
      rw [List.cons_append, enroll, enroll]
      split
      · rfl
      · split
        · rfl
        · exact inductionHypothesis _ _

theorem registerInstances_eq (config : PluginConfig) (entries : List (ByteString × ByteString))
    (seen : List ByteString) (monitor : PluginMonitor) :
    monitor.registerInstances config entries seen =
      monitor.enroll (entries.map fun entry => ⟨config, entry.1, entry.2⟩) seen := by
  induction entries generalizing seen monitor with
  | nil => rfl
  | cons entry rest inductionHypothesis =>
      obtain ⟨network, name⟩ := entry
      rw [registerInstances, List.map_cons, enroll]
      split
      · rfl
      · split
        · next absent =>
            have unplanned : monitor.planAt name = none := by rw [planAt, absent]; rfl
            split
            · next unsound => rw [if_pos ⟨unplanned, by simp [Instance.Sound, unsound]⟩]
            · next sound =>
                rw [if_neg fun refused =>
                  refused.2 (by simpa [Instance.Sound, Bool.eq_not] using sound)]
                simp only [enlist, absent]
                exact inductionHypothesis _ _
        · next found =>
            rw [if_neg fun refused => by simp [planAt, found] at refused]
            simp only [enlist, found]
            exact inductionHypothesis _ _

/-- With every plugin named, as the parser has it, only the instances matter. -/
theorem registerPlugins_eq {networks : List NetworkConfig} {plugins : List PluginConfig}
    (named : ∀ config ∈ plugins, config.name ≠ []) (seen : List ByteString)
    (monitor : PluginMonitor) :
    monitor.registerPlugins networks plugins seen =
      monitor.enroll (instancesOf networks plugins) seen := by
  induction plugins generalizing seen monitor with
  | nil => rfl
  | cons config rest inductionHypothesis =>
      obtain ⟨here, later⟩ := List.forall_mem_cons.mp named
      rw [registerPlugins, if_neg (by simpa using here), instancesOf, List.flatMap_cons,
        enroll_append, registerInstances_eq]
      generalize monitor.enroll ((instances networks config).map fun entry =>
        ⟨config, entry.1, entry.2⟩) seen = outcome
      obtain ⟨_ | _, _⟩ := outcome
      · rfl
      · exact inductionHypothesis later _ _

theorem registerPlugins_named {networks : List NetworkConfig} {plugins : List PluginConfig}
    {seen result : List ByteString} {before after : PluginMonitor}
    (returned : before.registerPlugins networks plugins seen = (.ok result, after)) :
    ∀ config ∈ plugins, config.name ≠ [] := by
  induction plugins generalizing seen before with
  | nil => simp
  | cons config rest inductionHypothesis =>
      unfold registerPlugins at returned
      split at returned
      · cases returned
      · next named =>
          split at returned
          · cases returned
          · exact List.forall_mem_cons.mpr
              ⟨by simpa using named, inductionHypothesis returned⟩

/-! ## The entries after a round, and after all of them -/

/-- The state of an entry after its instance was entered. -/
def entered (entry : Instance) : Option PluginState → PluginState
  | none => { config := entry.config, network := entry.network }
  | some state => { state with numFailures := 0, willAutostart := true, config := entry.config }

theorem state_enlist (entry : Instance) (monitor : PluginMonitor) (name : ByteString) :
    (monitor.enlist entry).state[name]? =
      if name = entry.name then some (entered entry monitor.state[name]?)
      else monitor.state[name]? := by
  unfold enlist
  cases found : monitor.state[entry.name]? with
  | none =>
      rw [TreeMap.getElem?_insert]
      by_cases same : name = entry.name
      · rw [if_pos same, if_pos (by rw [same, Std.compare_self]), same, found]
        rfl
      · rw [if_neg same, if_neg]
        exact fun equal => same (Std.LawfulEqOrd.eq_of_compare equal).symm
  | some state =>
      rw [state_modify]
      split
      · next same =>
          rw [same, found]
          rfl
      · rfl

/-- The network of an entry, which it keeps from when it was made. -/
def networkAt (monitor : PluginMonitor) (name : ByteString) : Option ByteString :=
  (monitor.planAt name).map (·.network)

/-- What the instance makes of its entry. -/
def planFor (monitor : PluginMonitor) (entry : Instance) : Plan :=
  ⟨entry.config, (monitor.networkAt entry.name).getD entry.network, true⟩

theorem planAt_enlist (entry : Instance) (monitor : PluginMonitor) (name : ByteString) :
    (monitor.enlist entry).planAt name =
      if name = entry.name then some (monitor.planFor entry) else monitor.planAt name := by
  rw [planAt, state_enlist]
  split
  · next same =>
      rw [same, planFor, networkAt, planAt]
      cases monitor.state[entry.name]? <;> rfl
  · rfl

/-- Each instance has made its entry, and no other entry was touched. -/
structure Enrolls (entries : List Instance) (before after : PluginMonitor) : Prop where
  enrolled : ∀ entry ∈ entries, after.planAt entry.name = some (before.planFor entry)
  others : ∀ name, name ∉ entries.map (·.name) → after.planAt name = before.planAt name

theorem Enrolls.cons {entry : Instance} {rest : List Instance} {before after : PluginMonitor}
    (distinct : entry.name ∉ rest.map (·.name)) (later : Enrolls rest (before.enlist entry) after) :
    Enrolls (entry :: rest) before after where
  enrolled := by
    refine List.forall_mem_cons.mpr ⟨?_, ?_⟩
    · rw [later.others _ distinct, planAt_enlist, if_pos rfl]
    · intro other inside
      have different : other.name ≠ entry.name := by
        intro same
        exact distinct (List.mem_map.mpr ⟨other, inside, same⟩)
      rw [later.enrolled other inside]
      simp only [planFor, networkAt, planAt_enlist, if_neg different]
  others name outside := by
    simp only [List.map_cons, List.mem_cons, not_or] at outside
    rw [later.others name outside.2, planAt_enlist, if_neg outside.1]

/-- The loop runs through: no name repeats, and each instance has made its entry. -/
theorem enroll_ok {entries : List Instance} {seen result : List ByteString}
    {before after : PluginMonitor} (returned : before.enroll entries seen = (.ok result, after)) :
    result = seen ++ entries.map (·.name) ∧ (entries.map (·.name)).Nodup ∧
      (∀ entry ∈ entries, entry.name ∉ seen) ∧ Enrolls entries before after := by
  induction entries generalizing seen before with
  | nil =>
      cases returned
      exact ⟨by simp, List.nodup_nil, nofun, nofun, fun _ _ => rfl⟩
  | cons entry rest inductionHypothesis =>
      unfold enroll at returned
      split at returned
      · cases returned
      · next fresh =>
          split at returned
          · cases returned
          · obtain ⟨rfl, distinct, unseen, enrolls⟩ := inductionHypothesis returned
            have other : entry.name ∉ rest.map (·.name) := by
              intro repeated
              obtain ⟨later, inside, same⟩ := List.mem_map.mp repeated
              exact unseen later inside (by simp [same])
            refine ⟨by simp, List.nodup_cons.mpr ⟨other, distinct⟩,
              List.forall_mem_cons.mpr ⟨fresh, fun later inside seen => ?_⟩, .cons other enrolls⟩
            exact unseen later inside (List.mem_append_left _ seen)

/-! ## The states after all rounds -/

def enlistAll (entries : List Instance) (monitor : PluginMonitor) : PluginMonitor :=
  entries.foldl (fun monitor entry => monitor.enlist entry) monitor

theorem enroll_enlistAll {entries : List Instance} {seen result : List ByteString}
    {before after : PluginMonitor} (returned : before.enroll entries seen = (.ok result, after)) :
    after = before.enlistAll entries := by
  induction entries generalizing seen before with
  | nil =>
      cases returned
      rfl
  | cons entry rest inductionHypothesis =>
      unfold enroll at returned
      split at returned
      · cases returned
      · split at returned
        · cases returned
        · exact inductionHypothesis returned

/-- Each instance has entered its own entry, and no other was touched. -/
structure Enlists (entries : List Instance) (before after : PluginMonitor) : Prop where
  listed : ∀ entry ∈ entries,
    after.state[entry.name]? = some (entered entry before.state[entry.name]?)
  others : ∀ name, (∀ entry ∈ entries, name ≠ entry.name) →
    after.state[name]? = before.state[name]?

theorem enlistAll_enlists {entries : List Instance} (before : PluginMonitor)
    (distinct : entries.Pairwise fun first second => second.name ≠ first.name) :
    Enlists entries before (before.enlistAll entries) := by
  induction entries generalizing before with
  | nil => exact ⟨fun _ inside => absurd inside List.not_mem_nil, fun _ _ => rfl⟩
  | cons entry rest inductionHypothesis =>
      obtain ⟨apart, distinct⟩ := List.pairwise_cons.mp distinct
      have later := inductionHypothesis (before.enlist entry) distinct
      constructor
      · intro other inside
        rcases List.mem_cons.mp inside with rfl | inside
        · apply (later.others _ fun other inside => (apart other inside).symm).trans
          rw [state_enlist, if_pos rfl]
        · apply (later.listed other inside).trans
          rw [state_enlist, if_neg (apart other inside)]
      · intro name outside
        obtain ⟨here, outside⟩ := List.forall_mem_cons.mp outside
        apply (later.others name outside).trans
        rw [state_enlist, if_neg here]

/-! ## The entries after a call of `configReloaded` -/

/-- A registration that runs through. -/
theorem registerPlugins_ok {config : ConfigReader} {seen : List ByteString}
    {before middle : PluginMonitor}
    (registered : before.registerPlugins config.networks config.plugins [] = (.ok seen, middle)) :
    seen = config.instances.map (·.name) ∧ (config.instances.map (·.name)).Nodup ∧
      Enrolls config.instances before middle := by
  rw [registerPlugins_eq (registerPlugins_named registered)] at registered
  obtain ⟨rfl, distinct, -, enrolls⟩ := enroll_ok registered
  exact ⟨rfl, distinct, enrolls⟩

/-- A call that returns has registered every instance. -/
theorem configReloaded_registered {config : ConfigReader} {before : PluginMonitor}
    (returned : (before.configReloaded config).1 = .ok ()) :
    ∃ seen middle,
      before.registerPlugins config.networks config.plugins [] = (.ok seen, middle) := by
  unfold configReloaded at returned
  split at returned
  · cases returned
  · next seen middle registered => exact ⟨seen, middle, registered⟩

/-- After a call that returns, only the instances may be started. -/
theorem configReloaded_wanted {config : ConfigReader} {before after : PluginMonitor}
    {name : ByteString} {plan : Plan} (returned : before.configReloaded config = (.ok (), after))
    (found : after.planAt name = some plan) (wanted : plan.willAutostart = true) :
    ∃ entry ∈ config.instances, ∃ network, plan = ⟨entry.config, network, true⟩ := by
  obtain ⟨seen, middle, registered⟩ := configReloaded_registered (congrArg Prod.fst returned)
  have plans := configReloaded_planAt registered name
  obtain ⟨rfl, -, enrolls⟩ := registerPlugins_ok registered
  rw [congrArg Prod.snd returned, found] at plans
  split at plans
  · next listed =>
      obtain ⟨entry, inside, rfl⟩ := List.mem_map.mp listed
      rw [enrolls.enrolled entry inside] at plans
      exact ⟨entry, inside, _, Option.some.inj plans⟩
  · obtain ⟨old, -, rfl⟩ := Option.map_eq_some_iff.mp plans.symm
    cases wanted

end PluginMonitor

end DaZeus
