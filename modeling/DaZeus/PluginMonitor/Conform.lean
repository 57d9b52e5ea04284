import DaZeus.PluginMonitor.Stops

/-!
# Entries and their names

An entry has a network if and only if its plugin is run per network, and its
name says both.  This holds of every run in which no instance takes over an
entry with another network, and none is per network without one.
-/

namespace DaZeus

open Library

namespace PluginMonitor

/-- What the constructor of `PluginState` asserts, and the name that belongs to it. -/
def Conforms (monitor : PluginMonitor) : Prop :=
  ∀ name plan, monitor.planAt name = some plan →
    plan.config.perNetwork = !plan.network.isEmpty ∧ name = stateName plan.config plan.network

/-- What the instance is started with if its entry has the same network. -/
def wanted (entry : Instance) : Plan := ⟨entry.config, entry.network, true⟩

/-- A configuration as the parser accepts it, which suits the entries that are there.  The
socket matters only to plugins that ask for it. -/
structure Suits (config : ConfigReader) (monitor : PluginMonitor) : Prop where
  named : ∀ plugin ∈ config.plugins, plugin.name ≠ []
  sound : ∀ entry ∈ config.instances, entry.Sound
  same : ∀ entry ∈ config.instances, ∀ network, monitor.networkAt entry.name = some network →
    network = entry.network
  socket : config.pluginSocketText = .error .assertion →
    ∀ entry ∈ config.instances, ¬(wanted entry).Asks

variable {config : ConfigReader} {before after : PluginMonitor}

theorem planFor_eq {entry : Instance}
    (same : ∀ network, before.networkAt entry.name = some network → network = entry.network) :
    before.planFor entry = wanted entry := by
  unfold planFor wanted
  cases known : before.networkAt entry.name with
  | none => rfl
  | some network =>
      rw [same network known]
      rfl

theorem Conforms.enlist {entry : Instance} (conforms : Conforms before) (sound : entry.Sound)
    (named : entry.name = stateName entry.config entry.network)
    (same : ∀ network, before.networkAt entry.name = some network → network = entry.network) :
    Conforms (before.enlist entry) := by
  intro name plan found
  rw [planAt_enlist] at found
  split at found
  · next here =>
      cases found
      rw [planFor_eq same, here]
      exact ⟨sound, named⟩
  · exact conforms name plan found

theorem Conforms.enroll {entries : List Instance} {seen : List ByteString}
    (conforms : Conforms before) (sound : ∀ entry ∈ entries, entry.Sound)
    (named : ∀ entry ∈ entries, entry.name = stateName entry.config entry.network)
    (same : ∀ entry ∈ entries, entry.name ∉ seen →
      ∀ network, before.networkAt entry.name = some network → network = entry.network) :
    Conforms (before.enroll entries seen).2 ∧
      (before.enroll entries seen).1 ≠ .error .assertion := by
  induction entries generalizing seen before with
  | nil => exact ⟨conforms, fun failed => by cases failed⟩
  | cons entry rest inductionHypothesis =>
      obtain ⟨here, later⟩ := List.forall_mem_cons.mp sound
      unfold PluginMonitor.enroll
      split
      · exact ⟨conforms, fun failed => by cases failed⟩
      · next fresh =>
          rw [if_neg fun refused => refused.2 here]
          apply inductionHypothesis ?_ later
          · exact fun other inside => named other (List.mem_cons_of_mem _ inside)
          · intro other inside unseen network found
            -- an entry that was just made is not looked up again
            simp only [List.mem_append, List.mem_singleton, not_or] at unseen
            rw [networkAt, planAt_enlist, if_neg unseen.2] at found
            exact same other (List.mem_cons_of_mem _ inside) unseen.1 network found
          · exact conforms.enlist here (named entry List.mem_cons_self)
              (same entry List.mem_cons_self fresh)

theorem Conforms.passed (conforms : Conforms before) (same : SamePlans before after) :
    Conforms after := by
  intro name plan found
  rw [same name] at found
  exact conforms name plan found

/-- A suitable configuration keeps the entries in order and fails no assertion. -/
theorem Conforms.configReloaded (conforms : Conforms before) (suits : Suits config before) :
    Conforms (before.configReloaded config).2 ∧
      (before.configReloaded config).1 ≠ .error .assertion := by
  have unseen : ∀ entry ∈ config.instances, entry.name ∉ [] → ∀ network,
      before.networkAt entry.name = some network → network = entry.network :=
    fun entry inside _ => suits.same entry inside
  have registered := conforms.enroll suits.sound (fun _ => instancesOf_name) unseen
  rw [ConfigReader.instances, ← registerPlugins_eq suits.named] at registered
  cases outcome : before.registerPlugins config.networks config.plugins [] with
  | mk result middle =>
      rw [outcome] at registered
      cases result with
      | error stop =>
          simp only [PluginMonitor.configReloaded, outcome]
          refine ⟨registered.1, fun failed => registered.2 ?_⟩
          cases failed
          rfl
      | ok seen =>
          have plans := configReloaded_planAt outcome
          constructor
          · intro name plan found
            rw [plans] at found
            split at found
            · exact registered.1 name plan found
            · obtain ⟨old, there, rfl⟩ := Option.map_eq_some_iff.mp found
              exact registered.1 name old there
          · intro failed
            obtain ⟨socket, name, plan, found, started, asks⟩ :=
              configReloaded_stop outcome failed
            obtain ⟨rfl, -, enrolls⟩ := registerPlugins_ok outcome
            rw [plans] at found
            split at found
            · next listed =>
                obtain ⟨entry, inside, rfl⟩ := List.mem_map.mp listed
                cases (enrolls.enrolled entry inside).symm.trans found
                apply suits.socket socket entry inside
                rwa [planFor_eq (suits.same entry inside)] at asks
            · obtain ⟨old, -, rfl⟩ := Option.map_eq_some_iff.mp found
              cases started

/-- The configurations that are loaded suit the entries there are. -/
def Suitable (monitor : PluginMonitor) : Call → Prop
  | .configReloaded config => Suits config monitor
  | _ => True

/-- In a run of suitable configurations every entry is as the constructor wants it and under
its own name, and the next suitable one fails no assertion. -/
theorem entries_conform {monitor : PluginMonitor}
    (reached : (system.guard Suitable).Reachable monitor) :
    Conforms monitor ∧ ∀ config, Suits config monitor →
      (monitor.configReloaded config).1 ≠ .error .assertion := by
  have conforms : Conforms monitor := by
    apply reached.invariant
    · rintro monitor ⟨empty, -⟩ name plan found
      rw [planAt, Std.TreeMap.getElem?_of_isEmpty empty] at found
      cases found
    · rintro before call after conforms ⟨suits, rfl⟩
      cases call with
      | configReloaded config => exact (conforms.configReloaded suits).1
      | runOnce config => exact conforms.passed (samePlans_frame.runOnce config before)
      | wait => exact conforms.passed (samePlans_frame.elapse before)
  exact ⟨conforms, fun config suits => (conforms.configReloaded suits).2⟩

/-- A plugin for a network, loaded twice. -/
theorem entries_conform_reloaded :
    let config : ConfigReader :=
      { networks := [{ name := ascii "n", autoConnect := false }]
        plugins := [{ name := ascii "p", perNetwork := true }] }
    Conforms (({} : PluginMonitor).call (.configReloaded config)) ∧
      ((({} : PluginMonitor).call (.configReloaded config)).configReloaded config).1 ≠
        .error .assertion := by
  intro config
  have suits : ∀ monitor : PluginMonitor, (∀ network, monitor.networkAt (ascii "p!n") =
      some network → network = ascii "n") → Suits config monitor := by
    intro monitor same
    refine ⟨by decide, by decide, ?_, nofun⟩
    intro entry inside
    rw [List.mem_singleton.mp inside]
    exact same
  have first := suits {} nofun
  have initial : (system.guard Suitable).initial {} := ⟨rfl, rfl, rfl, rfl, rfl⟩
  have reached := (TransitionSystem.Reachable.start initial).snoc (.configReloaded config)
    ⟨first, rfl⟩
  obtain ⟨conforms, unfailing⟩ := entries_conform reached
  refine ⟨conforms, unfailing config (suits _ ?_)⟩
  have known : (({} : PluginMonitor).call (.configReloaded config)).networkAt (ascii "p!n") =
      some (ascii "n") := by decide +kernel
  intro network found
  exact Option.some.inj (found.symm.trans known)

/-- A global plugin whose name is that of a plugin for a network, and a network without a name. -/
theorem entry_taken_over :
    ¬Conforms ((({} : PluginMonitor).call (.configReloaded
        { plugins := [{ name := ascii "p!n" }] })).call (.configReloaded
          { networks := [{ name := ascii "n", autoConnect := false }]
            plugins := [{ name := ascii "p", perNetwork := true }] })) ∧
      (({} : PluginMonitor).configReloaded
        { networks := [{ name := [], autoConnect := false }]
          plugins := [{ name := ascii "p", perNetwork := true }] }).1 = .error .assertion := by
  refine ⟨fun conforms => ?_, by decide +kernel⟩
  have found : ((({} : PluginMonitor).call (.configReloaded
      { plugins := [{ name := ascii "p!n" }] })).call (.configReloaded
        { networks := [{ name := ascii "n", autoConnect := false }]
          plugins := [{ name := ascii "p", perNetwork := true }] })).planAt (ascii "p!n") =
      some ⟨{ name := ascii "p", perNetwork := true }, [], true⟩ := by decide +kernel
  exact absurd (conforms _ _ found).1 (by decide)

end PluginMonitor

end DaZeus
