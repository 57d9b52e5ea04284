import DaZeus.PluginMonitor.Frame

/-!
# Who decides what is supervised

Processes come and go, but what an entry stands for and whether it may be
started is decided by the registration loop of `configReloaded` alone.  The
loop stops at the first name that repeats, and keeps what it did until then.
-/

namespace DaZeus

open Library
open Std (TreeMap)

/-- The part of an entry that supervision reads only. -/
structure Plan where
  config : PluginConfig
  network : ByteString
  willAutostart : Bool
  deriving DecidableEq

def PluginState.plan (state : PluginState) : Plan :=
  ⟨state.config, state.network, state.willAutostart⟩

namespace PluginMonitor

def planAt (monitor : PluginMonitor) (name : ByteString) : Option Plan :=
  monitor.state[name]?.map (·.plan)

/-- The plugin is supervised: when it has no process, it is started. -/
def autostarts (monitor : PluginMonitor) (name : ByteString) : Bool :=
  (monitor.planAt name).any (·.willAutostart)

def SamePlans (before after : PluginMonitor) : Prop :=
  ∀ name, after.planAt name = before.planAt name

namespace SamePlans

variable {first second third : PluginMonitor}

theorem refl (monitor : PluginMonitor) : SamePlans monitor monitor := fun _ => rfl

theorem trans (earlier : SamePlans first second) (later : SamePlans second third) :
    SamePlans first third :=
  fun name => (later name).trans (earlier name)

theorem symm (same : SamePlans first second) : SamePlans second first :=
  fun name => (same name).symm

theorem of_state (same : second.state = first.state) : SamePlans first second := by
  intro name
  rw [planAt, same, planAt]

theorem autostarts (same : SamePlans first second) (name : ByteString) :
    second.autostarts name = first.autostarts name := by
  rw [PluginMonitor.autostarts, same name, PluginMonitor.autostarts]

end SamePlans

theorem planAt_modify (monitor : PluginMonitor) (name other : ByteString)
    (change : PluginState → PluginState) :
    (monitor.modify name change).planAt other =
      if other = name then monitor.state[name]?.map fun state => (change state).plan
      else monitor.planAt other := by
  unfold planAt
  rw [state_modify]
  split
  · rw [Option.map_map]
    rfl
  · rfl

theorem SamePlans.modify (monitor : PluginMonitor) (name : ByteString)
    {change : PluginState → PluginState} (kept : ∀ state, (change state).plan = state.plan) :
    SamePlans monitor (monitor.modify name change) := by
  intro other
  rw [planAt_modify]
  split
  · next same =>
      rw [same, planAt]
      simp only [kept]
  · rfl

/-- No call decides anything before or after the registrations. -/
theorem samePlans_frame : Frame SamePlans where
  refl := .refl
  trans := .trans
  passed passed := .of_state passed.state
  record _ _ := .of_state rfl
  modify monitor name {change} kept := by
    apply SamePlans.modify monitor name
    intro state
    obtain ⟨config, network, willAutostart⟩ := kept state
    rw [PluginState.plan, config, network, willAutostart, PluginState.plan]
  processes _ _ _ _ _ := .of_state rfl

/-! ## Registration -/

/-- The names before the first that was seen already. -/
def uptoRepeat : List ByteString → List ByteString → List ByteString
  | _, [] => []
  | seen, name :: rest =>
      if name ∈ seen then [] else name :: uptoRepeat (seen ++ [name]) rest

theorem uptoRepeat_eq_self (seen names : List ByteString) :
    uptoRepeat seen names = names ↔ names.Nodup ∧ ∀ name ∈ names, name ∉ seen := by
  induction names generalizing seen with
  | nil => simp [uptoRepeat]
  | cons name rest inductionHypothesis =>
      unfold uptoRepeat
      split
      · next known => simp [known]
      · next fresh =>
          rw [List.cons_eq_cons, inductionHypothesis]
          simp only [List.mem_append, List.mem_cons, List.not_mem_nil, or_false,
            List.nodup_cons, forall_eq_or_imp, true_and]
          constructor
          · rintro ⟨distinct, others⟩
            exact ⟨⟨fun repeated => others name repeated (.inr rfl), distinct⟩, fresh,
              fun other later known => others other later (.inl known)⟩
          · rintro ⟨⟨unrepeated, distinct⟩, -, others⟩
            refine ⟨distinct, fun other later known => ?_⟩
            rcases known with known | rfl
            · exact others other later known
            · exact unrepeated later

theorem uptoRepeat_append {seen first : List ByteString} (second : List ByteString)
    (whole : uptoRepeat seen first = first) :
    uptoRepeat seen (first ++ second) = first ++ uptoRepeat (seen ++ first) second := by
  induction first generalizing seen with
  | nil => simp
  | cons name rest inductionHypothesis =>
      unfold uptoRepeat at whole
      split at whole
      · cases whole
      · next fresh =>
          rw [List.cons_append, uptoRepeat, if_neg fresh,
            inductionHypothesis (List.cons_eq_cons.mp whole).2, List.append_assoc]
          rfl

theorem uptoRepeat_append_of_cut {seen first : List ByteString} (second : List ByteString)
    (cut : uptoRepeat seen first ≠ first) :
    uptoRepeat seen (first ++ second) = uptoRepeat seen first ∧
      uptoRepeat seen (first ++ second) ≠ first ++ second := by
  induction first generalizing seen with
  | nil => exact absurd rfl cut
  | cons name rest inductionHypothesis =>
      unfold uptoRepeat at cut ⊢
      rw [List.cons_append]
      by_cases known : name ∈ seen
      · simp [known]
      · simp only [known, if_false, ne_eq, List.cons_eq_cons, true_and] at cut ⊢
        exact inductionHypothesis cut

/-- Exactly these names became supervised. -/
def Registers (names : List ByteString) (before after : PluginMonitor) : Prop :=
  ∀ name, after.autostarts name = (before.autostarts name || decide (name ∈ names))

theorem Registers.nil (monitor : PluginMonitor) : Registers [] monitor monitor := by
  intro name
  simp

theorem Registers.append {first second : List ByteString} {before middle after : PluginMonitor}
    (earlier : Registers first before middle) (later : Registers second middle after) :
    Registers (first ++ second) before after := by
  intro name
  rw [later name, earlier name]
  simp [Bool.or_assoc]

/-- The ways in which a registration loop ends. -/
inductive Registered (names seen : List ByteString) (before : PluginMonitor) :
    Except Stop (List ByteString) × PluginMonitor → Prop
  | all {after} (distinct : uptoRepeat seen names = names)
      (registers : Registers names before after) :
      Registered names seen before (.ok (seen ++ names), after)
  | repeated {what after} (cut : uptoRepeat seen names ≠ names)
      (registers : Registers (uptoRepeat seen names) before after) :
      Registered names seen before (.error (.exception what), after)
  | assertion {after} : Registered names seen before (.error .assertion, after)

theorem Registered.nil (seen : List ByteString) (monitor : PluginMonitor) :
    Registered [] seen monitor (.ok seen, monitor) := by
  have all : Registered [] seen monitor (.ok (seen ++ []), monitor) :=
    .all rfl (Registers.nil monitor)
  rwa [List.append_nil] at all

theorem Registered.append {first second seen : List ByteString} {before middle : PluginMonitor}
    {outcome : Except Stop (List ByteString) × PluginMonitor}
    (distinct : uptoRepeat seen first = first) (earlier : Registers first before middle)
    (later : Registered second (seen ++ first) middle outcome) :
    Registered (first ++ second) seen before outcome := by
  have whole := uptoRepeat_append second distinct
  cases later with
  | all fresh registers =>
      rw [List.append_assoc]
      exact .all (by rw [whole, fresh]) (earlier.append registers)
  | repeated cut registers =>
      refine .repeated (fun same => cut ?_) ?_
      · rw [whole] at same
        exact List.append_cancel_left same
      · rw [whole]
        exact earlier.append registers
  | assertion => exact .assertion

theorem registers_insert {monitor : PluginMonitor} {name : ByteString} {state : PluginState}
    (started : state.willAutostart = true) :
    Registers [name] monitor { monitor with state := monitor.state.insert name state } := by
  intro other
  unfold autostarts planAt
  rw [TreeMap.getElem?_insert]
  split
  · next same =>
      rw [← Std.LawfulEqOrd.eq_of_compare same]
      simp [PluginState.plan, started]
  · next different =>
      have different : other ≠ name := by
        rintro rfl
        exact different Std.compare_self
      simp [different]

theorem registers_modify {monitor : PluginMonitor} {name : ByteString} {state : PluginState}
    {change : PluginState → PluginState} (found : monitor.state[name]? = some state)
    (started : (change state).willAutostart = true) :
    Registers [name] monitor (monitor.modify name change) := by
  intro other
  unfold autostarts
  rw [planAt_modify]
  split
  · next same =>
      rw [found]
      simp [PluginState.plan, started, same]
  · next different => simp [different]

theorem registerInstances_registered (config : PluginConfig)
    (entries : List (ByteString × ByteString)) (seen : List ByteString)
    (monitor : PluginMonitor) :
    Registered (entries.map (·.2)) seen monitor
      (monitor.registerInstances config entries seen) := by
  induction entries generalizing monitor seen with
  | nil => exact .nil seen monitor
  | cons entry rest inductionHypothesis =>
      obtain ⟨network, name⟩ := entry
      unfold registerInstances
      split
      · next known =>
          refine .repeated ?_ ?_ <;> simp only [List.map_cons, uptoRepeat, known, if_true]
          · exact (List.cons_ne_nil _ _).symm
          · exact .nil monitor
      · next fresh =>
          have alone : uptoRepeat seen [name] = [name] := by simp [uptoRepeat, fresh]
          split
          · split
            · exact .assertion
            · exact .append alone (registers_insert rfl) (inductionHypothesis _ _)
          · next found => exact .append alone (registers_modify found rfl) (inductionHypothesis _ _)

/-- The names that the blocks ask for, in their order. -/
def instanceNames (networks : List NetworkConfig) (plugins : List PluginConfig) :
    List ByteString :=
  plugins.flatMap fun config => (instances networks config).map (·.2)

theorem registerPlugins_registered (networks : List NetworkConfig) (plugins : List PluginConfig)
    (seen : List ByteString) (monitor : PluginMonitor) :
    Registered (instanceNames networks plugins) seen monitor
      (monitor.registerPlugins networks plugins seen) := by
  induction plugins generalizing monitor seen with
  | nil => exact .nil seen monitor
  | cons config rest inductionHypothesis =>
      unfold registerPlugins instanceNames
      rw [List.flatMap_cons]
      split
      · exact .assertion
      · have registered := registerInstances_registered config (instances networks config) seen
          monitor
        split <;> rename_i outcome <;> rw [outcome] at registered
        · cases registered with
          | repeated cut registers =>
              obtain ⟨same, cut⟩ := uptoRepeat_append_of_cut
                (rest.flatMap fun config => (instances networks config).map (·.2)) cut
              exact .repeated cut (same ▸ registers)
          | assertion => exact .assertion
        · cases registered with
          | all distinct registers =>
              exact .append distinct registers (inductionHypothesis _ _)

/-! ## Loading a configuration -/

theorem mem_pluginsToKill {seen : List ByteString} {monitor : PluginMonitor} {name : ByteString} :
    name ∈ monitor.pluginsToKill seen ↔ name ∉ seen ∧
      ∃ state, monitor.state[name]? = some state ∧
        (state.pid > 0 ∨ state.willAutostart = true) := by
  unfold pluginsToKill
  rw [List.mem_filter, TreeMap.mem_keys, TreeMap.mem_iff_isSome_getElem?]
  cases monitor.state[name]? <;> simp

/-- The plan of an entry that the configuration does not have. -/
def disabled (plan : Plan) : Plan := { plan with willAutostart := false }

@[simp]
theorem disabled_comp_disabled : disabled ∘ disabled = disabled := rfl

theorem planAt_disable (names : List ByteString) (monitor : PluginMonitor) (name : ByteString) :
    (names.foldl (fun monitor name => monitor.modify name ({ · with willAutostart := false }))
      monitor).planAt name =
        if name ∈ names then (monitor.planAt name).map disabled else monitor.planAt name := by
  induction names generalizing monitor with
  | nil => rfl
  | cons other rest inductionHypothesis =>
      have changed : (monitor.modify other ({ · with willAutostart := false })).planAt name =
          if name = other then (monitor.planAt name).map disabled else monitor.planAt name := by
        rw [planAt_modify]
        split
        · next same =>
            rw [same, planAt, Option.map_map]
            rfl
        · rfl
      rw [List.foldl_cons, inductionHypothesis, changed]
      by_cases same : name = other <;> by_cases later : name ∈ rest <;>
        simp [same, later]

/-- What is not killed and not wanted is disabled already. -/
theorem planAt_unwanted {seen : List ByteString} {monitor : PluginMonitor} {name : ByteString}
    (unwanted : name ∉ seen) (spared : name ∉ monitor.pluginsToKill seen) :
    (monitor.planAt name).map disabled = monitor.planAt name := by
  unfold planAt
  cases found : monitor.state[name]? with
  | none => rfl
  | some state =>
      have inactive : state.willAutostart = false := by
        apply Bool.eq_false_iff.mpr
        intro active
        exact spared (mem_pluginsToKill.mpr ⟨unwanted, state, found, .inr active⟩)
      simp [disabled, PluginState.plan, inactive]

/-- Once all instances have made their entries, the others are disabled, and nothing changes
after that, whether the call returns or not. -/
theorem configReloaded_planAt {config : ConfigReader} {seen : List ByteString}
    {before middle : PluginMonitor}
    (registered : before.registerPlugins config.networks config.plugins [] = (.ok seen, middle))
    (name : ByteString) :
    (before.configReloaded config).2.planAt name =
      if name ∈ seen then middle.planAt name else (middle.planAt name).map disabled := by
  have killed := samePlans_frame.killPlugins config (middle.pluginsToKill seen)
    ((middle.pluginsToKill seen).foldl
      (fun monitor name => monitor.modify name ({ · with willAutostart := false })) middle)
  have decided : ((middle.pluginsToKill seen).foldl
      (fun monitor name => monitor.modify name ({ · with willAutostart := false }))
        middle).planAt name =
      if name ∈ seen then middle.planAt name else (middle.planAt name).map disabled := by
    rw [planAt_disable]
    by_cases wanted : name ∈ seen
    · rw [if_pos wanted, if_neg fun doomed => (mem_pluginsToKill.mp doomed).1 wanted]
    · rw [if_neg wanted]
      split
      · rfl
      · next spared => exact (planAt_unwanted wanted spared).symm
  unfold configReloaded
  simp only [registered]
  split <;> rename_i outcome <;> rw [outcome] at killed
  · exact (killed name).trans decided
  · next after =>
      have woken : SamePlans after { after with shouldRun := true } := .of_state rfl
      exact (((killed.trans woken).trans (samePlans_frame.runOnce config _)) name).trans decided

/-- What may be started after a call of `configReloaded`. -/
inductive Reloaded (names : List ByteString) (before : PluginMonitor) :
    Except Stop Unit × PluginMonitor → Prop
  | accepted {result after} (distinct : names.Nodup)
      (autostarts : ∀ name, after.autostarts name = decide (name ∈ names)) :
      Reloaded names before (result, after)
  | repeated {what after} (cut : ¬names.Nodup)
      (registers : Registers (uptoRepeat [] names) before after) :
      Reloaded names before (.error (.exception what), after)
  | assertion {after} : Reloaded names before (.error .assertion, after)

theorem configReloaded_reloaded (config : ConfigReader) (monitor : PluginMonitor) :
    Reloaded (instanceNames config.networks config.plugins) monitor
      (monitor.configReloaded config) := by
  have registered := registerPlugins_registered config.networks config.plugins [] monitor
  rcases outcome : monitor.registerPlugins config.networks config.plugins [] with
    ⟨stop | seen, middle⟩
  · rw [outcome] at registered
    simp only [configReloaded, outcome]
    cases registered with
    | repeated cut registers =>
        refine .repeated (fun distinct => cut ?_) registers
        exact (uptoRepeat_eq_self [] _).mpr ⟨distinct, by simp⟩
    | assertion => exact .assertion
  · rw [outcome] at registered
    generalize names : instanceNames config.networks config.plugins = wanted at registered ⊢
    cases registered with
    | all whole registers =>
        have accepted : Reloaded wanted monitor
            ((monitor.configReloaded config).1, (monitor.configReloaded config).2) := by
          refine .accepted ((uptoRepeat_eq_self [] _).mp whole).1 fun name => ?_
          have plans := configReloaded_planAt outcome name
          rw [List.nil_append] at plans
          rw [autostarts, plans]
          by_cases listed : name ∈ wanted
          · have started := registers name
            rw [autostarts] at started
            rw [if_pos listed, started]
            simp [listed]
          · rw [if_neg listed, decide_eq_false listed]
            cases middle.planAt name <;> rfl
        exact accepted

end PluginMonitor

end DaZeus
