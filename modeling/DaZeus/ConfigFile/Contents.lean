import DaZeus.ConfigFile.Blocks

/-!
# What `ConfigReader::read` leaves

After a configuration was read, the reader holds exactly what its blocks say,
in their order, if and only if no Plugin block has a Scope that says Global
after one that says Network: `represents_iff`.
-/

namespace DaZeus.ConfigFile

open Library

section Representation

variable (lib : Libraries) (irc : IrcStructs)

/-- The networks of the rest of a file, after these options at the root. -/
def networksOf (seen : List OptionLine) : List Item → List NetworkConfig
  | [] => []
  | item :: items =>
      match item with
      | .option line => networksOf (seen ++ [line]) items
      | .network argument body =>
          networkOf lib irc (globalMeaning lib seen {}) argument body :: networksOf seen items
      | _ => networksOf seen items

structure PluginMeaning (block : ByteString × List OptionLine) (plugin : PluginConfig) : Prop where
  name : plugin.name = block.1
  path : plugin.path = lastSet (OptionLine.text lib .path) block.2 []
  executable : plugin.executable = lastSet (OptionLine.text lib .executable) block.2 []
  perNetwork : plugin.perNetwork = lastSet (OptionLine.scope lib) block.2 false
  parameters : plugin.parameters = lastSet (OptionLine.text lib .parameters) block.2 []
  config : ∀ key, plugin.config.lookup key =
    (block.2.filterMap (OptionLine.pair lib)).reverse.lookup key
  once : (plugin.config.map Prod.fst).Nodup

/-- What the reader holds is what the configuration says. -/
structure Represents (items : List Item) (reader : ConfigReader) : Prop where
  sockets : reader.sockets =
    (items.filterMap Item.socket?).map fun lines => socketMeaning lib lines {}
  networks : reader.networks = networksOf lib irc [] items
  plugins : List.Forall₂ (PluginMeaning lib) (items.filterMap Item.plugin?) reader.plugins
  global : reader.global = some (globalMeaning lib (items.filterMap Item.optionLine?) {})
  database : reader.database.toList =
    (items.filterMap Item.database?).map fun lines => databaseMeaning lib lines {}
  isRead : reader.isRead = true

/-- No Scope that says Global comes last when one has said Network. -/
def ScopeStands (lines : List OptionLine) : Prop :=
  (lines.filterMap (OptionLine.scope lib)).getLast? = some false →
    true ∉ lines.filterMap (OptionLine.scope lib)

instance (lines : List OptionLine) : Decidable (ScopeStands lib lines) :=
  inferInstanceAs (Decidable (_ → _))

variable {lib}

theorem pluginResult_meaning_iff (name : ByteString) (lines : List OptionLine) :
    PluginMeaning lib (name, lines) (pluginResult lib lines { name := name }) ↔
      ScopeStands lib lines := by
  rw [ScopeStands, ← any_eq_lastSet_iff]
  constructor
  · intro meaning
    simpa [pluginResult] using meaning.perNetwork
  · intro scope
    exact {
      name := rfl
      path := rfl
      executable := rfl
      perNetwork := by simpa [pluginResult] using scope
      parameters := rfl
      config := fun key => by
        rw [pluginResult, lookup_assignAll, List.lookup_nil, Option.or_none]
      once := nodup_assignAll _ List.nodup_nil }

end Representation

/-! ## The complete blocks -/

/-- What `read` leaves in the reader. -/
def Loaded.reader (loaded : Loaded) : ConfigReader where
  sockets := loaded.sockets
  networks := loaded.networks
  plugins := loaded.plugins
  global := some loaded.global
  database := loaded.database
  isRead := true

section Folds

variable {lib : Libraries} {irc : IrcStructs} {loaded : Loaded}

theorem foldl_add_sockets (items : List Item) :
    (items.foldl (Loaded.add lib irc) loaded).sockets = loaded.sockets ++
      (items.filterMap Item.socket?).map fun lines => socketMeaning lib lines {} := by
  induction items generalizing loaded with
  | nil => simp
  | cons item items inductionHypothesis =>
      rw [List.foldl_cons, inductionHypothesis]
      cases item <;> simp [Loaded.add, Item.socket?, List.filterMap_cons]

theorem foldl_add_plugins (items : List Item) :
    (items.foldl (Loaded.add lib irc) loaded).plugins = loaded.plugins ++
      (items.filterMap Item.plugin?).map fun block =>
        pluginResult lib block.2 { name := block.1 } := by
  induction items generalizing loaded with
  | nil => simp
  | cons item items inductionHypothesis =>
      rw [List.foldl_cons, inductionHypothesis]
      cases item <;> simp [Loaded.add, Item.plugin?, List.filterMap_cons]

theorem foldl_add_global (items : List Item) :
    (items.foldl (Loaded.add lib irc) loaded).global =
      globalMeaning lib (items.filterMap Item.optionLine?) loaded.global := by
  induction items generalizing loaded with
  | nil => rfl
  | cons item items inductionHypothesis =>
      rw [List.foldl_cons, inductionHypothesis]
      cases item with
      | option line => exact (globalMeaning_append [line] _ _).symm
      | socket | database | network | plugin => rfl

theorem foldl_add_database (items : List Item)
    (once : loaded.database.isSome.toNat + items.countP Item.isDatabase ≤ 1) :
    (items.foldl (Loaded.add lib irc) loaded).database.toList = loaded.database.toList ++
      (items.filterMap Item.database?).map fun lines => databaseMeaning lib lines {} := by
  induction items generalizing loaded with
  | nil => simp
  | cons item items inductionHypothesis =>
      rw [List.countP_cons] at once
      have counted := loaded.database_add lib irc item
      rw [List.foldl_cons, inductionHypothesis (by omega)]
      cases item with
      | database lines =>
          have unset : loaded.database = none := by
            cases found : loaded.database with
            | none => rfl
            | some dc =>
                simp only [found, Item.isDatabase, if_true, Option.isSome_some,
                  Bool.toNat_true] at once
                omega
          simp [Loaded.add, Item.database?, unset]
      | option | socket | network | plugin => rfl

/-- The global values in force are those of the options so far. -/
theorem foldl_add_networks (items : List Item) {seen : List OptionLine}
    (inForce : loaded.global = globalMeaning lib seen {}) :
    (items.foldl (Loaded.add lib irc) loaded).networks =
      loaded.networks ++ networksOf lib irc seen items := by
  induction items generalizing loaded seen with
  | nil => simp [networksOf]
  | cons item items inductionHypothesis =>
      rw [List.foldl_cons]
      cases item with
      | option line =>
          apply inductionHypothesis
          rw [Loaded.add, inForce, globalMeaning_append]
      | network argument body =>
          have same : (loaded.add lib irc (.network argument body)).global =
              globalMeaning lib seen {} := inForce
          rw [inductionHypothesis same, networksOf, Loaded.add, inForce, List.append_assoc,
            List.singleton_append]
      | socket | database | plugin => exact inductionHypothesis inForce

end Folds

/-! ## The result of `read` -/

section Reads

variable {lib : Libraries} {irc : IrcStructs}

theorem Configuration.once (configuration : Configuration lib) :
    ({} : Loaded).database.isSome.toNat + configuration.items.countP Item.isDatabase ≤ 1 := by
  rw [configuration.oneDatabase]
  decide

theorem database_isSome (configuration : Configuration lib) :
    (configuration.items.foldl (Loaded.add lib irc) {}).database.isSome = true := by
  have counted : (configuration.items.filterMap Item.database?).length = 1 := by
    rw [List.length_filterMap_eq_countP, ← configuration.oneDatabase]
    apply List.countP_congr
    intro item _
    cases item <;> simp [Item.database?, Item.isDatabase]
  have stored : (configuration.items.foldl (Loaded.add lib irc) {}).database.toList.length = 1 := by
    rw [foldl_add_database _ configuration.once, List.length_append, List.length_map, counted]
    rfl
  cases database : (configuration.items.foldl (Loaded.add lib irc) {}).database with
  | none =>
      rw [database] at stored
      cases stored
  | some dc => rfl

/-- `read` returns, with what is complete after the last block. -/
theorem read_configuration (faithful : irc.Faithful) (reader : ConfigReader)
    (configuration : Configuration lib) :
    reader.read lib irc (some configuration.callbacks) =
      (.ok (), (configuration.items.foldl (Loaded.add lib irc) {}).reader) := by
  have looped : ConfigReaderState.commandLoop lib irc { globalProgress := some {} }
      configuration.callbacks =
        .ok (true, (configuration.items.foldl (Loaded.add lib irc) {}).state) :=
    commandLoop_items faithful configuration.valid configuration.once
  have database : (configuration.items.foldl (Loaded.add lib irc) {}).database.isSome = true :=
    database_isSome configuration
  simp only [ConfigReader.read, looped]
  generalize configuration.items.foldl (Loaded.add lib irc) {} = loaded at database ⊢
  simp [ConfigReader.finish, Loaded.state, Loaded.reader, Option.isSome_iff_ne_none.mp database]

/-- All but the scopes of the plugins is always as the configuration says. -/
theorem represents_loaded_iff (configuration : Configuration lib) :
    Represents lib irc configuration.items
        (configuration.items.foldl (Loaded.add lib irc) {}).reader ↔
      ∀ block ∈ configuration.items.filterMap Item.plugin?, ScopeStands lib block.2 := by
  have plugins : List.Forall₂ (PluginMeaning lib) (configuration.items.filterMap Item.plugin?)
        (configuration.items.foldl (Loaded.add lib irc) {}).plugins ↔
      ∀ block ∈ configuration.items.filterMap Item.plugin?, ScopeStands lib block.2 := by
    rw [foldl_add_plugins, List.nil_append, List.forall₂_map_right_iff, List.forall₂_same]
    apply forall₂_congr
    exact fun block membership => pluginResult_meaning_iff block.1 block.2
  rw [← plugins]
  constructor
  · exact fun represents => represents.plugins
  · intro meant
    exact {
      sockets := (foldl_add_sockets _).trans (List.nil_append _)
      networks := (foldl_add_networks _ rfl).trans (List.nil_append _)
      plugins := meant
      global := congrArg some (foldl_add_global _)
      database := (foldl_add_database _ configuration.once).trans (List.nil_append _)
      isRead := rfl }

/-- After a configuration was read, the reader holds what it says if and only if all its scopes
stand. -/
theorem read_represents_iff (faithful : irc.Faithful) (reader : ConfigReader)
    (configuration : Configuration lib) :
    (∃ after, reader.read lib irc (some configuration.callbacks) = (.ok (), after) ∧
        Represents lib irc configuration.items after) ↔
      ∀ block ∈ configuration.items.filterMap Item.plugin?, ScopeStands lib block.2 := by
  have returned := read_configuration faithful reader configuration
  have held : Represents lib irc configuration.items
        (configuration.items.foldl (Loaded.add lib irc) {}).reader ↔
      ∀ block ∈ configuration.items.filterMap Item.plugin?, ScopeStands lib block.2 :=
    represents_loaded_iff configuration
  rw [← held, returned]
  constructor
  · rintro ⟨after, same, represents⟩
    cases same
    exact represents
  · exact fun represents => ⟨_, rfl, represents⟩

end Reads

theorem IrcStructs.plain_faithful : IrcStructs.plain.Faithful where
  ports value least most := by
    simp only [IrcStructs.plain]
    omega
  servers := rfl

/-- A configuration with one block of each kind. -/
def sampleConfiguration : Configuration (.knowing []) where
  items :=
    [.option { name := .nickname, str := ascii " DaZeus" },
      .socket [{ name := .type, str := ascii "tcp" }, { name := .port, value := 1234 }],
      .database [{ name := .type, str := ascii "sqlite" }],
      .network (ascii "freenode>")
        [.option { name := .autoconnect, str := ascii "true" },
          .server [{ name := .host, str := ascii "localhost" }, { name := .port, value := 6667 }]],
      .plugin (ascii "hello>")
        [{ name := .scope, str := ascii "Network" },
          { name := .var, list := [ascii "channel", ascii "dazeus"] }]]
  valid := by decide
  oneDatabase := by decide

theorem read_represents_sample :
    ∃ after, ({} : ConfigReader).read (.knowing []) .plain (some sampleConfiguration.callbacks) =
        (.ok (), after) ∧
      Represents (.knowing []) .plain sampleConfiguration.items after :=
  (read_represents_iff IrcStructs.plain_faithful {} sampleConfiguration).mpr (by decide)

/-- A Plugin block that says Network first and Global then. -/
def globalLast : Configuration (.knowing []) where
  items :=
    [.database [],
      .plugin (ascii "hello>")
        [{ name := .scope, str := ascii "Network" }, { name := .scope, str := ascii "Global" }]]
  valid := by decide
  oneDatabase := by decide

theorem globalLast_perNetwork :
    ¬∃ after, ({} : ConfigReader).read (.knowing []) .plain (some globalLast.callbacks) =
        (.ok (), after) ∧
      Represents (.knowing []) .plain globalLast.items after := by
  rintro ⟨after, returned, represents⟩
  cases (read_configuration IrcStructs.plain_faithful {} globalLast).symm.trans returned
  exact absurd ((represents_loaded_iff globalLast).mp represents) (by decide)

end DaZeus.ConfigFile
