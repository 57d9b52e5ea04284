import DaZeus.ConfigFile.Grammar

/-!
# What a configuration says

The sockets, networks and plugins that the blocks of a configuration stand for:
each field is what the last option of the block says about it.  `read` arrives
at these, but for one option: a Scope that says Global does not take back one
that has said Network.
-/

namespace DaZeus.ConfigFile

open Library

/-! ## The meaning of options -/

namespace OptionLine

/-- The text of an option with this name. -/
def text (lib : Libraries) (name : OptionName) (line : OptionLine) : Option ByteString :=
  if line.name = name then some (lib.trim line.str) else none

def truth (lib : Libraries) (name : OptionName) (line : OptionLine) : Option Bool :=
  if line.name = name then some (boolIsTrue lib line.str) else none

def number (name : OptionName) (line : OptionLine) : Option Int :=
  if line.name = name then some line.value else none

def scope (lib : Libraries) (line : OptionLine) : Option Bool :=
  if line.name = .scope then line.perNetwork lib else none

/-- The key and the value of a Var. -/
def pair (lib : Libraries) (line : OptionLine) : Option (ByteString × ByteString) :=
  match line.name, line.list with
  | .var, [key, value] => some (lib.trim key, lib.trim value)
  | _, _ => none

end OptionLine

section Meanings

variable (lib : Libraries) (irc : IrcStructs)

def globalMeaning (lines : List OptionLine) (start : GlobalConfig) : GlobalConfig where
  defaultNickname := lastSet (OptionLine.text lib .nickname) lines start.defaultNickname
  defaultUsername := lastSet (OptionLine.text lib .username) lines start.defaultUsername
  defaultFullname := lastSet (OptionLine.text lib .fullname) lines start.defaultFullname
  plugindirectory := lastSet (OptionLine.text lib .plugindirectory) lines start.plugindirectory
  highlight := lastSet (OptionLine.text lib .highlight) lines start.highlight

def socketMeaning (lines : List OptionLine) (start : SocketConfig) : SocketConfig where
  type := lastSet (OptionLine.text lib .type) lines start.type
  host := lastSet (OptionLine.text lib .host) lines start.host
  port := (lastSet (OptionLine.number .port) lines start.port).toNat
  path := lastSet (OptionLine.text lib .path) lines start.path

def databaseMeaning (lines : List OptionLine) (start : DatabaseConfig) : DatabaseConfig where
  type := lastSet (OptionLine.text lib .type) lines start.type
  hostname := lastSet (OptionLine.text lib .host) lines start.hostname
  port := (lastSet (OptionLine.number .port) lines start.port).toNat
  username := lastSet (OptionLine.text lib .username) lines start.username
  password := lastSet (OptionLine.text lib .password) lines start.password
  filename := lastSet (OptionLine.text lib .filename) lines start.filename
  database := lastSet (OptionLine.text lib .database) lines start.database
  options := lastSet (OptionLine.text lib .options) lines start.options

/-- The priority is what a field of its type makes of the last value. -/
def serverMeaning (lines : List OptionLine) (start : ServerConfig) : ServerConfig where
  host := lastSet (OptionLine.text lib .host) lines start.host
  port := lastSet (OptionLine.number .port) lines start.port
  priority :=
    lastSet (fun line => (OptionLine.number .priority line).map irc.toPriority) lines start.priority
  ssl := lastSet (OptionLine.truth lib .ssl) lines start.ssl
  sslVerify := lastSet (OptionLine.truth lib .sslverify) lines start.sslVerify

/-- The options and the servers of a network. -/
def networkMeaning (lines : List OptionLine) (servers : List ServerConfig)
    (start : NetworkConfig) : NetworkConfig where
  name := start.name
  displayName := start.displayName
  nickName := lastSet (OptionLine.text lib .nickname) lines start.nickName
  userName := lastSet (OptionLine.text lib .username) lines start.userName
  fullName := lastSet (OptionLine.text lib .fullname) lines start.fullName
  password := lastSet (OptionLine.text lib .password) lines start.password
  autoConnect := lastSet (OptionLine.truth lib .autoconnect) lines start.autoConnect
  servers := start.servers ++ servers

/-- What a Plugin block makes of a plugin.  Only Scope options that say Network set the scope. -/
def pluginResult (lines : List OptionLine) (start : PluginConfig) : PluginConfig where
  name := start.name
  path := lastSet (OptionLine.text lib .path) lines start.path
  executable := lastSet (OptionLine.text lib .executable) lines start.executable
  perNetwork := start.perNetwork || lines.any fun line => line.scope lib == some true
  parameters := lastSet (OptionLine.text lib .parameters) lines start.parameters
  config := assignAll (lines.filterMap (OptionLine.pair lib)) start.config

end Meanings

/-- What libdazeus-irc promises of its structs: a port keeps the values of a port, and a network
has no servers of its own. -/
structure IrcStructs.Faithful (irc : IrcStructs) : Prop where
  ports : ∀ value, 0 ≤ value → value ≤ 65535 → irc.toPort value = value
  servers : irc.networkConfig.servers = []

/-! ## One option -/

section Options

variable {lib : Libraries} {irc : IrcStructs} {line : OptionLine}

theorem globalOption_meaning (allowed : line.Allowed lib .root) (g : GlobalConfig) :
    globalOption lib line g = .ok (globalMeaning lib [line] g) := by
  obtain ⟨name, str, value, list⟩ := line
  obtain ⟨known, valid⟩ := allowed
  simp only [Section.options, List.mem_cons, List.not_mem_nil, or_false] at known
  rcases known with rfl | rfl | rfl | rfl | rfl <;> rfl

theorem socketOption_meaning (allowed : line.Allowed lib .socket) (sc : SocketConfig) :
    socketOption lib line sc = .ok (socketMeaning lib [line] sc) := by
  obtain ⟨name, str, value, list⟩ := line
  obtain ⟨known, valid⟩ := allowed
  simp only [Section.options, List.mem_cons, List.not_mem_nil, or_false] at known
  rcases known with rfl | rfl | rfl | rfl
  · rfl
  · rfl
  · rfl
  · have inside : 0 ≤ value ∧ value ≤ 65535 := of_decide_eq_true valid
    have checked : ¬(value > 65535 ∨ value < 0) := by omega
    simp only [socketOption, if_neg checked]
    rfl

theorem databaseOption_meaning (allowed : line.Allowed lib .database) (dc : DatabaseConfig) :
    databaseOption lib line dc = .ok (databaseMeaning lib [line] dc) := by
  obtain ⟨name, str, value, list⟩ := line
  obtain ⟨known, valid⟩ := allowed
  simp only [Section.options, List.mem_cons, List.not_mem_nil, or_false] at known
  rcases known with rfl | rfl | rfl | rfl | rfl | rfl | rfl | rfl
  case inr.inr.inl =>
    have inside : 0 ≤ value ∧ value ≤ 65535 := of_decide_eq_true valid
    have kept : value % 65536 = value := by omega
    simp only [databaseOption, kept]
    rfl
  all_goals rfl

theorem networkOption_meaning (allowed : line.Allowed lib .network) (nc : NetworkConfig) :
    networkOption lib line nc = .ok (networkMeaning lib [line] [] nc) := by
  obtain ⟨name, str, value, list⟩ := line
  obtain ⟨known, valid⟩ := allowed
  simp only [Section.options, List.mem_cons, List.not_mem_nil, or_false] at known
  rcases known with rfl | rfl | rfl | rfl | rfl <;>
    simp [networkOption, networkMeaning, lastSet_singleton, OptionLine.text, OptionLine.truth]

theorem serverOption_meaning
    (faithful : irc.Faithful)
    (allowed : line.Allowed lib .server) (sc : ServerConfig) :
    serverOption lib irc line sc = .ok (serverMeaning lib irc [line] sc) := by
  obtain ⟨name, str, value, list⟩ := line
  obtain ⟨known, valid⟩ := allowed
  simp only [Section.options, List.mem_cons, List.not_mem_nil, or_false] at known
  rcases known with rfl | rfl | rfl | rfl | rfl
  case inr.inl =>
    have inside : 0 ≤ value ∧ value ≤ 65535 := of_decide_eq_true valid
    simp only [serverOption, faithful.ports value inside.1 inside.2]
    rfl
  all_goals rfl

theorem pluginResult_singleton (pc : PluginConfig) :
    pluginResult lib [line] pc =
      { pc with
        path := (line.text lib .path).getD pc.path
        executable := (line.text lib .executable).getD pc.executable
        perNetwork := pc.perNetwork || line.scope lib == some true
        parameters := (line.text lib .parameters).getD pc.parameters
        config := (line.pair lib).elim pc.config fun pair => assign pc.config pair.1 pair.2 } := by
  simp only [pluginResult, lastSet_singleton, List.any_cons, List.any_nil, Bool.or_false,
    List.filterMap_cons, List.filterMap_nil]
  cases line.pair lib <;> rfl

theorem pluginOption_result (allowed : line.Allowed lib .plugin) (pc : PluginConfig) :
    pluginOption lib line pc = .ok (pluginResult lib [line] pc) := by
  obtain ⟨name, str, value, list⟩ := line
  obtain ⟨known, valid⟩ := allowed
  simp only [Section.options, List.mem_cons, List.not_mem_nil, or_false] at known
  rcases known with rfl | rfl | rfl | rfl | rfl
  case inr.inr.inl =>
    simp only [OptionLine.validValue, OptionLine.perNetwork] at valid
    simp only [pluginOption, pluginResult_singleton, OptionLine.scope, OptionLine.perNetwork]
    generalize lib.strToLower (lib.trim str) = scope at valid ⊢
    by_cases network : scope = ascii "network"
    · simp [if_pos network, OptionLine.text, OptionLine.pair]
    · rw [if_neg network] at valid
      by_cases global : scope = ascii "global"
      · simp only [if_neg network, if_pos global, if_neg (not_not.mpr global)]
        simp [OptionLine.text, OptionLine.pair]
      · rw [if_neg global] at valid
        cases valid
  case inr.inr.inr.inr =>
    rcases list with _ | ⟨key, _ | ⟨other, _ | ⟨third, rest⟩⟩⟩
    case cons.cons.nil =>
      simp [pluginOption, pluginResult_singleton, OptionLine.text, OptionLine.scope,
        OptionLine.pair]
    all_goals cases valid
  all_goals
    simp [pluginOption, pluginResult_singleton, OptionLine.text, OptionLine.scope,
      OptionLine.pair]

end Options

/-! ## The options of a section -/

section Lines

variable {lib : Libraries} {irc : IrcStructs} {line : OptionLine} {lines : List OptionLine}

theorem globalMeaning_append (earlier later : List OptionLine) (g : GlobalConfig) :
    globalMeaning lib (earlier ++ later) g =
      globalMeaning lib later (globalMeaning lib earlier g) := by
  simp only [globalMeaning, lastSet_append]

/-- A valid port is not negative, and neither is one that there was before. -/
theorem port_nonneg (valid : line.validValue lib = true) (port : Nat) :
    0 ≤ lastSet (OptionLine.number .port) [line] (port : Int) := by
  rw [lastSet_singleton, OptionLine.number]
  split
  · next named =>
      rw [OptionLine.validValue, named] at valid
      exact (of_decide_eq_true valid).1
  · exact Int.natCast_nonneg port

theorem socketMeaning_cons (allowed : line.Allowed lib .socket) (sc : SocketConfig) :
    socketMeaning lib (line :: lines) sc =
      socketMeaning lib lines (socketMeaning lib [line] sc) := by
  simp only [socketMeaning, Int.toNat_of_nonneg (port_nonneg allowed.2 sc.port), ← lastSet_cons]

theorem databaseMeaning_cons (allowed : line.Allowed lib .database) (dc : DatabaseConfig) :
    databaseMeaning lib (line :: lines) dc =
      databaseMeaning lib lines (databaseMeaning lib [line] dc) := by
  simp only [databaseMeaning, Int.toNat_of_nonneg (port_nonneg allowed.2 dc.port), ← lastSet_cons]

theorem serverMeaning_cons (sc : ServerConfig) :
    serverMeaning lib irc (line :: lines) sc =
      serverMeaning lib irc lines (serverMeaning lib irc [line] sc) := by
  simp only [serverMeaning, ← lastSet_cons]

theorem networkMeaning_option (servers : List ServerConfig) (nc : NetworkConfig) :
    networkMeaning lib (line :: lines) servers nc =
      networkMeaning lib lines servers (networkMeaning lib [line] [] nc) := by
  simp only [networkMeaning, ← lastSet_cons, List.append_nil]

theorem networkMeaning_server (server : ServerConfig) (servers : List ServerConfig)
    (nc : NetworkConfig) :
    networkMeaning lib lines (server :: servers) nc =
      networkMeaning lib lines servers { nc with servers := nc.servers ++ [server] } := by
  simp only [networkMeaning, List.append_assoc, List.singleton_append]

theorem pluginResult_cons (pc : PluginConfig) :
    pluginResult lib (line :: lines) pc =
      pluginResult lib lines (pluginResult lib [line] pc) := by
  have pairs : (line :: lines).filterMap (OptionLine.pair lib) =
      [line].filterMap (OptionLine.pair lib) ++ lines.filterMap (OptionLine.pair lib) := by
    rw [← List.filterMap_append, List.singleton_append]
  simp only [pluginResult, pairs, assignAll_append, ← lastSet_cons, List.any_cons, List.any_nil,
    Bool.or_false, Bool.or_assoc]

/-! ## The loop over the options of a section -/

namespace ConfigReaderState

/-- By induction on the options: each changes the value in progress as it should. -/
theorem commandLoop_lines {Value : Type} (meaning : List OptionLine → Value → Value)
    (put : Value → ConfigReaderState) (nil : ∀ value, meaning [] value = value)
    (cons : ∀ line ∈ lines, ∀ rest value,
      meaning (line :: rest) value = meaning rest (meaning [line] value))
    (step : ∀ line ∈ lines, ∀ value,
      (put value).option lib irc line = .ok (none, put (meaning [line] value)))
    (value : Value) (rest : List Callback) :
    commandLoop lib irc (put value) (lines.map .option ++ rest) =
      commandLoop lib irc (put (meaning lines value)) rest := by
  induction lines generalizing value with
  | nil => rw [nil, List.map_nil, List.nil_append]
  | cons line lines inductionHypothesis =>
      have later := inductionHypothesis
        (fun other membership => cons other (List.mem_cons_of_mem _ membership))
        (fun other membership => step other (List.mem_cons_of_mem _ membership))
      rw [cons line List.mem_cons_self lines value, ← later, List.map_cons, List.cons_append,
        commandLoop, invoke, step line List.mem_cons_self]

end ConfigReaderState

end Lines

/-! ## What is read -/

def NetworkItem.optionLine? : NetworkItem → Option OptionLine
  | option line => some line
  | server _ => none

def NetworkItem.server? : NetworkItem → Option (List OptionLine)
  | option _ => none
  | server lines => some lines

namespace Item

def optionLine? : Item → Option OptionLine
  | option line => some line
  | _ => none

def socket? : Item → Option (List OptionLine)
  | socket lines => some lines
  | _ => none

def database? : Item → Option (List OptionLine)
  | database lines => some lines
  | _ => none

/-- The name of a plugin, and its options. -/
def plugin? : Item → Option (ByteString × List OptionLine)
  | plugin argument lines => some (argument.dropLast, lines)
  | _ => none

end Item

section Loading

variable (lib : Libraries) (irc : IrcStructs)

/-- A network with the global values in force. -/
def networkOf (global : GlobalConfig) (argument : ByteString) (body : List NetworkItem) :
    NetworkConfig where
  name := argument.dropLast
  displayName := argument.dropLast
  nickName := lastSet (OptionLine.text lib .nickname) (body.filterMap NetworkItem.optionLine?)
    global.defaultNickname
  userName := lastSet (OptionLine.text lib .username) (body.filterMap NetworkItem.optionLine?)
    global.defaultUsername
  fullName := lastSet (OptionLine.text lib .fullname) (body.filterMap NetworkItem.optionLine?)
    global.defaultFullname
  password := lastSet (OptionLine.text lib .password) (body.filterMap NetworkItem.optionLine?)
    irc.networkConfig.password
  autoConnect := lastSet (OptionLine.truth lib .autoconnect)
    (body.filterMap NetworkItem.optionLine?) irc.networkConfig.autoConnect
  servers := (body.filterMap NetworkItem.server?).map fun lines =>
    serverMeaning lib irc lines (ConfigReaderState.newServer irc)

/-- What is complete when the reader is at the root. -/
structure Loaded where
  sockets : List SocketConfig := []
  networks : List NetworkConfig := []
  plugins : List PluginConfig := []
  global : GlobalConfig := {}
  database : Option DatabaseConfig := none

namespace Loaded

def state (loaded : Loaded) : ConfigReaderState where
  sockets := loaded.sockets
  networks := loaded.networks
  plugins := loaded.plugins
  globalProgress := some loaded.global
  databaseProgress := loaded.database

def inSocket (loaded : Loaded) (sc : SocketConfig) : ConfigReaderState :=
  { loaded.state with currentSection := .socket, socketProgress := some sc }

def inDatabase (loaded : Loaded) (dc : DatabaseConfig) : ConfigReaderState :=
  { loaded.state with currentSection := .database, databaseProgress := some dc }

def inNetwork (loaded : Loaded) (nc : NetworkConfig) : ConfigReaderState :=
  { loaded.state with currentSection := .network, networkProgress := some nc }

def inServer (loaded : Loaded) (nc : NetworkConfig) (sc : ServerConfig) : ConfigReaderState :=
  { loaded.inNetwork nc with currentSection := .server, serverProgress := some sc }

def inPlugin (loaded : Loaded) (pc : PluginConfig) : ConfigReaderState :=
  { loaded.state with currentSection := .plugin, pluginProgress := some pc }

def add (loaded : Loaded) : Item → Loaded
  | .option line => { loaded with global := globalMeaning lib [line] loaded.global }
  | .socket lines => { loaded with sockets := loaded.sockets ++ [socketMeaning lib lines {}] }
  | .database lines => { loaded with database := some (databaseMeaning lib lines {}) }
  | .network argument body =>
      { loaded with
        networks := loaded.networks ++ [networkOf lib irc loaded.global argument body] }
  | .plugin argument lines =>
      { loaded with
        plugins := loaded.plugins ++ [pluginResult lib lines { name := argument.dropLast }] }

theorem database_add (loaded : Loaded) (item : Item) :
    (loaded.add lib irc item).database.isSome.toNat ≤
      loaded.database.isSome.toNat + if item.isDatabase then 1 else 0 := by
  cases item with
  | database lines => exact Nat.le_add_left _ _
  | option | socket | network | plugin => exact Nat.le_refl _

end Loaded

end Loading

section Loops

open ConfigReaderState

variable {lib : Libraries} {irc : IrcStructs} {loaded : Loaded} {lines : List OptionLine}

theorem commandLoop_inSocket (valid : ∀ line ∈ lines, line.Allowed lib .socket)
    (sc : SocketConfig) (rest : List Callback) :
    commandLoop lib irc (loaded.inSocket sc) (lines.map .option ++ rest) =
      commandLoop lib irc (loaded.inSocket (socketMeaning lib lines sc)) rest := by
  apply commandLoop_lines (socketMeaning lib) loaded.inSocket
  · exact fun sc => rfl
  · exact fun line membership lines sc => socketMeaning_cons (valid line membership) sc
  · intro line membership sc
    simp only [Loaded.inSocket, option, edit, socketOption_meaning (valid line membership)]

theorem commandLoop_inDatabase (valid : ∀ line ∈ lines, line.Allowed lib .database)
    (dc : DatabaseConfig) (rest : List Callback) :
    commandLoop lib irc (loaded.inDatabase dc) (lines.map .option ++ rest) =
      commandLoop lib irc (loaded.inDatabase (databaseMeaning lib lines dc)) rest := by
  apply commandLoop_lines (databaseMeaning lib) loaded.inDatabase
  · exact fun dc => rfl
  · exact fun line membership lines dc => databaseMeaning_cons (valid line membership) dc
  · intro line membership dc
    simp only [Loaded.inDatabase, option, edit, databaseOption_meaning (valid line membership)]

theorem commandLoop_inServer
    (faithful : irc.Faithful)
    (valid : ∀ line ∈ lines, line.Allowed lib .server) (nc : NetworkConfig) (sc : ServerConfig)
    (rest : List Callback) :
    commandLoop lib irc (loaded.inServer nc sc) (lines.map .option ++ rest) =
      commandLoop lib irc (loaded.inServer nc (serverMeaning lib irc lines sc)) rest := by
  apply commandLoop_lines (serverMeaning lib irc) (loaded.inServer nc)
  · exact fun sc => rfl
  · exact fun line membership lines sc => serverMeaning_cons sc
  · intro line membership sc
    simp only [Loaded.inServer, option, edit, serverOption_meaning faithful (valid line membership)]

theorem commandLoop_inPlugin (valid : ∀ line ∈ lines, line.Allowed lib .plugin)
    (pc : PluginConfig) (rest : List Callback) :
    commandLoop lib irc (loaded.inPlugin pc) (lines.map .option ++ rest) =
      commandLoop lib irc (loaded.inPlugin (pluginResult lib lines pc)) rest := by
  apply commandLoop_lines (pluginResult lib) loaded.inPlugin
  · intro pc
    simp only [pluginResult, lastSet_nil, List.any_nil, Bool.or_false, List.filterMap_nil]
    rfl
  · exact fun line membership lines pc => pluginResult_cons pc
  · intro line membership pc
    simp only [Loaded.inPlugin, option, edit, pluginOption_result (valid line membership)]

/-- By induction on the body: its options and its servers do not get in each other's way. -/
theorem commandLoop_inNetwork
    (faithful : irc.Faithful)
    {body : List NetworkItem} (valid : ∀ item ∈ body, item.Valid lib) (nc : NetworkConfig)
    (rest : List Callback) :
    commandLoop lib irc (loaded.inNetwork nc) (body.flatMap NetworkItem.callbacks ++ rest) =
      commandLoop lib irc
        (loaded.inNetwork
          (networkMeaning lib (body.filterMap NetworkItem.optionLine?)
            ((body.filterMap NetworkItem.server?).map fun lines =>
              serverMeaning lib irc lines (newServer irc)) nc))
        rest := by
  induction body generalizing nc with
  | nil =>
      have same : networkMeaning lib [] [] nc = nc := by
        simp only [networkMeaning, lastSet_nil, List.append_nil]
      rw [List.flatMap_nil, List.nil_append, List.filterMap_nil, List.filterMap_nil,
        List.map_nil, same]
  | cons item body inductionHypothesis =>
      have later := inductionHypothesis fun item membership =>
        valid item (List.mem_cons_of_mem _ membership)
      have allowed := valid item List.mem_cons_self
      rw [List.flatMap_cons, List.append_assoc]
      cases item with
      | option line =>
          have changed : (loaded.inNetwork nc).option lib irc line =
              .ok (none, loaded.inNetwork (networkMeaning lib [line] [] nc)) := by
            simp only [Loaded.inNetwork, option, edit, networkOption_meaning allowed]
          rw [NetworkItem.callbacks, List.singleton_append, commandLoop, invoke, changed]
          apply (later _).trans
          rw [← networkMeaning_option]
          rfl
      | server lines =>
          rw [NetworkItem.callbacks, List.cons_append, List.append_assoc]
          apply (commandLoop_inServer faithful allowed nc (newServer irc)
            (.sectClose .server :: (body.flatMap NetworkItem.callbacks ++ rest))).trans
          apply (later _).trans
          rw [← networkMeaning_server]
          rfl

theorem commandLoop_item
    (faithful : irc.Faithful) {item : Item}
    (valid : item.Valid lib) (first : item.isDatabase = true → loaded.database = none)
    (rest : List Callback) :
    commandLoop lib irc loaded.state (item.callbacks ++ rest) =
      commandLoop lib irc (loaded.add lib irc item).state rest := by
  cases item with
  | option line =>
      have changed : loaded.state.option lib irc line =
          .ok (none, (loaded.add lib irc (.option line)).state) := by
        simp only [Loaded.state, Loaded.add, option, edit, globalOption_meaning valid]
      rw [Item.callbacks, List.singleton_append, commandLoop, invoke, changed]
  | socket lines =>
      rw [Item.callbacks, List.cons_append, List.append_assoc]
      exact commandLoop_inSocket valid {} (.sectClose .socket :: rest)
  | database lines =>
      have opened : loaded.state.sectOpen irc .database = .ok (none, loaded.inDatabase {}) := by
        simp [sectOpen, Loaded.state, Loaded.inDatabase, first rfl]
      rw [Item.callbacks, List.cons_append, List.append_assoc, commandLoop, invoke, opened]
      exact commandLoop_inDatabase valid {} (.sectClose .database :: rest)
  | network argument body =>
      have opened : loaded.state.sectOpen irc (.network argument) =
          .ok (none, loaded.inNetwork (newNetwork irc loaded.global argument.dropLast)) := by
        simp [sectOpen, Loaded.state, Loaded.inNetwork, valid.1]
      rw [Item.callbacks, List.cons_append, List.append_assoc, commandLoop, invoke, opened]
      apply (commandLoop_inNetwork faithful valid.2 _ (.sectClose .network :: rest)).trans
      have same : networkOf lib irc loaded.global argument body =
          networkMeaning lib (body.filterMap NetworkItem.optionLine?)
            ((body.filterMap NetworkItem.server?).map fun lines =>
              serverMeaning lib irc lines (newServer irc))
            (newNetwork irc loaded.global argument.dropLast) := by
        simp [networkOf, networkMeaning, newNetwork, faithful.servers]
      rw [Loaded.add, same]
      rfl
  | plugin argument lines =>
      have named : argument ≠ [] := by
        intro empty
        exact valid.1 (by rw [empty, List.dropLast_nil])
      have opened : loaded.state.sectOpen irc (.plugin argument) =
          .ok (none, loaded.inPlugin { name := argument.dropLast }) := by
        simp [sectOpen, Loaded.state, Loaded.inPlugin, named, valid.1]
      rw [Item.callbacks, List.cons_append, List.append_assoc, commandLoop, invoke, opened]
      exact commandLoop_inPlugin valid.2 _ (.sectClose .plugin :: rest)

theorem commandLoop_items
    (faithful : irc.Faithful) {items : List Item}
    (valid : ∀ item ∈ items, item.Valid lib)
    (once : loaded.database.isSome.toNat + items.countP Item.isDatabase ≤ 1) :
    commandLoop lib irc loaded.state (items.flatMap Item.callbacks) =
      .ok (true, (items.foldl (Loaded.add lib irc) loaded).state) := by
  induction items generalizing loaded with
  | nil => rfl
  | cons item items inductionHypothesis =>
      rw [List.countP_cons] at once
      rw [List.flatMap_cons, List.foldl_cons,
        commandLoop_item faithful (valid item List.mem_cons_self)]
      · apply inductionHypothesis
        · exact fun item membership => valid item (List.mem_cons_of_mem _ membership)
        · have counted := loaded.database_add lib irc item
          omega
      · intro database
        rw [if_pos database] at once
        have unset : loaded.database.isSome.toNat = 0 := by omega
        simpa using unset

end Loops

end DaZeus.ConfigFile
