import DaZeus.PluginComm.Init
import DaZeus.PluginComm.Poll
import DaZeus.PluginMonitor.Run

/-!
# The bot and its configuration

The class `DaZeus` with `connectDatabase` and `loadConfig`.  Objects on the
heap are identities: `databases` holds those that were not deleted, and a
pointer in `database` or in the plugin interface may dangle.
-/

namespace DaZeus

open Library
open Std (TreeMap)

/-! ## Databases -/

inductive Backend where
  | postgres
  | sqlite
  | mongo
  deriving DecidableEq

/-- `Factory::createDb` of a program that was built with some of the backends; `none` is the
exception for a type that is not supported. -/
def createDb (built : Backend → Bool) (config : DatabaseConfig) : Option Backend :=
  if built .mongo && [ascii "mongo", ascii "mongodb"].contains config.type then
    some .mongo
  else if built .sqlite && [ascii "sqlite", ascii "sqlite3"].contains config.type then
    some .sqlite
  else if built .postgres && [ascii "postgres", ascii "postgresql", ascii "pq",
      ascii "psql"].contains config.type then
    some .postgres
  else
    none

/-- A database object that was not deleted. -/
inductive DatabaseObject where
  | opened
  /-- `open` has thrown, and may have set before what the destructor reads. -/
  | failed (destructible : Bool)
  deriving DecidableEq

/-! ## The state -/

/-- The methods of a `Network` that `loadConfig` calls. -/
inductive ConfigCall where
  | connectToNetwork
  | resetConfig (config : NetworkConfig)
  | disconnectFromNetwork
  deriving DecidableEq

/-- The class `DaZeus`.  `calls`, the newest first, is read by no function. -/
structure Bot where
  config : ConfigReader := {}
  plugins : Option PluginComm := none
  pluginMonitor : Option PluginMonitor := none
  database : Option DatabaseId := none
  networks : TreeMap ByteString NetworkId := ∅
  /-- The database objects that are alive. -/
  databases : TreeMap DatabaseId DatabaseObject := ∅
  nextDatabase : DatabaseId := 1
  nextNetwork : NetworkId := 1
  calls : List (NetworkId × ConfigCall) := []

/-- An event that a network raises before such a call returns, with what the networks know
by then.  Nothing was read from the server meanwhile, so that it is no message. -/
structure ConfigEvent where
  memory : NetworkId → NetworkState
  event : ByteString
  noMessage : event ≠ ascii "PRIVMSG"
  origin : ByteString
  params : List ByteString

/-- The environment's part in a call of `loadConfig`. -/
structure LoadAnswers where
  /-- `ConfigReader::read` of the file as it is now. -/
  read : Except Stop ConfigReader
  /-- `Database::open` succeeds. -/
  opens : Bool := true
  /-- Where it throws, the connection and the prepared statements are set by then. -/
  destructible : Bool := false
  /-- For each socket block, when `PluginComm::init` is called. -/
  setup : Nat → SetupAnswers := fun _ => { socket := false, bind := false, listen := false }
  descriptors : DescriptorTable Descriptor := ⟨[]⟩
  /-- For the system calls of the plugin monitor. -/
  script : List Moment := []
  /-- What is raised during a call, by the number of calls there were before it. -/
  raised : Nat → List ConfigEvent := fun _ => []
  /-- `property` and `setProperty` of the initialisation counter do not throw. -/
  counts : Bool := true

/-- How `loadConfig` stops without returning. -/
inductive LoadStop where
  /-- `delete database_` while the object is gone. -/
  | doubleDelete (database : DatabaseId)
  /-- The destructor reads members that were never set. -/
  | uninitialised (database : DatabaseId)
  | pathOverflow (path : ByteString)
  | assertion
  /-- The database throws while the initialisations are counted. -/
  | exception
  deriving DecidableEq

namespace Bot

variable (lib : Libraries) (built : Backend → Bool)

/-! ## Connecting to the database -/

def deleteDatabase (bot : Bot) : Except LoadStop Bot :=
  match bot.database with
  | none => .ok bot
  | some database =>
      match bot.databases[database]? with
      | none => .error (.doubleDelete database)
      | some (.failed false) => .error (.uninitialised database)
      | some _ => .ok { bot with databases := bot.databases.erase database }

/-- `database_->open()`; for MongoDB it begins with the only member that the destructor reads. -/
def openDatabase (answers : LoadAnswers) (backend : Backend) : DatabaseObject :=
  if answers.opens then .opened else .failed (backend == .mongo || answers.destructible)

/-- `database_ = Factory::createDb(...)`, and then `database_->open()`. -/
def createDatabase (answers : LoadAnswers) (bot : Bot) : Bool × Bot :=
  match createDb built bot.config.databaseConfig with
  | none => (false, bot)
  | some backend =>
      (answers.opens, { bot with
        database := some bot.nextDatabase
        databases := bot.databases.insert bot.nextDatabase (openDatabase answers backend)
        nextDatabase := bot.nextDatabase + 1 })

def connectDatabase (answers : LoadAnswers) (bot : Bot) : Except LoadStop Bool × Bot :=
  if !bot.config.isRead then
    (.error .assertion, bot)
  else
    match bot.deleteDatabase with
    | .error stop => (.error stop, bot)
    | .ok bot =>
        let (connected, bot) := bot.createDatabase built answers
        (.ok connected, bot)

/-! ## The plugin interface and the plugin monitor -/

/-- Hand the database to the plugin interface, which is constructed at the first load. -/
def attachPlugins (answers : LoadAnswers) (bot : Bot) : Except LoadStop Bot :=
  match bot.plugins with
  | some pc => .ok { bot with plugins := some (pc.setDatabase bot.database) }
  | none =>
      let start : Startup :=
        { pc := { database := bot.database }, descriptors := answers.descriptors }
      match start.init (bot.config.sockets.zipIdx.map fun block =>
          (block.1, answers.setup block.2)) with
      | .error overflow => .error (.pathOverflow overflow.path)
      | .ok startup =>
          .ok { bot with
            plugins := some startup.pc
            config := { bot.config with sockets := startup.sockets } }

/-- The monitor that is told about the configuration. -/
def monitor (answers : LoadAnswers) (bot : Bot) : PluginMonitor :=
  match bot.pluginMonitor with
  | some monitor => { monitor with script := answers.script }
  | none =>
      { pluginDirectory := bot.config.globalConfig.plugindirectory, script := answers.script }

def reloadMonitor (answers : LoadAnswers) (bot : Bot) : Except LoadStop Bool × Bot :=
  match (bot.monitor answers).configReloaded bot.config with
  | (.ok (), monitor) => (.ok true, { bot with pluginMonitor := some monitor })
  | (.error (.exception _), monitor) => (.ok false, { bot with pluginMonitor := some monitor })
  | (.error .assertion, monitor) => (.error .assertion, { bot with pluginMonitor := some monitor })

/-- `loadConfig` once there is a configuration, up to the networks. -/
def prepare (answers : LoadAnswers) (bot : Bot) : Except LoadStop Bool × Bot :=
  match bot.connectDatabase built answers with
  | (.error stop, bot) => (.error stop, bot)
  | (.ok false, bot) => (.ok false, bot)
  | (.ok true, bot) =>
      match bot.attachPlugins answers with
      | .error stop => (.error stop, bot)
      | .ok bot => bot.reloadMonitor answers

/-! ## The networks -/

def callNetwork (answers : LoadAnswers) (network : NetworkId) (call : ConfigCall) (bot : Bot) :
    Bot :=
  { bot with
    plugins := bot.plugins.map fun pc => (answers.raised bot.calls.length).foldl
      (fun pc raise => pc.ircEvent lib raise.memory bot.config.globalConfig network
        raise.event raise.origin raise.params) pc
    calls := (network, call) :: bot.calls }

/-- One iteration of the loop over the network blocks. -/
def loadNetwork (answers : LoadAnswers) (bot : Bot) (network : NetworkConfig) : Bot :=
  match bot.networks[network.name]? with
  | none =>
      let net := bot.nextNetwork
      let bot := { bot with
        networks := bot.networks.insert network.name net, nextNetwork := net + 1 }
      if network.autoConnect then bot.callNetwork lib answers net .connectToNetwork else bot
  | some net => bot.callNetwork lib answers net (.resetConfig network)

/-- One iteration of the loop that disconnects from networks that are gone. -/
def dropNetwork (answers : LoadAnswers) (bot : Bot) (entry : ByteString × NetworkId) : Bot :=
  if bot.config.networks.any (·.name == entry.1) then
    bot
  else
    { bot with networks := bot.networks.erase entry.1 }.callNetwork lib answers entry.2
      .disconnectFromNetwork

def loadNetworks (answers : LoadAnswers) (bot : Bot) : Bot :=
  let bot := bot.config.networks.foldl (loadNetwork lib answers) bot
  bot.networks.toList.foldl (dropNetwork lib answers) bot

/-- The bot once `ConfigReader::read` has returned. -/
def configured (config : ConfigReader) (bot : Bot) : Bot :=
  { bot with config := { config with isRead := true } }

/-- `loadConfig`, with `false` where it returns that. -/
def loadConfig (answers : LoadAnswers) (bot : Bot) : Except LoadStop Bool × Bot :=
  match answers.read with
  | .error (.exception _) => (.ok false, { bot with config := { bot.config with isRead := false } })
  | .error .assertion => (.error .assertion, bot)
  | .ok config =>
      match (bot.configured config).prepare built answers with
      | (.ok true, bot) =>
          (if answers.counts then .ok true else .error .exception, bot.loadNetworks lib answers)
      | (result, bot) => (result, bot)

end Bot

end DaZeus
