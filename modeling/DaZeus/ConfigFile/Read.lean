import DaZeus.Config
import DaZeus.Library.Settings

/-!
# Reading the configuration file

`ConfigReader::read` and the callbacks it hands to dotconf.  dotconf is a
submodule, so a file is given by the calls that dotconf makes for it; the
configuration structs of libdazeus-irc are a submodule too and enter as
`IrcStructs`.
-/

namespace DaZeus.ConfigFile

open Library

/-- `s->current_section`. -/
inductive Section where
  | root
  | socket
  | database
  | network
  | server
  | plugin
  deriving DecidableEq

inductive OptionName where
  | nickname | username | fullname | plugindirectory | highlight | type | path | host | port
  | password | database | filename | options | autoconnect | priority | ssl | sslverify
  | executable | scope | parameters | var
  deriving DecidableEq

/-- `cmd->name`, as the table of options spells it. -/
def OptionName.text : OptionName → ByteString
  | nickname => ascii "nickname"
  | username => ascii "username"
  | fullname => ascii "fullname"
  | plugindirectory => ascii "plugindirectory"
  | highlight => ascii "highlight"
  | type => ascii "type"
  | path => ascii "path"
  | host => ascii "host"
  | port => ascii "port"
  | password => ascii "password"
  | database => ascii "database"
  | filename => ascii "filename"
  | options => ascii "options"
  | autoconnect => ascii "autoconnect"
  | priority => ascii "priority"
  | ssl => ascii "ssl"
  | sslverify => ascii "sslverify"
  | executable => ascii "executable"
  | scope => ascii "scope"
  | parameters => ascii "parameters"
  | var => ascii "var"

/-- The `command_t` of an option: `cmd->data`, with `cmd->arg_count` arguments in its list. -/
structure OptionLine where
  name : OptionName
  str : ByteString := []
  value : Int := 0
  list : List ByteString := []
  deriving DecidableEq

/-- The tag of a section that is opened.  Network and Plugin have an argument, which dotconf
gives with the `>` that follows it. -/
inductive SectionOpen where
  | socket
  | database
  | network (argument : ByteString)
  | server
  | plugin (argument : ByteString)
  deriving DecidableEq

inductive SectionClose where
  | socket
  | database
  | network
  | server
  | plugin
  deriving DecidableEq

/-- What dotconf has to say about a line that it cannot make a command of. -/
structure Report where
  message : ByteString
  nonempty : message ≠ []
  deriving DecidableEq

/-- A call that dotconf makes while it reads a file. -/
inductive Callback where
  | sectOpen (tag : SectionOpen)
  | sectClose (tag : SectionClose)
  | option (line : OptionLine)
  /-- `error_handler`, not on behalf of another callback. -/
  | report (report : Report)
  deriving DecidableEq

structure ServerConfig where
  host : ByteString
  port : Int
  priority : Int
  ssl : Bool
  sslVerify : Bool
  deriving DecidableEq

structure NetworkConfig where
  name : ByteString
  displayName : ByteString
  nickName : ByteString
  userName : ByteString
  fullName : ByteString
  password : ByteString
  autoConnect : Bool
  servers : List ServerConfig
  deriving DecidableEq

structure DatabaseConfig where
  type : ByteString := []
  hostname : ByteString := ascii "127.0.0.1"
  port : Nat := 27017
  username : ByteString := []
  password : ByteString := []
  filename : ByteString := []
  database : ByteString := ascii "dazeus"
  options : ByteString := []
  deriving DecidableEq

/-- The structs of libdazeus-irc: what their constructors leave, and what becomes of a `long`
that is assigned to a field. -/
structure IrcStructs where
  serverConfig : ServerConfig
  networkConfig : NetworkConfig
  toPort : Int → Int
  toPriority : Int → Int

/-- Structs to run the model with. -/
def IrcStructs.plain : IrcStructs where
  serverConfig := { host := [], port := 6667, priority := 0, ssl := false, sslVerify := true }
  networkConfig :=
    { name := [], displayName := [], nickName := [], userName := [], fullName := []
      password := [], autoConnect := false, servers := [] }
  toPort value := value % 65536
  toPriority value := value

structure ConfigReaderState where
  currentSection : Section := .root
  sockets : List SocketConfig := []
  networks : List NetworkConfig := []
  plugins : List PluginConfig := []
  globalProgress : Option GlobalConfig := none
  socketProgress : Option SocketConfig := none
  databaseProgress : Option DatabaseConfig := none
  networkProgress : Option NetworkConfig := none
  serverProgress : Option ServerConfig := none
  pluginProgress : Option PluginConfig := none
  error : ByteString := []
  deriving DecidableEq

/-- How `ConfigReader::read` stops without returning. -/
inductive ReadStop where
  /-- A `ConfigReader::exception`. -/
  | exception (what : ByteString)
  | assertion
  /-- An optional without a value is dereferenced. -/
  | disengaged
  /-- The `std::length_error` of `resize(length() - 1)` on an empty string. -/
  | lengthError
  deriving DecidableEq

/-- A callback returns NULL or an error for dotconf. -/
abbrev CallbackResult := Except ReadStop (Option ByteString × ConfigReaderState)

/-- What is wrong with an option: what the callback returns, and what it has written to
`s->error` before. -/
structure Complaint where
  returned : ByteString
  error : Option ByteString := none

section Callbacks

variable (lib : Libraries) (irc : IrcStructs)

def boolIsTrue (text : ByteString) : Bool :=
  let text := lib.strToLower (lib.trim text)
  text == ascii "true" || text == ascii "yes" || text == ascii "1"

def complaint (error : ByteString) : Complaint :=
  { returned := ascii "Configuration file contains errors", error := some error }

def invalidOption (context : String) (line : OptionLine) : Complaint :=
  complaint (ascii "Invalid option name in " ++ ascii context ++ ascii " context: " ++
    line.name.text)

def globalOption (line : OptionLine) (g : GlobalConfig) : Except Complaint GlobalConfig :=
  match line.name with
  | .nickname => .ok { g with defaultNickname := lib.trim line.str }
  | .username => .ok { g with defaultUsername := lib.trim line.str }
  | .fullname => .ok { g with defaultFullname := lib.trim line.str }
  | .plugindirectory => .ok { g with plugindirectory := lib.trim line.str }
  | .highlight => .ok { g with highlight := lib.trim line.str }
  | _ => .error (invalidOption "root" line)

def socketOption (line : OptionLine) (sc : SocketConfig) : Except Complaint SocketConfig :=
  match line.name with
  | .type => .ok { sc with type := lib.trim line.str }
  | .path => .ok { sc with path := lib.trim line.str }
  | .host => .ok { sc with host := lib.trim line.str }
  | .port =>
      if line.value > 65535 ∨ line.value < 0 then
        .error { returned := ascii "Invalid value for 'port'" }
      else
        .ok { sc with port := line.value.toNat }
  | _ => .error (invalidOption "socket" line)

/-- The port is a `uint16_t`, to which the value is assigned unchecked. -/
def databaseOption (line : OptionLine) (dc : DatabaseConfig) : Except Complaint DatabaseConfig :=
  match line.name with
  | .type => .ok { dc with type := lib.trim line.str }
  | .host => .ok { dc with hostname := lib.trim line.str }
  | .port => .ok { dc with port := (line.value % 65536).toNat }
  | .username => .ok { dc with username := lib.trim line.str }
  | .password => .ok { dc with password := lib.trim line.str }
  | .filename => .ok { dc with filename := lib.trim line.str }
  | .database => .ok { dc with database := lib.trim line.str }
  | .options => .ok { dc with options := lib.trim line.str }
  | _ => .error (invalidOption "database" line)

def networkOption (line : OptionLine) (nc : NetworkConfig) : Except Complaint NetworkConfig :=
  match line.name with
  | .autoconnect => .ok { nc with autoConnect := boolIsTrue lib line.str }
  | .nickname => .ok { nc with nickName := lib.trim line.str }
  | .username => .ok { nc with userName := lib.trim line.str }
  | .fullname => .ok { nc with fullName := lib.trim line.str }
  | .password => .ok { nc with password := lib.trim line.str }
  | _ => .error (invalidOption "network" line)

def serverOption (line : OptionLine) (sc : ServerConfig) : Except Complaint ServerConfig :=
  match line.name with
  | .host => .ok { sc with host := lib.trim line.str }
  | .port => .ok { sc with port := irc.toPort line.value }
  | .priority => .ok { sc with priority := irc.toPriority line.value }
  | .ssl => .ok { sc with ssl := boolIsTrue lib line.str }
  | .sslverify => .ok { sc with sslVerify := boolIsTrue lib line.str }
  | _ => .error (invalidOption "server" line)

def pluginOption (line : OptionLine) (pc : PluginConfig) : Except Complaint PluginConfig :=
  match line.name with
  | .path => .ok { pc with path := lib.trim line.str }
  | .executable => .ok { pc with executable := lib.trim line.str }
  | .scope =>
      let scope := lib.strToLower (lib.trim line.str)
      if scope = ascii "network" then
        .ok { pc with perNetwork := true }
      else if scope ≠ ascii "global" then
        .error (complaint (ascii "Invalid value for Scope for plugin " ++ pc.name))
      else
        .ok pc
  | .parameters => .ok { pc with parameters := lib.trim line.str }
  | .var =>
      match line.list with
      | [key, value] => .ok { pc with config := assign pc.config (lib.trim key) (lib.trim value) }
      | _ => .error (complaint (ascii "Invalid amount of parameters to Var in plugin context"))
  | _ => .error (invalidOption "plugin" line)

namespace ConfigReaderState

/-- The change that an option makes to the value in progress; without one the callback stops. -/
def edit {Value : Type} (state : ConfigReaderState) (stop : ReadStop) (progress : Option Value)
    (change : Value → Except Complaint Value) (put : Value → ConfigReaderState) :
    CallbackResult :=
  match progress with
  | none => .error stop
  | some value =>
      match change value with
      | .ok value => .ok (none, put value)
      | .error complaint =>
          .ok (some complaint.returned,
            { state with error := complaint.error.getD state.error })

def option (state : ConfigReaderState) (line : OptionLine) : CallbackResult :=
  match state.currentSection with
  | .root =>
      state.edit .disengaged state.globalProgress (globalOption lib line)
        fun g => { state with globalProgress := some g }
  | .socket =>
      state.edit .disengaged state.socketProgress (socketOption lib line)
        fun sc => { state with socketProgress := some sc }
  | .database =>
      state.edit .disengaged state.databaseProgress (databaseOption lib line)
        fun dc => { state with databaseProgress := some dc }
  | .network =>
      state.edit .assertion state.networkProgress (networkOption lib line)
        fun nc => { state with networkProgress := some nc }
  | .server =>
      state.edit .assertion state.serverProgress (serverOption lib irc line)
        fun sc => { state with serverProgress := some sc }
  | .plugin =>
      state.edit .disengaged state.pluginProgress (pluginOption lib line)
        fun pc => { state with pluginProgress := some pc }

def logicError (state : ConfigReaderState) : CallbackResult :=
  .ok (some (ascii "Logic error"), state)

/-- A network before its options. -/
def newNetwork (global : GlobalConfig) (name : ByteString) : NetworkConfig :=
  { irc.networkConfig with
    name := name
    displayName := name
    nickName := global.defaultNickname
    userName := global.defaultUsername
    fullName := global.defaultFullname }

def newServer : ServerConfig := { irc.serverConfig with host := [] }

def sectOpen (state : ConfigReaderState) (tag : SectionOpen) : CallbackResult :=
  match state.currentSection with
  | .root =>
      match state.globalProgress with
      | none => .error .assertion
      | some global =>
          if state.socketProgress.isSome || state.networkProgress.isSome ||
              state.serverProgress.isSome then
            .error .assertion
          else
            match tag with
            | .socket =>
                .ok (none, { state with currentSection := .socket, socketProgress := some {} })
            | .database =>
                if state.databaseProgress.isSome then
                  .ok (some (ascii
                    "More than one Database block defined in configuration file."), state)
                else
                  .ok (none,
                    { state with currentSection := .database, databaseProgress := some {} })
            | .network argument =>
                if argument = [] then
                  .error .lengthError
                else
                  .ok (none,
                    { state with
                      currentSection := .network
                      networkProgress := some (newNetwork irc global argument.dropLast) })
            | .plugin argument =>
                if argument = [] then
                  .error .lengthError
                else if argument.dropLast = [] then
                  .ok (some (ascii "All plugins must have a name in their <Plugin> tag."), state)
                else
                  .ok (none,
                    { state with
                      currentSection := .plugin
                      pluginProgress := some { name := argument.dropLast } })
            | .server => state.logicError
  | .network =>
      if state.networkProgress.isNone || state.serverProgress.isSome then
        .error .assertion
      else
        -- Any other section is passed over without a word.
        match tag with
        | .server =>
            .ok (none,
              { state with currentSection := .server, serverProgress := some (newServer irc) })
        | _ => .ok (none, state)
  | _ => state.logicError

def sectClose (state : ConfigReaderState) (tag : SectionClose) : CallbackResult :=
  match state.currentSection, tag with
  | .socket, .socket =>
      match state.socketProgress with
      | none => .error .disengaged
      | some sc =>
          .ok (none,
            { state with
              sockets := state.sockets ++ [sc]
              socketProgress := none
              currentSection := .root })
  -- The value stays in progress, so that a second block is noticed.
  | .database, .database => .ok (none, { state with currentSection := .root })
  | .network, .network =>
      match state.networkProgress with
      | none => .error .disengaged
      | some nc =>
          .ok (none,
            { state with
              networks := state.networks ++ [nc]
              networkProgress := none
              currentSection := .root })
  | .server, .server =>
      match state.networkProgress, state.serverProgress with
      | some nc, some sc =>
          .ok (none,
            { state with
              networkProgress := some { nc with servers := nc.servers ++ [sc] }
              serverProgress := none
              currentSection := .network })
      | _, _ => .error .disengaged
  | .plugin, .plugin =>
      match state.pluginProgress with
      | none => .error .disengaged
      | some pc =>
          .ok (none,
            { state with
              plugins := state.plugins ++ [pc]
              pluginProgress := none
              currentSection := .root })
  | _, _ => state.logicError

def errorHandler (state : ConfigReaderState) (message : ByteString) : ConfigReaderState :=
  { state with
    error := if state.error = [] then message else state.error ++ newline :: message }

/-- One call of dotconf. -/
def invoke (state : ConfigReaderState) : Callback → CallbackResult
  | .sectOpen tag => state.sectOpen irc tag
  | .sectClose tag => state.sectClose tag
  | .option line => state.option lib irc line
  | .report report => .ok (none, state.errorHandler report.message)

/-- `dotconf_command_loop`: what a callback returns goes to the error handler, which ends the
loop. -/
def commandLoop (state : ConfigReaderState) :
    List Callback → Except ReadStop (Bool × ConfigReaderState)
  | [] => .ok (true, state)
  | callback :: rest =>
      match state.invoke lib irc callback with
      | .error stop => .error stop
      | .ok (none, state) => commandLoop state rest
      | .ok (some message, state) => .ok (false, state.errorHandler message)

end ConfigReaderState

end Callbacks

structure ConfigReader where
  networks : List NetworkConfig := []
  plugins : List PluginConfig := []
  sockets : List SocketConfig := []
  global : Option GlobalConfig := none
  database : Option DatabaseConfig := none
  isRead : Bool := false
  deriving DecidableEq

namespace ConfigReader

variable (lib : Libraries) (irc : IrcStructs)

/-- What `read` does once the command loop is through. -/
def finish (reader : ConfigReader) (completed : Bool) (state : ConfigReaderState) :
    Except ReadStop Unit × ConfigReader :=
  if !completed || state.error ≠ [] then
    (.error (.exception
      (if state.error = [] then ascii "Error reading config file." else state.error)), reader)
  else if state.databaseProgress.isNone then
    (.error (.exception (ascii "No Database block defined in config file.")), reader)
  else if state.socketProgress.isSome || state.networkProgress.isSome ||
      state.serverProgress.isSome || state.pluginProgress.isSome then
    (.error .assertion, reader)
  else
    (.ok (),
      { sockets := state.sockets
        networks := state.networks
        plugins := state.plugins
        global := state.globalProgress
        database := state.databaseProgress
        isRead := true })

/-- `read` of a file, which may be one that `dotconf_create` cannot open. -/
def read (reader : ConfigReader) (file : Option (List Callback)) :
    Except ReadStop Unit × ConfigReader :=
  let reader := { reader with isRead := false }
  match file with
  | none => (.error (.exception (ascii "Error opening config file.")), reader)
  | some callbacks =>
      match ConfigReaderState.commandLoop lib irc { globalProgress := some {} } callbacks with
      | .error stop => (.error stop, reader)
      | .ok (completed, state) => reader.finish completed state

end ConfigReader

end DaZeus.ConfigFile
