import DaZeus.PluginComm.Events

/-!
# Requests

`PluginComm::handle`, one definition for each group of actions.  A request is
handled on a copy of the socket's `SocketInfo`; what it does elsewhere is in
the `Reply`.  A Network method is always the last thing a branch calls, so the
reply holds the call and `poll` makes it.
-/

namespace DaZeus

open Library
open Std (TreeMap)

/-- The answers of the `Database`; an error is the text of the exception. -/
structure DatabaseView where
  property : (name network receiver sender : ByteString) → Except ByteString ByteString
  setProperty : (name value network receiver sender : ByteString) → Except ByteString Unit
  propertyKeys : (start network receiver sender : ByteString) →
    Except ByteString (List ByteString)
  hasPermission : (name network channel sender : ByteString) → (default : Bool) →
    Except ByteString Bool
  unsetPermission : (name network receiver sender : ByteString) → Except ByteString Unit
  setPermission : (permission : Bool) → (name network receiver sender : ByteString) →
    Except ByteString Unit

inductive DatabaseWrite where
  | setProperty (name value network receiver sender : ByteString)
  | unsetPermission (name network receiver sender : ByteString)
  | setPermission (permission : Bool) (name network receiver sender : ByteString)
  deriving DecidableEq

/-- What a request sees of the rest of the bot. -/
structure View where
  networks : TreeMap ByteString NetworkId
  memory : NetworkId → NetworkState
  config : ConfigReader
  database : DatabaseView

/-- A bot with no network and an empty database, to run the model with. -/
def View.bare : View where
  networks := ∅
  memory _ :=
    { networkName := [], nick := [], joinedChannels := [], isIdentified := fun _ => false }
  config := {}
  database := {
    property _ _ _ _ := .ok []
    setProperty _ _ _ _ _ := .ok ()
    propertyKeys _ _ _ _ := .ok []
    hasPermission _ _ _ _ default := .ok default
    unsetPermission _ _ _ _ := .ok ()
    setPermission _ _ _ _ _ := .ok () }

/-- A bot that is on two networks, `n` and `m`, and knows nobody. -/
def View.online : View := { View.bare with
  networks := ((∅ : TreeMap ByteString NetworkId).insert (ascii "n") 1).insert (ascii "m") 2
  memory network :=
    { networkName := if network = 1 then ascii "n" else ascii "m"
      nick := ascii "bot", joinedChannels := [], isIdentified := fun _ => false } }

/-- The outcome of a request: `thrown` is the text of the exception that left
`handle`, with the response object and the socket as they were by then.  With
`overrun`, `handle` got as far as reading a vector past its end, and the rest is
what it had done by then. -/
structure Reply where
  response : List (ByteString × Json) := []
  info : SocketInfo
  thrown : Option ByteString := none
  call : Option (NetworkId × NetworkCall) := none
  writes : List DatabaseWrite := []
  reload : Bool := false
  overrun : Bool := false

namespace Reply

variable (lib : Libraries)

/-- `json_object_set_new(response, name, value)`. -/
def set (reply : Reply) (name : String) (value : Json) : Reply :=
  { reply with response := Json.setMember reply.response (ascii name) value }

/-- `json_object_set_new(response, name, json_string(text))`; NULL changes nothing. -/
def setString (reply : Reply) (name : String) (text : ByteString) : Reply :=
  match lib.jsonString text with
  | some value => reply.set name value
  | none => reply

def success (reply : Reply) : Reply := reply.set "success" (.bool true)

def throw (reply : Reply) (what : String) : Reply :=
  { reply with thrown := some (ascii what) }

def throwText (reply : Reply) (what : ByteString) : Reply :=
  { reply with thrown := some what }

def callNetwork (reply : Reply) (network : NetworkId) (call : NetworkCall) : Reply :=
  { reply with call := some (network, call) }

/-- Continue with the result of a database call, or let its exception out. -/
def database {α : Type} (reply : Reply) (result : Except ByteString α)
    (next : Reply → α → Reply) : Reply :=
  match result with
  | .ok value => next reply value
  | .error what => reply.throwText what

def wrote (reply : Reply) (write : DatabaseWrite) : Reply :=
  { reply with writes := reply.writes ++ [write] }

end Reply

namespace PluginComm

variable (lib : Libraries)

/-- The text of one parameter; `none` is an unsupported type. -/
def paramText : Json → Option ByteString
  | .string text => some (cStr text)
  | .integer value => some (decimalInt value)
  | .real printed => some printed
  | .bool value => some (boolText value)
  | _ => none

/-- The loop over `params`; an error is the index of the parameter it stopped at. -/
def paramTexts : Nat → List Json → Except Nat (List ByteString)
  | _, [] => .ok []
  | index, item :: items =>
      match paramText item with
      | none => .error index
      | some text => (paramTexts (index + 1) items).map (text :: ·)

def readParams (input : Json) : Except ByteString (List ByteString) :=
  match input.objectGet (ascii "params") with
  | none => .ok []
  | some (.array items) =>
      (paramTexts 0 items).mapError fun index =>
        ascii "Parameter " ++ decimal index ++ ascii " is of an unsupported type"
  | some _ => .error (ascii "Parameters are of the wrong type")

/-- A scope that is not an array is ignored, an element that is no string is ''. -/
def readScope (input : Json) : List ByteString :=
  match input.objectGet (ascii "scope") with
  | some (.array items) => items.map fun
      | .string text => cStr text
      | _ => []
  | _ => []

def readAction (input : Json) : Except ByteString ByteString :=
  match (input.objectGet (ascii "get")).or (input.objectGet (ascii "do")) with
  | none => .ok []
  | some (.string text) => .ok (cStr text)
  | some _ => .error (ascii "Action is of the wrong type")

def handleNetworks (view : View) (reply : Reply) : Reply :=
  ((reply.setString lib "got" (ascii "networks")).success).set "networks"
    (lib.jsonStrings view.networks.keys)

def handleHandshake (params : List ByteString) (reply : Reply) : Reply :=
  let reply := reply.setString lib "did" (ascii "handshake")
  let param := paramAt lib params
  if reply.info.didHandshake then
    reply.throw "Already did handshake"
  else if params.length < 4 then
    reply.throw "Missing parameters for handshake"
  else if param 2 ≠ ascii "1" then
    reply.throw "Protocol version must be '1'"
  else
    { reply.success with
      info := { reply.info with
        pluginName := param 0
        pluginVersion := param 1
        protocolVersion := ofDecimal (param 2)
        configGroup := param 3 } }

def handleReload (reply : Reply) : Reply :=
  { (reply.setString lib "did" (ascii "reload")).success with reload := true }

/-- `channels`, `whois`, `join`, `part` and `nick`. -/
def handleOnNetwork (view : View) (action : ByteString) (params : List ByteString)
    (reply : Reply) : Reply :=
  let reply :=
    if action = ascii "channels" ∨ action = ascii "nick" then
      reply.setString lib "got" action
    else
      reply.setString lib "did" action
  let network := if params.length > 0 then paramAt lib params 0 else []
  match view.networks[network]? with
  | none => reply.throw "Not on that network"
  | some net =>
      let reply := reply.setString lib "network" network
      if action = ascii "channels" then
        reply.success.set "channels" (lib.jsonStrings (view.memory net).joinedChannels)
      else if action = ascii "nick" then
        reply.success.setString lib "nick" (view.memory net).nick
      else if params.length < 2 then
        reply.throw "Missing parameters"
      else
        let target := paramAt lib params 1
        reply.success.callNetwork net
          (if action = ascii "whois" then .sendWhois target
          else if action = ascii "join" then .joinChannel target
          else .leaveChannel target)

/-- `message`, `notice`, `action`, `ctcp`, `ctcp_rep` and `names`. -/
def handleOnChannel (view : View) (action : ByteString) (params : List ByteString)
    (reply : Reply) : Reply :=
  let reply := reply.setString lib "did" action
  if params.length < 2 || (action != ascii "names" && params.length < 3) then
    reply.throw "Wrong parameter size for message"
  else
    let network := paramAt lib params 0
    let receiver := paramAt lib params 1
    let message := if action ≠ ascii "names" then paramAt lib params 2 else []
    let reply := reply.setString lib "network" network
    let reply :=
      if action = ascii "names" then
        reply.setString lib "channel" receiver
      else
        (reply.setString lib "receiver" receiver).setString lib "message" message
    match view.networks.toList.find? fun entry =>
        (view.memory entry.2).networkName == network with
    | none => reply.throw "Not on that network"
    | some (_, net) =>
        if receiver.take 1 ≠ ascii "#"
            ∨ lib.containsCi (view.memory net).joinedChannels (lib.strToLower receiver) then
          reply.success.callNetwork net
            (if action = ascii "names" then .names receiver
            else if action = ascii "message" then .say receiver message
            else if action = ascii "notice" then .notice receiver message
            else if action = ascii "ctcp" then .ctcp receiver message
            else if action = ascii "ctcp_rep" then .ctcpReply receiver message
            else .action receiver message)
        else
          reply.throw "Not in that channel"

/-- Apply `subscribe` or `unsubscribe` to every name and count the successes. -/
def countChanges (change : SocketInfo → ByteString → SocketInfo × Bool) :
    SocketInfo → List ByteString → SocketInfo × Nat
  | info, [] => (info, 0)
  | info, name :: names =>
      let (info, changed) := change info name
      let (info, count) := countChanges change info names
      (info, if changed then count + 1 else count)

def handleSubscribe (params : List ByteString) (reply : Reply) : Reply :=
  let reply := (reply.setString lib "did" (ascii "subscribe")).success
  let (info, added) := countChanges (SocketInfo.subscribe lib) reply.info params
  { reply with info }.set "added" (.integer added)

def handleUnsubscribe (params : List ByteString) (reply : Reply) : Reply :=
  let reply := (reply.setString lib "did" (ascii "unsubscribe")).success
  let (info, removed) := countChanges (SocketInfo.unsubscribe lib) reply.info params
  { reply with info }.set "removed" (.integer removed)

def handleCommand (view : View) (params : List ByteString) (reply : Reply) : Reply :=
  let reply := reply.setString lib "did" (ascii "command")
  let register (commandName : ByteString) (requirement : RequirementInfo) : Reply :=
    { reply with info := reply.info.subscribeToCommand commandName requirement }.success
  match params with
  | [] => reply.throw "Missing parameters"
  | commandName :: params =>
      if params.length = 0 then
        -- Add it as a global command
        register commandName .anything
      else if params.length = 1 ∨ params.length = 3 then
        match view.networks[paramAt lib params 0]? with
        | none => reply.throw "Not on that network"
        | some net =>
            if params.length = 1 then
              register commandName (.onNetwork net)
            else
              register commandName (.onNetworkFor net (paramAt lib params 2)
                (paramAt lib params 1 == ascii "true"))
      else
        reply.throw "Wrong number of parameters"

/-- The fall-through `switch(scope.size())`: a scope of more than three parts is
no scope at all. -/
def propertyScope (scope : List ByteString) : ByteString × ByteString × ByteString :=
  match scope with
  | [network] => (network, [], [])
  | [network, receiver] => (network, receiver, [])
  | [network, receiver, sender] => (network, receiver, sender)
  | _ => ([], [], [])

def handleProperty (view : View) (params scope : List ByteString) (reply : Reply) : Reply :=
  let reply := reply.setString lib "did" (ascii "property")
  let (network, receiver, sender) := propertyScope scope
  let param := paramAt lib params
  if params.length < 2 then
    reply.throw "Missing parameters"
  else if param 0 = ascii "get" then
    reply.database (view.database.property (param 1) network receiver sender)
      fun reply value =>
        let reply := reply.success.setString lib "variable" (param 1)
        if value.length > 0 then reply.setString lib "value" value else reply
  else if param 0 = ascii "set" then
    if params.length < 3 then
      reply.throw "Missing parameters"
    else
      reply.database (view.database.setProperty (param 1) (param 2) network receiver sender)
        fun reply _ =>
          (reply.wrote (.setProperty (param 1) (param 2) network receiver sender)).success
  else if param 0 = ascii "unset" then
    reply.database (view.database.setProperty (param 1) [] network receiver sender)
      fun reply _ => (reply.wrote (.setProperty (param 1) [] network receiver sender)).success
  else if param 0 = ascii "keys" then
    reply.database (view.database.propertyKeys (param 1) network receiver sender)
      fun reply keys => (reply.set "keys" (lib.jsonStrings keys)).success
  else
    reply.throw "Did not understand request"

/-- The value that the first plugin block of the group defines for a variable. -/
def pluginVariable (plugins : List PluginConfig) (group name : ByteString) :
    Option ByteString :=
  plugins.findSome? fun plugin =>
    if plugin.name = group then plugin.config.lookup name else none

def handleConfig (view : View) (params : List ByteString) (reply : Reply) : Reply :=
  let reply := reply.setString lib "got" (ascii "config")
  if params.length ≠ 2 then
    reply.throw "Missing parameters"
  else
    let configtype := paramAt lib params 0
    let configvar := paramAt lib params 1
    let answer (value : Option ByteString) : Reply :=
      let reply := (reply.success.setString lib "group" configtype).setString lib
        "variable" configvar
      match value with
      | some value => reply.setString lib "value" value
      | none => reply
    if configtype = ascii "plugin" then
      if !reply.info.didHandshake then
        reply.throw "Need to do a handshake for retrieving plugin configuration"
      else
        answer (pluginVariable view.config.plugins reply.info.configGroup configvar)
    else if configtype = ascii "core" then
      let global := view.config.globalConfig
      answer (if configvar = ascii "nickname" then some global.defaultNickname
        else if configvar = ascii "username" then some global.defaultUsername
        else if configvar = ascii "fullname" then some global.defaultFullname
        else if configvar = ascii "highlight" then some global.highlight
        else none)
    else
      reply.throw "Unrecognised config group"

def isTrue (text : ByteString) : Bool := text == ascii "true" || text == ascii "1"

def handlePermission (view : View) (params scope : List ByteString) (reply : Reply) :
    Reply :=
  let reply := reply.setString lib "did" (ascii "permission")
  let param := paramAt lib params
  if scope.length = 0 then
    reply.throw "Missing scope"
  else
    let network := paramAt lib scope 0
    let channel := if scope.length ≥ 2 then paramAt lib scope 1 else []
    let sender := if scope.length ≥ 3 then paramAt lib scope 2 else []
    if params.length < 2 then
      reply.throw "Missing parameters"
    else if param 0 = ascii "set" then
      -- `params[2]` is read here without a check that it is there
      if params.length < 3 then
        { reply with overrun := true }
      else
        let permission := isTrue (param 2)
        reply.database (view.database.setPermission permission (param 1) network channel sender)
          fun reply _ =>
            (reply.wrote (.setPermission permission (param 1) network channel sender)).success
    else if param 0 = ascii "unset" then
      reply.database (view.database.unsetPermission (param 1) network channel sender)
        fun reply _ =>
          (reply.wrote (.unsetPermission (param 1) network channel sender)).success
    else if param 0 = ascii "has" then
      if params.length < 3 then
        reply.throw "Missing parameters"
      else
        reply.database (view.database.hasPermission (param 1) network channel sender
            (isTrue (param 2)))
          fun reply permission => reply.success.set "has_permission" (.bool permission)
    else
      reply.throw "Did not understand request"

/-- The dispatch of `handle` on the action. -/
def handleAction (view : View) (action : ByteString) (params scope : List ByteString)
    (reply : Reply) : Reply :=
  if action = ascii "networks" then
    handleNetworks lib view reply
  else if action = ascii "handshake" then
    handleHandshake lib params reply
  else if action = ascii "reload" then
    handleReload lib reply
  -- REQUESTS ON A NETWORK
  else if action ∈ [ascii "channels", ascii "whois", ascii "join", ascii "part",
      ascii "nick"] then
    handleOnNetwork lib view action params reply
  -- REQUESTS ON A CHANNEL
  else if action ∈ [ascii "message", ascii "notice", ascii "action", ascii "ctcp",
      ascii "ctcp_rep", ascii "names"] then
    handleOnChannel lib view action params reply
  -- REQUESTS ON DAZEUS ITSELF
  else if action = ascii "subscribe" then
    handleSubscribe lib params reply
  else if action = ascii "unsubscribe" then
    handleUnsubscribe lib params reply
  else if action = ascii "command" then
    handleCommand lib view params reply
  else if action = ascii "property" then
    handleProperty lib view params scope reply
  else if action = ascii "config" then
    handleConfig lib view params reply
  else if action = ascii "permission" then
    handlePermission lib view params scope reply
  else
    reply.throw "Did not understand request"

/-- `PluginComm::handle` on an empty response object. -/
def handle (view : View) (input : Json) (info : SocketInfo) : Reply :=
  match readParams input with
  | .error what => { info, thrown := some what }
  | .ok params =>
      match readAction input with
      | .error what => { info, thrown := some what }
      | .ok action => handleAction lib view action params (readScope input) { info }

end PluginComm

end DaZeus
