import DaZeus.Json

/-!
# Commands, command requirements and plugin sockets

The nested structures of `PluginComm`.  Network objects live in libdazeus-irc:
here a network is its identity, fresh for every constructed object, and what
its methods report is looked up in a `NetworkId → NetworkState`.
-/

namespace DaZeus

open Library

abbrev NetworkId := Nat

/-- The identity of a `Database` object, also fresh for every one. -/
abbrev DatabaseId := Nat

/-- What the `const` methods of a `Network` answer at some moment. -/
structure NetworkState where
  networkName : ByteString
  nick : ByteString
  joinedChannels : List ByteString
  isIdentified : ByteString → Bool

/-- The methods of a `Network` that send something to the IRC server. -/
inductive NetworkCall where
  | sendWhois (nick : ByteString)
  | joinChannel (channel : ByteString)
  | leaveChannel (channel : ByteString)
  | names (channel : ByteString)
  | say (receiver message : ByteString)
  | notice (receiver message : ByteString)
  | ctcp (receiver message : ByteString)
  | ctcpReply (receiver message : ByteString)
  | action (receiver message : ByteString)
  deriving DecidableEq

/-- A command that waits in the queue.  `network` is a reference. -/
structure Command where
  network : NetworkId
  origin : ByteString := []
  channel : ByteString := []
  command : ByteString := []
  fullArgs : ByteString := []
  args : List ByteString := []
  whoisSent : Bool := false
  deriving DecidableEq

structure RequirementInfo where
  needsNetwork : Bool := false
  needsReceiver : Bool := false
  needsSender : Bool := false
  wantedNetwork : Option NetworkId := none
  wantedReceiver : ByteString := []
  wantedSender : ByteString := []
  deriving DecidableEq

namespace RequirementInfo

/-- Constructor which allows anything. -/
def anything : RequirementInfo := {}

/-- Constructor which allows anything on a network. -/
def onNetwork (network : NetworkId) : RequirementInfo :=
  { needsNetwork := true, wantedNetwork := some network }

/-- Constructor which allows anything from a sender or to some receiver. -/
def onNetworkFor (network : NetworkId) (object : ByteString) (isSender : Bool) :
    RequirementInfo :=
  if isSender then
    { needsNetwork := true, wantedNetwork := some network,
      needsSender := true, wantedSender := object }
  else
    { needsNetwork := true, wantedNetwork := some network,
      needsReceiver := true, wantedReceiver := object }

/-- The checks of `isSubscribedToCommand` on one registration of the command. -/
def accepts (requirement : RequirementInfo) (receiver sender : ByteString)
    (identified : Bool) (network : NetworkId) : Bool :=
  if requirement.needsNetwork && requirement.wantedNetwork != some network then
    false
  else if requirement.needsReceiver && requirement.wantedReceiver != receiver then
    false
  else if requirement.needsSender then
    identified && requirement.wantedSender == sender
  else
    true

end RequirementInfo

/-- The name of an event; `SocketInfo::dispatch` asserts that it has no space. -/
structure EventName where
  text : ByteString
  noSpace : space ∉ text

def EventName.of (text : String) (noSpace : space ∉ ascii text := by decide) : EventName :=
  ⟨ascii text, noSpace⟩

/-- One plugin connection.  `commands` is a multimap, of which the code only asks
whether some registration meets a condition. -/
structure SocketInfo where
  type : ByteString := []
  subscriptions : List ByteString := []
  commands : List (ByteString × RequirementInfo) := []
  waitingSize : Nat := 0
  readahead : ByteString := []
  writebuffer : ByteString := []
  pluginName : ByteString := []
  pluginVersion : ByteString := []
  protocolVersion : Nat := 0
  configGroup : ByteString := []
  deriving DecidableEq

namespace SocketInfo

def isSubscribed (lib : Libraries) (info : SocketInfo) (event : ByteString) : Bool :=
  info.subscriptions.contains (lib.strToUpper event)

def unsubscribe (lib : Libraries) (info : SocketInfo) (event : ByteString) :
    SocketInfo × Bool :=
  if !info.isSubscribed lib event then
    (info, false)
  else
    ({ info with
        subscriptions := info.subscriptions.filter (· != lib.strToUpper event) }, true)

def subscribe (lib : Libraries) (info : SocketInfo) (event : ByteString) :
    SocketInfo × Bool :=
  if info.isSubscribed lib event then
    (info, false)
  else
    ({ info with subscriptions := info.subscriptions ++ [lib.strToUpper event] }, true)

def isSubscribedToCommand (info : SocketInfo) (command receiver sender : ByteString)
    (identified : Bool) (network : NetworkId) : Bool :=
  info.commands.any fun registration =>
    registration.1 == command && registration.2.accepts receiver sender identified network

def commandMightNeedWhois (info : SocketInfo) (command : ByteString) : Bool :=
  info.commands.any fun registration =>
    registration.1 == command && registration.2.needsSender

def subscribeToCommand (info : SocketInfo) (command : ByteString)
    (requirement : RequirementInfo) : SocketInfo :=
  { info with commands := info.commands ++ [(command, requirement)] }

/-- The JSON object an event is sent as.  A name or parameter that `json_string`
refuses is missing from it. -/
def eventJson (lib : Libraries) (event : EventName) (parameters : List ByteString) : Json :=
  let named := match lib.jsonString event.text with
    | some name => Json.setMember [] (ascii "event") name
    | none => []
  .object (Json.setMember named (ascii "params") (lib.jsonStrings parameters))

def eventFrame (lib : Libraries) (event : EventName) (parameters : List ByteString) :
    ByteString :=
  frame (lib.dumps (eventJson lib event parameters))

def dispatch (lib : Libraries) (info : SocketInfo) (event : EventName)
    (parameters : List ByteString) : SocketInfo :=
  { info with writebuffer := info.writebuffer ++ eventFrame lib event parameters }

def didHandshake (info : SocketInfo) : Bool := info.protocolVersion != 0

end SocketInfo

end DaZeus
