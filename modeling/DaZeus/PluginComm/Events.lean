import DaZeus.Config
import DaZeus.PluginComm.Socket

/-!
# Events from the networks

`PluginComm` as a state with the functions that react to a network:
`dispatch`, `flushCommandQueue`, `messageReceived` and `ircEvent`.
-/

namespace DaZeus

open Library
open Std (TreeMap)

/-- What `PluginComm` did, as the outside world sees it. -/
inductive TraceEvent where
  /-- `accept` returned a new descriptor. -/
  | connected (fd : Nat)
  /-- `read`; `none` is an error or would-block, no bytes is end-of-file. -/
  | read (fd : Nat) (bytes : Option ByteString)
  /-- `handle` was called for a packet. -/
  | handled (fd : Nat) (packet : ByteString)
  /-- A complete frame was appended for a socket. -/
  | produced (fd : Nat) (bytes : ByteString)
  /-- A queued command was dispatched to a socket. -/
  | delivered (fd : Nat) (command : Command)
  /-- `write`, with the bytes it took; `none` is an error or would-block. -/
  | wrote (fd : Nat) (bytes : Option ByteString)
  | closed (fd : Nat)
  | called (network : NetworkId) (call : NetworkCall)
  /-- `DaZeus::reloadConfig`. -/
  | reloadConfig
  /-- A vector was indexed past its end. -/
  | overrun

/-- The fields of the class that its run-time behaviour depends on.  `database` is the
pointer; what the object answers comes with each request.  `trace`, the newest event first,
records what was done and is read by no function. -/
structure PluginComm where
  database : Option DatabaseId := none
  tcpServers : List Nat := []
  localServers : List Nat := []
  commandQueue : List Command := []
  sockets : TreeMap Nat SocketInfo := ∅
  trace : List TraceEvent := []

namespace PluginComm

variable (lib : Libraries)

def setDatabase (database : Option DatabaseId) (pc : PluginComm) : PluginComm :=
  { pc with database }

def record (pc : PluginComm) (event : TraceEvent) : PluginComm :=
  { pc with trace := event :: pc.trace }

/-- `info.dispatch(event, parameters)` on the entry of the map. -/
def dispatchTo (pc : PluginComm) (fd : Nat) (event : EventName)
    (parameters : List ByteString) : PluginComm :=
  { pc with sockets := pc.sockets.modify fd (·.dispatch lib event parameters) }.record
    (.produced fd (SocketInfo.eventFrame lib event parameters))

/-- One iteration of the loop in `PluginComm::dispatch`. -/
def dispatchStep (event : EventName) (parameters : List ByteString)
    (pc : PluginComm) (fd : Nat) : PluginComm :=
  match pc.sockets[fd]? with
  | none => pc
  | some info =>
      if info.isSubscribed lib event.text then pc.dispatchTo lib fd event parameters else pc

def dispatch (pc : PluginComm) (event : EventName) (parameters : List ByteString) :
    PluginComm :=
  pc.sockets.keys.foldl (dispatchStep lib event parameters) pc

def commandEvent : EventName := .of "COMMAND"

/-- The parameters of a COMMAND event. -/
def commandParameters (memory : NetworkId → NetworkState) (cmd : Command) :
    List ByteString :=
  [(memory cmd.network).networkName, cmd.origin, cmd.channel, cmd.command, cmd.fullArgs] ++
    cmd.args

/-- One iteration of the loop that sends a command to every matching socket. -/
def deliverStep (memory : NetworkId → NetworkState) (identified : Bool) (cmd : Command)
    (pc : PluginComm) (fd : Nat) : PluginComm :=
  match pc.sockets[fd]? with
  | none => pc
  | some info =>
      if !info.isSubscribedToCommand cmd.command cmd.channel cmd.origin
          ((memory cmd.network).isIdentified cmd.origin || identified) cmd.network then
        pc
      else
        (pc.dispatchTo lib fd commandEvent (commandParameters memory cmd)).record
          (.delivered fd cmd)

def deliver (memory : NetworkId → NetworkState) (identified : Bool) (pc : PluginComm)
    (cmd : Command) : PluginComm :=
  pc.sockets.keys.foldl (deliverStep lib memory identified cmd) pc

/-- Whether a plugin checks the sender of this command while the network does not
already know the sender as identified. -/
def whoisRequired (memory : NetworkId → NetworkState) (pc : PluginComm) (cmd : Command) :
    Bool :=
  pc.sockets.toList.any fun entry =>
    entry.2.commandMightNeedWhois cmd.command && !(memory cmd.network).isIdentified cmd.origin

/-- The loop of `flushCommandQueue`: the commands that stay, and the state after
the others were sent. -/
def flushLoop (memory : NetworkId → NetworkState) (nick : ByteString) (identified : Bool) :
    List Command → PluginComm → List Command × PluginComm
  | [], pc => ([], pc)
  | cmd :: rest, pc =>
      if whoisRequired memory pc cmd && nick != cmd.origin then
        let sent := if cmd.whoisSent then pc
          else pc.record (.called cmd.network (.sendWhois cmd.origin))
        let (kept, pc) := flushLoop memory nick identified rest sent
        ({ cmd with whoisSent := true } :: kept, pc)
      else
        flushLoop memory nick identified rest (deliver lib memory identified pc cmd)

def flushCommandQueue (memory : NetworkId → NetworkState) (pc : PluginComm)
    (nick : ByteString := []) (identified : Bool := false) : PluginComm :=
  let (kept, pc) := flushLoop lib memory nick identified pc.commandQueue pc
  { pc with commandQueue := kept }

/-- The local variables of the argument parser in `messageReceived`. -/
structure Tokenizer where
  inQuoteArg : Bool := false
  hadQuotesThisArg : Bool := false
  inEscape : Bool := false
  hasCommand : Bool := false
  args : List ByteString := []
  stringBuilder : ByteString := []
  fullArgs : ByteString := []
  deriving DecidableEq

namespace Tokenizer

/-- One iteration of the loop through the characters. -/
def next (state : Tokenizer) (byte : UInt8) : Tokenizer :=
  let state := if state.hasCommand then
    { state with fullArgs := state.fullArgs ++ [byte] } else state
  if state.inEscape then
    { state with inEscape := false, stringBuilder := state.stringBuilder ++ [byte] }
  else if byte = backslash then
    { state with inEscape := true }
  else if !state.inQuoteArg && byte == space then
    -- finish this word, unless it's empty and we had no quotes
    { state with
      args := if state.stringBuilder.length ≠ 0 || state.hadQuotesThisArg then
        state.args ++ [state.stringBuilder] else state.args
      stringBuilder := []
      hasCommand := true
      hadQuotesThisArg := false }
  else if byte = quote then
    { state with inQuoteArg := !state.inQuoteArg, hadQuotesThisArg := true }
  else
    { state with stringBuilder := state.stringBuilder ++ [byte] }

/-- The arguments after the last character was read. -/
def finish (state : Tokenizer) : List ByteString :=
  if state.stringBuilder.length ≠ 0 || state.hadQuotesThisArg then
    state.args ++ [state.stringBuilder]
  else
    state.args

end Tokenizer

def tokenize (payload : ByteString) : Tokenizer := payload.foldl Tokenizer.next {}

/-- The part of a message that is addressed to the bot, empty if none is. -/
def payloadOf (global : GlobalConfig) (nick message : ByteString) : ByteString :=
  if lib.startsWith message (nick ++ ascii ":") true
      || lib.startsWith message (nick ++ ascii ",") true then
    lib.trim (message.drop (nick.length + 1))
  else if lib.startsWith message global.highlight true then
    lib.trim (message.drop global.highlight.length)
  else
    []

/-- The command that a payload asks for. -/
def commandOf (origin receiver : ByteString) (network : NetworkId) (payload : ByteString) :
    Option Command :=
  if payload.length ≠ 0 then
    match (tokenize payload).finish with
    | [] => none
    | command :: args => some
        { network, origin, channel := receiver, command
          fullArgs := lib.trim (tokenize payload).fullArgs, args }
  else
    none

/-- Everything about a command that comes from a message. -/
theorem commandOf_eq_some {lib : Libraries} {origin receiver payload : ByteString}
    {network : NetworkId} {cmd : Command}
    (asked : commandOf lib origin receiver network payload = some cmd) :
    ∃ command args, (tokenize payload).finish = command :: args ∧ cmd =
      { network, origin, channel := receiver, command
        fullArgs := lib.trim (tokenize payload).fullArgs, args } := by
  unfold commandOf at asked
  split at asked
  · split at asked
    · cases asked
    · next command args parsed =>
        cases asked
        exact ⟨command, args, parsed, rfl⟩
  · cases asked

def boolText (value : Bool) : ByteString := if value then ascii "true" else ascii "false"

def messageReceived (memory : NetworkId → NetworkState) (global : GlobalConfig)
    (pc : PluginComm) (origin message receiver : ByteString) (network : NetworkId) :
    PluginComm :=
  let n := memory network
  let pc := match commandOf lib origin receiver network
      (payloadOf lib global n.nick message) with
    | some cmd =>
        flushCommandQueue lib memory { pc with commandQueue := pc.commandQueue ++ [cmd] }
    | none => pc
  pc.dispatch lib (.of "PRIVMSG")
    [n.networkName, origin, receiver, message, boolText (n.isIdentified origin)]

/-- `params[index]`: past the end the read is undefined. -/
def paramAt (params : List ByteString) (index : Nat) : ByteString :=
  params[index]?.getD lib.unspecified

/-- What a branch of `ircEvent` puts into `args`. -/
inductive Argument where
  | networkName
  | origin
  | nick
  /-- Whether the network knows the origin. -/
  | identified
  | empty
  | param (index : Nat)
  | params

namespace Argument

def values (n : NetworkState) (origin : ByteString) (params : List ByteString) :
    Argument → List ByteString
  | .networkName => [n.networkName]
  | .origin => [origin]
  | .nick => [n.nick]
  | .identified => [boolText (n.isIdentified origin)]
  | .empty => [[]]
  | .param index => [paramAt lib params index]
  | .params => params

/-- The index that is read, if one is. -/
def indices : Argument → List Nat
  | .param index => [index]
  | _ => []

end Argument

/-- What a branch of `ircEvent` does once it has enough parameters. -/
inductive Reaction where
  | messageReceived
  | dispatch (name : EventName)
  /-- Dispatch WHOIS, then flush the command queue with its answer. -/
  | whois

/-- What it reads besides `args`. -/
def Reaction.indices : Reaction → List Nat
  | .messageReceived => [1, 0]
  | .dispatch _ => []
  | .whois => [0, 1]

/-- A branch of `ircEvent`: the event names it is for, the count its `MIN` asks for
(0 where there is no `MIN`), and what it does with which arguments. -/
structure Branch where
  names : List ByteString
  minimum : Nat
  reaction : Reaction
  args : List Argument

/-- The parameters that a branch reads by their index. -/
def Branch.indices (branch : Branch) : List Nat :=
  branch.args.flatMap Argument.indices ++ branch.reaction.indices

/-- The branches of `ircEvent`, in order, for so many parameters. -/
def branches (count : Nat) : List Branch :=
  let send (names : List ByteString) (minimum : Nat) (name : EventName)
      (args : List Argument) : Branch :=
    ⟨names, minimum, .dispatch name, .networkName :: .origin :: args⟩
  [ ⟨[ascii "PRIVMSG"], 2, .messageReceived, []⟩,
    send [ascii "NOTICE"] 2 (.of "NOTICE") [.param 0, .param 1, .identified],
    send [ascii "MODE", ascii "UMODE"] 1 (.of "MODE") [.params],
    send [ascii "NICK"] 1 (.of "NICK") [.param 0],
    send [ascii "JOIN"] 1 (.of "JOIN") [.param 0],
    send [ascii "PART"] 1 (.of "PART") [.param 0, if count = 2 then .param 1 else .empty],
    send [ascii "KICK"] 2 (.of "KICK")
      [.param 0, .param 1, if count = 3 then .param 2 else .empty],
    send [ascii "INVITE"] 2 (.of "INVITE") [.param 1],
    send [ascii "QUIT"] 0 (.of "QUIT") [if count = 1 then .param 0 else .empty],
    send [ascii "TOPIC"] 1 (.of "TOPIC") [.param 0, if count > 1 then .param 1 else .empty],
    ⟨[ascii "CONNECT"], 0, .dispatch (.of "CONNECT"), [.networkName]⟩,
    ⟨[ascii "DISCONNECT"], 0, .dispatch (.of "DISCONNECT"), [.networkName]⟩,
    send [ascii "CTCP_REQ", ascii "CTCP"] 1 (.of "CTCP") [.nick, .param 0],
    send [ascii "CTCP_REP"] 1 (.of "CTCP_REP") [.nick, .param 0],
    send [ascii "CTCP_ACTION", ascii "ACTION"] 1 (.of "ACTION")
      [.param 0, if count ≥ 2 then .param 1 else .empty],
    ⟨[ascii "WHOIS"], 2, .whois, [.networkName, .origin, .param 0, .param 1]⟩,
    send [ascii "NAMES"] 2 (.of "NAMES") [.params],
    send [ascii "NUMERIC"] 1 (.of "NUMERIC") [.param 0, .params],
    -- one branch in the source, which dispatches under the name it was given
    send [ascii "ACTION_ME"] 2 (.of "ACTION_ME") [.params],
    send [ascii "CTCP_ME"] 2 (.of "CTCP_ME") [.params],
    send [ascii "CTCP_REP_ME"] 2 (.of "CTCP_REP_ME") [.params],
    send [ascii "PRIVMSG_ME"] 2 (.of "PRIVMSG_ME") [.params],
    send [ascii "NOTICE_ME"] 2 (.of "NOTICE_ME") [.params],
    send [ascii "PONG"] 0 (.of "PONG") [.params] ]

/-- The branch for an event. -/
def branchFor (event : ByteString) (params : List ByteString) : Option Branch :=
  (branches params.length).find? fun branch => branch.names.contains event

/-- `PluginComm::ircEvent`. -/
def ircEvent (memory : NetworkId → NetworkState) (global : GlobalConfig) (pc : PluginComm)
    (network : NetworkId) (event origin : ByteString) (params : List ByteString) :
    PluginComm :=
  let n := memory network
  let param := paramAt lib params
  match branchFor event params with
  | some branch =>
      if params.length < branch.minimum then
        pc
      else
        let args := branch.args.flatMap (·.values lib n origin params)
        match branch.reaction with
        | .messageReceived =>
            pc.messageReceived lib memory global origin (param 1) (param 0) network
        | .dispatch name => pc.dispatch lib name args
        | .whois =>
            flushCommandQueue lib memory (pc.dispatch lib (.of "WHOIS") args)
              (param 0) (param 1 == ascii "true")
  | none =>
      -- the only branch that reads a parameter without a check before it
      let pc := if params.length < 1 then pc.record .overrun else pc
      pc.dispatch lib (.of "UNKNOWN")
        (n.networkName :: origin :: param 0 :: event :: params)

/-- The events by which a network reports what the bot itself sent. -/
def selfEvents : List ByteString :=
  [ascii "ACTION_ME", ascii "CTCP_ME", ascii "CTCP_REP_ME", ascii "PRIVMSG_ME",
    ascii "NOTICE_ME"]

end PluginComm

end DaZeus
