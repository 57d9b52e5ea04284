import DaZeus.Library.ErrorFold
import DaZeus.Library.TransitionSystem
import DaZeus.PluginComm.Handle

/-!
# Reading, parsing and answering

`PluginComm::poll` and the connection set-up, with the answers of the operating
system as input.  An iteration works on a copy of the `SocketInfo` and writes
it back at its end, as the source does, while events that arrive meanwhile go
to the entry of the map.
-/

namespace DaZeus

open Library
open Std (TreeMap)

/-- How `poll` stops without returning. -/
inductive Fault where
  /-- `assert(s)` after a header whose size is missing or no `int`. -/
  | headerAssert (fd : Nat)
  /-- The JSON constructor throws outside of the try block. -/
  | notJson (fd : Nat)
  /-- The 32-bit index of the header scan never reaches the end of the buffer. -/
  | endlessScan (fd : Nat)
  /-- `handle` reads `params` past its end, which has no defined behaviour. -/
  | overrun (fd : Nat)
  deriving DecidableEq

/-- The descriptor whose input was at fault. -/
def Fault.fd : Fault → Nat
  | .headerAssert fd => fd
  | .notJson fd => fd
  | .endlessScan fd => fd
  | .overrun fd => fd

/-- What `::poll` reports for one descriptor. -/
inductive PollStatus where
  | ready
  | failed
  | errorOrHangUp
  deriving DecidableEq

/-- One result of `read`; no bytes is end-of-file. -/
inductive ReadResult where
  | data (bytes : ByteString)
  | wouldBlock
  | error

/-- One result of `write`; it takes at most what it was offered. -/
inductive WriteResult where
  | accepted (count : Nat)
  | wouldBlock
  | error

/-- An event that a Network raises before the method that caused it returns. -/
structure SelfEvent where
  event : ByteString
  known : event ∈ PluginComm.selfEvents
  origin : ByteString
  params : List ByteString

/-- The operating system's and the networks' part in one iteration.  When a list
of results is used up, the call would block.  `callbacks` holds, for each
Network method called in turn, the events it raises. -/
structure SocketInput where
  status : PollStatus := .ready
  reads : List ReadResult := []
  callbacks : List (List SelfEvent) := []
  writes : List WriteResult := []

namespace PluginComm

variable (lib : Libraries)

/-- The value of an unsigned 64-bit size in a signed 32-bit integer. -/
def toSigned (size : Nat) : Int := Int.bmod size (2 ^ 32)

/-- `s >> waitingSize` on the digits before the brace; `none` sets failbit. -/
def extractSize (digits : ByteString) : Option Nat :=
  if digits = [] then none
  else if ofDecimal digits ≤ 2147483647 then some (ofDecimal digits)
  else none

/-- The header scan: if there is no size yet, look for one in the buffer and
remove everything before the brace. -/
def readHeader (fd : Nat) (info : SocketInfo) : Except Fault SocketInfo :=
  if info.waitingSize ≠ 0 then
    .ok info
  else
    let scanned := info.readahead.take (2 ^ 32)
    if openBrace ∈ scanned then
      let header := scanned.takeWhile (· != openBrace)
      match extractSize (header.filter isDigit) with
      | none => .error (.headerAssert fd)
      | some 0 => .ok info
      | some size => .ok { info with
          waitingSize := size, readahead := info.readahead.drop header.length }
    else if info.readahead.length < 2 ^ 32 then
      .ok info
    else
      .error (.endlessScan fd)

/-- Cut the packet off the buffer once it is complete. -/
def takePacket (info : SocketInfo) : Option (ByteString × SocketInfo) :=
  if info.waitingSize ≠ 0 ∧ toSigned info.readahead.length ≥ info.waitingSize then
    some (info.readahead.take info.waitingSize,
      { info with readahead := info.readahead.drop info.waitingSize })
  else
    none

/-- The local state of one iteration: the component, the copy, and the variables. -/
structure Iteration where
  pc : PluginComm
  info : SocketInfo
  toRemove : List Nat := []
  appended : Bool := false
  callbacks : List (List SelfEvent) := []

namespace Iteration

def record (it : Iteration) (event : TraceEvent) : Iteration :=
  { it with pc := it.pc.record event }

/-- `close(dev); toRemove.push_back(dev)`. -/
def close (it : Iteration) (fd : Nat) : Iteration :=
  { it.record (.closed fd) with toRemove := it.toRemove ++ [fd] }

/-- Append a response frame to the copy. -/
def respond (it : Iteration) (fd : Nat) (bytes : ByteString) : Iteration :=
  { it.record (.produced fd bytes) with
    info := { it.info with writebuffer := it.info.writebuffer ++ bytes } }

end Iteration

def readSocket (fd : Nat) : List ReadResult → Iteration → Iteration
  | [], it => it
  | .data bytes :: rest, it =>
      let it := it.record (.read fd (some bytes))
      if bytes = [] then
        it.close fd
      else
        readSocket fd rest { it with
          appended := true
          info := { it.info with readahead := it.info.readahead ++ bytes } }
  | .wouldBlock :: _, it => it.record (.read fd none)
  | .error :: _, it => (it.record (.read fd none)).close fd

/-- Call the Network method of a reply, with the events it raises meanwhile. -/
def Iteration.callNetwork (view : View) (call : Option (NetworkId × NetworkCall)) (it : Iteration) :
    Iteration :=
  match call with
  | none => it
  | some (network, call) =>
      let raised := it.callbacks.headD []
      let pc := raised.foldl (fun pc raise =>
          pc.ircEvent lib view.memory view.config.globalConfig network
            raise.event raise.origin raise.params)
        (it.pc.record (.called network call))
      { it with pc, callbacks := it.callbacks.tail }

/-- The members of the response after the exception handler of `poll`. -/
def responseMembers (reply : Reply) : List (ByteString × Json) :=
  match reply.thrown with
  | none => reply.response
  | some what => ((reply.set "success" (.bool false)).setString lib "error" what).response

/-- The frame that answers a request. -/
def responseFrame (view : View) (input : Json) (info : SocketInfo) : ByteString :=
  frame (lib.dumps (.object (responseMembers lib (handle lib view input info))))

/-- Handle a request that `handle` comes back from, and append the response to the copy. -/
def answer (view : View) (fd : Nat) (packet : ByteString) (input : Json) (it : Iteration) :
    Iteration :=
  let info := it.info
  let reply := handle lib view input info
  let it := { it.record (.handled fd packet) with info := reply.info }
  let it := if reply.reload then it.record .reloadConfig else it
  let it := it.callNetwork lib view reply.call
  let it := it.respond fd (responseFrame lib view input info)
  { it with info := { it.info with waitingSize := 0 } }

/-- What `poll` does with one complete packet. -/
def handlePacket (view : View) (fd : Nat) (packet : ByteString) (it : Iteration) :
    Except Fault Iteration :=
  match lib.loads (cStr packet) with
  | none => .error (.notJson fd)
  | some input =>
      if (handle lib view input it.info).overrun then .error (.overrun fd)
      else .ok (answer lib view fd packet input it)

/-- The parse loop; every round but the last takes at least a byte off the buffer. -/
def parsePackets (view : View) (fd : Nat) : Nat → Iteration → Except Fault Iteration
  | 0, it => .ok it
  | fuel + 1, it => do
      let info ← readHeader fd it.info
      match takePacket info with
      | none => .ok { it with info }
      | some (packet, info) =>
          parsePackets view fd fuel (← handlePacket lib view fd packet { it with info })

/-- `while(!info.writebuffer.empty())` with its calls of `write`. -/
def writeSocket (fd : Nat) : List WriteResult → Iteration → Iteration
  | [], it => it
  | result :: rest, it =>
      if it.info.writebuffer = [] then
        it
      else
        match result with
        | .accepted count =>
            writeSocket fd rest { it.record (.wrote fd (some (it.info.writebuffer.take count)))
              with info := { it.info with writebuffer := it.info.writebuffer.drop count } }
        | .wouldBlock => it.record (.wrote fd none)
        | .error => (it.record (.wrote fd none)).close fd

/-- `if(appended)` with the parse loop in it. -/
def parseSocket (view : View) (fd : Nat) (it : Iteration) : Except Fault Iteration :=
  if it.appended then parsePackets lib view fd (it.info.readahead.length + 1) it else .ok it

/-- `it->second = info`. -/
def Iteration.writeBack (fd : Nat) (it : Iteration) : PluginComm :=
  { it.pc with sockets := it.pc.sockets.insert fd it.info }

/-- One iteration of the loop over the sockets. -/
def pollSocket (view : View) (io : Nat → SocketInput) (state : PluginComm × List Nat)
    (fd : Nat) : Except Fault (PluginComm × List Nat) :=
  let (pc, toRemove) := state
  match pc.sockets[fd]? with
  | none => .ok (pc, toRemove)
  | some info =>
      if (io fd).status ≠ .ready then
        .ok (pc.record (.closed fd), toRemove ++ [fd])
      else do
        let it ← parseSocket lib view fd (readSocket fd (io fd).reads
          { pc, info, toRemove, callbacks := (io fd).callbacks })
        let it := writeSocket fd (io fd).writes it
        .ok (it.writeBack fd, it.toRemove)

def poll (view : View) (io : Nat → SocketInput) (pc : PluginComm) :
    Except Fault PluginComm := do
  let (pc, toRemove) ← pc.sockets.keys.foldlM (pollSocket lib view io) (pc, [])
  .ok { pc with sockets := toRemove.foldl (·.erase ·) pc.sockets }

/-- `newTcpConnection` and `newLocalConnection` for one accepted connection. -/
def connect (fd : Nat) (type : ByteString) (pc : PluginComm) : PluginComm :=
  { pc with sockets := pc.sockets.insert fd { type } }.record (.connected fd)

/-- What can happen to the component between two iterations of the main loop. -/
inductive Action where
  | ircEvent (network : NetworkId) (event origin : ByteString) (params : List ByteString)
  | poll (io : Nat → SocketInput)
  | connect (fd : Nat) (type : ByteString)

/-- The rest of the bot, in particular the memory of the networks, is arbitrary at
each action. -/
def perform (view : View) (pc : PluginComm) : Action → Except Fault PluginComm
  | .ircEvent network event origin params =>
      .ok (pc.ircEvent lib view.memory view.config.globalConfig network event origin params)
  | .poll io => pc.poll lib view io
  | .connect fd type => .ok (pc.connect fd type)

/-- Perform actions in order until one of them does not return. -/
def performAll (start : PluginComm) (actions : List (View × Action)) : Except Fault PluginComm :=
  actions.foldlM (fun pc action => pc.perform lib action.1 action.2) start

/-- The runs of a `PluginComm` from its construction. -/
def system : TransitionSystem PluginComm (View × Action) where
  initial pc := pc.sockets.isEmpty ∧ pc.commandQueue = [] ∧ pc.trace = []
  step before label after := before.perform lib label.1 label.2 = .ok after

/-- The answers to one `poll` in which a request arrives whole. -/
def requestInput (request : Json) (callbacks : List (List SelfEvent) := [])
    (writes : List WriteResult := []) : Nat → SocketInput :=
  fun _ => { reads := [.data (frame request.print), .wouldBlock], callbacks, writes }

theorem reachable_performAll {lib : Libraries} {start finish : PluginComm}
    {actions : List (View × Action)} (initial : (system lib).initial start)
    (completed : performAll lib start actions = .ok finish) :
    (system lib).Reachable finish :=
  foldlM_invariant (motive := (system lib).Reachable)
    (fun {_ label _} _ reached step => reached.snoc label step) (.start initial) completed

end PluginComm

end DaZeus
