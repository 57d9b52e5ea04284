import DaZeus.PluginComm.Poll

/-!
# What a trace says about one connection

A connection is a descriptor since it was last accepted.  `gather` collects
what the events of a connection contribute, oldest first.  The second half
says once what the network events can do to the component, so that properties
of the sockets and of the trace follow without unfolding `ircEvent` again.
-/

namespace DaZeus

open Library
open Std (TreeMap)

namespace TraceEvent

def isConnect (fd : Nat) : TraceEvent → Bool
  | .connected other => other == fd
  | _ => false

def receivedBytes (fd : Nat) : TraceEvent → ByteString
  | .read other (some bytes) => if other = fd then bytes else []
  | _ => []

def handledPacket (fd : Nat) : TraceEvent → List ByteString
  | .handled other packet => if other = fd then [packet] else []
  | _ => []

def producedBytes (fd : Nat) : TraceEvent → ByteString
  | .produced other bytes => if other = fd then bytes else []
  | _ => []

def acceptedBytes (fd : Nat) : TraceEvent → ByteString
  | .wrote other (some bytes) => if other = fd then bytes else []
  | _ => []

/-- Events that are about no connection. -/
inductive Incidental : TraceEvent → Prop
  | called (network : NetworkId) (call : NetworkCall) : Incidental (.called network call)
  | reloadConfig : Incidental .reloadConfig
  | overrun : Incidental .overrun

end TraceEvent

/-- The contributions of the events since the descriptor was last accepted. -/
def gather {α : Type} (contribution : TraceEvent → List α) (fd : Nat)
    (trace : List TraceEvent) : List α :=
  (trace.takeWhile fun event => !event.isConnect fd).reverse.flatMap contribution

section Gather

variable {α : Type} {contribution : TraceEvent → List α} {fd : Nat}
  {event : TraceEvent} {trace : List TraceEvent}

theorem gather_cons (other : event.isConnect fd = false) :
    gather contribution fd (event :: trace) =
      gather contribution fd trace ++ contribution event := by
  simp [gather, other]

theorem gather_connected : gather contribution fd (.connected fd :: trace) = [] := by
  simp [gather, TraceEvent.isConnect]

/-- An event that contributes nothing is not seen. -/
theorem gather_cons_of_nil (other : event.isConnect fd = false)
    (nothing : contribution event = []) :
    gather contribution fd (event :: trace) = gather contribution fd trace := by
  rw [gather_cons other, nothing, List.append_nil]

end Gather

def received (fd : Nat) : List TraceEvent → ByteString :=
  gather (TraceEvent.receivedBytes fd) fd

def handled (fd : Nat) : List TraceEvent → List ByteString :=
  gather (TraceEvent.handledPacket fd) fd

def produced (fd : Nat) : List TraceEvent → ByteString :=
  gather (TraceEvent.producedBytes fd) fd

def accepted (fd : Nat) : List TraceEvent → ByteString :=
  gather (TraceEvent.acceptedBytes fd) fd

namespace PluginComm

variable {lib : Libraries}

@[simp]
theorem record_sockets (pc : PluginComm) (event : TraceEvent) :
    (pc.record event).sockets = pc.sockets := rfl

@[simp]
theorem record_trace (pc : PluginComm) (event : TraceEvent) :
    (pc.record event).trace = event :: pc.trace := rfl

@[simp]
theorem record_commandQueue (pc : PluginComm) (event : TraceEvent) :
    (pc.record event).commandQueue = pc.commandQueue := rfl

@[simp]
theorem dispatchTo_trace (pc : PluginComm) (fd : Nat) (event : EventName)
    (parameters : List ByteString) :
    (pc.dispatchTo lib fd event parameters).trace =
      .produced fd (SocketInfo.eventFrame lib event parameters) :: pc.trace := rfl

@[simp]
theorem dispatchTo_commandQueue (pc : PluginComm) (fd : Nat) (event : EventName)
    (parameters : List ByteString) :
    (pc.dispatchTo lib fd event parameters).commandQueue = pc.commandQueue := rfl

theorem dispatchTo_sockets (pc : PluginComm) (fd other : Nat) (event : EventName)
    (parameters : List ByteString) :
    (pc.dispatchTo lib fd event parameters).sockets[other]? =
      if fd = other then pc.sockets[fd]?.map (·.dispatch lib event parameters)
      else pc.sockets[other]? := by
  simp [dispatchTo, TreeMap.getElem?_modify]

/-- `dispatch` reaches only what repeated appends to subscribed sockets reach. -/
theorem dispatch_induction {motive : PluginComm → Prop} {event : EventName}
    {parameters : List ByteString} {pc : PluginComm} (start : motive pc)
    (step : ∀ {pc : PluginComm} {fd : Nat} {info : SocketInfo}, motive pc →
      pc.sockets[fd]? = some info → info.isSubscribed lib event.text →
      motive (pc.dispatchTo lib fd event parameters)) :
    motive (pc.dispatch lib event parameters) := by
  apply List.foldlRecOn _ _ start
  intro pc holds fd _
  unfold dispatchStep
  split
  · exact holds
  · next info found =>
      split
      · next subscribed => exact step holds found subscribed
      · exact holds

@[simp]
theorem dispatch_commandQueue (pc : PluginComm) (event : EventName)
    (parameters : List ByteString) :
    (pc.dispatch lib event parameters).commandQueue = pc.commandQueue :=
  dispatch_induction (motive := fun after => after.commandQueue = pc.commandQueue) rfl
    fun same _ _ => same

/-- Everything `ircEvent` can do, by the kind of event. -/
inductive EventOutcome (lib : Libraries) (memory : NetworkId → NetworkState)
    (global : GlobalConfig) (pc : PluginComm) (network : NetworkId)
    (event origin : ByteString) (params : List ByteString) (result : PluginComm) : Prop
  | ignored (same : pc = result)
  | sent (name : EventName) (args : List ByteString) (same : pc.dispatch lib name args = result)
  | message (kind : event = ascii "PRIVMSG")
      (same : pc.messageReceived lib memory global origin (paramAt lib params 1)
        (paramAt lib params 0) network = result)
  | whois (kind : event = ascii "WHOIS") (enough : 2 ≤ params.length) (args : List ByteString)
      (same : (pc.dispatch lib (.of "WHOIS") args).flushCommandQueue lib memory
        (paramAt lib params 0) (paramAt lib params 1 == ascii "true") = result)
  | unknown (args : List ByteString)
      (same : (pc.record .overrun).dispatch lib (.of "UNKNOWN") args = result)

/-- Only the PRIVMSG and the WHOIS branch do more than dispatch. -/
theorem reaction_of_mem_branches {count : Nat} {branch : Branch}
    (membership : branch ∈ branches count) :
    (branch.reaction = .messageReceived ∧ branch.names = [ascii "PRIVMSG"] ∧
        branch.minimum = 2) ∨
      (branch.reaction = .whois ∧ branch.names = [ascii "WHOIS"] ∧ branch.minimum = 2) ∨
      ∃ name, branch.reaction = .dispatch name := by
  simp only [branches, List.mem_cons, List.not_mem_nil, or_false] at membership
  rcases membership with rfl | rfl | rfl | rfl | rfl | rfl | rfl | rfl | rfl | rfl | rfl |
    rfl | rfl | rfl | rfl | rfl | rfl | rfl | rfl | rfl | rfl | rfl | rfl | rfl
  all_goals first
    | exact .inr (.inr ⟨_, rfl⟩)
    | exact .inr (.inl ⟨rfl, rfl, rfl⟩)
    | exact .inl ⟨rfl, rfl, rfl⟩

theorem ircEvent_outcome (lib : Libraries) (memory : NetworkId → NetworkState)
    (global : GlobalConfig) (pc : PluginComm) (network : NetworkId)
    (event origin : ByteString) (params : List ByteString) :
    EventOutcome lib memory global pc network event origin params
      (pc.ircEvent lib memory global network event origin params) := by
  unfold ircEvent
  dsimp only
  cases found : branchFor event params with
  | none =>
      by_cases missing : params.length < 1
      · simp only [missing, if_true]
        exact .unknown _ rfl
      · simp only [missing, if_false]
        exact .sent _ _ rfl
  | some branch =>
      have names : event ∈ branch.names := by
        simpa using List.find?_some found
      by_cases short : params.length < branch.minimum
      · simp only [short, if_true]
        exact .ignored rfl
      · simp only [short, if_false]
        rcases reaction_of_mem_branches (List.mem_of_find?_eq_some found) with
          ⟨reaction, only, -⟩ | ⟨reaction, only, two⟩ | ⟨name, reaction⟩
        · rw [reaction]
          exact .message (by simpa [only] using names) rfl
        · rw [reaction]
          exact .whois (by simpa [only] using names) (by omega) _ rfl
        · rw [reaction]
          exact .sent name _ rfl

variable {pc : PluginComm} {memory : NetworkId → NetworkState}

/-- The events for what the bot sends are dispatched under their own name. -/
theorem ircEvent_selfEvent (lib : Libraries) (pc : PluginComm)
    (memory : NetworkId → NetworkState) (global : GlobalConfig) (network : NetworkId)
    {event : ByteString} (origin : ByteString) (params : List ByteString)
    (known : event ∈ selfEvents) :
    pc.ircEvent lib memory global network event origin params = pc ∨
      2 ≤ params.length ∧ ∃ (name : EventName) (args : List ByteString), name.text = event ∧
        pc.ircEvent lib memory global network event origin params =
          pc.dispatch lib name args := by
  have chosen (name : EventName) (args : List ByteString) (same : name.text = event)
      (found : pc.ircEvent lib memory global network event origin params =
        if params.length < 2 then pc else pc.dispatch lib name args) :
      pc.ircEvent lib memory global network event origin params = pc ∨
        2 ≤ params.length ∧ ∃ (name : EventName) (args : List ByteString), name.text = event ∧
          pc.ircEvent lib memory global network event origin params =
            pc.dispatch lib name args := by
    by_cases short : params.length < 2
    · exact .inl (by rw [found, if_pos short])
    · exact .inr ⟨by omega, name, args, same, by rw [found, if_neg short]⟩
  simp only [selfEvents, List.mem_cons, List.not_mem_nil, or_false] at known
  rcases known with rfl | rfl | rfl | rfl | rfl
  · exact chosen (.of "ACTION_ME") _ rfl rfl
  · exact chosen (.of "CTCP_ME") _ rfl rfl
  · exact chosen (.of "CTCP_REP_ME") _ rfl rfl
  · exact chosen (.of "PRIVMSG_ME") _ rfl rfl
  · exact chosen (.of "NOTICE_ME") _ rfl rfl

/-- A property that survives everything the network events do: frames appended to
an entry of the map, notes in the trace, and a new command queue. -/
structure EventClosed (lib : Libraries) (property : PluginComm → Prop) : Prop where
  dispatchTo : ∀ {pc : PluginComm} {fd : Nat} {info : SocketInfo} (event : EventName)
    (parameters : List ByteString), property pc → pc.sockets[fd]? = some info →
      property (pc.dispatchTo lib fd event parameters)
  record : ∀ {pc : PluginComm} {event : TraceEvent}, event.Incidental → property pc →
    property (pc.record event)
  delivered : ∀ {pc : PluginComm} (fd : Nat) (cmd : Command), property pc →
    property (pc.record (.delivered fd cmd))
  queue : ∀ {pc : PluginComm} (commandQueue : List Command), property pc →
    property { pc with commandQueue }

namespace EventClosed

variable {property : PluginComm → Prop} (closed : EventClosed lib property)

include closed

theorem dispatch (event : EventName) (parameters : List ByteString) (holds : property pc) :
    property (pc.dispatch lib event parameters) :=
  dispatch_induction holds fun holds found _ => closed.dispatchTo _ _ holds found

theorem deliver {identified : Bool} {cmd : Command} (holds : property pc) :
    property (deliver lib memory identified pc cmd) := by
  apply List.foldlRecOn _ _ holds
  intro pc holds fd _
  unfold deliverStep
  split
  · exact holds
  · next info found =>
      split
      · exact holds
      · exact closed.delivered fd cmd (closed.dispatchTo _ _ holds found)

theorem flushLoop {nick : ByteString} {identified : Bool} {queue : List Command}
    (holds : property pc) :
    property (flushLoop lib memory nick identified queue pc).2 := by
  induction queue generalizing pc with
  | nil => exact holds
  | cons cmd rest inductionHypothesis =>
      unfold PluginComm.flushLoop
      split
      · apply inductionHypothesis
        split
        · exact holds
        · exact closed.record (.called _ _) holds
      · exact inductionHypothesis (closed.deliver holds)

theorem flushCommandQueue {nick : ByteString} {identified : Bool} (holds : property pc) :
    property (pc.flushCommandQueue lib memory nick identified) :=
  closed.queue _ (closed.flushLoop holds)

theorem messageReceived {global : GlobalConfig} {origin message receiver : ByteString}
    {network : NetworkId} (holds : property pc) :
    property (pc.messageReceived lib memory global origin message receiver network) := by
  unfold PluginComm.messageReceived
  apply closed.dispatch _ _
  split
  · exact closed.flushCommandQueue (closed.queue _ holds)
  · exact holds

theorem ircEvent {global : GlobalConfig} {network : NetworkId} {event origin : ByteString}
    {params : List ByteString} (holds : property pc) :
    property (pc.ircEvent lib memory global network event origin params) := by
  cases ircEvent_outcome lib memory global pc network event origin params with
  | ignored same => exact same ▸ holds
  | sent name args same => exact same ▸ closed.dispatch name args holds
  | message _ same => exact same ▸ closed.messageReceived holds
  | whois _ _ args same => exact same ▸ closed.flushCommandQueue (closed.dispatch _ args holds)
  | unknown args same => exact same ▸ closed.dispatch _ args (closed.record .overrun holds)

/-- What networks raise while they are called. -/
theorem callbacks {global : GlobalConfig} {network : NetworkId} (raises : List SelfEvent)
    (holds : property pc) :
    property (raises.foldl (fun pc raise =>
      pc.ircEvent lib memory global network raise.event raise.origin raise.params) pc) :=
  List.foldlRecOn _ _ holds fun _ holds _ _ => closed.ircEvent holds

end EventClosed

end PluginComm

end DaZeus
