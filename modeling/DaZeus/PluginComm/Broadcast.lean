import DaZeus.PluginComm.Calls
import DaZeus.PluginComm.Framing
import DaZeus.PluginComm.Output

/-!
# One order of events

An event is sent to every socket that is subscribed to it before the next one is
raised.  So a run has one order of events: what networks report by themselves, and
what they report while requests call them.  `events_in_one_order` says that each
plugin is sent its events in this order; between them it gets commands and the
answers to its requests.
-/

namespace DaZeus

open Library
open Std (TreeMap)

/-- The frames that were produced for a descriptor, in their order. -/
def framesTo (fd : Nat) (trace : List TraceEvent) : List ByteString :=
  trace.reverse.filterMap fun
    | .produced other bytes => if other = fd then some bytes else none
    | _ => none

theorem framesTo_append (fd : Nat) (noted trace : List TraceEvent) :
    framesTo fd (noted ++ trace) = framesTo fd trace ++ framesTo fd noted := by
  rw [framesTo, List.reverse_append, List.filterMap_append]
  rfl

theorem framesTo_produced (fd other : Nat) (bytes : ByteString) :
    framesTo fd [.produced other bytes] = if other = fd then [bytes] else [] := by
  unfold framesTo
  by_cases same : other = fd <;> simp [same]

/-- An event that is raised in some state. -/
structure Broadcast where
  state : PluginComm
  event : ByteString
  parameters : List ByteString

namespace Broadcast

def content (broadcast : Broadcast) : ByteString × List ByteString :=
  (broadcast.event, broadcast.parameters)

/-- The socket is subscribed to the event. -/
def hears (lib : Libraries) (fd : Nat) (broadcast : Broadcast) : Bool :=
  broadcast.state.sockets[fd]?.any (·.isSubscribed lib broadcast.event)

end Broadcast

namespace PluginComm

variable {lib : Libraries} {memory : NetworkId → NetworkState} {nick : ByteString}
  {identified : Bool} {view : View} {pc before after start : PluginComm}
  {raised : List Broadcast}

/-- The event in a message, unless it is a command. -/
def Message.broadcast? : Message → Option (ByteString × List ByteString)
  | .event name parameters =>
      if name.text = commandEvent.text then none else some (name.text, parameters)
  | .response _ _ _ => none

/-! ## Frames -/

/-- What is noted between two states: each socket is produced the events that it hears, in their
order, and other messages between them. -/
def Relayed (lib : Libraries) (before : PluginComm) (raised : List Broadcast)
    (after : PluginComm) : Prop :=
  ∃ noted, after.trace = noted ++ before.trace ∧ ∀ fd, ∃ messages : List Message,
    framesTo fd noted = messages.map (Message.bytes lib) ∧
      messages.filterMap Message.broadcast? =
        (raised.filter (·.hears lib fd)).map Broadcast.content

namespace Relayed

theorem refl (pc : PluginComm) : Relayed lib pc [] pc :=
  ⟨[], rfl, fun _ => ⟨[], rfl, rfl⟩⟩

theorem trans {more : List Broadcast} (earlier : Relayed lib start raised before)
    (later : Relayed lib before more after) : Relayed lib start (raised ++ more) after := by
  obtain ⟨noted, trace, each⟩ := earlier
  obtain ⟨others, grown, sent⟩ := later
  refine ⟨others ++ noted, by rw [grown, trace, List.append_assoc], fun fd => ?_⟩
  obtain ⟨first, frames, heard⟩ := each fd
  obtain ⟨second, added, newly⟩ := sent fd
  refine ⟨first ++ second, ?_, ?_⟩
  · rw [framesTo_append, frames, added, List.map_append]
  · rw [List.filterMap_append, heard, newly, List.filter_append, List.map_append]

/-- What produces no event. -/
theorem quiet {noted : List TraceEvent} (trace : after.trace = noted ++ before.trace)
    (noEvent : ∀ fd bytes, .produced fd bytes ∈ noted → ∃ message : Message,
      message.bytes lib = bytes ∧ message.broadcast? = none) :
    Relayed lib before [] after := by
  refine ⟨noted, trace, fun fd => ?_⟩
  clear trace
  induction noted with
  | nil => exact ⟨[], rfl, rfl⟩
  | cons event noted inductionHypothesis =>
      obtain ⟨messages, frames, none⟩ := inductionHypothesis fun fd bytes inside =>
        noEvent fd bytes (List.mem_cons_of_mem _ inside)
      have later : framesTo fd (event :: noted) = framesTo fd noted ++ framesTo fd [event] :=
        framesTo_append fd [event] noted
      have nothing (quiet : framesTo fd [event] = []) : ∃ messages : List Message,
          framesTo fd (event :: noted) = messages.map (Message.bytes lib) ∧
            messages.filterMap Message.broadcast? = [] :=
        ⟨messages, by rw [later, quiet, frames, List.append_nil], none⟩
      cases event with
      | produced other bytes =>
          by_cases same : other = fd
          · obtain ⟨message, rfl, silent⟩ := noEvent other bytes List.mem_cons_self
            refine ⟨messages ++ [message], ?_, ?_⟩
            · rw [later, frames, framesTo_produced, if_pos same, List.map_append]
              rfl
            · rw [List.filterMap_append, none, List.filterMap_cons_none silent]
              rfl
          · exact nothing (by rw [framesTo_produced, if_neg same])
      | _ => exact nothing rfl

theorem record {event : TraceEvent} (relayed : Relayed lib start raised pc)
    (noEvent : ∀ fd bytes, event = .produced fd bytes → ∃ message : Message,
      message.bytes lib = bytes ∧ message.broadcast? = none) :
    Relayed lib start raised (pc.record event) := by
  have grown : (pc.record event).trace = [event] ++ pc.trace := rfl
  have later : Relayed lib pc [] (pc.record event) := quiet grown fun fd bytes inside =>
    noEvent fd bytes (List.mem_singleton.mp inside).symm
  have joined := relayed.trans later
  rwa [List.append_nil] at joined

end Relayed

/-! ## Events and commands -/

/-- The events that each socket is subscribed to. -/
def subscriptions (pc : PluginComm) (fd : Nat) : Option (List ByteString) :=
  pc.sockets[fd]?.map SocketInfo.subscriptions

theorem hears_eq (same : after.subscriptions = before.subscriptions) (event : ByteString)
    (parameters : List ByteString) (fd : Nat) :
    Broadcast.hears lib fd ⟨after, event, parameters⟩ =
      Broadcast.hears lib fd ⟨before, event, parameters⟩ := by
  have mapped := congrArg (Option.any (·.contains (lib.strToUpper event))) (congrFun same fd)
  unfold subscriptions at mapped
  rw [Option.any_map, Option.any_map] at mapped
  exact mapped

theorem dispatchTo_subscriptions (pc : PluginComm) (fd : Nat) (event : EventName)
    (parameters : List ByteString) :
    (pc.dispatchTo lib fd event parameters).subscriptions = pc.subscriptions := by
  funext other
  unfold subscriptions
  rw [dispatchTo_sockets]
  split
  · next same =>
      rw [← same, Option.map_map]
      rfl
  · rfl

theorem subscriptions_eventClosed (known : Nat → Option (List ByteString)) :
    EventClosed lib fun pc => pc.subscriptions = known where
  dispatchTo event parameters same _ := (dispatchTo_subscriptions _ _ event parameters).trans same
  record _ same := same
  delivered _ _ same := same
  queue _ same := same

/-- What the loop notes at one socket. -/
theorem dispatchStep_frames (name : EventName) (parameters : List ByteString) (pc : PluginComm)
    (first : Nat) :
    ∃ noted, (dispatchStep lib name parameters pc first).trace = noted ++ pc.trace ∧ ∀ fd,
      framesTo fd noted = if first = fd ∧ Broadcast.hears lib fd ⟨pc, name.text, parameters⟩ then
        [SocketInfo.eventFrame lib name parameters] else [] := by
  unfold dispatchStep
  split
  · next missing =>
      refine ⟨[], rfl, fun fd => (if_neg ?_).symm⟩
      rintro ⟨rfl, hears⟩
      rw [Broadcast.hears, missing] at hears
      cases hears
  · next info found =>
      split
      · next subscribed =>
          refine ⟨[.produced first (SocketInfo.eventFrame lib name parameters)], rfl, fun fd => ?_⟩
          rw [framesTo_produced]
          by_cases same : first = fd
          · have hears : Broadcast.hears lib first ⟨pc, name.text, parameters⟩ = true := by
              rw [Broadcast.hears, found]
              exact subscribed
            rw [if_pos same, if_pos ⟨same, same ▸ hears⟩]
          · rw [if_neg same, if_neg (mt And.left same)]
      · next deaf =>
          refine ⟨[], rfl, fun fd => (if_neg ?_).symm⟩
          rintro ⟨rfl, hears⟩
          rw [Broadcast.hears, found] at hears
          exact deaf hears

/-- An event is sent to a socket once, or not at all. -/
theorem dispatch_frames (name : EventName) (parameters : List ByteString) (pc : PluginComm) :
    ∃ noted, (pc.dispatch lib name parameters).trace = noted ++ pc.trace ∧ ∀ fd,
      framesTo fd noted = if Broadcast.hears lib fd ⟨pc, name.text, parameters⟩ then
        [SocketInfo.eventFrame lib name parameters] else [] := by
  have each {names : List Nat} (distinct : names.Nodup) (pc : PluginComm) :
      ∃ noted, (names.foldl (dispatchStep lib name parameters) pc).trace = noted ++ pc.trace ∧
        ∀ fd, framesTo fd noted =
          if fd ∈ names ∧ Broadcast.hears lib fd ⟨pc, name.text, parameters⟩ then
            [SocketInfo.eventFrame lib name parameters] else [] := by
    induction names generalizing pc with
    | nil => exact ⟨[], rfl, fun fd => (if_neg (by simp)).symm⟩
    | cons first names inductionHypothesis =>
        obtain ⟨fresh, distinct⟩ := List.nodup_cons.mp distinct
        obtain ⟨later, grown, frames⟩ :=
          inductionHypothesis distinct (dispatchStep lib name parameters pc first)
        obtain ⟨noted, trace, here⟩ := dispatchStep_frames name parameters pc first
        have unchanged : (dispatchStep lib name parameters pc first).subscriptions =
            pc.subscriptions := by
          unfold dispatchStep
          split
          · rfl
          · split
            · exact dispatchTo_subscriptions _ _ _ _
            · rfl
        refine ⟨later ++ noted, ?_, fun fd => ?_⟩
        · rw [List.foldl_cons, grown, trace, List.append_assoc]
        · rw [framesTo_append, here, frames, hears_eq unchanged]
          by_cases same : first = fd
          · subst same
            simp [fresh]
          · simp [same, Ne.symm same]
  have distinct : pc.sockets.keys.Nodup := TreeMap.nodup_keys
  obtain ⟨noted, trace, frames⟩ := each distinct pc
  refine ⟨noted, trace, fun fd => ?_⟩
  have listed (hears : Broadcast.hears lib fd ⟨pc, name.text, parameters⟩ = true) :
      fd ∈ pc.sockets.keys := by
    obtain ⟨info, found, -⟩ := (Option.any_eq_true _ _).mp hears
    rw [TreeMap.mem_keys, TreeMap.mem_iff_isSome_getElem?, found]
    rfl
  rw [frames]
  by_cases hears : Broadcast.hears lib fd ⟨pc, name.text, parameters⟩ = true
  · rw [if_pos ⟨listed hears, hears⟩, if_pos hears]
  · rw [if_neg (mt And.right hears), if_neg hears]

/-- The event is raised in a state with the same subscriptions. -/
theorem Relayed.dispatch (name : EventName) (other : name.text ≠ commandEvent.text)
    (parameters : List ByteString) (same : pc.subscriptions = before.subscriptions) :
    Relayed lib pc [⟨before, name.text, parameters⟩] (pc.dispatch lib name parameters) := by
  obtain ⟨noted, trace, frames⟩ := dispatch_frames name parameters pc
  refine ⟨noted, trace, fun fd => ?_⟩
  rw [frames, hears_eq same]
  by_cases hears : Broadcast.hears lib fd ⟨before, name.text, parameters⟩ = true
  · rw [if_pos hears, List.filter_cons_of_pos hears]
    exact ⟨[.event name parameters], rfl, by simp [Message.broadcast?, other, Broadcast.content]⟩
  · rw [if_neg hears, List.filter_cons_of_neg hears]
    exact ⟨[], rfl, rfl⟩

/-- A flush sends nothing but commands. -/
theorem Relayed.flush (flushed : Flushed lib memory nick identified before after) :
    Relayed lib before [] after := by
  apply Relayed.quiet flushed.trace
  intro fd bytes inside
  obtain ⟨cmd, -, outcome⟩ := List.mem_flatMap.mp (List.mem_reverse.mp inside)
  unfold commandOutcome at outcome
  split at outcome
  · unfold whoisRequests at outcome
    split at outcome <;> simp at outcome
  · obtain ⟨other, -, noted⟩ := List.mem_flatMap.mp outcome
    have same : bytes = commandFrame lib memory cmd := by
      simp only [List.mem_cons, TraceEvent.produced.injEq, reduceCtorEq, List.not_mem_nil,
        or_false] at noted
      exact noted.2
    exact ⟨.event commandEvent (commandParameters memory cmd), same.symm,
      by simp [Message.broadcast?]⟩

/-! ## What the networks report -/

/-- The event that plugins hear of when a network raises one. -/
def reported (lib : Libraries) : View × Action → Option (ByteString × List ByteString)
  | (view, .ircEvent network event origin params) =>
      let n := view.memory network
      let param := paramAt lib params
      match branchFor event params with
      | some branch =>
          let args := branch.args.flatMap (·.values lib n origin params)
          if params.length < branch.minimum then
            none
          else
            match branch.reaction with
            | .messageReceived => some (ascii "PRIVMSG",
                [n.networkName, origin, param 0, param 1, boolText (n.isIdentified origin)])
            | .dispatch name => some (name.text, args)
            | .whois => some (ascii "WHOIS", args)
      | none => some (ascii "UNKNOWN", n.networkName :: origin :: param 0 :: event :: params)
  | _ => none

/-- No branch reports a command. -/
theorem name_of_mem_branches {count : Nat} {branch : Branch}
    (membership : branch ∈ branches count) {name : EventName}
    (reaction : branch.reaction = .dispatch name) : name.text ≠ commandEvent.text := by
  simp only [branches, List.mem_cons, List.not_mem_nil, or_false] at membership
  rcases membership with rfl | rfl | rfl | rfl | rfl | rfl | rfl | rfl | rfl | rfl | rfl |
    rfl | rfl | rfl | rfl | rfl | rfl | rfl | rfl | rfl | rfl | rfl | rfl | rfl
  all_goals
    cases reaction
    try decide

/-- What a network reports, as it is raised in some state. -/
def announced (lib : Libraries) (view : View) (state : PluginComm) (network : NetworkId)
    (event origin : ByteString) (params : List ByteString) : List Broadcast :=
  (reported lib (view, .ircEvent network event origin params)).toList.map fun content =>
    ⟨state, content.1, content.2⟩

/-- What a network reports is raised once, in a state with the subscriptions before. -/
theorem ircEvent_relayed {network : NetworkId} {event origin : ByteString}
    {params : List ByteString} (same : pc.subscriptions = before.subscriptions) :
    Relayed lib pc (announced lib view before network event origin params)
      (pc.ircEvent lib view.memory view.config.globalConfig network event origin params) := by
  unfold ircEvent announced reported
  dsimp only
  cases found : branchFor event params with
  | none =>
      by_cases missing : params.length < 1
      · simp only [missing, if_true]
        have overrun : Relayed lib pc [] (pc.record .overrun) := by
          apply (Relayed.refl pc).record
          intro fd bytes same
          cases same
        exact overrun.trans (.dispatch (.of "UNKNOWN") (by decide) _ same)
      · simp only [missing, if_false]
        exact .dispatch (.of "UNKNOWN") (by decide) _ same
  | some branch =>
      by_cases short : params.length < branch.minimum
      · simp only [short, if_true]
        exact .refl pc
      · simp only [short, if_false]
        cases reaction : branch.reaction with
        | messageReceived =>
            dsimp only
            unfold messageReceived
            dsimp only
            split
            · next cmd asked =>
                let queued := { pc with commandQueue := pc.commandQueue ++ [cmd] }
                have flushed := flushCommandQueue_flushed lib view.memory queued [] false
                have kept : (queued.flushCommandQueue lib view.memory).subscriptions =
                    before.subscriptions :=
                  (subscriptions_eventClosed before.subscriptions).flushCommandQueue
                    (show queued.subscriptions = before.subscriptions from same)
                have silent : Relayed lib queued [] (queued.flushCommandQueue lib view.memory) :=
                  .flush flushed
                have silent : Relayed lib pc [] (queued.flushCommandQueue lib view.memory) := silent
                exact silent.trans (.dispatch (.of "PRIVMSG") (by decide) _ kept)
            · exact .dispatch (.of "PRIVMSG") (by decide) _ same
        | dispatch name =>
            have other := name_of_mem_branches (List.mem_of_find?_eq_some found) reaction
            exact .dispatch name other _ same
        | whois =>
            have sent (args : List ByteString) : Relayed lib pc [⟨before, ascii "WHOIS", args⟩]
                (pc.dispatch lib (.of "WHOIS") args) :=
              .dispatch (.of "WHOIS") (by decide) args same
            exact (sent _).trans (.flush (flushCommandQueue_flushed lib view.memory _ _ _))

/-! ## What requests make the networks report -/

/-- What the networks report while they are called: each call takes the next list of callbacks. -/
def echoes (lib : Libraries) (view : View) (state : PluginComm) :
    List (NetworkId × NetworkCall) → List (List SelfEvent) → List Broadcast
  | [], _ => []
  | call :: calls, callbacks =>
      ((callbacks.headD []).flatMap fun raise =>
        announced lib view state call.1 raise.event raise.origin raise.params) ++
        echoes lib view state calls callbacks.tail

theorem echoes_append (state : PluginComm) (calls more : List (NetworkId × NetworkCall))
    (callbacks : List (List SelfEvent)) :
    echoes lib view state (calls ++ more) callbacks =
      echoes lib view state calls callbacks ++
        echoes lib view state more (callbacks.drop calls.length) := by
  induction calls generalizing callbacks with
  | nil => rfl
  | cons call calls inductionHypothesis =>
      rw [List.cons_append, echoes, inductionHypothesis, echoes, List.append_assoc,
        List.length_cons, List.drop_tail]

/-- The events that a network raises during one call are raised in their order. -/
theorem callbacks_relayed {network : NetworkId} (callbacks : List SelfEvent)
    (same : pc.subscriptions = start.subscriptions) (relayed : Relayed lib start raised pc) :
    Relayed lib start
      (raised ++ callbacks.flatMap fun raise =>
        announced lib view start network raise.event raise.origin raise.params)
      (callbacks.foldl (fun pc raise =>
        pc.ircEvent lib view.memory view.config.globalConfig network raise.event raise.origin
          raise.params) pc) := by
  induction callbacks generalizing pc raised with
  | nil =>
      rw [List.flatMap_nil, List.append_nil]
      exact relayed
  | cons raise callbacks inductionHypothesis =>
      rw [List.flatMap_cons, ← List.append_assoc, List.foldl_cons]
      exact inductionHypothesis
        ((subscriptions_eventClosed start.subscriptions).ircEvent same)
        (relayed.trans (ircEvent_relayed same))

theorem requestsIn_record (lib : Libraries) (event : TraceEvent) (pc : PluginComm) :
    requestsIn lib (pc.record event).trace = requestsIn lib pc.trace ++ requestsIn lib [event] :=
  requestsIn_append [event] pc.trace

/-- An event handles no request. -/
theorem requestsIn_eventClosed (known : List Json) :
    EventClosed lib fun pc => requestsIn lib pc.trace = known where
  dispatchTo {pc fd _} event parameters same _ := by
    have produced := requestsIn_record lib
      (.produced fd (SocketInfo.eventFrame lib event parameters)) pc
    rw [dispatchTo_trace]
    exact produced.trans ((List.append_nil _).trans same)
  record {pc event} harmless same := by
    have silent : requestsIn lib [event] = [] := by
      cases harmless <;> rfl
    rw [requestsIn_record, silent, List.append_nil, same]
  delivered {pc} fd cmd same := by
    rw [requestsIn_record, same]
    exact List.append_nil known
  queue _ same := same

/-- While `poll` works on one socket: the requests that were handled, the calls that were made for
them, and that all that was raised is what the networks say meanwhile. -/
structure Prompted (lib : Libraries) (view : View) (start : PluginComm)
    (callbacks : List (List SelfEvent)) (requests : List Json)
    (calls : List (NetworkId × NetworkCall)) (it : Iteration) : Prop where
  subscriptions : it.pc.subscriptions = start.subscriptions
  handled : requestsIn lib it.pc.trace = requestsIn lib start.trace ++ requests
  remaining : it.callbacks = callbacks.drop calls.length
  relayed : Relayed lib start (echoes lib view start calls callbacks) it.pc

namespace Prompted

variable {callbacks : List (List SelfEvent)} {requests : List Json} {it : Iteration}
  {calls : List (NetworkId × NetworkCall)}

theorem record {event : TraceEvent}
    (noEvent : ∀ fd bytes, event = .produced fd bytes → ∃ message : Message,
      message.bytes lib = bytes ∧ message.broadcast? = none)
    (prompted : Prompted lib view start callbacks requests calls it) :
    Prompted lib view start callbacks (requests ++ requestsIn lib [event]) calls
      (it.record event) where
  subscriptions := prompted.subscriptions
  handled := by
    have later := requestsIn_record lib event it.pc
    rw [prompted.handled, List.append_assoc] at later
    exact later
  remaining := prompted.remaining
  relayed := prompted.relayed.record noEvent

/-- The rest of the iteration does not matter. -/
theorem copy {other : Iteration} (prompted : Prompted lib view start callbacks requests calls it)
    (pc : other.pc = it.pc) (remaining : other.callbacks = it.callbacks) :
    Prompted lib view start callbacks requests calls other := by
  refine ⟨?_, ?_, remaining.trans prompted.remaining, ?_⟩
  · rw [pc, prompted.subscriptions]
  · rw [pc, prompted.handled]
  · rw [pc]
    exact prompted.relayed

/-- What is noted besides requests and frames. -/
theorem aside {event : TraceEvent} (request : requestsIn lib [event] = [])
    (silent : ∀ fd bytes, event ≠ .produced fd bytes)
    (prompted : Prompted lib view start callbacks requests calls it) :
    Prompted lib view start callbacks requests calls (it.record event) := by
  have noted := prompted.record fun fd bytes same => absurd same (silent fd bytes)
  rwa [request, List.append_nil] at noted

/-- What the reads or the writes of a socket note. -/
theorem recordAll {fd : Nat} {noted : List TraceEvent}
    (own : ∀ event ∈ noted, (∃ bytes, event = .read fd bytes) ∨
      (∃ bytes, event = .wrote fd bytes) ∨ event = .closed fd)
    (prompted : Prompted lib view start callbacks requests calls it) :
    Prompted lib view start callbacks requests calls { it with pc := it.pc.recordAll noted } := by
  apply recordAll_invariant (motive := fun pc =>
    Prompted lib view start callbacks requests calls { it with pc }) _ prompted
  intro pc event inside prompted
  have silent (other : Nat) (bytes : ByteString) : event ≠ .produced other bytes := by
    rintro rfl
    rcases own _ inside with ⟨_, read⟩ | ⟨_, wrote⟩ | closed
    · cases read
    · cases wrote
    · cases closed
  exact prompted.aside ((aside_local (own event inside)).2 lib) silent

/-- A call takes the next list of callbacks. -/
theorem callNetwork {call : Option (NetworkId × NetworkCall)}
    (prompted : Prompted lib view start callbacks requests calls it) :
    Prompted lib view start callbacks requests (calls ++ call.toList)
      (it.callNetwork lib view call) := by
  cases call with
  | none =>
      rw [Option.toList_none, List.append_nil]
      exact prompted
  | some call =>
      have called : Prompted lib view start callbacks requests calls
          (it.record (.called call.1 call.2)) :=
        prompted.aside rfl fun _ _ same => by cases same
      have here : echoes lib view start [call] (callbacks.drop calls.length) =
          (it.callbacks.headD []).flatMap fun raise =>
            announced lib view start call.1 raise.event raise.origin raise.params := by
        rw [prompted.remaining, echoes, echoes, List.append_nil]
      refine ⟨?_, ?_, ?_, ?_⟩
      · exact (subscriptions_eventClosed start.subscriptions).callbacks _ called.subscriptions
      · exact (requestsIn_eventClosed _).callbacks _ called.handled
      · have next : it.callbacks.tail = callbacks.drop (calls ++ [call]).length := by
          rw [prompted.remaining, List.tail_drop, List.length_append, List.length_singleton]
        exact next
      · rw [Option.toList_some, echoes_append, here]
        exact callbacks_relayed _ called.subscriptions called.relayed

theorem answer {fd : Nat} {packet : ByteString} {input : Json}
    (loaded : lib.loads (cStr packet) = some input)
    (prompted : Prompted lib view start callbacks requests
      (requests.filterMap (callOf lib view)) it) :
    Prompted lib view start callbacks (requests ++ [input])
      ((requests ++ [input]).filterMap (callOf lib view))
      (answer lib view fd packet input it) := by
  let reply := handle lib view input it.info
  let noted := it.record (.handled fd packet)
  let handled : Iteration := { noted with info := reply.info }
  let reloaded := if reply.reload then handled.record .reloadConfig else handled
  have request : requestsIn lib [.handled fd packet] = [input] := by
    simp [requestsIn, loaded]
  have taken : Prompted lib view start callbacks (requests ++ [input])
      (requests.filterMap (callOf lib view)) noted := by
    rw [← request]
    exact prompted.record fun _ _ same => by cases same
  have copied : Prompted lib view start callbacks (requests ++ [input])
      (requests.filterMap (callOf lib view)) handled :=
    ⟨taken.subscriptions, taken.handled, taken.remaining, taken.relayed⟩
  have reloads : Prompted lib view start callbacks (requests ++ [input])
      (requests.filterMap (callOf lib view)) reloaded := by
    simp only [reloaded]
    split
    · exact copied.aside rfl fun _ _ same => by cases same
    · exact copied
  have asked : (requests ++ [input]).filterMap (callOf lib view) =
      requests.filterMap (callOf lib view) ++ reply.call.toList := by
    have call : reply.call = callOf lib view input := handle_call
    rw [List.filterMap_append, call]
    cases found : callOf lib view input <;> simp [found]
  have called : Prompted lib view start callbacks (requests ++ [input])
      (requests.filterMap (callOf lib view) ++ reply.call.toList)
      (reloaded.callNetwork lib view reply.call) := reloads.callNetwork
  have response (other : Nat) (bytes : ByteString)
      (produced : TraceEvent.produced fd (responseFrame lib view input it.info) =
        .produced other bytes) :
      ∃ message : Message, message.bytes lib = bytes ∧ message.broadcast? = none :=
    ⟨.response view input it.info, (TraceEvent.produced.inj produced).2, rfl⟩
  have answered := called.record response
  rw [asked]
  exact ⟨answered.subscriptions, answered.handled.trans (congrArg _ (List.append_nil _)),
    answered.remaining, answered.relayed⟩

end Prompted

variable {io : Nat → SocketInput}

/-- What is raised at one socket is what the networks say about the requests handled there. -/
theorem Polled.prompted {fd : Nat} (polled : Polled lib view io pc fd after) :
    ∃ requests, requestsIn lib after.trace = requestsIn lib pc.trace ++ requests ∧
      Relayed lib pc
        (echoes lib view pc (requests.filterMap (callOf lib view)) (io fd).callbacks) after := by
  cases polled with
  | absent _ => exact ⟨[], (List.append_nil _).symm, .refl pc⟩
  | failed =>
      have closed : Relayed lib pc [] (pc.record (.closed fd)) :=
        (Relayed.refl pc).record fun _ _ same => by cases same
      exact ⟨[], requestsIn_record lib _ pc, closed⟩
  | @served info toRemove it found ready parsed =>
      let start : Iteration := { pc, info, toRemove, callbacks := (io fd).callbacks }
      have begun : Prompted lib view pc (io fd).callbacks [] [] start :=
        ⟨rfl, (List.append_nil _).symm, rfl, .refl pc⟩
      have read : Prompted lib view pc (io fd).callbacks [] []
          (readSocket fd (io fd).reads start) := by
        obtain ⟨noted, removed, same, -, events⟩ := readSocket_spec fd (io fd).reads start
        rw [same]
        exact (begun.recordAll fun event inside =>
          (events event inside).imp_right .inr).copy rfl rfl
      obtain ⟨requests, served⟩ : ∃ requests, Prompted lib view pc (io fd).callbacks requests
          (requests.filterMap (callOf lib view)) it := by
        refine parseSocket_loaded (motive := fun it => ∃ requests,
          Prompted lib view pc (io fd).callbacks requests
            (requests.filterMap (callOf lib view)) it) ?_ ?_ parsed ⟨[], read⟩
        · rintro it waitingSize readahead ⟨requests, prompted⟩
          exact ⟨requests, prompted.copy rfl rfl⟩
        · rintro it packet input loaded - ⟨requests, prompted⟩
          exact ⟨requests ++ [input], prompted.answer loaded⟩
      have written : Prompted lib view pc (io fd).callbacks requests
          (requests.filterMap (callOf lib view)) (writeSocket fd (io fd).writes it) := by
        obtain ⟨noted, removed, writebuffer, same, -, events⟩ :=
          writeSocket_spec fd (io fd).writes it
        rw [same]
        exact (served.recordAll fun event inside => .inr (events event inside)).copy rfl rfl
      exact ⟨requests, written.handled, written.relayed⟩

/-- The events that a `poll` has networks raise, socket by socket: those of the callbacks of the
calls that the requests handled there ask for, each in the state in which that socket's turn
begins. -/
inductive Prompts (lib : Libraries) (view : View) (io : Nat → SocketInput) :
    List Nat → PluginComm × List Nat → List Broadcast → Prop
  | done (state : PluginComm × List Nat) : Prompts lib view io [] state []
  | socket {fd : Nat} {remaining : List Nat} {before after : PluginComm × List Nat}
      {requests : List Json} {more : List Broadcast}
      (polled : pollSocket lib view io before fd = .ok after)
      (handled : requestsIn lib after.1.trace = requestsIn lib before.1.trace ++ requests)
      (later : Prompts lib view io remaining after more) :
      Prompts lib view io (fd :: remaining) before
        (echoes lib view before.1 (requests.filterMap (callOf lib view)) (io fd).callbacks ++ more)

theorem pollSockets_relayed {fds : List Nat} {state finish : PluginComm × List Nat}
    (completed : fds.foldlM (pollSocket lib view io) state = .ok finish) :
    ∃ raised, Prompts lib view io fds state raised ∧ Relayed lib state.1 raised finish.1 := by
  induction fds generalizing state with
  | nil =>
      cases completed
      exact ⟨[], .done _, .refl _⟩
  | cons fd remaining inductionHypothesis =>
      rw [List.foldlM_cons] at completed
      cases polled : pollSocket lib view io state fd with
      | error fault =>
          rw [polled] at completed
          cases completed
      | ok middle =>
          rw [polled] at completed
          obtain ⟨requests, handled, relayed⟩ := (pollSocket_polled polled).prompted
          obtain ⟨more, later, further⟩ := inductionHypothesis completed
          exact ⟨_, .socket polled handled later, relayed.trans further⟩

theorem poll_relayed (completed : pc.poll lib view io = .ok after) :
    ∃ raised, Prompts lib view io pc.sockets.keys (pc, []) raised ∧
      Relayed lib pc raised after := by
  obtain ⟨finish, loop, rfl⟩ := poll_completed completed
  obtain ⟨raised, prompts, relayed⟩ := pollSockets_relayed loop
  exact ⟨raised, prompts, relayed⟩

/-! ## A run -/

/-- The events of one action: what a network reports by itself is raised in the state before it,
what requests make it say as `poll` handles them. -/
inductive Raises (lib : Libraries) (pc : PluginComm) : View × Action → List Broadcast → Prop
  | ircEvent (view : View) (network : NetworkId) (event origin : ByteString)
      (params : List ByteString) : Raises lib pc (view, .ircEvent network event origin params)
        (announced lib view pc network event origin params)
  | poll {view : View} {io : Nat → SocketInput} {raised : List Broadcast}
      (prompts : Prompts lib view io pc.sockets.keys (pc, []) raised) :
      Raises lib pc (view, .poll io) raised
  | connect (view : View) (fd : Nat) (type : ByteString) :
      Raises lib pc (view, .connect fd type) []

/-- The events of a run, action by action. -/
inductive RaisesAll (lib : Libraries) : PluginComm → List (View × Action) → List Broadcast → Prop
  | done (pc : PluginComm) : RaisesAll lib pc [] []
  | action {before after : PluginComm} {label : View × Action} {rest : List (View × Action)}
      {raised more : List Broadcast} (raises : Raises lib before label raised)
      (performed : before.perform lib label.1 label.2 = .ok after)
      (later : RaisesAll lib after rest more) :
      RaisesAll lib before (label :: rest) (raised ++ more)

theorem perform_relayed {label : View × Action}
    (performed : before.perform lib label.1 label.2 = .ok after) :
    ∃ raised, Raises lib before label raised ∧ Relayed lib before raised after := by
  obtain ⟨view, action⟩ := label
  cases action with
  | ircEvent network event origin params =>
      cases performed
      exact ⟨_, .ircEvent view network event origin params, ircEvent_relayed rfl⟩
  | poll io =>
      obtain ⟨raised, prompts, relayed⟩ := poll_relayed performed
      exact ⟨raised, .poll prompts, relayed⟩
  | connect fd type =>
      cases performed
      have connected : Relayed lib before [] (before.record (.connected fd)) :=
        (Relayed.refl before).record nofun
      exact ⟨[], .connect view fd type, connected⟩

/-- In every run, from whatever state, there is one order of events: what networks report, as they
report it, and what they report while the requests that are handled call them.  Each socket was
produced those events that it was subscribed to when they were raised, in this order and once; all
else it was produced are commands and responses. -/
theorem events_in_one_order {actions : List (View × Action)}
    (completed : performAll lib start actions = .ok pc) :
    ∃ raised noted, RaisesAll lib start actions raised ∧ pc.trace = noted ++ start.trace ∧
      ∀ fd, ∃ messages : List Message, framesTo fd noted = messages.map (Message.bytes lib) ∧
        messages.filterMap Message.broadcast? =
          (raised.filter (·.hears lib fd)).map Broadcast.content := by
  have run : ∃ raised, RaisesAll lib start actions raised ∧ Relayed lib start raised pc := by
    unfold performAll at completed
    induction actions generalizing start with
    | nil =>
        cases completed
        exact ⟨[], .done _, .refl _⟩
    | cons label rest inductionHypothesis =>
        rw [List.foldlM_cons] at completed
        cases performed : start.perform lib label.1 label.2 with
        | error fault =>
            rw [performed] at completed
            cases completed
        | ok middle =>
            rw [performed] at completed
            obtain ⟨raised, raises, relayed⟩ := perform_relayed performed
            obtain ⟨more, later, further⟩ := inductionHypothesis completed
            exact ⟨raised ++ more, .action raises performed later, relayed.trans further⟩
  obtain ⟨raised, raises, noted, trace, each⟩ := run
  exact ⟨raised, noted, raises, trace, each⟩

/-- A plugin has the bot say something, and hears of it. -/
theorem events_in_one_order_echo :
    ∃ pc, performAll (.knowing [subscribeRequest, messageRequest]) {} echoRun = .ok pc ∧
      ∃ raised noted, RaisesAll (.knowing [subscribeRequest, messageRequest]) {} echoRun raised ∧
        pc.trace = noted ++ [] ∧ ∃ messages : List Message,
          framesTo 5 noted =
            messages.map (Message.bytes (.knowing [subscribeRequest, messageRequest])) ∧
          messages.filterMap Message.broadcast? =
            (raised.filter (·.hears (.knowing [subscribeRequest, messageRequest]) 5)).map
              Broadcast.content := by
  have returns : (performAll (.knowing [subscribeRequest, messageRequest]) {} echoRun).isOk =
      true := by decide +kernel
  cases completed : performAll (.knowing [subscribeRequest, messageRequest]) {} echoRun with
  | error fault =>
      rw [completed] at returns
      cases returns
  | ok pc =>
      obtain ⟨raised, noted, raises, trace, each⟩ := events_in_one_order completed
      exact ⟨pc, rfl, raised, noted, raises, trace, each 5⟩

end PluginComm

end DaZeus
