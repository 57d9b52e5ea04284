import DaZeus.PluginComm.Commands
import DaZeus.PluginComm.Store

/-!
# What the bot does on the networks

The bot does nothing on a network by its own will.  `calls_asked` says of every
action in every run which methods of networks it calls: those that requests of
plugins ask for, each once and in the order of the requests, and at most one
WHOIS for a command that somebody has just given.
-/

namespace DaZeus

open Library
open Std (TreeMap)

/-- The calls on networks, in their order. -/
def callsIn (trace : List TraceEvent) : List (NetworkId × NetworkCall) :=
  trace.reverse.filterMap fun
    | .called network call => some (network, call)
    | _ => none

/-- The requests that were handled, in their order. -/
def requestsIn (lib : Libraries) (trace : List TraceEvent) : List Json :=
  trace.reverse.filterMap fun
    | .handled _ packet => lib.loads (cStr packet)
    | _ => none

section Trace

variable {lib : Libraries}

theorem callsIn_append (noted trace : List TraceEvent) :
    callsIn (noted ++ trace) = callsIn trace ++ callsIn noted := by
  rw [callsIn, List.reverse_append, List.filterMap_append]
  rfl

theorem requestsIn_append (noted trace : List TraceEvent) :
    requestsIn lib (noted ++ trace) = requestsIn lib trace ++ requestsIn lib noted := by
  rw [requestsIn, List.reverse_append, List.filterMap_append]
  rfl

/-- An event that is neither a call nor a request. -/
def TraceEvent.Aside (event : TraceEvent) : Prop :=
  callsIn [event] = [] ∧ ∀ lib, requestsIn lib [event] = []

end Trace

namespace PluginComm

variable {lib : Libraries} {view : View} {input : Json} {info : SocketInfo} {reply : Reply}
  {params scope : List ByteString} {action : ByteString}

/-! ## What a request calls -/

/-- The method that a request calls. -/
def callOf (lib : Libraries) (view : View) (input : Json) : Option (NetworkId × NetworkCall) :=
  (handle lib view input {}).call

theorem setString_call (reply : Reply) (name : String) (text : ByteString) :
    (reply.setString lib name text).call = reply.call :=
  congrArg Effects.call Reply.setString_effects

theorem set_call (reply : Reply) (name : String) (value : Json) :
    (reply.set name value).call = reply.call := rfl

theorem success_call (reply : Reply) : reply.success.call = reply.call := rfl

theorem throw_call (reply : Reply) (what : String) : (reply.throw what).call = reply.call := rfl

theorem database_call {α : Type} {result : Except ByteString α} {next : Reply → α → Reply}
    (keeps : ∀ value, (next reply value).call = reply.call) :
    (reply.database result next).call = reply.call := by
  cases result with
  | error what => rfl
  | ok value => exact keeps value

theorem handleHandshake_call : (handleHandshake lib params reply).call = reply.call := by
  unfold handleHandshake
  dsimp only
  split
  · exact setString_call reply _ _
  · split
    · exact setString_call reply _ _
    · split <;> exact setString_call reply _ _

theorem handleCommand_call : (handleCommand lib view params reply).call = reply.call := by
  unfold handleCommand
  dsimp only
  split
  · exact setString_call reply _ _
  · split
    · exact setString_call reply _ _
    · split
      · split
        · exact setString_call reply _ _
        · split <;> exact setString_call reply _ _
      · exact setString_call reply _ _

theorem handleProperty_call : (handleProperty lib view params scope reply).call = reply.call := by
  have named : (reply.setString lib "did" (ascii "property")).call = reply.call :=
    setString_call reply _ _
  unfold handleProperty
  dsimp only
  split
  · exact named
  · split
    · refine (database_call fun value => ?_).trans named
      split
      · simp only [setString_call, success_call]
      · simp only [setString_call, success_call]
    · split
      · split
        · exact named
        · exact (database_call fun _ => rfl).trans named
      · split
        · exact (database_call fun _ => rfl).trans named
        · split
          · exact (database_call fun _ => rfl).trans named
          · exact named

theorem handleConfig_call : (handleConfig lib view params reply).call = reply.call := by
  unfold handleConfig
  dsimp only
  split
  · exact setString_call reply _ _
  · split
    · split
      · exact setString_call reply _ _
      · split <;> simp only [setString_call, success_call]
    · split
      · split <;> simp only [setString_call, success_call]
      · exact setString_call reply _ _

theorem handlePermission_call :
    (handlePermission lib view params scope reply).call = reply.call := by
  have named : (reply.setString lib "did" (ascii "permission")).call = reply.call :=
    setString_call reply _ _
  unfold handlePermission
  dsimp only
  split
  · exact named
  · split
    · exact named
    · split
      · split
        · exact named
        · exact (database_call fun _ => rfl).trans named
      · split
        · exact (database_call fun _ => rfl).trans named
        · split
          · split
            · exact named
            · exact (database_call fun _ => rfl).trans named
          · exact named

variable {other : Reply}

theorem handleOnNetwork_call (same : reply.call = other.call) :
    (handleOnNetwork lib view action params reply).call =
      (handleOnNetwork lib view action params other).call := by
  have named (reply : Reply) : (if action = ascii "channels" ∨ action = ascii "nick" then
      reply.setString lib "got" action else reply.setString lib "did" action).call =
      reply.call := by
    split <;> exact setString_call reply _ _
  unfold handleOnNetwork
  dsimp only
  split
  · exact (named reply).trans (same.trans (named other).symm)
  · split
    · simp only [success_call, set_call, setString_call, named, same]
    · split
      · simp only [success_call, setString_call, named, same]
      · split
        · simp only [throw_call, setString_call, named, same]
        · rfl

theorem handleOnChannel_call (same : reply.call = other.call) :
    (handleOnChannel lib view action params reply).call =
      (handleOnChannel lib view action params other).call := by
  unfold handleOnChannel
  dsimp only
  split
  · simp only [throw_call, setString_call, same]
  · split
    · split <;> simp only [throw_call, setString_call, same]
    · split
      · rfl
      · split <;> simp only [throw_call, setString_call, same]

/-- Which method is called does not depend on the socket. -/
theorem handleAction_call (same : reply.call = other.call) :
    (handleAction lib view action params scope reply).call =
      (handleAction lib view action params scope other).call := by
  have either {asked : Prop} [Decidable asked] {first second here there : Reply}
      (alike : first.call = here.call) (otherwise : second.call = there.call) :
      (if asked then first else second).call = (if asked then here else there).call := by
    rw [apply_ite Reply.call, alike, otherwise, ← apply_ite Reply.call]
  have kept {handler : Reply → Reply} (keeps : ∀ reply, (handler reply).call = reply.call) :
      (handler reply).call = (handler other).call :=
    (keeps reply).trans (same.trans (keeps other).symm)
  have networks (reply : Reply) : (handleNetworks lib view reply).call = reply.call :=
    setString_call reply _ _
  have reload (reply : Reply) : (handleReload lib reply).call = reply.call :=
    setString_call reply _ _
  have subscribe (reply : Reply) : (handleSubscribe lib params reply).call = reply.call :=
    setString_call reply _ _
  have unsubscribe (reply : Reply) : (handleUnsubscribe lib params reply).call = reply.call :=
    setString_call reply _ _
  unfold handleAction
  apply either (kept networks)
  apply either (kept fun _ => handleHandshake_call)
  apply either (kept reload)
  apply either (handleOnNetwork_call same)
  apply either (handleOnChannel_call same)
  apply either (kept subscribe)
  apply either (kept unsubscribe)
  apply either (kept fun _ => handleCommand_call)
  apply either (kept fun _ => handleProperty_call)
  apply either (kept fun _ => handleConfig_call)
  apply either (kept fun _ => handlePermission_call)
  exact same

theorem handle_call : (handle lib view input info).call = callOf lib view input := by
  unfold callOf handle
  cases readParams input with
  | error what => rfl
  | ok params =>
      cases readAction input with
      | error what => rfl
      | ok action =>
          have same : (handleAction lib view action params (readScope input) { info }).call =
              (handleAction lib view action params (readScope input) { info := {} }).call :=
            handleAction_call rfl
          exact same

/-! ## What `poll` calls -/

variable {before after pc : PluginComm} {event : TraceEvent} {io : Nat → SocketInput}

/-- What was noted since: the calls are those of the requests, but for the ones that are owed. -/
def Obeyed (lib : Libraries) (view : View) (before : PluginComm)
    (owed : List (NetworkId × NetworkCall)) (pc : PluginComm) : Prop :=
  ∃ noted, pc.trace = noted ++ before.trace ∧
    callsIn noted ++ owed = (requestsIn lib noted).filterMap (callOf lib view)

namespace Obeyed

variable {owed : List (NetworkId × NetworkCall)}

theorem refl (pc : PluginComm) : Obeyed lib view pc [] pc := ⟨[], rfl, rfl⟩

theorem aside (quiet : event.Aside) (obeyed : Obeyed lib view before owed pc) :
    Obeyed lib view before owed (pc.record event) := by
  obtain ⟨noted, trace, same⟩ := obeyed
  refine ⟨[event] ++ noted, by rw [record_trace, trace]; rfl, ?_⟩
  rw [callsIn_append, requestsIn_append, quiet.1, quiet.2, List.append_nil, List.append_nil]
  exact same

theorem dispatchTo (target : Nat) (event : EventName) (parameters : List ByteString)
    (obeyed : Obeyed lib view before owed pc) :
    Obeyed lib view before owed (pc.dispatchTo lib target event parameters) := by
  obtain ⟨noted, trace, same⟩ := obeyed
  refine ⟨[.produced target (SocketInfo.eventFrame lib event parameters)] ++ noted, ?_, ?_⟩
  · rw [dispatchTo_trace, trace]
    rfl
  · rw [callsIn_append, requestsIn_append]
    exact (congrArg (· ++ owed) (List.append_nil _)).trans
      (same.trans (congrArg _ (List.append_nil _).symm))

theorem handled {fd : Nat} {packet : ByteString} (loaded : lib.loads (cStr packet) = some input)
    (obeyed : Obeyed lib view before [] pc) :
    Obeyed lib view before (callOf lib view input).toList (pc.record (.handled fd packet)) := by
  obtain ⟨noted, trace, same⟩ := obeyed
  have request : requestsIn lib [.handled fd packet] = [input] := by
    simp [requestsIn, loaded]
  have silent : callsIn [.handled fd packet] = [] := rfl
  refine ⟨[.handled fd packet] ++ noted, by rw [record_trace, trace]; rfl, ?_⟩
  rw [callsIn_append, requestsIn_append, request, silent, List.filterMap_append, ← same,
    List.append_nil]
  cases found : callOf lib view input <;> simp [found]

/-- The call that is owed is made, and the network says something about it. -/
theorem callNetwork {it : Iteration} {call : Option (NetworkId × NetworkCall)}
    (obeyed : Obeyed lib view before call.toList it.pc) :
    Obeyed lib view before [] (it.callNetwork lib view call).pc := by
  cases call with
  | none => exact obeyed
  | some call =>
      obtain ⟨noted, trace, same⟩ := obeyed
      have called : Obeyed lib view before [] (it.pc.record (.called call.1 call.2)) := by
        refine ⟨[.called call.1 call.2] ++ noted, by rw [record_trace, trace]; rfl, ?_⟩
        rw [callsIn_append, requestsIn_append, List.append_nil]
        exact same.trans (congrArg _ (List.append_nil _).symm)
      refine List.foldlRecOn _ _ called fun pc obeyed raise _ => ?_
      rcases ircEvent_selfEvent lib pc view.memory view.config.globalConfig call.1 raise.origin
        raise.params raise.known with same | ⟨-, name, args, -, same⟩
      · rw [same]
        exact obeyed
      · rw [same]
        exact dispatch_induction obeyed fun obeyed _ _ => obeyed.dispatchTo _ _ _

theorem answer {fd : Nat} {packet : ByteString} {it : Iteration}
    (loaded : lib.loads (cStr packet) = some input) (obeyed : Obeyed lib view before [] it.pc) :
    Obeyed lib view before [] (answer lib view fd packet input it).pc := by
  let reply := handle lib view input it.info
  let handled : Iteration := { it.record (.handled fd packet) with info := reply.info }
  let reloaded := if reply.reload then handled.record .reloadConfig else handled
  have same : (PluginComm.answer lib view fd packet input it).pc =
      (reloaded.callNetwork lib view reply.call).pc.record
        (.produced fd (responseFrame lib view input it.info)) := rfl
  have asked : Obeyed lib view before reply.call.toList handled.pc := by
    have call : reply.call = callOf lib view input := handle_call
    rw [call]
    exact obeyed.handled loaded
  have reloads : Obeyed lib view before reply.call.toList reloaded.pc := by
    simp only [reloaded]
    split
    · exact asked.aside ⟨rfl, fun _ => rfl⟩
    · exact asked
  rw [same]
  exact reloads.callNetwork.aside ⟨rfl, fun _ => rfl⟩

theorem recordAll {noted : List TraceEvent} (quiet : ∀ event ∈ noted, event.Aside)
    (obeyed : Obeyed lib view before owed pc) :
    Obeyed lib view before owed (pc.recordAll noted) :=
  recordAll_invariant (fun inside obeyed => obeyed.aside (quiet _ inside)) obeyed

end Obeyed

theorem aside_local {fd : Nat} (own : (∃ bytes, event = .read fd bytes) ∨
    (∃ bytes, event = .wrote fd bytes) ∨ event = .closed fd) : event.Aside := by
  rcases own with ⟨bytes, rfl⟩ | ⟨bytes, rfl⟩ | rfl <;> exact ⟨rfl, fun _ => rfl⟩

theorem poll_obeyed (completed : pc.poll lib view io = .ok after) :
    Obeyed lib view pc [] after := by
  refine poll_invariant (motive := Obeyed lib view pc []) ?_ (fun _ obeyed => obeyed) completed
    (.refl pc)
  intro middle next fd polled obeyed
  cases polled with
  | absent _ => exact obeyed
  | failed => exact obeyed.aside (aside_local (.inr (.inr rfl)))
  | @served info toRemove it found ready parsed =>
      obtain ⟨noted, removed, reads, -, events⟩ := readSocket_spec fd (io fd).reads
        { pc := middle, info, toRemove, callbacks := (io fd).callbacks }
      rw [reads] at parsed
      have answered : Obeyed lib view pc [] it.pc :=
        parseSocket_loaded (motive := fun it => Obeyed lib view pc [] it.pc)
          (fun _ _ obeyed => obeyed) (fun loaded _ obeyed => obeyed.answer loaded) parsed
          (obeyed.recordAll fun event inside =>
            aside_local ((events event inside).imp_right .inr))
      obtain ⟨others, gone, writebuffer, writes, -, outcomes⟩ :=
        writeSocket_spec fd (io fd).writes it
      rw [writes]
      exact answered.recordAll fun event inside => aside_local (.inr (outcomes event inside))

/-! ## What an event calls -/

/-- The calls that an action makes by itself: who gives a command that waits is asked about. -/
def ownCalls (lib : Libraries) (pc : PluginComm) (label : View × Action) :
    List (NetworkId × NetworkCall) :=
  match givenBy lib label with
  | some cmd =>
      if Waits label.1.memory pc [] cmd then [(cmd.network, .sendWhois cmd.origin)] else []
  | none => []

/-- Every command in the queue has been asked about. -/
def Questioned (pc : PluginComm) : Prop := ∀ cmd ∈ pc.commandQueue, cmd.whoisSent = true

/-- The calls that were noted between two states. -/
def Calls (before : PluginComm) (calls : List (NetworkId × NetworkCall)) (after : PluginComm) :
    Prop :=
  ∃ noted, after.trace = noted ++ before.trace ∧ callsIn noted = calls

theorem Calls.trans {middle : PluginComm} {calls more : List (NetworkId × NetworkCall)}
    (earlier : Calls before calls middle) (later : Calls middle more after) :
    Calls before (calls ++ more) after := by
  obtain ⟨noted, trace, rfl⟩ := earlier
  obtain ⟨others, grown, rfl⟩ := later
  exact ⟨others ++ noted, by rw [grown, trace, List.append_assoc], callsIn_append others noted⟩

variable {memory : NetworkId → NetworkState} {nick : ByteString} {identified : Bool}

theorem dispatch_calls (event : EventName) (parameters : List ByteString) (pc : PluginComm) :
    Calls pc [] (pc.dispatch lib event parameters) := by
  refine dispatch_induction (motive := Calls pc []) ⟨[], rfl, rfl⟩ fun {middle fd _} calls _ _ => ?_
  exact calls.trans ⟨[.produced fd (SocketInfo.eventFrame lib event parameters)], rfl, rfl⟩

theorem Flushed.questioned (flushed : Flushed lib memory nick identified before after) :
    Questioned after := by
  intro cmd inside
  rw [flushed.commandQueue] at inside
  obtain ⟨old, -, rfl⟩ := List.mem_map.mp inside
  rfl

/-- The call that a flush makes for a command. -/
def question (memory : NetworkId → NetworkState) (nick : ByteString) (pc : PluginComm)
    (cmd : Command) : List (NetworkId × NetworkCall) :=
  if Waits memory pc nick cmd ∧ cmd.whoisSent = false then
    [(cmd.network, .sendWhois cmd.origin)]
  else
    []

theorem callsIn_commandOutcome (pc : PluginComm) (cmd : Command) :
    callsIn (commandOutcome lib memory nick identified pc cmd).reverse =
      question memory nick pc cmd := by
  unfold commandOutcome question
  by_cases waits : Waits memory pc nick cmd
  · rw [if_pos waits, whoisRequests]
    cases cmd.whoisSent <;> simp [waits, callsIn]
  · rw [if_neg waits, if_neg (mt And.left waits)]
    apply List.filterMap_eq_nil_iff.mpr
    intro event inside
    rw [List.reverse_reverse] at inside
    obtain ⟨fd, -, noted⟩ := List.mem_flatMap.mp inside
    simp only [List.mem_cons, List.not_mem_nil, or_false] at noted
    rcases noted with rfl | rfl <;> rfl

/-- A flush asks about the commands that wait and were not asked about. -/
theorem Flushed.calls (flushed : Flushed lib memory nick identified before after) :
    Calls before (before.commandQueue.flatMap (question memory nick before)) after := by
  refine ⟨_, flushed.trace, ?_⟩
  induction before.commandQueue with
  | nil => rfl
  | cons cmd queue inductionHypothesis =>
      rw [List.flatMap_cons, List.reverse_append, callsIn_append, inductionHypothesis,
        callsIn_commandOutcome, List.flatMap_cons]

theorem no_question (questioned : Questioned pc) (memory : NetworkId → NetworkState)
    (nick : ByteString) (state : PluginComm) :
    pc.commandQueue.flatMap (question memory nick state) = [] := by
  apply List.flatMap_eq_nil_iff.mpr
  intro cmd inside
  apply if_neg
  rintro ⟨-, unasked⟩
  exact Bool.noConfusion ((questioned cmd inside).symm.trans unasked)

section Event

variable {network : NetworkId} {event : ByteString} {origin : ByteString}

/-- A message that gives a command asks about its sender at most. -/
theorem message_calls (questioned : Questioned pc) :
    Calls pc (ownCalls lib pc (view, .ircEvent network (ascii "PRIVMSG") origin params))
        (pc.ircEvent lib view.memory view.config.globalConfig network (ascii "PRIVMSG") origin
          params) ∧
      Questioned (pc.ircEvent lib view.memory view.config.globalConfig network (ascii "PRIVMSG")
        origin params) := by
  have branch : pc.ircEvent lib view.memory view.config.globalConfig network (ascii "PRIVMSG")
      origin params = if params.length < 2 then pc else
        pc.messageReceived lib view.memory view.config.globalConfig origin
          (paramAt lib params 1) (paramAt lib params 0) network := rfl
  have sends (before : PluginComm) (parameters : List ByteString) (holds : Questioned before) :
      Questioned (before.dispatch lib (.of "PRIVMSG") parameters) := by
    unfold Questioned
    rw [dispatch_commandQueue]
    exact holds
  rw [branch, ownCalls, givenBy]
  by_cases few : params.length < 2
  · rw [if_pos few, if_neg fun both => absurd both.2 (Nat.not_le.mpr few)]
    exact ⟨⟨[], rfl, rfl⟩, questioned⟩
  · rw [if_neg few, if_pos ⟨rfl, Nat.not_lt.mp few⟩, messageReceived]
    cases asked : commandOf lib origin (paramAt lib params 0) network
        (payloadOf lib view.config.globalConfig (view.memory network).nick
          (paramAt lib params 1)) with
    | none => exact ⟨dispatch_calls _ _ pc, sends _ _ questioned⟩
    | some cmd =>
        obtain ⟨command, args, -, unsent⟩ := commandOf_eq_some asked
        have fresh : cmd.whoisSent = false := by
          rw [unsent]
        let queued := { pc with commandQueue := pc.commandQueue ++ [cmd] }
        have flushed := flushCommandQueue_flushed lib view.memory queued [] false
        have one : queued.commandQueue.flatMap (question view.memory [] queued) =
            if Waits view.memory pc [] cmd then [(cmd.network, .sendWhois cmd.origin)] else [] := by
          have same : Waits view.memory queued [] cmd ↔ Waits view.memory pc [] cmd := Iff.rfl
          rw [List.flatMap_append, no_question questioned, List.flatMap_singleton, question]
          simp only [fresh, and_true, same, List.nil_append]
        have calls : Calls pc (queued.commandQueue.flatMap (question view.memory [] queued))
            (queued.flushCommandQueue lib view.memory) := flushed.calls
        rw [one] at calls
        have sent (parameters : List ByteString) :
            Calls pc (if Waits view.memory pc [] cmd then [(cmd.network, .sendWhois cmd.origin)]
                else []) ((queued.flushCommandQueue lib view.memory).dispatch lib (.of "PRIVMSG")
              parameters) := by
          have both := calls.trans (@dispatch_calls lib (.of "PRIVMSG") parameters _)
          rwa [List.append_nil] at both
        exact ⟨sent _, sends _ _ flushed.questioned⟩

theorem ircEvent_calls (questioned : Questioned pc) :
    Calls pc (ownCalls lib pc (view, .ircEvent network event origin params))
        (pc.ircEvent lib view.memory view.config.globalConfig network event origin params) ∧
      Questioned
        (pc.ircEvent lib view.memory view.config.globalConfig network event origin params) := by
  by_cases message : event = ascii "PRIVMSG"
  · subst message
    exact message_calls questioned
  · have nothing : ownCalls lib pc (view, .ircEvent network event origin params) = [] := by
      have none : givenBy lib (view, .ircEvent network event origin params) = none :=
        if_neg fun both => message both.1
      rw [ownCalls, none]
    have sends (before : PluginComm) (name : EventName) (args : List ByteString)
        (holds : Questioned before) : Questioned (before.dispatch lib name args) := by
      unfold Questioned
      rw [dispatch_commandQueue]
      exact holds
    rw [nothing]
    cases ircEvent_outcome lib view.memory view.config.globalConfig pc network event origin
      params with
    | ignored same => exact same ▸ ⟨⟨[], rfl, rfl⟩, questioned⟩
    | sent name args same => exact same ▸ ⟨dispatch_calls name args pc, sends _ _ _ questioned⟩
    | message kind _ => exact absurd kind message
    | whois _ _ args same =>
        have flushed := flushCommandQueue_flushed lib view.memory
          (pc.dispatch lib (.of "WHOIS") args) (paramAt lib params 0)
          (paramAt lib params 1 == ascii "true")
        have calls := (dispatch_calls (.of "WHOIS") args pc).trans flushed.calls
        rw [no_question (sends _ _ _ questioned)] at calls
        exact same ▸ ⟨calls, flushed.questioned⟩
    | unknown args same =>
        have overrun : Calls pc [] (pc.record .overrun) := ⟨[.overrun], rfl, rfl⟩
        exact same ▸ ⟨overrun.trans (dispatch_calls _ args _), sends _ _ _ questioned⟩

end Event

/-- The calls of an action: those that its requests ask for, or its own. -/
def callsOf (lib : Libraries) (before : PluginComm) (noted : List TraceEvent) :
    View × Action → List (NetworkId × NetworkCall)
  | (view, .poll _) => (requestsIn lib noted).filterMap (callOf lib view)
  | label => ownCalls lib before label

theorem perform_calls {label : View × Action} (questioned : Questioned before)
    (performed : before.perform lib label.1 label.2 = .ok after) :
    (∃ noted, after.trace = noted ++ before.trace ∧
        callsIn noted = callsOf lib before noted label) ∧
      Questioned after := by
  obtain ⟨view, action⟩ := label
  cases action with
  | ircEvent network event origin params =>
      cases performed
      exact ircEvent_calls questioned
  | poll io =>
      obtain ⟨noted, trace, same⟩ := poll_obeyed performed
      rw [List.append_nil] at same
      refine ⟨⟨noted, trace, same⟩, ?_⟩
      unfold Questioned
      rw [commandQueue_poll performed]
      exact questioned
  | connect fd type =>
      cases performed
      exact ⟨⟨[.connected fd], rfl, rfl⟩, questioned⟩

/-- At every step of every run from a state where nobody waits unasked, the bot calls on networks
what the requests ask for that are handled in this step, each once and in their order.  A network
event makes it call nothing but a WHOIS for the sender of the command in it, if this waits. -/
theorem calls_asked {start final : PluginComm} {done rest : List (View × Action)}
    {label : View × Action} (questioned : Questioned start)
    (completed : performAll lib start (done ++ label :: rest) = .ok final) :
    ∃ before after noted, performAll lib start done = .ok before ∧
      before.perform lib label.1 label.2 = .ok after ∧ after.trace = noted ++ before.trace ∧
      callsIn noted = callsOf lib before noted label := by
  obtain ⟨before, after, reached, performed, -⟩ := completed_round completed
  have holds : Questioned before :=
    foldlM_invariant (motive := Questioned)
      (fun _ questioned performed => (perform_calls questioned performed).2) questioned reached
  obtain ⟨⟨noted, trace, same⟩, -⟩ := perform_calls holds performed
  exact ⟨before, after, noted, reached, performed, trace, same⟩

/-- The message by which alice gives the command. -/
def openMessage : View × Action :=
  (.online, .ircEvent 1 (ascii "PRIVMSG") (ascii "alice") [ascii "#c", ascii "\x7dopen"])

/-- The bot asks who alice is, and does nothing else. -/
theorem calls_asked_open :
    ∃ before after noted,
      performAll (.knowing [commandRequest]) {} (openRun.take 2) = .ok before ∧
      before.perform (.knowing [commandRequest]) openMessage.1 openMessage.2 = .ok after ∧
      after.trace = noted ++ before.trace ∧
      callsIn noted = callsOf (.knowing [commandRequest]) before noted openMessage := by
  have split : openRun = openRun.take 2 ++ openMessage :: [] := rfl
  have waiting := openRun_waiting
  cases completed : performAll (.knowing [commandRequest]) {} openRun with
  | error fault =>
      rw [completed] at waiting
      cases waiting
  | ok pc =>
      rw [split] at completed
      exact calls_asked nofun completed

end PluginComm

end DaZeus
