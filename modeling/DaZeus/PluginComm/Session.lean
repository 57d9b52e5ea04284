import DaZeus.Library.Machine
import DaZeus.PluginComm.Conversation
import DaZeus.PluginComm.Output
import DaZeus.PluginComm.Store

/-!
# Each connection is a sequential server

`poll` works on many sockets, on copies of their entries, and events come in
between.  A plugin sees nothing of this: `connections_sequential` says that it
is answered as by a server of its own, which handles one request after the
other from a fresh socket.
-/

namespace DaZeus

open Library
open Std (TreeMap)

variable {lib : Libraries} {view : View}

/-- The socket without its buffers. -/
def SocketInfo.session (info : SocketInfo) : SocketInfo :=
  { info with waitingSize := 0, readahead := [], writebuffer := [] }

def Reply.session (reply : Reply) : Reply := { reply with info := reply.info.session }

namespace Reply

variable {reply : Reply} {name : String} {text : ByteString}

@[simp]
theorem session_set (value : Json) :
    (reply.set name value).session = reply.session.set name value := rfl

@[simp]
theorem session_setString :
    (reply.setString lib name text).session = reply.session.setString lib name text := by
  unfold setString
  split <;> rfl

@[simp]
theorem session_success : reply.success.session = reply.session.success := rfl

@[simp]
theorem session_throw (what : String) :
    (reply.throw what).session = reply.session.throw what := rfl

@[simp]
theorem session_throwText : (reply.throwText text).session = reply.session.throwText text := rfl

@[simp]
theorem session_callNetwork (network : NetworkId) (call : NetworkCall) :
    (reply.callNetwork network call).session = reply.session.callNetwork network call := rfl

@[simp]
theorem session_wrote (write : DatabaseWrite) :
    (reply.wrote write).session = reply.session.wrote write := rfl

theorem session_database {α : Type} {result : Except ByteString α} {next : Reply → α → Reply}
    (keeps : ∀ reply value, (next reply value).session = next reply.session value) :
    (reply.database result next).session = reply.session.database result next := by
  cases result with
  | error what => rfl
  | ok value => exact keeps reply value

end Reply

namespace PluginComm

variable {reply : Reply} {params scope : List ByteString} {action : ByteString}

theorem countChanges_session {change : SocketInfo → ByteString → SocketInfo × Bool}
    (keeps : ∀ info name, change info.session name =
      ((change info name).1.session, (change info name).2)) (info : SocketInfo)
    (names : List ByteString) :
    countChanges change info.session names =
      ((countChanges change info names).1.session, (countChanges change info names).2) := by
  induction names generalizing info with
  | nil => rfl
  | cons name names inductionHypothesis =>
      simp only [countChanges, keeps, inductionHypothesis]

theorem handleHandshake_session :
    (handleHandshake lib params reply).session = handleHandshake lib params reply.session := by
  unfold handleHandshake
  dsimp only
  rw [← Reply.session_setString]
  have same (reply : Reply) : reply.session.info.didHandshake = reply.info.didHandshake := rfl
  rw [same]
  split
  · simp
  · split
    · simp
    · split
      · simp
      · rfl

theorem handleOnNetwork_session :
    (handleOnNetwork lib view action params reply).session =
      handleOnNetwork lib view action params reply.session := by
  unfold handleOnNetwork
  dsimp only
  split
  · simp [apply_ite Reply.session]
  · split
    · simp [apply_ite Reply.session]
    · split
      · simp [apply_ite Reply.session]
      · split <;> simp [apply_ite Reply.session]

theorem handleOnChannel_session :
    (handleOnChannel lib view action params reply).session =
      handleOnChannel lib view action params reply.session := by
  unfold handleOnChannel
  dsimp only
  split
  · simp
  · split
    · simp [apply_ite Reply.session]
    · split <;> simp [apply_ite Reply.session]

/-- The end of a request that counts changes. -/
theorem counted_session (change : SocketInfo → ByteString → SocketInfo × Bool)
    (params : List ByteString) (keeps : ∀ info name, change info.session name =
      ((change info name).1.session, (change info name).2)) (counter : String) (reply : Reply) :
    ({ reply with info := (countChanges change reply.info params).1 }.set counter
        (.integer (countChanges change reply.info params).2)).session =
      { reply.session with info := (countChanges change reply.session.info params).1 }.set counter
        (.integer (countChanges change reply.session.info params).2) := by
  have counted : countChanges change reply.session.info params =
      ((countChanges change reply.info params).1.session,
        (countChanges change reply.info params).2) :=
    countChanges_session keeps reply.info params
  rw [counted]
  rfl

theorem handleSubscribe_session :
    (handleSubscribe lib params reply).session = handleSubscribe lib params reply.session := by
  have counted (reply : Reply) := counted_session (SocketInfo.subscribe lib) params
    (fun info name => by
      have same : info.session.isSubscribed lib name = info.isSubscribed lib name := rfl
      unfold SocketInfo.subscribe
      rw [same]
      split <;> rfl) "added" reply
  have named : ((reply.setString lib "did" (ascii "subscribe")).success).session =
      (reply.session.setString lib "did" (ascii "subscribe")).success := by simp
  apply (counted _).trans
  rw [named]
  rfl

theorem handleUnsubscribe_session :
    (handleUnsubscribe lib params reply).session = handleUnsubscribe lib params reply.session := by
  have counted (reply : Reply) := counted_session (SocketInfo.unsubscribe lib) params
    (fun info name => by
      have same : info.session.isSubscribed lib name = info.isSubscribed lib name := rfl
      unfold SocketInfo.unsubscribe
      rw [same]
      split <;> rfl) "removed" reply
  have named : ((reply.setString lib "did" (ascii "unsubscribe")).success).session =
      (reply.session.setString lib "did" (ascii "unsubscribe")).success := by simp
  apply (counted _).trans
  rw [named]
  rfl

theorem handleCommand_session :
    (handleCommand lib view params reply).session =
      handleCommand lib view params reply.session := by
  have register (reply : Reply) (name : ByteString) (requirement : RequirementInfo) :
      (Reply.success
          { reply with info := reply.info.subscribeToCommand name requirement }).session =
        Reply.success { reply.session with
          info := reply.session.info.subscribeToCommand name requirement } := rfl
  unfold handleCommand
  dsimp only
  rw [← Reply.session_setString]
  split
  · simp
  · split
    · exact register _ _ _
    · split
      · split
        · simp
        · split <;> exact register _ _ _
      · simp

theorem handleProperty_session :
    (handleProperty lib view params scope reply).session =
      handleProperty lib view params scope reply.session := by
  unfold handleProperty
  dsimp only
  rw [← Reply.session_setString]
  split
  · simp
  · split
    · apply Reply.session_database
      intro reply value
      split <;> simp
    · split
      · split
        · simp
        · exact Reply.session_database fun _ _ => by simp
      · split
        · exact Reply.session_database fun _ _ => by simp
        · split
          · exact Reply.session_database fun _ _ => by simp
          · simp

theorem handleConfig_session :
    (handleConfig lib view params reply).session = handleConfig lib view params reply.session := by
  have same (reply : Reply) : reply.session.info.didHandshake = reply.info.didHandshake ∧
      reply.session.info.configGroup = reply.info.configGroup := ⟨rfl, rfl⟩
  unfold handleConfig
  dsimp only
  rw [← Reply.session_setString]
  simp only [same]
  split
  · simp
  · split
    · split
      · simp
      · split <;> simp
    · split
      · split <;> simp
      · simp

theorem handlePermission_session :
    (handlePermission lib view params scope reply).session =
      handlePermission lib view params scope reply.session := by
  unfold handlePermission
  dsimp only
  rw [← Reply.session_setString]
  split
  · simp
  · split
    · simp
    · split
      · split
        · rfl
        · exact Reply.session_database fun _ _ => by simp
      · split
        · exact Reply.session_database fun _ _ => by simp
        · split
          · split
            · simp
            · exact Reply.session_database fun _ _ => by simp
          · simp

/-- A request neither reads the buffers nor changes them. -/
theorem handleAction_session :
    (handleAction lib view action params scope reply).session =
      handleAction lib view action params scope reply.session := by
  have either {asked : Prop} [Decidable asked] {first second here there : Reply}
      (same : first.session = here) (otherwise : second.session = there) :
      (if asked then first else second).session = if asked then here else there := by
    rw [apply_ite Reply.session, same, otherwise]
  unfold handleAction
  apply either (by simp [handleNetworks])
  apply either handleHandshake_session
  apply either
  · have named : (reply.setString lib "did" (ascii "reload")).success.session =
        (reply.session.setString lib "did" (ascii "reload")).success := by simp
    unfold handleReload
    rw [← named]
    rfl
  apply either handleOnNetwork_session
  apply either handleOnChannel_session
  apply either handleSubscribe_session
  apply either handleUnsubscribe_session
  apply either handleCommand_session
  apply either handleProperty_session
  apply either handleConfig_session
  apply either handlePermission_session
  rfl

theorem handle_session (input : Json) (info : SocketInfo) :
    handle lib view input info.session = (handle lib view input info).session := by
  unfold handle
  cases readParams input with
  | error what => rfl
  | ok params =>
      cases readAction input with
      | error what => rfl
      | ok action =>
          have same : (handleAction lib view action params (readScope input) { info }).session =
              handleAction lib view action params (readScope input) (Reply.session { info }) :=
            handleAction_session
          exact same.symm

/-! ## The server -/

/-- The server of one connection. -/
def server (lib : Libraries) : Machine SocketInfo (View × Json) Message where
  next info request := (handle lib request.1 request.2 info).info
  answer info request := .response request.1 request.2 info

theorem server_next (request : View × Json) (info : SocketInfo) :
    (server lib).next info.session request = ((server lib).next info request).session :=
  congrArg Reply.info (handle_session request.2 info)

theorem responseFrame_session (input : Json) (info : SocketInfo) :
    responseFrame lib view input info.session = responseFrame lib view input info := by
  have members (reply : Reply) : responseMembers lib reply.session = responseMembers lib reply := by
    unfold responseMembers
    have thrown : reply.session.thrown = reply.thrown := rfl
    rw [thrown]
    cases reply.thrown with
    | none => rfl
    | some what =>
        have failed : ((reply.session.set "success" (.bool false)).setString lib "error" what) =
            ((reply.set "success" (.bool false)).setString lib "error" what).session := by simp
        simp only [failed]
        rfl
  unfold responseFrame
  rw [handle_session, members]

/-- A packet of a plugin and the request in it. -/
structure Packet (lib : Libraries) where
  bytes : ByteString
  input : Json
  loads : lib.loads (cStr bytes) = some input
  inside : ¬LacksPermission input

/-- The packets of one connection, action by action, each with the view of its action. -/
abbrev Rounds (lib : Libraries) := List (View × List (Packet lib))

namespace Rounds

def packets (rounds : Rounds lib) : List ByteString :=
  rounds.flatMap fun round => round.2.map Packet.bytes

def requests (rounds : Rounds lib) : List (View × Json) :=
  rounds.flatMap fun round => round.2.map fun packet => (round.1, packet.input)

variable (rounds : Rounds lib) (view : View) (read : List (Packet lib)) (packet : Packet lib)

theorem packets_snoc : packets (rounds ++ [(view, read ++ [packet])]) =
    packets (rounds ++ [(view, read)]) ++ [packet.bytes] := by
  simp [packets]

theorem requests_snoc : requests (rounds ++ [(view, read ++ [packet])]) =
    requests (rounds ++ [(view, read)]) ++ [(view, packet.input)] := by
  simp [requests]

/-- Each packet is the text of its request. -/
theorem loads_packets : (packets rounds).map (fun packet => lib.loads (cStr packet)) =
    ((requests rounds).map Prod.snd).map some := by
  have loads (read : List (Packet lib)) :
      read.map (fun packet => lib.loads (cStr packet.bytes)) =
        read.map (fun packet => some packet.input) :=
    List.map_congr_left fun packet _ => packet.loads
  simp only [packets, requests, List.map_flatMap, List.map_map, Function.comp_def, loads]

theorem packets_pause : packets (rounds ++ [(view, [])]) = packets rounds := by
  simp [packets]

theorem requests_pause : requests (rounds ++ [(view, [])]) = requests rounds := by
  simp [requests]

end Rounds

/-- Since the descriptor was last accepted, these packets were handled, and these responses
produced among the events. -/
def Said (lib : Libraries) (fd : Nat) (packets : List ByteString) (responses : List Message)
    (pc : PluginComm) : Prop :=
  handled fd pc.trace = packets ∧ ∃ messages : List Message,
    produced fd pc.trace = messages.flatMap (Message.bytes lib) ∧
      messages.filter Message.isResponse = responses

section Said

variable {fd : Nat} {packets : List ByteString} {responses : List Message} {pc : PluginComm}
  {event : TraceEvent}

theorem Said.record (said : Said lib fd packets responses pc) (other : event.isConnect fd = false)
    (handled : event.handledPacket fd = []) (produced : event.producedBytes fd = []) :
    Said lib fd packets responses (pc.record event) := by
  obtain ⟨same, messages, bytes, answers⟩ := said
  refine ⟨?_, messages, ?_, answers⟩
  · exact (gather_cons_of_nil other handled).trans same
  · exact (gather_cons_of_nil other produced).trans bytes

theorem Said.dispatchTo (said : Said lib fd packets responses pc) (target : Nat)
    (event : EventName) (parameters : List ByteString) :
    Said lib fd packets responses (pc.dispatchTo lib target event parameters) := by
  by_cases own : target = fd
  · obtain ⟨same, messages, bytes, answers⟩ := said
    refine ⟨?_, messages ++ [.event event parameters], ?_, ?_⟩
    · rw [dispatchTo_trace, handled, gather_cons_of_nil rfl rfl]
      exact same
    · rw [dispatchTo_trace, produced, gather_cons rfl]
      simp only [TraceEvent.producedBytes, own, if_true, List.flatMap_append,
        List.flatMap_singleton]
      exact congrArg (· ++ _) bytes
    · rw [List.filter_append]
      exact (List.append_nil _).trans answers
  · exact said.record rfl rfl (if_neg own)

theorem Said.incidental (incidental : event.Incidental) (said : Said lib fd packets responses pc) :
    Said lib fd packets responses (pc.record event) := by
  cases incidental <;> exact said.record rfl rfl rfl

/-- A packet is handled, and its response produced. -/
theorem Said.answer {packet : ByteString} {input : Json} {it : Iteration} (info : SocketInfo)
    (same : responseFrame lib view input info = responseFrame lib view input it.info)
    (said : Said lib fd packets responses it.pc) :
    Said lib fd (packets ++ [packet]) (responses ++ [.response view input info])
      (PluginComm.answer lib view fd packet input it).pc := by
  have opened : Said lib fd (packets ++ [packet]) responses
      (it.pc.record (.handled fd packet)) := by
    obtain ⟨before, messages, bytes, answers⟩ := said
    refine ⟨?_, messages, (gather_cons_of_nil rfl rfl).trans bytes, answers⟩
    rw [record_trace, handled, gather_cons rfl]
    simp only [TraceEvent.handledPacket, if_true]
    exact congrArg (· ++ _) before
  obtain ⟨pc, ⟨before, messages, bytes, answers⟩, reached⟩ := answer_pc lib view fd packet input it
    (motive := Said lib fd (packets ++ [packet]) responses) Said.incidental
    (fun _ => callNetwork_invariant Said.incidental fun said _ _ => said.dispatchTo _ _ _) opened
  rw [reached]
  refine ⟨(gather_cons_of_nil rfl rfl).trans before, messages ++ [.response view input info],
    ?_, ?_⟩
  · rw [record_trace, produced, gather_cons rfl, ← same]
    simp only [TraceEvent.producedBytes, if_true, List.flatMap_append, List.flatMap_singleton]
    exact congrArg (· ++ _) bytes
  · rw [List.filter_append, answers]
    rfl

end Said

/-- The connection is where the server is after its requests. -/
structure Sequential (lib : Libraries) (fd : Nat) (type : ByteString) (rounds : Rounds lib)
    (pc : PluginComm) : Prop where
  said : Said lib fd rounds.packets ((server lib).answers { type } rounds.requests) pc
  session : ∀ info, pc.sockets[fd]? = some info →
    info.session = (server lib).run { type } rounds.requests

namespace Sequential

variable {fd : Nat} {type : ByteString} {rounds : Rounds lib} {pc after : PluginComm}
  {event : TraceEvent} {io : Nat → SocketInput}

theorem record (sequential : Sequential lib fd type rounds pc)
    (other : event.isConnect fd = false) (handled : event.handledPacket fd = [])
    (produced : event.producedBytes fd = []) :
    Sequential lib fd type rounds (pc.record event) :=
  ⟨sequential.said.record other handled produced, sequential.session⟩

theorem dispatchTo (sequential : Sequential lib fd type rounds pc) (target : Nat)
    (event : EventName) (parameters : List ByteString) :
    Sequential lib fd type rounds (pc.dispatchTo lib target event parameters) := by
  refine ⟨sequential.said.dispatchTo target event parameters, fun info found => ?_⟩
  rw [dispatchTo_sockets] at found
  split at found
  · next own =>
      obtain ⟨entry, there, rfl⟩ := Option.map_eq_some_iff.mp found
      rw [own] at there
      exact sequential.session entry there
  · exact sequential.session info found

theorem incidental (incidental : event.Incidental)
    (sequential : Sequential lib fd type rounds pc) :
    Sequential lib fd type rounds (pc.record event) :=
  ⟨sequential.said.incidental incidental, sequential.session⟩

theorem eventClosed (lib : Libraries) (fd : Nat) (type : ByteString) (rounds : Rounds lib) :
    EventClosed lib (Sequential lib fd type rounds) where
  dispatchTo event parameters sequential _ := sequential.dispatchTo _ event parameters
  record := incidental
  delivered _ _ sequential := sequential.record rfl rfl rfl
  queue _ sequential := ⟨sequential.said, sequential.session⟩

/-- Nothing that is done for another socket concerns the connection. -/
theorem pollClosed {other : Nat} (different : other ≠ fd) :
    PollClosed lib other (Sequential lib fd type rounds) where
  dispatchTo event parameters sequential _ := sequential.dispatchTo _ event parameters
  record := by
    intro pc event own sequential
    cases own with
    | handled packet => exact sequential.record rfl (if_neg different) rfl
    | produced bytes => exact sequential.record rfl rfl (if_neg different)
    | incidental harmless => exact sequential.incidental harmless
    | _ => exact sequential.record rfl rfl rfl

theorem insert_other {other : Nat} (different : other ≠ fd) (info : SocketInfo)
    (sequential : Sequential lib fd type rounds pc) :
    Sequential lib fd type rounds { pc with sockets := pc.sockets.insert other info } := by
  refine ⟨sequential.said, fun entry found => ?_⟩
  simp only [TreeMap.getElem?_insert, compare_eq_iff_eq, different, if_false] at found
  exact sequential.session entry found

theorem erase (other : Nat) (sequential : Sequential lib fd type rounds pc) :
    Sequential lib fd type rounds { pc with sockets := pc.sockets.erase other } := by
  refine ⟨sequential.said, fun entry found => ?_⟩
  simp only [TreeMap.getElem?_erase] at found
  split at found
  · cases found
  · exact sequential.session entry found

theorem pause (view : View) (sequential : Sequential lib fd type rounds pc) :
    Sequential lib fd type (rounds ++ [(view, [])]) pc := by
  refine ⟨?_, ?_⟩
  · rw [Rounds.packets_pause, Rounds.requests_pause]
    exact sequential.said
  · rw [Rounds.requests_pause]
    exact sequential.session

/-- What an iteration notes of its reads and writes. -/
theorem said_recordAll {packets : List ByteString} {responses : List Message}
    {noted : List TraceEvent} (said : Said lib fd packets responses pc)
    (own : ∀ event ∈ noted, (∃ bytes, event = .read fd bytes) ∨ (∃ bytes, event = .wrote fd bytes) ∨
      event = .closed fd) : Said lib fd packets responses (pc.recordAll noted) := by
  apply recordAll_invariant _ said
  intro pc event inside said
  rcases own event inside with ⟨bytes, rfl⟩ | ⟨bytes, rfl⟩ | rfl <;> exact said.record rfl rfl rfl

/-- The iteration of the connection answers what it reads from the copy, and writes the copy
back. -/
theorem polled (polled : Polled lib view io pc fd after)
    (sequential : Sequential lib fd type (rounds ++ [(view, [])]) pc) :
    ∃ read, Sequential lib fd type (rounds ++ [(view, read)]) after := by
  cases polled with
  | absent _ => exact ⟨[], sequential⟩
  | failed => exact ⟨[], sequential.record rfl rfl rfl⟩
  | @served info toRemove it found ready parsed =>
      obtain ⟨noted, removed, reads, -, events⟩ := readSocket_spec fd (io fd).reads
        { pc, info, toRemove, callbacks := (io fd).callbacks }
      rw [reads] at parsed
      obtain ⟨read, said, session⟩ := parseSocket_loaded
        (motive := fun it => ∃ read : List (Packet lib),
          Said lib fd (Rounds.packets (rounds ++ [(view, read)]))
            ((server lib).answers { type } (Rounds.requests (rounds ++ [(view, read)]))) it.pc ∧
          it.info.session = (server lib).run { type } (Rounds.requests (rounds ++ [(view, read)])))
        (fun _ _ holds => holds)
        (by
          rintro it packet input loaded inside ⟨read, said, session⟩
          refine ⟨read ++ [⟨packet, input, loaded, inside⟩], ?_, ?_⟩
          · rw [Rounds.packets_snoc, Rounds.requests_snoc, Machine.answers_snoc, ← session]
            exact said.answer it.info.session (responseFrame_session input it.info)
          · rw [Rounds.requests_snoc, Machine.run_snoc, ← session, server_next, answer_info]
            rfl)
        parsed
        ⟨[], said_recordAll sequential.said fun event inside =>
            (events event inside).imp_right .inr, sequential.session info found⟩
      obtain ⟨others, gone, writebuffer, writes, -, outcomes⟩ :=
        writeSocket_spec fd (io fd).writes it
      rw [writes]
      refine ⟨read, said_recordAll said fun event inside => .inr (outcomes event inside), ?_⟩
      intro entry there
      simp only [Iteration.writeBack, TreeMap.getElem?_insert_self] at there
      cases there
      exact session

/-- A round reads some packets of the connection. -/
theorem poll (completed : pc.poll lib view io = .ok after)
    (sequential : Sequential lib fd type rounds pc) :
    ∃ read, Sequential lib fd type (rounds ++ [(view, read)]) after := by
  obtain ⟨read, reached, -⟩ := poll_remaining
    (motive := fun remaining pc => ∃ read, Sequential lib fd type (rounds ++ [(view, read)]) pc ∧
      (fd ∈ remaining → read = []))
    (by
      rintro other remaining before after fresh step ⟨read, holds, unread⟩
      by_cases own : other = fd
      · subst own
        rw [unread List.mem_cons_self] at holds
        obtain ⟨read, later⟩ := holds.polled step
        exact ⟨read, later, fun inside => absurd inside fresh⟩
      · exact ⟨read, (pollClosed own).pollSocket (fun info => insert_other own info) step holds,
          fun inside => unread (List.mem_cons_of_mem _ inside)⟩)
    (fun other ⟨read, holds, unread⟩ => ⟨read, holds.erase other, unread⟩)
    completed ⟨[], sequential.pause view, fun _ => rfl⟩
  exact ⟨read, reached⟩

/-- Every action is a round of each connection, but for the one that accepts it. -/
theorem perform {label : View × Action} (performed : pc.perform lib label.1 label.2 = .ok after)
    (sequential : Sequential lib fd type rounds pc) :
    (∃ read, Sequential lib fd type (rounds ++ [(label.1, read)]) after) ∨
      ∃ type, Sequential lib fd type [] after := by
  obtain ⟨view, action⟩ := label
  cases action with
  | ircEvent network event origin params =>
      cases performed
      exact .inl ⟨[], (eventClosed lib fd type _).ircEvent (sequential.pause view)⟩
  | poll io => exact .inl (sequential.poll performed)
  | connect other type =>
      cases performed
      by_cases own : other = fd
      · subst own
        refine .inr ⟨type, ⟨gather_connected, [], gather_connected, rfl⟩, fun info found => ?_⟩
        simp only [connect, record_sockets, TreeMap.getElem?_insert_self] at found
        cases found
        rfl
      · have paused := (sequential.pause view).insert_other own { type }
        exact .inl ⟨[], paused.record (by simpa [TraceEvent.isConnect] using own) rfl rfl⟩

end Sequential

variable {pc start : PluginComm} {fd : Nat} {info : SocketInfo}

theorem performAll_sequential (initial : (system lib).initial start)
    {actions : List (View × Action)} (completed : performAll lib start actions = .ok pc)
    (fd : Nat) :
    ∃ (type : ByteString) (rounds : Rounds lib), rounds.map Prod.fst <:+ actions.map Prod.fst ∧
      Sequential lib fd type rounds pc := by
  obtain ⟨empty, -, trace⟩ := initial
  have started : Sequential lib fd [] [] start := by
    refine ⟨⟨by rw [trace]; rfl, [], by rw [trace]; rfl, rfl⟩, fun info found => ?_⟩
    rw [TreeMap.getElem?_of_isEmpty empty] at found
    cases found
  obtain ⟨done, split, type, rounds, recent, sequential⟩ := foldlM_remaining
    (motive := fun rest pc => ∃ done, done ++ rest = actions ∧
      ∃ (type : ByteString) (rounds : Rounds lib), rounds.map Prod.fst <:+ done.map Prod.fst ∧
        Sequential lib fd type rounds pc)
    (by
      rintro label rest before after ⟨done, split, type, rounds, ⟨older, recent⟩, holds⟩ step
      refine ⟨done ++ [label], by rw [List.append_assoc]; exact split, ?_⟩
      rcases holds.perform step with ⟨read, later⟩ | ⟨type, accepted⟩
      · refine ⟨type, rounds ++ [(label.1, read)], ⟨older, ?_⟩, later⟩
        rw [List.map_append, List.map_append, ← recent, List.append_assoc]
        rfl
      · exact ⟨type, [], List.nil_suffix, accepted⟩)
    ⟨[], rfl, [], [], List.nil_suffix, started⟩ completed
  rw [List.append_nil] at split
  exact ⟨type, rounds, split ▸ recent, sequential⟩

theorem sequential_of_reachable (reached : (system lib).Reachable pc) (fd : Nat) :
    ∃ (type : ByteString) (rounds : Rounds lib), Sequential lib fd type rounds pc := by
  apply reached.invariant (motive := fun pc => ∃ (type : ByteString) (rounds : Rounds lib),
    Sequential lib fd type rounds pc)
  · intro start initial
    obtain ⟨type, rounds, -, sequential⟩ :=
      @performAll_sequential lib start start initial [] rfl fd
    exact ⟨type, rounds, sequential⟩
  · rintro before label after ⟨type, rounds, sequential⟩ performed
    rcases sequential.perform performed with ⟨read, later⟩ | ⟨type, accepted⟩
    · exact ⟨type, _, later⟩
    · exact ⟨type, [], accepted⟩

end PluginComm

end DaZeus
