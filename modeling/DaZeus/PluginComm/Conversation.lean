import DaZeus.PluginComm.Framing
import DaZeus.PluginComm.Outcomes

/-!
# One response for each request

Whatever became of a request, its response has a boolean `success`, an error
text exactly when it failed, and one member that names the action.  On a
connection the responses stand in the order of the packets they answer, with
the events in between.
-/

namespace DaZeus

open Library
open Std (TreeMap)

/-- A value that `handle` takes for a parameter. -/
def Json.IsScalar : Json → Prop
  | .string _ | .integer _ | .real _ | .bool _ => True
  | _ => False

/-- `params` is absent or an array of scalars. -/
def SupportedParams (input : Json) : Prop :=
  ∀ params, input.objectGet (ascii "params") = some params →
    ∃ items, params = .array items ∧ ∀ item ∈ items, item.IsScalar

/-- The exceptions of the database say what they say in UTF-8. -/
def DatabaseView.Legible (lib : Libraries) (database : DatabaseView) : Prop :=
  ∀ what, database.Raises what → lib.validUtf8 (cStr what)

namespace PluginComm

open Reply

variable {lib : Libraries} {view : View} {info : SocketInfo} {input : Json}

/-- The shape of the response to a request. -/
structure Shaped (input : Json) (members : List (ByteString × Json)) : Prop where
  nodup : (members.map Prod.fst).Nodup
  success : ∃ value, (Json.object members).objectGet (ascii "success") = some (.bool value)
  error : (∃ text, (Json.object members).objectGet (ascii "error") = some (.string text)) ↔
    (Json.object members).objectGet (ascii "success") = some (.bool false)
  named : SupportedParams input → ∀ action ∈ knownActions, readAction input = .ok action →
    ∃ kind : Kind, (Json.object members).objectGet (ascii kind.name) = some (.string action) ∧
      (Json.object members).objectGet (ascii kind.other.name) = none

theorem paramTexts_scalars {items : List Json} (scalars : ∀ item ∈ items, item.IsScalar)
    (index : Nat) : ∃ texts, paramTexts index items = .ok texts := by
  induction items generalizing index with
  | nil => exact ⟨[], rfl⟩
  | cons item items inductionHypothesis =>
      obtain ⟨texts, rest⟩ := inductionHypothesis
        (fun other membership => scalars other (List.mem_cons_of_mem _ membership)) (index + 1)
      have scalar := scalars item List.mem_cons_self
      cases item with
      | string text => exact ⟨_, by rw [paramTexts, rest]; rfl⟩
      | integer value => exact ⟨_, by rw [paramTexts, rest]; rfl⟩
      | real printed => exact ⟨_, by rw [paramTexts, rest]; rfl⟩
      | bool value => exact ⟨_, by rw [paramTexts, rest]; rfl⟩
      | null => exact scalar.elim
      | array items => exact scalar.elim
      | object members => exact scalar.elim

theorem readParams_supported (supported : SupportedParams input) :
    ∃ params, readParams input = .ok params := by
  unfold readParams
  cases found : input.objectGet (ascii "params") with
  | none => exact ⟨[], rfl⟩
  | some params =>
      obtain ⟨items, rfl, scalars⟩ := supported params found
      obtain ⟨texts, read⟩ := paramTexts_scalars scalars 0
      refine ⟨texts, ?_⟩
      dsimp only
      rw [read]
      rfl

/-- Nothing but the exception handler of `poll` writes an error. -/
theorem handle_response (lib : Libraries) (view : View) (input : Json) (info : SocketInfo) :
    ((handle lib view input info).response.map Prod.fst).Nodup ∧
      (handle lib view input info).member "error" = none := by
  cases handle_handled lib view input info with
  | unreadable _ _ same => exact same ▸ ⟨List.nodup_nil, rfl⟩
  | dispatched _ _ dispatched =>
      cases dispatched with
      | known _ kind ends => exact ⟨ends.nodup, ends.noError⟩
      | unknown _ same => exact same ▸ ⟨List.nodup_nil, rfl⟩

theorem legible_of_raised {what : ByteString} (accepts : lib.AcceptsAscii)
    (legible : view.database.Legible lib) (raised : Raised view what) :
    lib.validUtf8 (cStr what) := by
  cases raised with
  | own plain =>
      apply accepts
      apply List.all_eq_true.mpr
      intro byte membership
      exact List.all_eq_true.mp plain byte ((List.takeWhile_prefix _).subset membership)
  | database raised => exact legible what raised

theorem answered_error_of_thrown {reply : Reply} {what : ByteString}
    (thrown : reply.thrown = some what) (legible : lib.validUtf8 (cStr what)) :
    answered lib reply "error" = some (.string (cStr what)) := by
  simp only [answered_of_thrown thrown, Reply.setString, Libraries.jsonString, legible, if_true,
    set_member]

theorem answered_named {reply : Reply} {name : String} (success : ascii name ≠ ascii "success")
    (error : ascii name ≠ ascii "error") : answered lib reply name = reply.member name := by
  cases thrown : reply.thrown with
  | none => exact answered_of_returned thrown
  | some what =>
      rw [answered_of_thrown thrown, member_setString_of_ne error, set_member, if_neg success]

/-- Every response has the same shape, on every path through `handle`. -/
theorem responseMembers_shaped (accepts : lib.AcceptsAscii)
    (legible : view.database.Legible lib) (inside : ¬LacksPermission input) :
    Shaped input (responseMembers lib (handle lib view input info)) where
  nodup := by
    obtain ⟨nodup, -⟩ := handle_response lib view input info
    unfold responseMembers
    split
    · exact nodup
    · next what _ =>
        rcases setString_cases lib ((handle lib view input info).set "success" (.bool false))
          "error" what with ⟨value, same⟩ | same
        · rw [same]
          exact set_nodup (set_nodup nodup)
        · rw [same]
          exact set_nodup nodup
  success := by
    cases handle_outcome lib view input info with
    | succeeded returned success => exact ⟨true, (answered_of_returned returned).trans success⟩
    | failed thrown _ _ => exact ⟨false, answered_success_of_thrown thrown⟩
    | stopped _ overran _ => exact absurd ((handle_overrun lib view input info).mp overran) inside
  error := by
    cases handle_outcome lib view input info with
    | succeeded returned success =>
        have noError : answered lib (handle lib view input info) "error" = none :=
          (answered_of_returned returned).trans (handle_response lib view input info).2
        have succeeded : answered lib (handle lib view input info) "success" = some (.bool true) :=
          (answered_of_returned returned).trans success
        constructor
        · rintro ⟨text, found⟩
          cases noError.symm.trans found
        · intro failed
          cases succeeded.symm.trans failed
    | failed thrown raised _ =>
        exact iff_of_true
          ⟨_, answered_error_of_thrown thrown (legible_of_raised accepts legible raised)⟩
          (answered_success_of_thrown thrown)
    | stopped _ overran _ => exact absurd ((handle_overrun lib view input info).mp overran) inside
  named := by
    intro supported action known asked
    obtain ⟨params, read⟩ := readParams_supported supported
    cases handle_handled lib view input info with
    | unreadable _ unread _ => exact absurd asked (unread params action read)
    | dispatched _ other dispatched =>
        cases asked.symm.trans other
        cases dispatched with
        | unknown unknown _ => exact absurd known unknown
        | known _ kind ends =>
            refine ⟨kind, ?_, ?_⟩
            · apply (answered_named (by cases kind <;> decide) (by cases kind <;> decide)).trans
              exact ends.named accepts
            · apply (answered_named (by cases kind <;> decide) (by cases kind <;> decide)).trans
              exact ends.once

/-! ## Packets and their responses -/

/-- A packet of a connection, the request in it, and where it was handled. -/
structure Exchange (lib : Libraries) where
  view : View
  packet : ByteString
  input : Json
  info : SocketInfo
  parsed : lib.loads (cStr packet) = some input
  inside : ¬LacksPermission input

namespace Exchange

def response (exchange : Exchange lib) : Message :=
  .response exchange.view exchange.input exchange.info

def members (exchange : Exchange lib) : List (ByteString × Json) :=
  responseMembers lib (handle lib exchange.view exchange.input exchange.info)

def Legible (exchange : Exchange lib) : Prop := exchange.view.database.Legible lib

theorem shaped (accepts : lib.AcceptsAscii) {exchange : Exchange lib}
    (legible : exchange.Legible) : Shaped exchange.input exchange.members :=
  responseMembers_shaped accepts legible exchange.inside

end Exchange

def Message.isResponse : Message → Bool
  | .event _ _ => false
  | .response _ _ _ => true

/-- What was produced for a connection are messages, and the responses among them answer
its packets in order, but for those that are `unanswered`. -/
def Conversing (lib : Libraries) (fd : Nat) (unanswered : List ByteString) (pc : PluginComm) :
    Prop :=
  ∃ (messages : List Message) (exchanges : List (Exchange lib)),
    produced fd pc.trace = messages.flatMap (Message.bytes lib) ∧
      messages.filter Message.isResponse = exchanges.map Exchange.response ∧
      handled fd pc.trace = exchanges.map Exchange.packet ++ unanswered ∧
      ∀ exchange ∈ exchanges, exchange.Legible

section Conversing

variable {fd : Nat} {unanswered : List ByteString} {pc after : PluginComm} {event : TraceEvent}
  {io : Nat → SocketInput}

theorem conversing_record (other : event.isConnect fd = false)
    (handled : event.handledPacket fd = []) (produced : event.producedBytes fd = [])
    (holds : Conversing lib fd unanswered pc) : Conversing lib fd unanswered (pc.record event) := by
  obtain ⟨messages, exchanges, bytes, responses, packets, legible⟩ := holds
  refine ⟨messages, exchanges, ?_, responses, ?_, legible⟩
  · exact (gather_cons_of_nil other produced).trans bytes
  · exact (gather_cons_of_nil other handled).trans packets

theorem conversing_incidental (incidental : event.Incidental)
    (holds : Conversing lib fd unanswered pc) : Conversing lib fd unanswered (pc.record event) := by
  cases incidental <;> exact conversing_record rfl rfl rfl holds

/-- An event that is dispatched to the connection is one more message. -/
theorem conversing_dispatchTo (target : Nat) (event : EventName) (parameters : List ByteString)
    (holds : Conversing lib fd unanswered pc) :
    Conversing lib fd unanswered (pc.dispatchTo lib target event parameters) := by
  by_cases own : target = fd
  · subst own
    obtain ⟨messages, exchanges, bytes, responses, packets, legible⟩ := holds
    refine ⟨messages ++ [.event event parameters], exchanges, ?_, ?_, ?_, legible⟩
    · rw [dispatchTo_trace, produced, gather_cons rfl]
      simp only [TraceEvent.producedBytes, if_true, List.flatMap_append, List.flatMap_singleton]
      exact congrArg (· ++ _) bytes
    · rw [List.filter_append]
      exact (List.append_nil _).trans responses
    · rw [dispatchTo_trace, handled, gather_cons_of_nil rfl rfl]
      exact packets
  · have silent : (TraceEvent.produced target
        (SocketInfo.eventFrame lib event parameters)).producedBytes fd = [] := by
      simp [TraceEvent.producedBytes, own]
    exact conversing_record rfl rfl silent holds

theorem conversing_eventClosed (lib : Libraries) (fd : Nat) (unanswered : List ByteString) :
    EventClosed lib (Conversing lib fd unanswered) where
  dispatchTo event parameters holds _ := conversing_dispatchTo _ event parameters holds
  record := conversing_incidental
  delivered _ _ := conversing_record rfl rfl rfl
  queue _ holds := holds

theorem conversing_pollClosed {other : Nat} (different : other ≠ fd) :
    PollClosed lib other (Conversing lib fd unanswered) where
  dispatchTo event parameters holds _ := conversing_dispatchTo _ event parameters holds
  record := by
    intro pc event own holds
    cases own with
    | handled packet =>
        exact conversing_record rfl (by simp [TraceEvent.handledPacket, different]) rfl holds
    | produced bytes =>
        exact conversing_record rfl rfl (by simp [TraceEvent.producedBytes, different]) holds
    | incidental incidental => exact conversing_incidental incidental holds
    | _ => exact conversing_record rfl rfl rfl holds

/-- Answering a packet adds one exchange, whatever is dispatched meanwhile. -/
theorem conversing_answer {packet : ByteString} {it : Iteration}
    (parsed : lib.loads (cStr packet) = some input) (inside : ¬LacksPermission input)
    (legible : view.database.Legible lib) (holds : Conversing lib fd [] it.pc) :
    Conversing lib fd [] (answer lib view fd packet input it).pc := by
  have opened : Conversing lib fd [packet] (it.pc.record (.handled fd packet)) := by
    obtain ⟨messages, exchanges, bytes, responses, packets, others⟩ := holds
    refine ⟨messages, exchanges, ?_, responses, ?_, others⟩
    · exact (gather_cons_of_nil rfl rfl).trans bytes
    · rw [record_trace, handled, gather_cons rfl]
      simp only [TraceEvent.handledPacket, if_true]
      exact congrArg (· ++ _) (packets.trans (List.append_nil _))
  obtain ⟨pc, reached, same⟩ := answer_pc lib view fd packet input it
    (motive := Conversing lib fd [packet]) conversing_incidental
    (fun _ => callNetwork_invariant conversing_incidental fun holds found _ =>
      conversing_dispatchTo _ _ _ holds) opened
  obtain ⟨messages, exchanges, bytes, responses, packets, others⟩ := reached
  let exchange : Exchange lib := ⟨view, packet, input, it.info, parsed, inside⟩
  rw [same]
  refine ⟨messages ++ [exchange.response], exchanges ++ [exchange], ?_, ?_, ?_, ?_⟩
  · rw [record_trace, produced, gather_cons rfl]
    simp only [TraceEvent.producedBytes, if_true, List.flatMap_append, List.flatMap_singleton]
    exact congrArg (· ++ _) bytes
  · rw [List.filter_append, List.map_append, responses]
    rfl
  · rw [record_trace, handled, gather_cons_of_nil rfl rfl, List.map_append, List.append_nil]
    exact packets
  · intro other membership
    rcases List.mem_append.mp membership with earlier | last
    · exact others other earlier
    · rw [List.mem_singleton.mp last]
      exact legible

theorem conversing_polled (legible : view.database.Legible lib)
    (polled : Polled lib view io pc fd after) (holds : Conversing lib fd [] pc) :
    Conversing lib fd [] after := by
  cases polled with
  | absent _ => exact holds
  | failed => exact conversing_record rfl rfl rfl holds
  | @served info toRemove it found ready parsed =>
      have reading : Conversing lib fd [] (readSocket fd (io fd).reads
          { pc, info, toRemove, callbacks := (io fd).callbacks }).pc := by
        obtain ⟨noted, removed, same, -, events⟩ := readSocket_spec fd (io fd).reads
          { pc, info, toRemove, callbacks := (io fd).callbacks }
        rw [same]
        apply recordAll_invariant ?_ holds
        intro pc event membership holds
        rcases events event membership with ⟨bytes, rfl⟩ | rfl
        · exact conversing_record rfl rfl rfl holds
        · exact conversing_record rfl rfl rfl holds
      have answered : Conversing lib fd [] it.pc :=
        parseSocket_loaded (motive := fun it => Conversing lib fd [] it.pc)
          (fun _ _ holds => holds)
          (fun loaded inside => conversing_answer loaded inside legible) parsed reading
      obtain ⟨noted, removed, writebuffer, same, -, events⟩ :=
        writeSocket_spec fd (io fd).writes it
      have written : Conversing lib fd [] (writeSocket fd (io fd).writes it).pc := by
        rw [same]
        apply recordAll_invariant ?_ answered
        intro pc event membership holds
        rcases events event membership with ⟨bytes, rfl⟩ | rfl
        · exact conversing_record rfl rfl rfl holds
        · exact conversing_record rfl rfl rfl holds
      exact written

theorem conversing_perform {label : View × Action} (legible : label.1.database.Legible lib)
    (completed : pc.perform lib label.1 label.2 = .ok after) (holds : Conversing lib fd [] pc) :
    Conversing lib fd [] after := by
  obtain ⟨view, action⟩ := label
  cases action with
  | ircEvent network event origin params =>
      cases completed
      exact (conversing_eventClosed lib fd []).ircEvent holds
  | poll io =>
      refine poll_invariant ?_ (fun _ holds => holds) completed holds
      intro before after other polled holds
      by_cases own : other = fd
      · subst own
        exact conversing_polled legible polled holds
      · exact (conversing_pollClosed own).pollSocket (fun _ holds => holds) polled holds
  | connect other type =>
      cases completed
      by_cases own : other = fd
      · subst own
        exact ⟨[], [], gather_connected, rfl, gather_connected, by simp⟩
      · exact conversing_record (by simpa [TraceEvent.isConnect] using own) rfl rfl holds

end Conversing

/-- What one parse loop adds to the copy's write buffer are the responses to its packets. -/
theorem parsePackets_responses {fd fuel : Nat} {it after : Iteration}
    (legible : view.database.Legible lib)
    (parsed : parsePackets lib view fd fuel it = .ok after) :
    ∃ exchanges : List (Exchange lib), (∀ exchange ∈ exchanges, exchange.Legible) ∧
      handled fd after.pc.trace = handled fd it.pc.trace ++ exchanges.map Exchange.packet ∧
      after.info.writebuffer = it.info.writebuffer ++
        exchanges.flatMap (fun exchange => exchange.response.bytes lib) := by
  refine parsePackets_loaded (motive := fun after => ∃ exchanges : List (Exchange lib),
    (∀ exchange ∈ exchanges, exchange.Legible) ∧
    handled fd after.pc.trace = handled fd it.pc.trace ++ exchanges.map Exchange.packet ∧
    after.info.writebuffer = it.info.writebuffer ++
      exchanges.flatMap (fun exchange => exchange.response.bytes lib)) ?_ ?_ parsed
    ⟨[], by simp, by simp, by simp⟩
  · intro it waitingSize readahead holds
    exact holds
  · rintro reached packet input loaded inside ⟨exchanges, others, packets, buffer⟩
    let exchange : Exchange lib := ⟨view, packet, input, reached.info, loaded, inside⟩
    refine ⟨exchanges ++ [exchange], ?_, ?_, ?_⟩
    · intro other membership
      rcases List.mem_append.mp membership with earlier | last
      · exact others other earlier
      · rw [List.mem_singleton.mp last]
        exact legible
    · rw [(answer_trace lib view fd packet input reached).2, packets, List.map_append,
        List.append_assoc]
      rfl
    · rw [answer_info, (handle_info lib view input reached.info).writebuffer, buffer,
        List.flatMap_append, List.append_assoc]
      simp [exchange, Exchange.response, Message.bytes]

/-- On every connection there is one response for each packet, in the order of the packets; each
has a boolean `success`, an error text exactly when it failed, and names the action it is about.
They are all that a parse loop appends to the write buffer. -/
theorem one_response_each (accepts : lib.AcceptsAscii) :
    (∀ (pc : PluginComm) (fd : Nat),
      ((system lib).guard fun _ label => label.1.database.Legible lib).Reachable pc →
      ∃ (messages : List Message) (exchanges : List (Exchange lib)),
        produced fd pc.trace = messages.flatMap (Message.bytes lib) ∧
          messages.filter Message.isResponse = exchanges.map Exchange.response ∧
          handled fd pc.trace = exchanges.map Exchange.packet ∧
          ∀ exchange ∈ exchanges, Shaped exchange.input exchange.members) ∧
      ∀ (view : View) (fd fuel : Nat) (it after : Iteration), view.database.Legible lib →
        parsePackets lib view fd fuel it = .ok after →
        ∃ exchanges : List (Exchange lib),
          handled fd after.pc.trace = handled fd it.pc.trace ++ exchanges.map Exchange.packet ∧
            after.info.writebuffer = it.info.writebuffer ++
              exchanges.flatMap (fun exchange => exchange.response.bytes lib) ∧
            ∀ exchange ∈ exchanges, Shaped exchange.input exchange.members := by
  constructor
  · intro pc fd reached
    have holds : Conversing lib fd [] pc := by
      refine reached.invariant (motive := Conversing lib fd []) ?_
        fun holds (step : _ ∧ _) => conversing_perform step.1 step.2 holds
      rintro start ⟨-, -, trace⟩
      refine ⟨[], [], ?_, rfl, ?_, by simp⟩ <;> rw [trace] <;> rfl
    obtain ⟨messages, exchanges, bytes, responses, packets, legible⟩ := holds
    refine ⟨messages, exchanges, bytes, responses, packets.trans (List.append_nil _), ?_⟩
    intro exchange membership
    exact Exchange.shaped accepts (legible exchange membership)
  · intro view fd fuel it after legible parsed
    obtain ⟨exchanges, others, packets, buffer⟩ := parsePackets_responses legible parsed
    refine ⟨exchanges, packets, buffer, ?_⟩
    intro exchange membership
    exact Exchange.shaped accepts (others exchange membership)

theorem legible_bare : View.bare.database.Legible lib := by
  intro what raised
  cases raised <;> next raised => cases raised

theorem acceptsAscii_knowing (known : List Json) : (Libraries.knowing known).AcceptsAscii := by
  intro text plain
  exact plain

/-- The one packet of a connection is answered, although the request fails. -/
theorem one_response_each_join :
    ∃ (pc : PluginComm) (messages : List Message),
      (connect 5 (ascii "unix") {}).poll (.knowing [joinRequest]) .bare
        (requestInput joinRequest) = .ok pc ∧
      produced 5 pc.trace = messages.flatMap (Message.bytes (.knowing [joinRequest])) ∧
      (messages.filter Message.isResponse).length = 1 := by
  have counted : ((connect 5 (ascii "unix") {}).poll (.knowing [joinRequest]) .bare
      (requestInput joinRequest)).map (fun pc => (handled 5 pc.trace).length) = .ok 1 := by
    decide +kernel
  cases completed : (connect 5 (ascii "unix") {}).poll (.knowing [joinRequest]) .bare
      (requestInput joinRequest) with
  | error fault =>
      rw [completed] at counted
      cases counted
  | ok pc =>
      rw [completed] at counted
      have reached : ((system (.knowing [joinRequest])).guard fun _ label =>
          label.1.database.Legible (.knowing [joinRequest])).Reachable pc :=
        .snoc (.snoc (.start ⟨rfl, rfl, rfl⟩) (.bare, .connect 5 (ascii "unix"))
            ⟨legible_bare, rfl⟩)
          (.bare, .poll (requestInput joinRequest)) ⟨legible_bare, completed⟩
      obtain ⟨messages, exchanges, bytes, responses, packets, -⟩ :=
        (one_response_each (acceptsAscii_knowing [joinRequest])).1 pc 5 reached
      refine ⟨pc, messages, rfl, bytes, ?_⟩
      rw [responses, List.length_map, ← (List.length_map Exchange.packet : _ = exchanges.length),
        ← packets]
      exact Except.ok.inj counted

end PluginComm

end DaZeus
