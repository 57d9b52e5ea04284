import DaZeus.PluginComm.Output
import DaZeus.PluginComm.Conversation

/-!
# What a plugin reads

A plugin that reads by the rules of the bot's own parser gets the messages that
the bot produced for it, in their order.  However much has arrived, it has read
the first of them, and misses none once everything has.
-/

namespace DaZeus

open Library
open Std (TreeMap)

namespace PluginComm

variable {lib : Libraries} {pc : PluginComm} {fd : Nat} {info : SocketInfo}
  {messages : List Message}

/-- A part of what the encoder wrote decodes to the first of the messages. -/
theorem decodes_front {arrived ahead : ByteString}
    (encodes : ∀ message ∈ messages, Encodes lib (message.json lib))
    (short : (messages.flatMap (Message.bytes lib)).length < 2 ^ 31)
    (front : arrived ++ ahead = messages.flatMap (Message.bytes lib)) :
    ∃ count waiting rest, count ≤ messages.length ∧
      Decodes lib 0 arrived
        ((messages.take count).map fun message => lib.dumps (message.json lib)) waiting rest ∧
      (ahead = [] → count = messages.length) := by
  obtain ⟨frames, tail, noBrace, stream, packets⟩ :=
    exists_frames [] encodes (by simp) (by decide) short
  rw [List.nil_append, ← front] at stream
  have fits : arrived.length < 2 ^ 31 := by
    rw [← front, List.length_append] at short
    omega
  have loads : ∀ frame ∈ frames, frame.Loads lib := by
    intro frame inside
    have listed := List.mem_map_of_mem (f := PacketFrame.packet) inside
    rw [packets] at listed
    obtain ⟨message, sent, same⟩ := List.mem_map.mp listed
    unfold PacketFrame.Loads
    rw [← same, (encodes message sent).loads_cStr]
    rfl
  have pending : Pending tail 0 (arrived ++ ahead) frames := by
    rw [← stream]
    exact .between frames
  obtain ⟨done, rest, waiting, unread, split, decodes, -, finished⟩ :=
    decodes_pending noBrace loads pending fits
  have total : messages.length = done.length + rest.length := by
    have counted := congrArg List.length packets
    rw [List.length_map, List.length_map, split, List.length_append] at counted
    exact counted.symm
  have taken : done.map PacketFrame.packet =
      (messages.take done.length).map fun message => lib.dumps (message.json lib) := by
    rw [List.map_take, ← packets, split, List.map_append, List.take_left' (List.length_map _)]
  rw [taken] at decodes
  refine ⟨done.length, waiting, unread, by omega, decodes, fun whole => ?_⟩
  rw [finished whole] at total
  exact total.symm

theorem exact_of_reachable (reached : ((system lib).guard (UnheardStep lib)).Reachable pc)
    (fd : Nat) : Exact fd pc := by
  have holds : ∀ fd, Exact fd pc := by
    apply reached.invariant (motive := fun pc => ∀ fd, Exact fd pc)
    · rintro start ⟨empty, -, -⟩ fd info found
      rw [TreeMap.getElem?_of_isEmpty empty] at found
      cases found
    · rintro before label after holds ⟨unheard, completed⟩
      exact exact_perform unheard completed holds
  exact holds fd

/-- Whatever part of the bytes written to a socket has arrived, its reader has the first of the
messages that were produced for the socket, each as the object that was sent; and it has them all
once nothing is under way. -/
theorem messages_read (reached : ((system lib).guard (UnheardStep lib)).Reachable pc)
    (found : pc.sockets[fd]? = some info)
    (sent : produced fd pc.trace = messages.flatMap (Message.bytes lib))
    (encodes : ∀ message ∈ messages, Encodes lib (message.json lib))
    (short : (produced fd pc.trace).length < 2 ^ 31) {arrived underway : ByteString}
    (written : accepted fd pc.trace = arrived ++ underway) :
    ∃ (count : Nat) (packets : List ByteString) (waiting : Nat) (rest : ByteString),
      count ≤ messages.length ∧ Decodes lib 0 arrived packets waiting rest ∧
      packets.map (fun packet => lib.loads (cStr packet)) =
        (messages.take count).map (fun message => some (message.json lib)) ∧
      (underway = [] → info.writebuffer = [] → count = messages.length) := by
  have whole := exact_of_reachable reached fd info found
  rw [sent] at whole short
  have front :
      arrived ++ (underway ++ info.writebuffer) = messages.flatMap (Message.bytes lib) := by
    rw [← List.append_assoc, ← written]
    exact whole
  obtain ⟨count, waiting, rest, bound, decodes, all⟩ := decodes_front encodes short front
  refine ⟨count, _, waiting, rest, bound, decodes, ?_, fun arrivedAll flushed => all ?_⟩
  · rw [List.map_map]
    apply List.map_congr_left
    intro message inside
    exact (encodes message (List.mem_of_mem_take inside)).loads_cStr
  · rw [arrivedAll, flushed]
    rfl

/-- The response to a request for a subscription. -/
def subscribedResponse : Message :=
  .response .online subscribeRequest { type := ascii "unix" }

/-- A library that reads the request and the response. -/
def readingResponse : Libraries :=
  .knowing [subscribeRequest, subscribedResponse.json (.knowing [])]

/-- A response that was written as a whole is read. -/
theorem messages_read_subscribed :
    ∃ pc, (connect 5 (ascii "unix") {}).poll readingResponse .online
        (requestInput subscribeRequest [] [.accepted 100]) = .ok pc ∧
      ∃ (packets : List ByteString) (waiting : Nat) (rest : ByteString),
        Decodes readingResponse 0 (accepted 5 pc.trace) packets waiting rest ∧
        packets.map (fun packet => readingResponse.loads (cStr packet)) =
          [some (subscribedResponse.json readingResponse)] := by
  have outcome : ((connect 5 (ascii "unix") {}).poll readingResponse .online
      (requestInput subscribeRequest [] [.accepted 100])).map (fun pc =>
        (pc.sockets[5]?.map SocketInfo.writebuffer, produced 5 pc.trace)) =
      .ok (some [], subscribedResponse.bytes readingResponse) := by
    decide +kernel
  cases completed : (connect 5 (ascii "unix") {}).poll readingResponse .online
      (requestInput subscribeRequest [] [.accepted 100]) with
  | error fault =>
      rw [completed] at outcome
      cases outcome
  | ok pc =>
      rw [completed] at outcome
      obtain ⟨buffer, bytes⟩ := Prod.mk.inj (Except.ok.inj outcome)
      obtain ⟨info, found, empty⟩ := Option.map_eq_some_iff.mp buffer
      have reached : ((system readingResponse).guard (UnheardStep readingResponse)).Reachable pc :=
        .snoc (.snoc (.start ⟨rfl, rfl, rfl⟩) (.online, .connect 5 (ascii "unix")) ⟨trivial, rfl⟩)
          (.online, .poll (requestInput subscribeRequest [] [.accepted 100]))
          ⟨fun _ _ _ _ => by simp [requestInput], completed⟩
      have encodes : Encodes readingResponse (subscribedResponse.json readingResponse) := by
        let response := subscribedResponse.json (.knowing [])
        have other : (subscribeRequest.print == response.print) = false := by decide +kernel
        have known : [subscribeRequest, response].find? (fun value =>
            value.print == response.print) = some response := by
          simp only [List.find?_cons, other, beq_self_eq_true]
        exact ⟨by decide +kernel, by decide +kernel, known⟩
      have wrote : produced 5 pc.trace =
          [subscribedResponse].flatMap (Message.bytes readingResponse) :=
        bytes.trans (List.append_nil _).symm
      have whole : (subscribedResponse.bytes readingResponse).length < 2 ^ 31 := by
        decide +kernel
      obtain ⟨count, packets, waiting, rest, -, decodes, objects, all⟩ :=
        messages_read reached found wrote
          (fun message inside => List.mem_singleton.mp inside ▸ encodes)
          (by rw [bytes]; exact whole) (List.append_nil _).symm
      refine ⟨pc, rfl, packets, waiting, rest, decodes, ?_⟩
      rw [objects, all rfl empty]
      rfl

end PluginComm

end DaZeus
