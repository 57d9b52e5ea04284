import DaZeus.PluginComm.Decoder
import Mathlib.Data.List.TakeWhile

/-!
# Streams of frames

A client that frames its packets is understood, however the stream is cut.
`Pending` says what the decoder has yet to do, `decodes_pending` what one parse
loop does of it, and `Decoding` carries both along every run.
-/

namespace DaZeus

open Library
open Std (TreeMap)

/-- A packet with the separator before it. -/
structure PacketFrame where
  separator : ByteString
  packet : ByteString
  noDigit : ∀ byte ∈ separator, isDigit byte = false
  noBrace : openBrace ∉ separator
  opens : packet.head? = some openBrace
  short : packet.length < 2 ^ 31

namespace PacketFrame

def header (frame : PacketFrame) : ByteString :=
  frame.separator ++ decimal frame.packet.length

/-- The bytes of some frames and of what follows them. -/
def stream (frames : List PacketFrame) (tail : ByteString) : ByteString :=
  frames.flatMap (fun frame => frame.header ++ frame.packet) ++ tail

@[simp]
theorem stream_nil (tail : ByteString) : stream [] tail = tail := rfl

theorem stream_cons (frame : PacketFrame) (frames : List PacketFrame)
    (tail : ByteString) :
    stream (frame :: frames) tail = frame.header ++ (frame.packet ++ stream frames tail) := by
  simp [stream, List.append_assoc]

theorem packet_length_ne_zero (frame : PacketFrame) : frame.packet.length ≠ 0 := by
  have opens := frame.opens
  intro empty
  rw [List.length_eq_zero_iff.mp empty] at opens
  cases opens

theorem openBrace_not_mem_header (frame : PacketFrame) : openBrace ∉ frame.header := by
  rw [header, List.mem_append]
  rintro (separator | digits)
  · exact frame.noBrace separator
  · exact absurd (isDigit_of_mem_decimal digits) (by decide)

theorem filter_header (frame : PacketFrame) :
    frame.header.filter isDigit = decimal frame.packet.length := by
  rw [header, List.filter_append, List.filter_eq_nil_iff.mpr fun byte membership => by
      rw [frame.noDigit byte membership]
      decide,
    List.filter_eq_self.mpr fun byte membership => isDigit_of_mem_decimal membership,
    List.nil_append]

/-- The header of a frame announces its packet. -/
theorem announces (frame : PacketFrame) (short : frame.header.length < 2 ^ 32)
    {body : ByteString} (brace : body.head? = some openBrace) :
    Announces frame.header body frame.packet.length where
  brace := brace
  noBrace := frame.openBrace_not_mem_header
  scanned := short
  sized := by
    rw [filter_header]
    exact decimal_ne_nil _
  value := by rw [filter_header, ofDecimal_decimal]
  fits := by
    have short := frame.short
    omega

/-- jansson reads a text up to its first NUL, and a JSON text has none. -/
def Loads (lib : Libraries) (frame : PacketFrame) : Prop :=
  (lib.loads (cStr frame.packet)).isSome

end PacketFrame

namespace PluginComm

open PacketFrame

variable {lib : Libraries} {view : View} {fd : Nat}

/-- What is yet to be decoded when the bytes still ahead, the buffered ones and those
not read so far, are `ahead`: all of some frames, or their first packet's header is done. -/
inductive Pending (tail : ByteString) :
    (waiting : Nat) → (ahead : ByteString) → List PacketFrame → Prop
  | between (frames : List PacketFrame) : Pending tail 0 (stream frames tail) frames
  | inside (frame : PacketFrame) (frames : List PacketFrame) :
      Pending tail frame.packet.length (frame.packet ++ stream frames tail) (frame :: frames)

/-- The parse loop comes to a header that announces no byte, or to a body that is complete in a
buffer whose length is not seen as that. -/
inductive Blocked (lib : Libraries) : Nat → ByteString → Prop
  | sizeZero {header body : ByteString} (announced : Announces header body 0) :
      Blocked lib 0 (header ++ body)
  | overflow {size : Nat} {buffer : ByteString} (positive : size ≠ 0)
      (complete : size ≤ buffer.length) (unseen : toSigned buffer.length < size) :
      Blocked lib size buffer
  | header {header body : ByteString} {size : Nat} (announced : Announces header body size)
      (positive : size ≠ 0) (rest : Blocked lib size body) : Blocked lib 0 (header ++ body)
  | packet {size : Nat} {buffer : ByteString} (positive : size ≠ 0)
      (complete : toSigned buffer.length ≥ size)
      (loads : (lib.loads (cStr (buffer.take size))).isSome)
      (rest : Blocked lib 0 (buffer.drop size)) : Blocked lib size buffer

section Blocked

variable {size : Nat} {header body buffer : ByteString}

theorem blocked_mem (blocked : Blocked lib 0 buffer) : openBrace ∈ buffer := by
  cases blocked with
  | sizeZero announced => exact openBrace_mem announced.brace
  | overflow positive => exact absurd rfl positive
  | header announced => exact openBrace_mem announced.brace
  | packet positive => exact absurd rfl positive

theorem blocked_header_iff (announced : Announces header body size) :
    Blocked lib 0 (header ++ body) ↔ size = 0 ∨ Blocked lib size body := by
  constructor
  · intro blocked
    generalize same : header ++ body = buffer at blocked
    cases blocked with
    | sizeZero again =>
        exact .inl (announces_unique announced again same).2.2
    | overflow positive => exact absurd rfl positive
    | header again positive rest =>
        obtain ⟨rfl, rfl, rfl⟩ := announces_unique announced again same
        exact .inr rest
    | packet positive => exact absurd rfl positive
  · intro later
    by_cases zero : size = 0
    · subst zero
      exact .sizeZero announced
    · exact .header announced zero (later.resolve_left zero)

theorem blocked_incomplete_iff (positive : size ≠ 0) (short : toSigned buffer.length < size) :
    Blocked lib size buffer ↔ size ≤ buffer.length := by
  constructor
  · intro blocked
    cases blocked with
    | sizeZero => exact absurd rfl positive
    | overflow _ complete => exact complete
    | header => exact absurd rfl positive
    | packet _ complete => omega
  · intro complete
    exact .overflow positive complete short

theorem blocked_packet_iff (positive : size ≠ 0) (complete : toSigned buffer.length ≥ size)
    (loads : (lib.loads (cStr (buffer.take size))).isSome) :
    Blocked lib size buffer ↔ Blocked lib 0 (buffer.drop size) := by
  constructor
  · intro blocked
    cases blocked with
    | sizeZero => exact absurd rfl positive
    | overflow _ _ unseen => omega
    | header => exact absurd rfl positive
    | packet _ _ _ rest => exact rest
  · intro rest
    exact .packet positive complete loads rest

end Blocked

/-! ## Decoding a stream that nothing blocks -/

section Decode

variable {frames : List PacketFrame} {tail buffer future : ByteString}

/-- Bytes that are cut past a front part begin with it. -/
theorem cut_past {front rest : ByteString} (whole : front.length ≤ buffer.length)
    (ahead : buffer ++ future = front ++ rest) :
    buffer.take front.length = front ∧ buffer.drop front.length ++ future = rest := by
  have cut := congrArg (List.take front.length) ahead
  have left := congrArg (List.drop front.length) ahead
  rw [List.take_append_of_le_length whole, List.take_left] at cut
  rw [List.drop_append_of_le_length whole, List.drop_left] at left
  exact ⟨cut, left⟩

/-- The header that a stream begins with is that of its first frame. -/
theorem announces_frame {header body : ByteString} {size : Nat} (noBrace : openBrace ∉ tail)
    (announced : Announces header body size)
    (ahead : header ++ body ++ future = stream frames tail) :
    ∃ frame rest, frames = frame :: rest ∧ size = frame.packet.length ∧
      body ++ future = frame.packet ++ stream rest tail := by
  rw [List.append_assoc] at ahead
  have brace : (body ++ future).head? = some openBrace := head?_append announced.brace
  cases frames with
  | nil =>
      rw [stream_nil] at ahead
      refine absurd ?_ noBrace
      rw [← ahead]
      exact openBrace_mem brace
  | cons frame rest =>
      rw [stream_cons] at ahead
      obtain ⟨rfl, same⟩ := header_unique brace announced.noBrace (head?_append frame.opens)
        frame.openBrace_not_mem_header ahead
      refine ⟨frame, rest, rfl, ?_, same⟩
      rw [← announced.value, frame.filter_header, ofDecimal_decimal]

theorem stream_noBrace (noBrace : openBrace ∉ stream frames tail) : frames = [] := by
  cases frames with
  | nil => rfl
  | cons frame rest =>
      refine absurd ?_ noBrace
      rw [stream_cons]
      exact openBrace_mem (head?_append frame.opens)

theorem Pending.between_eq {ahead : ByteString} (pending : Pending tail 0 ahead frames) :
    ahead = stream frames tail := by
  generalize idle : 0 = waiting at pending
  cases pending with
  | between => rfl
  | inside frame => exact absurd idle.symm frame.packet_length_ne_zero

theorem Pending.inside_eq {size : Nat} {ahead : ByteString} (positive : size ≠ 0)
    (pending : Pending tail size ahead frames) :
    ∃ frame rest, frames = frame :: rest ∧ size = frame.packet.length ∧
      ahead = frame.packet ++ stream rest tail := by
  cases pending with
  | between => exact absurd rfl positive
  | inside frame rest => exact ⟨frame, rest, rfl, rfl, rfl⟩

/-- A parse loop that nothing blocks decodes what is complete of the frames ahead. -/
theorem decodes_unblocked {waiting left : Nat} {buffer rest : ByteString}
    {packets : List ByteString} (noBrace : openBrace ∉ tail)
    (decoded : Decodes lib waiting buffer packets left rest) (free : ¬Blocked lib waiting buffer)
    (pending : Pending tail waiting (buffer ++ future) frames) :
    ∃ done others, frames = done ++ others ∧ packets = done.map packet ∧
      Pending tail left (rest ++ future) others ∧ (future = [] → others = []) := by
  induction decoded generalizing frames with
  | @noHeader buffer none =>
      refine ⟨[], frames, rfl, rfl, pending, ?_⟩
      rintro rfl
      rw [List.append_nil] at pending
      rw [pending.between_eq] at none
      exact stream_noBrace none
  | sizeZero announced => exact absurd (.sizeZero announced) free
  | @header header body size waiting packets left announced positive _ inductionHypothesis =>
      rw [blocked_header_iff announced, or_iff_right positive] at free
      obtain ⟨frame, others, rfl, rfl, inside⟩ :=
        announces_frame noBrace announced pending.between_eq
      apply inductionHypothesis free
      rw [inside]
      exact .inside frame others
  | @incomplete size buffer positive short =>
      rw [blocked_incomplete_iff positive short, not_le] at free
      refine ⟨[], frames, rfl, rfl, pending, ?_⟩
      rintro rfl
      obtain ⟨frame, others, -, rfl, ahead⟩ := pending.inside_eq positive
      have total := congrArg List.length ahead
      rw [List.append_nil, List.length_append] at total
      omega
  | @packet size waiting buffer left packets positive complete loads _ inductionHypothesis =>
      rw [blocked_packet_iff positive complete loads] at free
      have whole : size ≤ buffer.length := by
        have bound := toSigned_le buffer.length
        omega
      obtain ⟨frame, others, rfl, rfl, ahead⟩ := pending.inside_eq positive
      obtain ⟨cut, left⟩ := cut_past whole ahead
      have between : Pending tail 0 (buffer.drop frame.packet.length ++ future) others := by
        rw [left]
        exact .between others
      obtain ⟨done, unread, rfl, rfl, ahead, finished⟩ := inductionHypothesis free between
      refine ⟨frame :: done, unread, rfl, ?_, ahead, finished⟩
      rw [cut, List.map_cons]

/-- Frames announce their packets, and a buffer whose length fits an `int` hides none. -/
theorem not_blocked {waiting : Nat} (noBrace : openBrace ∉ tail)
    (pending : Pending tail waiting (buffer ++ future) frames) (short : buffer.length < 2 ^ 31) :
    ¬Blocked lib waiting buffer := by
  intro blocked
  induction blocked generalizing frames with
  | sizeZero announced =>
      obtain ⟨frame, others, -, empty, -⟩ := announces_frame noBrace announced pending.between_eq
      exact frame.packet_length_ne_zero empty.symm
  | overflow positive complete unseen =>
      rw [toSigned_of_lt short] at unseen
      omega
  | @header header body size announced positive _ inductionHypothesis =>
      obtain ⟨frame, others, rfl, rfl, inside⟩ :=
        announces_frame noBrace announced pending.between_eq
      rw [List.length_append] at short
      have here : Pending tail frame.packet.length (body ++ future) (frame :: others) := by
        rw [inside]
        exact .inside frame others
      exact inductionHypothesis here (by omega)
  | @packet size buffer positive complete _ _ inductionHypothesis =>
      rw [toSigned_of_lt short] at complete
      obtain ⟨frame, others, rfl, rfl, ahead⟩ := pending.inside_eq positive
      obtain ⟨-, left⟩ := cut_past (by omega) ahead
      have between : Pending tail 0 (buffer.drop frame.packet.length ++ future) others := by
        rw [left]
        exact .between others
      exact inductionHypothesis between (by rw [List.length_drop]; omega)

/-- Frames that load decode, as far as they have come in. -/
theorem exists_decodes {waiting : Nat} (noBrace : openBrace ∉ tail)
    (loads : ∀ frame ∈ frames, frame.Loads lib)
    (pending : Pending tail waiting (buffer ++ future) frames) (short : buffer.length < 2 ^ 31) :
    ∃ packets left rest, Decodes lib waiting buffer packets left rest := by
  induction frames generalizing waiting buffer with
  | nil =>
      cases idle : waiting with
      | zero =>
          rw [idle] at pending
          refine ⟨_, _, _, .noHeader (fun membership => noBrace ?_) (by omega)⟩
          rw [← stream_nil tail, ← pending.between_eq]
          exact List.mem_append_left _ membership
      | succ size =>
          obtain ⟨frame, others, none, -⟩ := pending.inside_eq (by omega)
          cases none
  | cons frame frames inductionHypothesis =>
      obtain ⟨first, others⟩ := List.forall_mem_cons.mp loads
      have inside {buffer : ByteString} (short : buffer.length < 2 ^ 31)
          (ahead : buffer ++ future = frame.packet ++ stream frames tail) :
          ∃ packets left rest, Decodes lib frame.packet.length buffer packets left rest := by
        have signed := toSigned_of_lt short
        by_cases whole : frame.packet.length ≤ buffer.length
        · obtain ⟨cut, later⟩ := cut_past whole ahead
          obtain ⟨packets, left, rest, decoded⟩ := inductionHypothesis others
            (by rw [later]; exact .between frames) (by rw [List.length_drop]; omega)
          exact ⟨_, _, _, .packet frame.packet_length_ne_zero (by omega) (by rw [cut]; exact first)
            decoded⟩
        · exact ⟨_, _, _, .incomplete frame.packet_length_ne_zero (by omega)⟩
      by_cases idle : waiting = 0
      · subst idle
        have ahead := pending.between_eq
        by_cases brace : openBrace ∈ buffer
        · obtain ⟨header, rest, rfl, headless⟩ := List.eq_append_cons_of_mem brace
          rw [stream_cons, List.append_assoc] at ahead
          obtain ⟨rfl, same⟩ := header_unique rfl headless (head?_append frame.opens)
            frame.openBrace_not_mem_header ahead
          rw [List.length_append] at short
          obtain ⟨packets, left, rest, decoded⟩ := inside (by omega) same
          exact ⟨_, _, _, .header (frame.announces (by omega) rfl) frame.packet_length_ne_zero
            decoded⟩
        · exact ⟨_, _, _, .noHeader brace (by omega)⟩
      · obtain ⟨_, _, same, rfl, ahead⟩ := pending.inside_eq idle
        cases same
        exact inside short ahead

/-- The outcome of one parse loop on a buffer: some frames are decoded, and the last
one is once nothing is left to read. -/
def DecodesSome (lib : Libraries) (tail : ByteString) (waiting : Nat)
    (buffer future : ByteString) (frames : List PacketFrame) : Prop :=
  ∃ done rest left remaining, frames = done ++ rest ∧
    Decodes lib waiting buffer (done.map packet) left remaining ∧
    Pending tail left (remaining ++ future) rest ∧ (future = [] → rest = [])

/-- One parse loop decodes whatever is complete. -/
theorem decodes_pending {waiting : Nat} (noBrace : openBrace ∉ tail)
    (loads : ∀ frame ∈ frames, frame.Loads lib)
    (pending : Pending tail waiting (buffer ++ future) frames) (short : buffer.length < 2 ^ 31) :
    DecodesSome lib tail waiting buffer future frames := by
  obtain ⟨packets, left, rest, decoded⟩ := exists_decodes noBrace loads pending short
  obtain ⟨done, others, split, rfl, later, finished⟩ :=
    decodes_unblocked noBrace decoded (not_blocked noBrace pending short) pending
  exact ⟨done, others, left, rest, split, decoded, later, finished⟩

theorem Pending.length_le {waiting : Nat} {ahead : ByteString} {frames : List PacketFrame}
    (pending : Pending tail waiting ahead frames) :
    ahead.length ≤ (stream frames tail).length := by
  cases pending with
  | between => exact le_rfl
  | inside frame frames =>
      simp only [stream_cons, List.length_append]
      omega

end Decode

theorem stream_append (done rest : List PacketFrame) (tail : ByteString) :
    (stream rest tail).length ≤ (stream (done ++ rest) tail).length := by
  simp [stream]

theorem stream_eq_nil {frames : List PacketFrame} {tail : ByteString}
    (empty : stream frames tail = []) : frames = [] := by
  cases frames with
  | nil => rfl
  | cons frame frames =>
      rw [stream_cons, List.append_eq_nil_iff, List.append_eq_nil_iff] at empty
      exact absurd (List.length_eq_zero_iff.mpr empty.2.1) frame.packet_length_ne_zero

/-- However the stream goes on, its frames are those handled so far and those that the
decoder has yet to see the end of. -/
def Link.Decoding (frames : List PacketFrame) (tail : ByteString) (link : Link) : Prop :=
  ∀ future, link.received ++ future = stream frames tail →
    ∃ done rest, frames = done ++ rest ∧ link.handled = done.map packet ∧
      (future = [] → rest = []) ∧
      ∀ waiting buffer, link.decoder = some (waiting, buffer) →
        Pending tail waiting (buffer ++ future) rest

/-- More bytes for a connection that nothing blocks. -/
theorem Link.Decoding.more {frames : List PacketFrame} {tail bytes rest : ByteString}
    {connection : Link} {waiting left : Nat} {buffer : ByteString} {packets : List ByteString}
    (decoding : connection.Decoding frames tail) (noBrace : openBrace ∉ tail)
    (decoder : connection.decoder = some (waiting, buffer))
    (decoded : Decodes lib waiting (buffer ++ bytes) packets left rest)
    (free : ¬Blocked lib waiting (buffer ++ bytes)) :
    Link.Decoding frames tail
      ⟨connection.received ++ bytes, connection.handled ++ packets, some (left, rest)⟩ := by
  intro future ahead
  obtain ⟨done, others, split, handled, -, pending⟩ :=
    decoding (bytes ++ future) ((List.append_assoc _ _ _).symm.trans ahead)
  have here := pending waiting buffer decoder
  rw [← List.append_assoc] at here
  obtain ⟨more, unread, rfl, rfl, later, finished⟩ :=
    decodes_unblocked noBrace decoded free here
  refine ⟨done ++ more, unread, by rw [split, List.append_assoc], ?_, finished, ?_⟩
  · rw [List.map_append, ← handled]
  · intro size store same
    cases same
    exact later

section Run

variable {frames : List PacketFrame} {tail : ByteString} {pc after : PluginComm}
  {io : Nat → SocketInput}

/-- A connection that has received nothing, or none at all. -/
theorem decoding_fresh {fresh : Link} (received : fresh.received = [])
    (handled : fresh.handled = [])
    (decoder : ∀ waiting buffer, fresh.decoder = some (waiting, buffer) →
      waiting = 0 ∧ buffer = []) : fresh.Decoding frames tail := by
  intro future ahead
  rw [received, List.nil_append] at ahead
  refine ⟨[], frames, rfl, by rw [handled]; rfl, fun nothing => ?_, ?_⟩
  · exact stream_eq_nil (ahead.symm.trans nothing)
  · intro waiting buffer store
    obtain ⟨rfl, rfl⟩ := decoder waiting buffer store
    rw [ahead]
    exact .between frames

/-- A decoder that is removed has nothing in store. -/
theorem Link.Decoding.removed {connection : Link} (decoding : connection.Decoding frames tail) :
    Link.Decoding frames tail { connection with decoder := none } := by
  intro future ahead
  obtain ⟨done, rest, split, handled, finished, -⟩ := decoding future ahead
  exact ⟨done, rest, split, handled, finished, nofun⟩

section Buffer

variable {info : SocketInfo} {bytes future : ByteString}

theorem decoding_pending (decoding : (link fd pc).Decoding frames tail)
    (found : pc.sockets[fd]? = some info)
    (ahead : received fd pc.trace ++ bytes ++ future = stream frames tail) :
    ∃ done rest, frames = done ++ rest ∧
      Pending tail info.waitingSize (info.readahead ++ bytes ++ future) rest := by
  obtain ⟨done, rest, split, -, -, pending⟩ :=
    decoding (bytes ++ future) ((List.append_assoc _ _ _).symm.trans ahead)
  have here := pending info.waitingSize info.readahead (by simp [link, found])
  rw [← List.append_assoc] at here
  exact ⟨done, rest, split, here⟩

/-- The buffer of a decoding connection is never longer than the stream. -/
theorem decoding_short (short : (stream frames tail).length < 2 ^ 31)
    (decoding : (link fd pc).Decoding frames tail) (found : pc.sockets[fd]? = some info)
    (ahead : received fd pc.trace ++ bytes ++ future = stream frames tail) :
    (info.readahead ++ bytes).length < 2 ^ 31 := by
  obtain ⟨done, rest, split, pending⟩ := decoding_pending decoding found ahead
  have bound := pending.length_le
  have total := stream_append done rest tail
  rw [← split] at total
  simp only [List.length_append] at bound ⊢
  omega

/-- A connection that decodes packets which the bot answers stops no parse loop. -/
theorem decoding_acceptable (noBrace : openBrace ∉ tail)
    (answerable : ∀ frame ∈ frames, Answerable lib frame.packet)
    (short : (info.readahead ++ bytes).length < 2 ^ 31)
    (decoding : (link fd pc).Decoding frames tail) (found : pc.sockets[fd]? = some info)
    (ahead : received fd pc.trace ++ bytes ++ future = stream frames tail) :
    Acceptable lib info bytes := by
  obtain ⟨done, rest, split, pending⟩ := decoding_pending decoding found ahead
  have later : ∀ frame ∈ rest, Answerable lib frame.packet := by
    intro frame inside
    exact answerable frame (split ▸ List.mem_append_right _ inside)
  obtain ⟨more, others, left, unread, rfl, decoded, -⟩ :=
    decodes_pending noBrace (fun frame inside => (later frame inside).loads) pending short
  refine ⟨_, left, unread, decoded, List.forall_mem_map.mpr fun frame inside => ?_⟩
  exact (later frame (List.mem_append_left _ inside)).inRange

end Buffer

theorem decoding_polled (noBrace : openBrace ∉ tail)
    (short : (stream frames tail).length < 2 ^ 31)
    (polled : Polled lib view io pc fd after)
    (decoding : (link fd pc).Decoding frames tail) : (link fd after).Decoding frames tail := by
  rcases polled_link polled with same | ⟨info, packets, left, unread, found, -, -, decoded, same⟩
  · rw [same]
    exact decoding
  · rw [same]
    intro future ahead
    obtain ⟨done, rest, -, pending⟩ := decoding_pending decoding found ahead
    exact decoding.more noBrace (by simp [link, found]) decoded.decodes
      (not_blocked noBrace pending (decoding_short short decoding found ahead)) future ahead

theorem decoding_reachable (fd : Nat) (noBrace : openBrace ∉ tail)
    (short : (stream frames tail).length < 2 ^ 31) (reached : (system lib).Reachable pc) :
    (link fd pc).Decoding frames tail := by
  refine link_reachable (decoding_fresh rfl rfl nofun) (decoding_fresh rfl rfl ?_)
    (decoding_polled noBrace short) ?_ reached
  · rintro waiting buffer store
    cases store
    exact ⟨rfl, rfl⟩
  · intro link decoding
    exact decoding.removed

/-- The bot has handled no packet that it could not answer. -/
theorem handled_answerable (reached : (system lib).Reachable pc) (fd : Nat) :
    ∀ packet ∈ handled fd pc.trace, Answerable lib packet := by
  suffices holds : ∀ packet ∈ (link fd pc).handled, Answerable lib packet from holds
  refine link_reachable (motive := fun link => ∀ packet ∈ link.handled, Answerable lib packet)
    (by simp) (by simp) ?_ (fun holds => holds) reached
  intro view io before after polled holds
  rcases polled_link polled with same | ⟨info, packets, left, rest, -, -, -, completed, same⟩
  · rw [same]
    exact holds
  · rw [same]
    intro packet inside
    rcases List.mem_append.mp inside with earlier | new
    · exact holds packet earlier
    · exact completed.answerable packet new

end Run

/-! ## The bot's own encoder -/

/-- What the bot sends: an event, or the answer to a request. -/
inductive Message where
  | event (name : EventName) (parameters : List ByteString)
  | response (view : View) (input : Json) (info : SocketInfo)

namespace Message

/-- The object that a message stands for. -/
def json (lib : Libraries) : Message → Json
  | .event name parameters => SocketInfo.eventJson lib name parameters
  | .response view input info => .object (responseMembers lib (handle lib view input info))

/-- The bytes that are appended to a write buffer. -/
def bytes (lib : Libraries) : Message → ByteString
  | .event name parameters => SocketInfo.eventFrame lib name parameters
  | .response view input info => responseFrame lib view input info

theorem bytes_eq_frame (message : Message) :
    message.bytes lib = frame (lib.dumps (message.json lib)) := by
  cases message <;> rfl

end Message

/-- jansson prints an object from its brace on, without a NUL, and reads it back. -/
structure Encodes (lib : Libraries) (value : Json) : Prop where
  opens : (lib.dumps value).head? = some openBrace
  noNul : 0 ∉ lib.dumps value
  loads : lib.loads (lib.dumps value) = some value

theorem Encodes.loads_cStr {value : Json} (encodes : Encodes lib value) :
    lib.loads (cStr (lib.dumps value)) = some value := by
  rw [cStr_eq_self encodes.noNul]
  exact encodes.loads

/-- The encoder's output is a stream of frames, each newline the separator of the next. -/
theorem exists_frames {messages : List Message} (separator : ByteString)
    (encodes : ∀ message ∈ messages, Encodes lib (message.json lib))
    (noDigit : ∀ byte ∈ separator, isDigit byte = false) (noBrace : openBrace ∉ separator)
    (short : (messages.flatMap (Message.bytes lib)).length < 2 ^ 31) :
    ∃ (frames : List PacketFrame) (tail : ByteString), openBrace ∉ tail ∧
      stream frames tail = separator ++ messages.flatMap (Message.bytes lib) ∧
      frames.map packet = messages.map fun message => lib.dumps (message.json lib) := by
  induction messages generalizing separator with
  | nil => exact ⟨[], separator, noBrace, by simp, rfl⟩
  | cons message messages inductionHypothesis =>
      have this := encodes message List.mem_cons_self
      rw [List.flatMap_cons, Message.bytes_eq_frame, frame, List.length_append] at short
      obtain ⟨frames, tail, noBraceTail, rest, packets⟩ :=
        inductionHypothesis [newline]
          (fun other membership => encodes other (List.mem_cons_of_mem _ membership))
          (fun byte membership => by rw [List.mem_singleton.mp membership]; rfl) (by decide)
          (by omega)
      have fits : (lib.dumps (message.json lib)).length < 2 ^ 31 := by
        simp only [List.length_append] at short
        omega
      refine ⟨⟨separator, lib.dumps (message.json lib), noDigit, noBrace, this.opens, fits⟩ ::
        frames, tail, noBraceTail, ?_, ?_⟩
      · rw [stream_cons, rest, List.flatMap_cons, Message.bytes_eq_frame, frame, header]
        simp [List.append_assoc]
      · rw [List.map_cons, List.map_cons, packets]

/-- A stream of frames that has arrived in full, whatever the reads and the calls of `poll`, was
handled packet by packet, and the bot could answer every packet of it.  If it can, the socket
stops no `poll` while the stream arrives.  And the encoder's own output decodes to the encoded
objects. -/
theorem stream_decoded {pc : PluginComm} (reached : (system lib).Reachable pc) (fd : Nat) :
    (∀ (frames : List PacketFrame) (tail : ByteString), openBrace ∉ tail →
      (stream frames tail).length < 2 ^ 31 →
      (received fd pc.trace = stream frames tail →
        handled fd pc.trace = frames.map packet ∧
          ∀ frame ∈ frames, Answerable lib frame.packet) ∧
      ((∀ frame ∈ frames, Answerable lib frame.packet) → ∀ view io future fault,
        received fd pc.trace ++ bytesRead (io fd).reads ++ future = stream frames tail →
        pc.poll lib view io = .error fault → fault.fd ≠ fd)) ∧
    ∀ messages : List Message, (∀ message ∈ messages, Encodes lib (message.json lib)) →
      (messages.flatMap (Message.bytes lib)).length < 2 ^ 31 →
      received fd pc.trace = messages.flatMap (Message.bytes lib) →
      (handled fd pc.trace).map (fun packet => lib.loads (cStr packet)) =
        messages.map fun message => some (message.json lib) := by
  have decoded {frames : List PacketFrame} {tail : ByteString}
      (noBrace : openBrace ∉ tail) (short : (stream frames tail).length < 2 ^ 31)
      (complete : received fd pc.trace = stream frames tail) :
      handled fd pc.trace = frames.map packet := by
    obtain ⟨done, rest, split, handled, finished, -⟩ :=
      decoding_reachable fd noBrace short reached [] (by simpa [link] using complete)
    rw [finished rfl, List.append_nil] at split
    rw [split]
    exact handled
  refine ⟨fun frames tail noBrace short => ⟨fun complete => ?_, ?_⟩, ?_⟩
  · have whole := decoded noBrace short complete
    refine ⟨whole, fun frame inside => handled_answerable reached fd frame.packet ?_⟩
    rw [whole]
    exact List.mem_map_of_mem inside
  · rintro answerable view io future fault ahead stopped rfl
    obtain ⟨info, found, -, -, unacceptable⟩ := poll_fault stopped
    have decoding := decoding_reachable fault.fd noBrace short reached
    exact unacceptable (decoding_acceptable noBrace answerable
      (decoding_short short decoding found ahead) decoding found ahead)
  · intro messages encodes short complete
    obtain ⟨frames, tail, noBrace, stream, packets⟩ :=
      exists_frames [] encodes (by simp) (by decide) short
    rw [List.nil_append] at stream
    rw [decoded noBrace (by rw [stream]; exact short) (complete.trans stream.symm), packets,
      List.map_map]
    exact List.map_congr_left fun message membership =>
      (encodes message membership).loads_cStr

/-- ` 2{}`. -/
def emptyRequest : PacketFrame where
  separator := [space]
  packet := ascii "\x7b\x7d"
  noDigit byte membership := by rw [List.mem_singleton.mp membership]; rfl
  noBrace := by decide
  opens := rfl
  short := by decide

/-- ` 14{"a":"\u0000"}`, which is JSON, but jansson takes no escaped NUL. -/
def nulEscape : PacketFrame where
  separator := [space]
  packet := ascii "\x7b\"a\":\"\\u0000\"\x7d"
  noDigit byte membership := by rw [List.mem_singleton.mp membership]; rfl
  noBrace := by decide
  opens := rfl
  short := by decide

/-- A client that sends ` 2{}` in three pieces. -/
def cutStream : List (View × Action) :=
  [(.bare, .connect 5 (ascii "unix")),
    (.bare, .poll fun _ => { reads := [.data (ascii " 2"), .wouldBlock] }),
    (.bare, .poll fun _ => { reads := [.data (ascii "\x7b"), .data (ascii "\x7d")] })]

theorem cutStream_decoded :
    (performAll (.knowing [.object []]) {} cutStream).map (fun pc => handled 5 pc.trace) =
      .ok [ascii "\x7b\x7d"] := by
  have arrived : (performAll (.knowing [.object []]) {} cutStream).map
      (fun pc => received 5 pc.trace) = .ok (ascii " 2\x7b\x7d") := rfl
  cases completed : performAll (.knowing [.object []]) {} cutStream with
  | error fault =>
      rw [completed] at arrived
      cases arrived
  | ok pc =>
      rw [completed] at arrived
      have whole : received 5 pc.trace = ascii " 2\x7b\x7d" := Except.ok.inj arrived
      exact congrArg Except.ok
        (((stream_decoded (reachable_performAll ⟨rfl, rfl, rfl⟩ completed) 5).1 [emptyRequest] []
          (by decide) (by decide)).1 (whole.trans (by decide))).1

/-- Packets that the bot cannot answer stop it, and what the client sent after them is never
handled. -/
theorem unanswerable_stops_poll :
    poll (.knowing [.object []]) .bare
        (fun _ => { reads := [.data (stream [nulEscape, emptyRequest] []), .wouldBlock] })
        (connect 5 (ascii "unix") {}) = .error (.notJson 5) ∧
      (∀ pc, (system (.knowing [.object []])).Reachable pc →
        handled 5 pc.trace ≠ [nulEscape, emptyRequest].map packet) ∧
      poll (.knowing [setRequest]) .bare (requestInput setRequest)
        (connect 5 (ascii "unix") {}) = .error (.overrun 5) := by
  refine ⟨rfl, fun pc reached whole => ?_, rfl⟩
  have inside : nulEscape.packet ∈ handled 5 pc.trace := by
    rw [whole]
    exact List.mem_cons_self
  have loads := (handled_answerable reached 5 _ inside).loads
  revert loads
  decide +kernel

end PluginComm

end DaZeus
