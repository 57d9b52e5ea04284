import DaZeus.PluginComm.Iteration

/-!
# The decoder behind the parse loop

`Decodes` says which packets a buffer holds and what is left of it, without
the state that `poll` keeps on the side.  The parse loop completes exactly on
the buffers that decode to requests within their parameters, and then it handles
these packets.
-/

namespace DaZeus

open Library
open Std (TreeMap)

/-- The digits in `header`, all that stands before the first brace of the buffer
`header ++ body`, are a size that fits an `int`. -/
structure Announces (header body : ByteString) (size : Nat) : Prop where
  brace : body.head? = some openBrace
  noBrace : openBrace ∉ header
  scanned : header.length < 2 ^ 32
  sized : header.filter isDigit ≠ []
  value : ofDecimal (header.filter isDigit) = size
  fits : size ≤ 2147483647

open PluginComm (toSigned) in
/-- From a waiting size (0 for none) and a buffer: the packets that are complete,
each a text that loads, and the waiting size and buffer that remain. -/
inductive Decodes (lib : Libraries) :
    Nat → ByteString → List ByteString → Nat → ByteString → Prop
  | noHeader {buffer : ByteString} (noBrace : openBrace ∉ buffer)
      (scanned : buffer.length < 2 ^ 32) : Decodes lib 0 buffer [] 0 buffer
  | sizeZero {header body : ByteString} (announced : Announces header body 0) :
      Decodes lib 0 (header ++ body) [] 0 (header ++ body)
  | header {header body : ByteString} {size waiting : Nat} {packets : List ByteString}
      {left : ByteString} (announced : Announces header body size) (positive : size ≠ 0)
      (rest : Decodes lib size body packets waiting left) :
      Decodes lib 0 (header ++ body) packets waiting left
  | incomplete {size : Nat} {buffer : ByteString} (positive : size ≠ 0)
      (short : toSigned buffer.length < size) : Decodes lib size buffer [] size buffer
  | packet {size waiting : Nat} {buffer left : ByteString} {packets : List ByteString}
      (positive : size ≠ 0) (complete : toSigned buffer.length ≥ size)
      (loads : (lib.loads (cStr (buffer.take size))).isSome)
      (rest : Decodes lib 0 (buffer.drop size) packets waiting left) :
      Decodes lib size buffer (buffer.take size :: packets) waiting left

open PluginComm (InRange) in
/-- The buffer decodes, and `handle` reads no parameter past the end on the way. -/
structure Completes (lib : Libraries) (waiting : Nat) (buffer : ByteString)
    (packets : List ByteString) (left : Nat) (rest : ByteString) : Prop where
  decodes : Decodes lib waiting buffer packets left rest
  inRange : ∀ packet ∈ packets, InRange lib packet

open PluginComm (InRange) in
/-- `handle` gets a request from the packet, and comes back from it. -/
structure Answerable (lib : Libraries) (packet : ByteString) : Prop where
  loads : (lib.loads (cStr packet)).isSome
  inRange : InRange lib packet

open PluginComm (LacksPermission) in
/-- And how `poll` stops on the others. -/
inductive Unanswerable (lib : Libraries) (packet : ByteString) : (Nat → Fault) → Prop
  | notJson (unloadable : lib.loads (cStr packet) = none) : Unanswerable lib packet .notJson
  | overrun {input : Json} (loaded : lib.loads (cStr packet) = some input)
      (lacks : LacksPermission input) : Unanswerable lib packet .overrun

theorem Answerable.exists_input {lib : Libraries} {packet : ByteString}
    (answerable : Answerable lib packet) :
    ∃ input, lib.loads (cStr packet) = some input ∧ ¬PluginComm.LacksPermission input := by
  obtain ⟨input, loaded⟩ := Option.isSome_iff_exists.mp answerable.loads
  exact ⟨input, loaded, answerable.inRange input loaded⟩

theorem answerable_or (lib : Libraries) (packet : ByteString) :
    Answerable lib packet ∨ ∃ kind, Unanswerable lib packet kind := by
  cases loaded : lib.loads (cStr packet) with
  | none => exact .inr ⟨_, .notJson loaded⟩
  | some input =>
      by_cases lacks : PluginComm.LacksPermission input
      · exact .inr ⟨_, .overrun loaded lacks⟩
      · refine .inl ⟨by rw [loaded]; rfl, fun other found => ?_⟩
        rw [loaded] at found
        cases found
        exact lacks

namespace Unanswerable

variable {lib : Libraries} {packet : ByteString} {kind other : Nat → Fault}

theorem not_answerable (stops : Unanswerable lib packet kind) : ¬Answerable lib packet := by
  rintro ⟨loads, inRange⟩
  cases stops with
  | notJson unloadable =>
      rw [unloadable] at loads
      cases loads
  | overrun loaded lacks => exact inRange _ loaded lacks

theorem unique (stops : Unanswerable lib packet kind) (again : Unanswerable lib packet other) :
    kind = other := by
  cases stops with
  | notJson unloadable =>
      cases again with
      | notJson => rfl
      | overrun loaded => cases unloadable.symm.trans loaded
  | overrun loaded =>
      cases again with
      | notJson unloadable => cases unloadable.symm.trans loaded
      | overrun => rfl

end Unanswerable

theorem Completes.answerable {lib : Libraries} {waiting left : Nat} {buffer rest : ByteString}
    {packets : List ByteString} (completes : Completes lib waiting buffer packets left rest) :
    ∀ packet ∈ packets, Answerable lib packet := by
  obtain ⟨decoded, inRange⟩ := completes
  induction decoded with
  | packet positive complete loads _ inductionHypothesis =>
      obtain ⟨first, others⟩ := List.forall_mem_cons.mp inRange
      exact List.forall_mem_cons.mpr ⟨⟨loads, first⟩, inductionHypothesis others⟩
  | header _ _ _ inductionHypothesis => exact inductionHypothesis inRange
  | _ => simp

namespace PluginComm

variable {lib : Libraries} {view : View} {fd : Nat}

theorem takeWhile_scanned {header : ByteString} (body : ByteString)
    (brace : body.head? = some openBrace) (noBrace : openBrace ∉ header)
    (short : header.length < 2 ^ 32) :
    openBrace ∈ (header ++ body).take (2 ^ 32) ∧
      ((header ++ body).take (2 ^ 32)).takeWhile (· != openBrace) = header := by
  cases body with
  | nil => cases brace
  | cons first body =>
      cases brace
      obtain ⟨room, enough⟩ : ∃ room, 2 ^ 32 - header.length = room + 1 :=
        ⟨2 ^ 32 - header.length - 1, by omega⟩
      have cut : (header ++ openBrace :: body).take (2 ^ 32) =
          header ++ openBrace :: body.take room := by
        rw [List.take_append, List.take_of_length_le (by omega), enough, List.take_succ_cons]
      rw [cut]
      refine ⟨by simp, ?_⟩
      rw [List.takeWhile_append_of_pos fun byte membership => by
        simp only [bne_iff_ne, ne_eq]
        rintro rfl
        exact noBrace membership]
      simp

theorem openBrace_mem {header body : ByteString} (brace : body.head? = some openBrace) :
    openBrace ∈ header ++ body :=
  List.mem_append_right _ (List.mem_of_mem_head? brace)

/-- The first brace cuts a buffer in one way. -/
theorem header_unique {header body other rest : ByteString} (brace : body.head? = some openBrace)
    (noBrace : openBrace ∉ header) (otherBrace : rest.head? = some openBrace)
    (otherNoBrace : openBrace ∉ other) (same : header ++ body = other ++ rest) :
    header = other ∧ body = rest := by
  have front {front back : ByteString} (brace : back.head? = some openBrace)
      (noBrace : openBrace ∉ front) : (front ++ back).takeWhile (· != openBrace) = front := by
    cases back with
    | nil => cases brace
    | cons first back =>
        cases brace
        rw [List.takeWhile_append_of_pos]
        · simp
        · intro byte inside
          simp only [bne_iff_ne, ne_eq]
          rintro rfl
          exact noBrace inside
  have headers : header = other := by
    rw [← front brace noBrace, same, front otherBrace otherNoBrace]
  subst headers
  exact ⟨rfl, List.append_cancel_left same⟩

theorem announces_unique {header body other rest : ByteString} {size otherSize : Nat}
    (announced : Announces header body size) (again : Announces other rest otherSize)
    (same : header ++ body = other ++ rest) : header = other ∧ body = rest ∧ size = otherSize := by
  obtain ⟨rfl, rfl⟩ := header_unique announced.brace announced.noBrace again.brace again.noBrace
    same
  exact ⟨rfl, rfl, announced.value.symm.trans again.value⟩

theorem head?_append {body more : ByteString} {first : UInt8} (head : body.head? = some first) :
    (body ++ more).head? = some first := by
  rw [List.head?_append, head]
  rfl

theorem extractSize_eq_some {digits : ByteString} {size : Nat} :
    extractSize digits = some size ↔
      digits ≠ [] ∧ ofDecimal digits = size ∧ size ≤ 2147483647 := by
  unfold extractSize
  split
  · next empty => simp [empty]
  · next digits =>
      split
      · next fits =>
          simp only [Option.some.injEq]
          constructor
          · rintro rfl
            exact ⟨digits, rfl, fits⟩
          · exact fun sized => sized.2.1
      · next large =>
          simp only [reduceCtorEq, false_iff]
          rintro ⟨_, rfl, fits⟩
          exact large fits

theorem readHeader_announced (fd : Nat) {info : SocketInfo} {header body : ByteString} {size : Nat}
    (idle : info.waitingSize = 0) (buffer : info.readahead = header ++ body)
    (announced : Announces header body size) :
    readHeader fd info = .ok (if size = 0 then info
      else { info with waitingSize := size, readahead := body }) := by
  obtain ⟨membership, cut⟩ :=
    takeWhile_scanned body announced.brace announced.noBrace announced.scanned
  have extracted := extractSize_eq_some.mpr ⟨announced.sized, announced.value, announced.fits⟩
  unfold readHeader
  simp only [idle, ne_eq, not_true, if_false, buffer, membership, if_true, cut, extracted]
  cases size with
  | zero => rfl
  | succ size => simp

theorem readHeader_noHeader {info : SocketInfo} (idle : info.waitingSize = 0)
    (noBrace : openBrace ∉ info.readahead) (short : info.readahead.length < 2 ^ 32) :
    readHeader fd info = .ok info := by
  have cut : info.readahead.take (2 ^ 32) = info.readahead := List.take_of_length_le short.le
  unfold readHeader
  rw [if_neg (not_not.mpr idle), cut]
  simp only [noBrace, if_false, short, if_true]

theorem readHeader_waiting {info : SocketInfo} (waiting : info.waitingSize ≠ 0) :
    readHeader fd info = .ok info := by
  simp [readHeader, waiting]

/-- A header scan that completes found no brace or a size that fits. -/
theorem readHeader_ok {info cut : SocketInfo} (idle : info.waitingSize = 0)
    (read : readHeader fd info = .ok cut) :
    (openBrace ∉ info.readahead ∧ info.readahead.length < 2 ^ 32) ∨
      ∃ header body size, info.readahead = header ++ body ∧ Announces header body size := by
  unfold readHeader at read
  rw [if_neg (not_not.mpr idle)] at read
  dsimp only at read
  split at read
  · next membership =>
      right
      obtain ⟨header, rest, scanned, noBrace⟩ := List.eq_append_cons_of_mem membership
      have buffer : info.readahead =
          header ++ openBrace :: (rest ++ info.readahead.drop (2 ^ 32)) := by
        rw [← List.cons_append, ← List.append_assoc, ← scanned, List.take_append_drop]
      have short : header.length < 2 ^ 32 := by
        have bound := List.length_take_le (2 ^ 32) info.readahead
        rw [scanned, List.length_append, List.length_cons] at bound
        omega
      have cut := (takeWhile_scanned (openBrace :: (rest ++ info.readahead.drop (2 ^ 32)))
        rfl noBrace short).2
      rw [← buffer] at cut
      rw [cut] at read
      cases extracted : extractSize (header.filter isDigit) with
      | none =>
          rw [extracted] at read
          cases read
      | some size =>
          obtain ⟨sized, value, fits⟩ := extractSize_eq_some.mp extracted
          exact ⟨header, _, size, buffer,
            { brace := rfl, noBrace, scanned := short, sized, value, fits }⟩
  · next missing =>
      left
      split at read
      · next short =>
          rw [List.take_of_length_le short.le] at missing
          exact ⟨missing, short⟩
      · cases read

theorem bmod_le (size modulus : Nat) : Int.bmod size modulus ≤ size := by
  have small : (size : Int) % modulus ≤ size := by
    exact_mod_cast Nat.mod_le size modulus
  rw [Int.bmod_def]
  split <;> omega

theorem toSigned_le (size : Nat) : toSigned size ≤ size := bmod_le size _

theorem toSigned_of_lt {size : Nat} (short : size < 2 ^ 31) : toSigned size = size := by
  apply Int.bmod_eq_of_le_mul_two <;> push_cast <;> omega

/-- A buffer that is long enough is not empty, so cutting a packet off shortens it. -/
theorem length_drop_lt {size : Nat} {buffer : ByteString} (positive : size ≠ 0)
    (complete : toSigned buffer.length ≥ size) :
    (buffer.drop size).length < buffer.length := by
  have bound := toSigned_le buffer.length
  rw [List.length_drop]
  omega

/-- What a connection received and handled, and what its decoder has in store. -/
structure Link where
  received : ByteString
  handled : List ByteString
  decoder : Option (Nat × ByteString)

def link (fd : Nat) (pc : PluginComm) : Link where
  received := received fd pc.trace
  handled := handled fd pc.trace
  decoder := pc.sockets[fd]?.map fun info => (info.waitingSize, info.readahead)

theorem link_record {pc : PluginComm} {event : TraceEvent} (other : event.isConnect fd = false)
    (received : event.receivedBytes fd = []) (handled : event.handledPacket fd = []) :
    link fd (pc.record event) = link fd pc := by
  simp only [link, record_trace, DaZeus.received, DaZeus.handled,
    gather_cons_of_nil other received, gather_cons_of_nil other handled, record_sockets]

theorem link_incidental {pc : PluginComm} {event : TraceEvent} (incidental : event.Incidental) :
    link fd (pc.record event) = link fd pc := by
  cases incidental <;> exact link_record rfl rfl rfl

/-- The networks do not reach the decoder of a socket. -/
theorem link_eventClosed (lib : Libraries) (fd : Nat) (value : Link) :
    EventClosed lib fun pc => link fd pc = value where
  dispatchTo := by
    intro pc target info event parameters holds found
    have recorded : link fd (pc.dispatchTo lib target event parameters) = link fd
        { pc with sockets := pc.sockets.modify target (·.dispatch lib event parameters) } :=
      link_record rfl rfl rfl
    rw [recorded, ← holds]
    simp only [link, TreeMap.getElem?_modify, Nat.compare_eq_eq]
    split
    · next same =>
        subst same
        rw [Option.map_map]
        rfl
    · rfl
  record incidental holds := (link_incidental incidental).trans holds
  delivered _ _ holds := (link_record rfl rfl rfl).trans holds
  queue _ holds := holds

/-- Nor does an iteration for another descriptor. -/
theorem link_pollClosed {other : Nat} (different : other ≠ fd) (value : Link) :
    PollClosed lib other fun pc => link fd pc = value where
  dispatchTo := (link_eventClosed lib fd value).dispatchTo
  record := by
    intro pc event own holds
    rw [← holds]
    cases own with
    | read bytes =>
        cases bytes <;> exact link_record rfl (by simp [TraceEvent.receivedBytes, different]) rfl
    | handled packet =>
        exact link_record rfl rfl (by simp [TraceEvent.handledPacket, different])
    | incidental incidental => exact link_incidental incidental
    | _ => exact link_record rfl rfl rfl

theorem link_insert {pc : PluginComm} {other : Nat} (different : other ≠ fd)
    (info : SocketInfo) :
    link fd { pc with sockets := pc.sockets.insert other info } = link fd pc := by
  simp [link, TreeMap.getElem?_insert, different]

/-- Answering a packet handles that packet and reads nothing. -/
theorem answer_trace (lib : Libraries) (view : View) (fd : Nat) (packet : ByteString)
    (input : Json) (it : Iteration) :
    received fd (answer lib view fd packet input it).pc.trace = received fd it.pc.trace ∧
      handled fd (answer lib view fd packet input it).pc.trace =
        handled fd it.pc.trace ++ [packet] := by
  have closed := link_eventClosed lib fd (link fd (it.pc.record (.handled fd packet)))
  obtain ⟨pc, reached, same⟩ := answer_pc lib view fd packet input it
    (motive := fun pc => link fd pc = link fd (it.pc.record (.handled fd packet)))
    closed.record (fun _ => callNetwork_invariant closed.record
      fun holds found _ => closed.dispatchTo _ _ holds found) rfl
  have recorded : link fd (pc.record (.produced fd (responseFrame lib view input it.info))) =
      link fd pc := link_record rfl rfl rfl
  have after := recorded.trans reached
  rw [same]
  refine ⟨(congrArg Link.received after).trans (gather_cons_of_nil rfl rfl),
    (congrArg Link.handled after).trans ((gather_cons rfl).trans ?_)⟩
  simp [TraceEvent.handledPacket, handled]

theorem takePacket_incomplete {info : SocketInfo}
    (short : info.waitingSize = 0 ∨ toSigned info.readahead.length < info.waitingSize) :
    takePacket info = none := by
  unfold takePacket
  rw [if_neg]
  rintro ⟨positive, complete⟩
  rcases short with idle | short
  · exact positive idle
  · omega

theorem takePacket_complete {info : SocketInfo} (positive : info.waitingSize ≠ 0)
    (complete : toSigned info.readahead.length ≥ info.waitingSize) :
    takePacket info = some (info.readahead.take info.waitingSize,
      { info with readahead := info.readahead.drop info.waitingSize }) :=
  if_pos ⟨positive, complete⟩

theorem answer_waitingSize (packet : ByteString) (input : Json) (it : Iteration) :
    (answer lib view fd packet input it).info.waitingSize = 0 := by
  rw [answer_info]

theorem answer_readahead (packet : ByteString) (input : Json) (it : Iteration) :
    (answer lib view fd packet input it).info.readahead = it.info.readahead := by
  rw [answer_info]
  exact (handle_info lib view input it.info).readahead

section Rounds

variable {fuel : Nat} {it : Iteration}

theorem parsePackets_stop {info : SocketInfo} (header : readHeader fd it.info = .ok info)
    (incomplete : takePacket info = none) :
    parsePackets lib view fd (fuel + 1) it = .ok { it with info } := by
  simp only [parsePackets, header, bind, Except.bind, incomplete]

theorem parsePackets_header {info : SocketInfo} (header : readHeader fd it.info = .ok info)
    (waiting : info.waitingSize ≠ 0) :
    parsePackets lib view fd (fuel + 1) it =
      parsePackets lib view fd (fuel + 1) { it with info } := by
  simp only [parsePackets, header, readHeader_waiting waiting]

theorem handlePacket_answerable {packet : ByteString} {input : Json}
    (loaded : lib.loads (cStr packet) = some input) (inside : ¬LacksPermission input) :
    handlePacket lib view fd packet it = .ok (answer lib view fd packet input it) := by
  have within : ¬(handle lib view input it.info).overrun = true :=
    inside ∘ (handle_overrun lib view input it.info).mp
  simp only [handlePacket, loaded, if_neg within]

theorem parsePackets_packet {info : SocketInfo} {packet : ByteString} {input : Json}
    (waiting : it.info.waitingSize ≠ 0) (taken : takePacket it.info = some (packet, info))
    (loaded : lib.loads (cStr packet) = some input) (inside : ¬LacksPermission input) :
    parsePackets lib view fd (fuel + 1) it =
      parsePackets lib view fd fuel (answer lib view fd packet input { it with info }) := by
  simp only [parsePackets, readHeader_waiting waiting, bind, Except.bind, taken,
    handlePacket_answerable loaded inside]

theorem handlePacket_unanswerable {packet : ByteString} {kind : Nat → Fault}
    (stops : Unanswerable lib packet kind) :
    handlePacket lib view fd packet it = .error (kind fd) := by
  cases stops with
  | notJson unloadable => simp only [handlePacket, unloadable]
  | overrun loaded lacks =>
      simp only [handlePacket, loaded,
        if_pos ((handle_overrun lib view _ it.info).mpr lacks)]

theorem parsePackets_unanswerable {info : SocketInfo} {packet : ByteString} {kind : Nat → Fault}
    (waiting : it.info.waitingSize ≠ 0) (taken : takePacket it.info = some (packet, info))
    (stops : Unanswerable lib packet kind) :
    parsePackets lib view fd (fuel + 1) it = .error (kind fd) := by
  simp only [parsePackets, readHeader_waiting waiting, bind, Except.bind, taken,
    handlePacket_unanswerable stops]

end Rounds

/-- The parse loop handles exactly the packets that the buffer decodes to. -/
theorem parsePackets_of_decodes (view : View) (fd : Nat) {waiting left : Nat}
    {buffer rest : ByteString} {packets : List ByteString}
    (decoded : Decodes lib waiting buffer packets left rest)
    (inRange : ∀ packet ∈ packets, InRange lib packet) (fuel : Nat) (it : Iteration)
    (waitingSize : it.info.waitingSize = waiting)
    (readahead : it.info.readahead = buffer) (enough : buffer.length < fuel) :
    ∃ after, parsePackets lib view fd fuel it = .ok after ∧
      after.info.waitingSize = left ∧ after.info.readahead = rest ∧
      received fd after.pc.trace = received fd it.pc.trace ∧
      handled fd after.pc.trace = handled fd it.pc.trace ++ packets := by
  induction decoded generalizing fuel it with
  | @noHeader buffer noBrace scanned =>
      obtain ⟨fuel, rfl⟩ := Nat.exists_eq_add_one_of_ne_zero (Nat.ne_zero_of_lt enough)
      subst readahead
      exact ⟨_, parsePackets_stop (readHeader_noHeader waitingSize noBrace scanned)
        (takePacket_incomplete (.inl waitingSize)), waitingSize, rfl, rfl, by simp⟩
  | @sizeZero header body announced =>
      obtain ⟨fuel, rfl⟩ := Nat.exists_eq_add_one_of_ne_zero (Nat.ne_zero_of_lt enough)
      exact ⟨_, parsePackets_stop (readHeader_announced fd waitingSize readahead announced)
        (takePacket_incomplete (.inl waitingSize)), waitingSize, readahead, rfl, by simp⟩
  | @header header body size _ _ _ announced positive _ inductionHypothesis =>
      obtain ⟨fuel, rfl⟩ := Nat.exists_eq_add_one_of_ne_zero (Nat.ne_zero_of_lt enough)
      have found := readHeader_announced fd waitingSize readahead announced
      rw [if_neg positive] at found
      rw [parsePackets_header found positive]
      apply inductionHypothesis inRange _ _ rfl rfl
      rw [List.length_append] at enough
      omega
  | @incomplete size buffer positive short =>
      obtain ⟨fuel, rfl⟩ := Nat.exists_eq_add_one_of_ne_zero (Nat.ne_zero_of_lt enough)
      subst waitingSize readahead
      exact ⟨_, parsePackets_stop (readHeader_waiting positive)
        (takePacket_incomplete (.inr short)), rfl, rfl, rfl, by simp⟩
  | @packet size _ buffer _ packets positive complete loads _ inductionHypothesis =>
      obtain ⟨fuel, rfl⟩ := Nat.exists_eq_add_one_of_ne_zero (Nat.ne_zero_of_lt enough)
      obtain ⟨input, loaded⟩ := Option.isSome_iff_exists.mp loads
      subst waitingSize readahead
      have shorter := length_drop_lt positive complete
      obtain ⟨inside, others⟩ := List.forall_mem_cons.mp inRange
      rw [parsePackets_packet positive (takePacket_complete positive complete) loaded
        (inside input loaded)]
      obtain ⟨after, parsed, waitingSize, readahead, sameInput, handledMore⟩ :=
        inductionHypothesis others fuel (answer lib view fd
            (it.info.readahead.take it.info.waitingSize) input
            { it with info := { it.info with
                readahead := it.info.readahead.drop it.info.waitingSize } })
          (answer_waitingSize _ _ _) (answer_readahead _ _ _) (by omega)
      obtain ⟨nothingRead, handledPacket⟩ := answer_trace lib view fd
        (it.info.readahead.take it.info.waitingSize) input
        { it with info := { it.info with
            readahead := it.info.readahead.drop it.info.waitingSize } }
      refine ⟨after, parsed, waitingSize, readahead, sameInput.trans nothingRead, ?_⟩
      rw [handledMore, handledPacket, List.append_assoc, List.singleton_append]

/-- A parse loop that completes had a buffer that decodes. -/
theorem completes_of_parsePackets {fuel : Nat} {it after : Iteration}
    (parsed : parsePackets lib view fd fuel it = .ok after)
    (enough : it.info.readahead.length < fuel) :
    ∃ packets left rest,
      Completes lib it.info.waitingSize it.info.readahead packets left rest := by
  induction fuel generalizing it with
  | zero => omega
  | succ fuel inductionHypothesis =>
      -- with a size announced, the round takes a packet or ends the loop
      have waiting {it : Iteration} (positive : it.info.waitingSize ≠ 0)
          (parsed : parsePackets lib view fd (fuel + 1) it = .ok after)
          (enough : it.info.readahead.length < fuel + 1) :
          ∃ packets left rest,
            Completes lib it.info.waitingSize it.info.readahead packets left rest := by
        by_cases complete : toSigned it.info.readahead.length ≥ it.info.waitingSize
        · rcases answerable_or lib (it.info.readahead.take it.info.waitingSize) with
            answerable | ⟨kind, stops⟩
          · obtain ⟨input, loaded, inside⟩ := answerable.exists_input
            rw [parsePackets_packet positive (takePacket_complete positive complete) loaded
              inside] at parsed
            have shorter := length_drop_lt positive complete
            obtain ⟨packets, left, rest, decoded, inRange⟩ := inductionHypothesis parsed (by
              rw [answer_readahead]
              dsimp only
              omega)
            rw [answer_waitingSize, answer_readahead] at decoded
            exact ⟨_, _, _, .packet positive complete answerable.loads decoded,
              List.forall_mem_cons.mpr ⟨answerable.inRange, inRange⟩⟩
          · rw [parsePackets_unanswerable positive (takePacket_complete positive complete) stops]
              at parsed
            cases parsed
        · exact ⟨_, _, _, .incomplete positive (by omega), by simp⟩
      by_cases idle : it.info.waitingSize = 0
      · cases header : readHeader fd it.info with
        | error fault =>
            simp only [parsePackets, header] at parsed
            cases parsed
        | ok info =>
            rw [idle]
            rcases readHeader_ok idle header with
              ⟨noBrace, scanned⟩ | ⟨header, body, size, buffer, announced⟩
            · exact ⟨_, _, _, .noHeader noBrace scanned, by simp⟩
            · rw [buffer]
              by_cases positive : size = 0
              · subst positive
                exact ⟨_, _, _, .sizeZero announced, by simp⟩
              · have found := readHeader_announced fd idle buffer announced
                rw [if_neg positive] at found
                rw [parsePackets_header found positive] at parsed
                rw [buffer, List.length_append] at enough
                obtain ⟨packets, left, rest, decoded, inRange⟩ := waiting positive parsed (by
                  dsimp only
                  omega)
                exact ⟨_, _, _, .header announced positive decoded, inRange⟩
      · exact waiting idle parsed enough

/-- What a socket has buffered, with the bytes that come in now, decodes to requests that stay
within their parameters. -/
def Acceptable (lib : Libraries) (info : SocketInfo) (bytes : ByteString) : Prop :=
  ∃ packets left rest,
    Completes lib info.waitingSize (info.readahead ++ bytes) packets left rest

/-- All that the polled sockets get to read is acceptable. -/
def AcceptableInput (lib : Libraries) (io : Nat → SocketInput) (pc : PluginComm) : Prop :=
  ∀ (fd : Nat) (info : SocketInfo), pc.sockets[fd]? = some info → (io fd).status = .ready →
    bytesRead (io fd).reads ≠ [] → Acceptable lib info (bytesRead (io fd).reads)

variable {io : Nat → SocketInput} {pc : PluginComm}

theorem parseSocket_returns (lib : Libraries) (view : View) (fd : Nat) (it : Iteration) :
    (∃ after, parseSocket lib view fd it = .ok after) ↔ (it.appended → ∃ packets left rest,
      Completes lib it.info.waitingSize it.info.readahead packets left rest) := by
  unfold parseSocket
  cases appended : it.appended with
  | false => simp
  | true =>
      simp only [if_true, forall_const]
      constructor
      · rintro ⟨after, parsed⟩
        exact completes_of_parsePackets parsed (Nat.lt_succ_self _)
      · rintro ⟨packets, left, rest, decoded, inRange⟩
        obtain ⟨after, parsed, -⟩ := parsePackets_of_decodes view fd decoded inRange _ it
          rfl rfl (Nat.lt_succ_self _)
        exact ⟨after, parsed⟩

theorem pollSocket_returns {toRemove : List Nat} :
    (∃ result, pollSocket lib view io (pc, toRemove) fd = .ok result) ↔
      ∀ info, pc.sockets[fd]? = some info → (io fd).status = .ready →
        bytesRead (io fd).reads ≠ [] → Acceptable lib info (bytesRead (io fd).reads) := by
  unfold pollSocket
  dsimp only
  cases found : pc.sockets[fd]? with
  | none => simp
  | some info =>
      by_cases ready : (io fd).status = .ready
      · obtain ⟨noted, removed, read, -⟩ := readSocket_spec fd (io fd).reads
          { pc, info, toRemove, callbacks := (io fd).callbacks }
        have parsed := parseSocket_returns lib view fd (readSocket fd (io fd).reads
          { pc, info, toRemove, callbacks := (io fd).callbacks })
        simp only [ready, ne_eq, not_true, if_false, Option.some.injEq, forall_eq', forall_const]
        refine bind_ok_completes.trans (parsed.trans ?_)
        rw [read]
        simp [Acceptable]
      · simp [ready]

/-- Iterations for other descriptors leave a connection alone. -/
theorem link_foldlM {done : List Nat} {start finish : PluginComm × List Nat}
    (other : fd ∉ done)
    (completed : done.foldlM (pollSocket lib view io) start = .ok finish) :
    link fd finish.1 = link fd start.1 := by
  refine foldlM_invariant (motive := fun state => link fd state.1 = link fd start.1) ?_ rfl
    completed
  intro before item after membership holds polled
  have different : item ≠ fd := fun same => other (same ▸ membership)
  exact (link_pollClosed different _).pollSocket
    (fun info holds => (link_insert different info).trans holds) (pollSocket_polled polled) holds

theorem acceptable_of_link {middle : PluginComm} {info : SocketInfo} {bytes : ByteString}
    (same : link fd middle = link fd pc) (found : middle.sockets[fd]? = some info) :
    ∃ earlier, pc.sockets[fd]? = some earlier ∧
      (Acceptable lib info bytes ↔ Acceptable lib earlier bytes) := by
  have decoder := congrArg Link.decoder same
  simp only [link, found] at decoder
  cases entry : pc.sockets[fd]? with
  | none => simp [entry] at decoder
  | some earlier =>
      simp only [entry, Option.map_some, Option.some.injEq, Prod.mk.injEq] at decoder
      exact ⟨earlier, rfl, by simp only [Acceptable, decoder.1, decoder.2]⟩

theorem parsePackets_fault {fuel : Nat} {it : Iteration} {fault : Fault}
    (stopped : parsePackets lib view fd fuel it = .error fault) : fault.fd = fd := by
  induction fuel generalizing it with
  | zero => cases stopped
  | succ fuel inductionHypothesis =>
      unfold parsePackets at stopped
      cases header : readHeader fd it.info with
      | error stop =>
          rw [header] at stopped
          cases stopped
          unfold readHeader at header
          split at header
          · cases header
          · dsimp only at header
            split at header
            · split at header <;> cases header
              rfl
            · split at header <;> cases header
              rfl
      | ok info =>
          simp only [header, bind, Except.bind] at stopped
          split at stopped
          · cases stopped
          · split at stopped
            · next stop unloaded =>
                cases stopped
                unfold handlePacket at unloaded
                split at unloaded
                · cases unloaded
                  rfl
                · split at unloaded <;> cases unloaded
                  rfl
            · exact inductionHypothesis stopped

/-- The parse loop of an iteration stopped, on the buffer with the bytes it read. -/
structure ParseFailed (lib : Libraries) (view : View) (fd : Nat) (input : SocketInput)
    (info : SocketInfo) (it : Iteration) (fault : Fault) : Prop where
  ready : input.status = .ready
  readSome : bytesRead input.reads ≠ []
  waitingSize : it.info.waitingSize = info.waitingSize
  readahead : it.info.readahead = info.readahead ++ bytesRead input.reads
  stopped : parsePackets lib view fd (it.info.readahead.length + 1) it = .error fault

theorem pollSocket_failed {toRemove : List Nat} {fault : Fault}
    (stopped : pollSocket lib view io (pc, toRemove) fd = .error fault) :
    ∃ info it, pc.sockets[fd]? = some info ∧ ParseFailed lib view fd (io fd) info it fault := by
  unfold pollSocket at stopped
  dsimp only at stopped
  split at stopped
  · cases stopped
  · next info found =>
      split at stopped
      · cases stopped
      · next ready =>
          simp only [bind, Except.bind] at stopped
          split at stopped
          · next parsed =>
              cases stopped
              obtain ⟨noted, removed, read, -⟩ := readSocket_spec fd (io fd).reads
                { pc, info, toRemove, callbacks := (io fd).callbacks }
              unfold parseSocket at parsed
              split at parsed
              · next appended =>
                  refine ⟨info, _, found, not_not.mp ready, ?_, ?_, ?_, parsed⟩
                  · rw [read] at appended
                    simpa using appended
                  · rw [read]
                  · rw [read]
              · cases parsed
          · cases stopped

/-- A `poll` that does not return was stopped by the parse loop of the socket at fault. -/
theorem poll_failed {fault : Fault} (stopped : pc.poll lib view io = .error fault) :
    ∃ info it, pc.sockets[fault.fd]? = some info ∧
      ParseFailed lib view fault.fd (io fault.fd) info it fault := by
  unfold poll at stopped
  cases result : pc.sockets.keys.foldlM (pollSocket lib view io) (pc, []) with
  | ok finish =>
      rw [result] at stopped
      cases stopped
  | error _ =>
      rw [result] at stopped
      cases stopped
      obtain ⟨done, fd, rest, middle, split, reached, failed⟩ := exists_failed_round result
      have other : fd ∉ done := by
        have distinct := TreeMap.nodup_keys (t := pc.sockets)
        rw [split, List.nodup_append] at distinct
        exact fun membership => distinct.2.2 fd membership fd List.mem_cons_self rfl
      obtain ⟨current, it, found, parse⟩ := pollSocket_failed failed
      rw [parsePackets_fault parse.stopped]
      have decoder := congrArg Link.decoder (link_foldlM other reached)
      simp only [link, found, Option.map_some] at decoder
      obtain ⟨info, entry, same⟩ := Option.map_eq_some_iff.mp decoder.symm
      obtain ⟨waitingSize, readahead⟩ := Prod.mk.inj same
      exact ⟨info, it, entry, { parse with
        waitingSize := parse.waitingSize.trans waitingSize.symm
        readahead := by rw [parse.readahead, readahead] }⟩

/-- Its input does not decode. -/
theorem poll_fault {fault : Fault} (stopped : pc.poll lib view io = .error fault) :
    ∃ info, pc.sockets[fault.fd]? = some info ∧ (io fault.fd).status = .ready ∧
      bytesRead (io fault.fd).reads ≠ [] ∧
      ¬Acceptable lib info (bytesRead (io fault.fd).reads) := by
  obtain ⟨info, it, found, parse⟩ := poll_failed stopped
  refine ⟨info, found, parse.ready, parse.readSome, ?_⟩
  rintro ⟨packets, left, rest, decoded, inRange⟩
  rw [← parse.readahead] at decoded
  obtain ⟨after, parsed, -⟩ := parsePackets_of_decodes view fault.fd decoded inRange _ it
    parse.waitingSize rfl (Nat.lt_succ_self _)
  cases parse.stopped.symm.trans parsed

/-- `poll` returns exactly when every socket gets to read what is acceptable. -/
theorem poll_returns :
    (∃ after, pc.poll lib view io = .ok after) ↔ AcceptableInput lib io pc := by
  constructor
  · rintro ⟨after, completed⟩ fd info found ready some
    obtain ⟨finish, loop⟩ := bind_ok_completes.mp ⟨after, completed⟩
    have membership : fd ∈ pc.sockets.keys := by
      rw [TreeMap.mem_keys, TreeMap.mem_iff_isSome_getElem?, found]
      rfl
    obtain ⟨done, rest, split, other⟩ := List.eq_append_cons_of_mem membership
    rw [split] at loop
    obtain ⟨middle, after, reached, round, -⟩ := completed_round loop
    obtain ⟨current, entry, same⟩ := acceptable_of_link (link_foldlM other reached).symm found
    exact same.mpr (pollSocket_returns.mp ⟨after, round⟩ current entry ready some)
  · intro acceptable
    cases result : pc.poll lib view io with
    | ok after => exact ⟨after, rfl⟩
    | error fault =>
        obtain ⟨info, found, ready, some, unacceptable⟩ := poll_fault result
        exact absurd (acceptable fault.fd info found ready some) unacceptable

theorem link_writeBack (writes : List WriteResult) (it : Iteration) :
    link fd ((writeSocket fd writes it).writeBack fd) =
      { received := received fd it.pc.trace
        handled := handled fd it.pc.trace
        decoder := some (it.info.waitingSize, it.info.readahead) } := by
  obtain ⟨noted, toRemove, writebuffer, same, -, events⟩ := writeSocket_spec fd writes it
  have quiet {α : Type} (contribution : TraceEvent → List α)
      (wrote : ∀ bytes, contribution (.wrote fd bytes) = [])
      (closed : contribution (.closed fd) = []) :
      gather contribution fd (it.pc.recordAll noted).trace =
        gather contribution fd it.pc.trace := by
    rw [gather_recordAll, List.flatMap_eq_nil_iff.mpr, List.append_nil]
    · intro event membership
      rcases events event membership with ⟨bytes, rfl⟩ | rfl
      · exact wrote bytes
      · exact closed
    · intro event membership
      rcases events event membership with ⟨bytes, rfl⟩ | rfl <;> rfl
  rw [same]
  simp only [link, Iteration.writeBack, received, handled,
    quiet (TraceEvent.receivedBytes fd) (fun _ => rfl) rfl,
    quiet (TraceEvent.handledPacket fd) (fun _ => rfl) rfl,
    TreeMap.getElem?_insert_self, Option.map_some]

theorem received_readSocket (fd : Nat) (reads : List ReadResult) (it : Iteration) :
    received fd (readSocket fd reads it).pc.trace = received fd it.pc.trace ++ bytesRead reads ∧
      handled fd (readSocket fd reads it).pc.trace = handled fd it.pc.trace := by
  obtain ⟨noted, toRemove, same, contributed, events⟩ := readSocket_spec fd reads it
  have others : ∀ event ∈ noted, event.isConnect fd = false := by
    intro event membership
    rcases events event membership with ⟨bytes, rfl⟩ | rfl <;> rfl
  rw [same]
  refine ⟨(gather_recordAll others _).trans (by rw [contributed]; rfl), ?_⟩
  apply (gather_recordAll others _).trans
  rw [List.flatMap_eq_nil_iff.mpr, List.append_nil]
  · rfl
  · intro event membership
    rcases events event membership with ⟨bytes, rfl⟩ | rfl <;> rfl

/-- An iteration that finds its connection ready reads what there is, and handles the packets that
are complete with it. -/
theorem served_link {info : SocketInfo} {toRemove : List Nat} {it : Iteration}
    (found : pc.sockets[fd]? = some info)
    (parsed : parseSocket lib view fd (readSocket fd (io fd).reads
      { pc, info, toRemove, callbacks := (io fd).callbacks }) = .ok it) :
    bytesRead (io fd).reads = [] ∧
        link fd ((writeSocket fd (io fd).writes it).writeBack fd) = link fd pc ∨
      bytesRead (io fd).reads ≠ [] ∧ ∃ packets left rest,
        Completes lib info.waitingSize (info.readahead ++ bytesRead (io fd).reads) packets left
          rest ∧
        link fd ((writeSocket fd (io fd).writes it).writeBack fd) =
          { received := received fd pc.trace ++ bytesRead (io fd).reads
            handled := handled fd pc.trace ++ packets
            decoder := some (left, rest) } := by
  rw [link_writeBack]
  obtain ⟨noted, removed, read, -⟩ := readSocket_spec fd (io fd).reads
    { pc, info, toRemove, callbacks := (io fd).callbacks }
  obtain ⟨receivedMore, handledSame⟩ := received_readSocket fd (io fd).reads
    { pc, info, toRemove, callbacks := (io fd).callbacks }
  unfold parseSocket at parsed
  split at parsed
  · next appended =>
      obtain ⟨packets, left, rest, decoded, inRange⟩ :=
        completes_of_parsePackets parsed (Nat.lt_succ_self _)
      obtain ⟨same, reached, waitingSize, readahead, nothingRead, handledMore⟩ :=
        parsePackets_of_decodes view fd decoded inRange _ _ rfl rfl (Nat.lt_succ_self _)
      cases parsed.symm.trans reached
      rw [read] at decoded appended
      refine .inr ⟨by simpa using appended, packets, left, rest, ⟨decoded, inRange⟩, ?_⟩
      rw [nothingRead, receivedMore, handledMore, handledSame, waitingSize, readahead]
  · next nothing =>
      cases parsed
      have none : bytesRead (io fd).reads = [] := by
        rw [read] at nothing
        simpa using nothing
      refine .inl ⟨none, ?_⟩
      rw [receivedMore, handledSame, read, none]
      simp [link, found]

/-- An iteration leaves the connection as it was, or is as if all its reads were one. -/
theorem polled_link {after : PluginComm} (polled : Polled lib view io pc fd after) :
    link fd after = link fd pc ∨ ∃ info packets left rest, pc.sockets[fd]? = some info ∧
      (io fd).status = .ready ∧ bytesRead (io fd).reads ≠ [] ∧
      Completes lib info.waitingSize (info.readahead ++ bytesRead (io fd).reads) packets left
        rest ∧
      link fd after =
        { received := received fd pc.trace ++ bytesRead (io fd).reads
          handled := handled fd pc.trace ++ packets
          decoder := some (left, rest) } := by
  cases polled with
  | absent _ => exact .inl rfl
  | failed => exact .inl (link_record rfl rfl rfl)
  | @served info toRemove it found ready parsed =>
      rcases served_link found parsed with ⟨-, same⟩ | ⟨readSome, packets, left, rest, outcome⟩
      · exact .inl same
      · exact .inr ⟨info, packets, left, rest, found, ready, readSome, outcome⟩

theorem link_erase (other : Nat) (pc : PluginComm) :
    link fd { pc with sockets := pc.sockets.erase other } =
      if other = fd then { link fd pc with decoder := none } else link fd pc := by
  simp only [link, TreeMap.getElem?_erase, compare_eq_iff_eq]
  split <;> rfl

theorem link_eraseAll (removed : List Nat) (pc : PluginComm) :
    link fd { pc with sockets := removed.foldl (·.erase ·) pc.sockets } =
      if fd ∈ removed then { link fd pc with decoder := none } else link fd pc := by
  induction removed generalizing pc with
  | nil => rfl
  | cons other removed inductionHypothesis =>
      have later := inductionHypothesis { pc with sockets := pc.sockets.erase other }
      rw [link_erase] at later
      rw [List.foldl_cons]
      apply later.trans
      by_cases own : other = fd
      · simp [own]
      · simp [own, Ne.symm own]

/-- A call of `poll` does to a connection what its own iteration does, which starts from what it
was before the call, and removes it if the iteration says so. -/
theorem link_poll_cases (kept dropped : Link → Prop) {after : PluginComm}
    (absent : pc.sockets[fd]? = none → kept (link fd pc))
    (polled : ∀ {before next : PluginComm} {toRemove removed : List Nat},
      link fd before = link fd pc → fd ∉ toRemove →
      pollSocket lib view io (before, toRemove) fd = .ok (next, removed) →
      if fd ∈ removed then dropped (link fd next) else kept (link fd next))
    (completed : pc.poll lib view io = .ok after) :
    kept (link fd after) ∨
      ∃ served, dropped served ∧ link fd after = { served with decoder := none } := by
  obtain ⟨finish, loop, rfl⟩ := poll_completed completed
  have served := foldlM_remaining (motive := fun remaining state => remaining.Nodup ∧
    (fd ∈ remaining → link fd state.1 = link fd pc ∧ fd ∉ state.2) ∧
    (fd ∉ remaining →
      if fd ∈ state.2 then dropped (link fd state.1) else kept (link fd state.1)))
    ?_ ⟨TreeMap.nodup_keys, fun _ => ⟨rfl, List.not_mem_nil⟩, ?_⟩ loop
  · have outcome := served.2.2 List.not_mem_nil
    rw [link_eraseAll]
    split at outcome
    · next removed => exact .inr ⟨_, outcome, if_pos removed⟩
    · next remains =>
        rw [if_neg remains]
        exact .inl outcome
  · rintro other remaining ⟨before, toRemove⟩ ⟨next, removed⟩ ⟨fresh, waiting, done⟩ iteration
    obtain ⟨first, rest⟩ := List.nodup_cons.mp fresh
    refine ⟨rest, ?_⟩
    by_cases same : other = fd
    · subst same
      obtain ⟨unchanged, open_⟩ := waiting List.mem_cons_self
      exact ⟨(absurd · first), fun _ => polled unchanged open_ iteration⟩
    · have unchanged : link fd next = link fd before :=
        (link_pollClosed same _).pollSocket
          (fun info holds => (link_insert same info).trans holds) (pollSocket_polled iteration)
          rfl
      obtain ⟨more, rfl, own, -⟩ := pollSocket_removes iteration
      have alike : fd ∈ toRemove ++ more ↔ fd ∈ toRemove := by
        rw [List.mem_append, or_iff_left]
        intro inside
        exact same (own fd inside).1.symm
      simp only [unchanged, alike]
      constructor
      · intro later
        exact waiting (List.mem_cons_of_mem _ later)
      · intro served
        apply done
        intro inside
        rcases List.mem_cons.mp inside with here | later
        · exact same here.symm
        · exact served later
  · intro missing
    rw [if_neg List.not_mem_nil]
    apply absent
    simpa using missing

/-- What survives an iteration and the removal survives `poll`. -/
theorem link_poll {motive : Link → Prop} {after : PluginComm}
    (polled : ∀ {before next : PluginComm}, link fd before = link fd pc →
      Polled lib view io before fd next → motive (link fd next))
    (removed : ∀ {link : Link}, motive link → motive { link with decoder := none })
    (completed : pc.poll lib view io = .ok after) (holds : motive (link fd pc)) :
    motive (link fd after) := by
  rcases link_poll_cases motive motive (fun _ => holds) (fun unchanged _ iteration => by
      rw [ite_self]
      exact polled unchanged (pollSocket_polled iteration)) completed with
    kept | ⟨served, dropped, same⟩
  · exact kept
  · rw [same]
    exact removed dropped

theorem link_connected (type : ByteString) :
    link fd (connect fd type pc) = ⟨[], [], some (0, [])⟩ := by
  simp only [link, connect, record_sockets, TreeMap.getElem?_insert_self, Option.map_some,
    Link.mk.injEq, and_true]
  exact ⟨gather_connected, gather_connected⟩

theorem link_connect {other : Nat} (different : other ≠ fd) (type : ByteString) :
    link fd (connect other type pc) = link fd pc :=
  (link_record (by simpa [TraceEvent.isConnect] using different) rfl rfl).trans
    (link_insert different _)

/-- What holds of a connection that is new, and survives its own iteration in this action and its
removal, survives the action. -/
theorem link_perform {motive : Link → Prop} (fresh : motive ⟨[], [], some (0, [])⟩)
    {action : Action}
    (polled : ∀ {io : Nat → SocketInput} {before next : PluginComm}, action = .poll io →
      link fd before = link fd pc → Polled lib view io before fd next → motive (link fd next))
    (removed : ∀ {link : Link}, motive link → motive { link with decoder := none })
    {after : PluginComm} (completed : pc.perform lib view action = .ok after)
    (holds : motive (link fd pc)) : motive (link fd after) := by
  cases action with
  | ircEvent network event origin params =>
      cases completed
      rw [(link_eventClosed lib fd (link fd pc)).ircEvent rfl]
      exact holds
  | connect other type =>
      cases completed
      by_cases same : other = fd
      · subst same
        rw [link_connected]
        exact fresh
      · rw [link_connect same]
        exact holds
  | poll io => exact link_poll (polled rfl) removed completed holds

/-- And so, if it holds where there was no connection, it holds in every reachable state. -/
theorem link_reachable {motive : Link → Prop} (none : motive ⟨[], [], none⟩)
    (fresh : motive ⟨[], [], some (0, [])⟩)
    (polled : ∀ {view : View} {io : Nat → SocketInput} {before after : PluginComm},
      Polled lib view io before fd after → motive (link fd before) → motive (link fd after))
    (removed : ∀ {link : Link}, motive link → motive { link with decoder := .none })
    (reached : (system lib).Reachable pc) : motive (link fd pc) := by
  refine reached.invariant (motive := fun pc => motive (link fd pc)) ?_
    fun holds completed => link_perform fresh
      (fun _ same iteration => polled iteration (same ▸ holds)) removed completed holds
  rintro start ⟨empty, -, nothing⟩
  have missing : start.sockets[fd]? = .none := TreeMap.getElem?_of_isEmpty empty
  have nowhere : link fd start = ⟨[], [], .none⟩ := by
    simp [link, nothing, missing, received, handled, gather]
  rw [nowhere]
  exact none

/-- Over a whole run, every call returns exactly when each `poll` on the way finds
acceptable input in the state it starts from. -/
theorem performAll_returns (lib : Libraries) (start : PluginComm)
    (actions : List (View × Action)) :
    (∃ finish, performAll lib start actions = .ok finish) ↔
      ∀ done view io rest middle, actions = done ++ (view, .poll io) :: rest →
        performAll lib start done = .ok middle → AcceptableInput lib io middle := by
  constructor
  · rintro ⟨finish, completed⟩ done view io rest middle split reached
    rw [split] at completed
    obtain ⟨before, after, earlier, round, -⟩ := completed_round completed
    cases reached.symm.trans earlier
    exact poll_returns.mp ⟨after, round⟩
  · intro acceptable
    cases result : performAll lib start actions with
    | ok finish => exact ⟨finish, rfl⟩
    | error fault =>
        obtain ⟨done, ⟨view, action⟩, rest, middle, split, reached, stopped⟩ :=
          exists_failed_round result
        cases action with
        | poll io =>
            obtain ⟨after, completed⟩ :=
              poll_returns.mpr (acceptable done view io rest middle split reached)
            cases stopped.symm.trans completed
        | ircEvent network event origin params => cases stopped
        | connect fd type => cases stopped

/-- A client that has just connected stops the bot with one byte, or with two that
announce a body of one byte. -/
theorem brace_stops_poll :
    (system (.knowing [])).Reachable (connect 5 (ascii "unix") {}) ∧
      poll (.knowing []) .bare
        (fun _ => { reads := [.data (ascii "\x7b"), .wouldBlock] })
        (connect 5 (ascii "unix") {}) = .error (.headerAssert 5) ∧
      poll (.knowing []) .bare
        (fun _ => { reads := [.data (ascii "1\x7b"), .wouldBlock] })
        (connect 5 (ascii "unix") {}) = .error (.notJson 5) :=
  ⟨.snoc (.start ⟨rfl, rfl, rfl⟩) (.bare, .connect 5 (ascii "unix")) rfl, rfl, rfl⟩

end PluginComm

end DaZeus
