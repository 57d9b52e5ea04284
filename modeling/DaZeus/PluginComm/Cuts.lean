import DaZeus.Library.Emission
import DaZeus.PluginComm.Decoder

/-!
# Streams that are cut

The decoder as a machine that steps over headers and emits packets, whatever
the code around it reads when.  A connection is always where the machine stops
on all the bytes it has received, so only the bytes count and not how they were
cut into reads and calls of `poll`.
-/

namespace DaZeus

open Library
open Std (TreeMap)

namespace PluginComm

/-- On a waiting size and a buffer: a header sets the size, and a packet that is complete and
can be answered is emitted. -/
inductive FrameStep (lib : Libraries) :
    Nat × ByteString → List ByteString → Nat × ByteString → Prop
  | header {header body : ByteString} {size : Nat} (announced : Announces header body size)
      (positive : size ≠ 0) : FrameStep lib (0, header ++ body) [] (size, body)
  | packet {size : Nat} {buffer : ByteString} (positive : size ≠ 0)
      (complete : size ≤ buffer.length) (answerable : Answerable lib (buffer.take size)) :
      FrameStep lib (size, buffer) [buffer.take size] (0, buffer.drop size)

/-- A header without a size that fits, or a packet that cannot be answered, with what is cut off
the buffer before the fault. -/
inductive Faulty (lib : Libraries) :
    Nat × ByteString → List ByteString → (Nat → Fault) → Prop
  | header {header body : ByteString} (brace : body.head? = some openBrace)
      (noBrace : openBrace ∉ header) (scanned : header.length < 2 ^ 32)
      (unsized : extractSize (header.filter isDigit) = none) :
      Faulty lib (0, header ++ body) [] .headerAssert
  | packet {size : Nat} {buffer : ByteString} {kind : Nat → Fault} (positive : size ≠ 0)
      (complete : size ≤ buffer.length) (stops : Unanswerable lib (buffer.take size) kind) :
      Faulty lib (size, buffer) [buffer.take size] kind

variable {lib : Libraries} {view : View} {fd : Nat}

/-- More bytes come in. -/
def extend (more : ByteString) (state : Nat × ByteString) : Nat × ByteString :=
  (state.1, state.2 ++ more)

section Machine

variable {state next : Nat × ByteString} {packets : List ByteString}

section Inversion

variable {size : Nat} {buffer : ByteString}

theorem FrameStep.between (step : FrameStep lib (0, buffer) packets next) :
    ∃ header body size, buffer = header ++ body ∧ Announces header body size ∧ size ≠ 0 ∧
      packets = [] ∧ next = (size, body) := by
  generalize here : (0, buffer) = state at step
  cases step with
  | header announced positive =>
      exact ⟨_, _, _, (Prod.mk.inj here).2, announced, positive, rfl, rfl⟩
  | packet positive => exact absurd (Prod.mk.inj here).1.symm positive

theorem FrameStep.inside (positive : size ≠ 0)
    (step : FrameStep lib (size, buffer) packets next) :
    size ≤ buffer.length ∧ Answerable lib (buffer.take size) ∧
      packets = [buffer.take size] ∧ next = (0, buffer.drop size) := by
  generalize here : (size, buffer) = state at step
  cases step with
  | header => exact absurd (Prod.mk.inj here).1 positive
  | packet _ complete answerable =>
      obtain ⟨rfl, rfl⟩ := Prod.mk.inj here
      exact ⟨complete, answerable, rfl, rfl⟩

theorem Faulty.between {kind : Nat → Fault} (faulty : Faulty lib (0, buffer) packets kind) :
    ∃ header body, buffer = header ++ body ∧ body.head? = some openBrace ∧ openBrace ∉ header ∧
      extractSize (header.filter isDigit) = none ∧ packets = [] ∧ kind = .headerAssert := by
  generalize here : (0, buffer) = state at faulty
  cases faulty with
  | header brace noBrace scanned unsized =>
      exact ⟨_, _, (Prod.mk.inj here).2, brace, noBrace, unsized, rfl, rfl⟩
  | packet positive => exact absurd (Prod.mk.inj here).1.symm positive

theorem Faulty.inside {kind : Nat → Fault} (positive : size ≠ 0)
    (faulty : Faulty lib (size, buffer) packets kind) :
    size ≤ buffer.length ∧ packets = [buffer.take size] ∧
      Unanswerable lib (buffer.take size) kind := by
  generalize here : (size, buffer) = state at faulty
  cases faulty with
  | header => exact absurd (Prod.mk.inj here).1 positive
  | packet _ complete stops =>
      obtain ⟨rfl, rfl⟩ := Prod.mk.inj here
      exact ⟨complete, rfl, stops⟩

end Inversion

/-- A header that announces a size has digits, and they are a size. -/
theorem announces_sized {header body : ByteString} {size : Nat}
    (announced : Announces header body size) : extractSize (header.filter isDigit) ≠ none := by
  rw [extractSize_eq_some.mpr ⟨announced.sized, announced.value, announced.fits⟩]
  exact Option.some_ne_none size

theorem FrameStep.determined : Determined (FrameStep lib) := by
  intro state packets next others other step again
  cases step with
  | header announced positive =>
      obtain ⟨header, body, size, same, announcedToo, -, rfl, rfl⟩ := again.between
      obtain ⟨rfl, rfl, rfl⟩ := announces_unique announced announcedToo same
      exact ⟨rfl, rfl⟩
  | packet positive =>
      obtain ⟨-, -, rfl, rfl⟩ := again.inside positive
      exact ⟨rfl, rfl⟩

theorem FrameStep.extend (more : ByteString) (step : FrameStep lib state packets next) :
    FrameStep lib (extend more state) packets (extend more next) := by
  cases step with
  | header announced positive =>
      unfold PluginComm.extend
      rw [List.append_assoc]
      exact .header { announced with brace := head?_append announced.brace } positive
  | @packet size buffer positive complete answerable =>
      have cut : (buffer ++ more).take size = buffer.take size :=
        List.take_append_of_le_length complete
      have left : (buffer ++ more).drop size = buffer.drop size ++ more :=
        List.drop_append_of_le_length complete
      unfold PluginComm.extend
      rw [← cut, ← left]
      refine .packet positive ?_ (cut ▸ answerable)
      rw [List.length_append]
      exact Nat.le_add_right_of_le complete

theorem FrameStep.length_le (step : FrameStep lib state packets next) :
    next.2.length ≤ state.2.length := by
  cases step with
  | header announced positive => simp
  | packet positive complete answerable => simp

/-! ## Where the machine stops -/

theorem Faulty.extend {kind : Nat → Fault} (more : ByteString)
    (faulty : Faulty lib state packets kind) : Faulty lib (extend more state) packets kind := by
  cases faulty with
  | header brace noBrace scanned unsized =>
      unfold PluginComm.extend
      rw [List.append_assoc]
      exact .header (head?_append brace) noBrace scanned unsized
  | @packet size buffer kind positive complete stops =>
      have cut : (buffer ++ more).take size = buffer.take size :=
        List.take_append_of_le_length complete
      unfold PluginComm.extend
      rw [← cut]
      refine .packet positive ?_ (cut ▸ stops)
      rw [List.length_append]
      exact Nat.le_add_right_of_le complete

theorem Faulty.stopped {kind : Nat → Fault} (faulty : Faulty lib state packets kind) :
    Stopped (FrameStep lib) state := by
  intro items next step
  cases faulty with
  | header brace noBrace scanned unsized =>
      obtain ⟨header, body, size, same, announced, -⟩ := step.between
      obtain ⟨rfl, rfl⟩ := header_unique brace noBrace announced.brace announced.noBrace same
      exact announces_sized announced unsized
  | packet positive complete stops =>
      obtain ⟨-, answerable, -⟩ := step.inside positive
      exact stops.not_answerable answerable

theorem Faulty.unique {others : List ByteString} {kind other : Nat → Fault}
    (faulty : Faulty lib state packets kind) (again : Faulty lib state others other) :
    packets = others ∧ kind = other := by
  cases faulty with
  | header =>
      obtain ⟨-, -, -, -, -, -, rfl, rfl⟩ := again.between
      exact ⟨rfl, rfl⟩
  | packet positive complete stops =>
      obtain ⟨-, rfl, stopsToo⟩ := again.inside positive
      exact ⟨rfl, stops.unique stopsToo⟩

/-- The machine stops, and at no fault. -/
structure Resting (lib : Libraries) (state : Nat × ByteString) : Prop where
  stopped : Stopped (FrameStep lib) state
  faultless : ∀ last kind, ¬Faulty lib state last kind

/-- Nothing can happen between packets if no header announces a packet, or is at fault. -/
theorem resting_between {buffer : ByteString}
    (noStep : ∀ header body size, buffer = header ++ body → Announces header body size → size = 0)
    (faultless : ∀ header body, buffer = header ++ body → body.head? = some openBrace →
      openBrace ∉ header → extractSize (header.filter isDigit) ≠ none) :
    Resting lib (0, buffer) := by
  constructor
  · intro items next step
    obtain ⟨header, body, size, split, announced, positive, -⟩ := step.between
    exact positive (noStep header body size split announced)
  · intro last kind faulty
    obtain ⟨header, body, split, brace, noBrace, unsized, -⟩ := faulty.between
    exact faultless header body split brace noBrace unsized

theorem resting_noBrace {buffer : ByteString} (noBrace : openBrace ∉ buffer) :
    Resting lib (0, buffer) := by
  apply resting_between
  · rintro header body size rfl announced
    exact absurd (openBrace_mem announced.brace) noBrace
  · rintro header body rfl brace
    exact absurd (openBrace_mem brace) noBrace

theorem resting_sizeZero {header body : ByteString} (announced : Announces header body 0) :
    Resting lib (0, header ++ body) := by
  apply resting_between
  · intro other rest size split announcedToo
    exact (announces_unique announced announcedToo split).2.2.symm
  · intro other rest split brace noBrace
    obtain ⟨rfl, rfl⟩ := header_unique announced.brace announced.noBrace brace noBrace split
    exact announces_sized announced

theorem resting_incomplete {size : Nat} {buffer : ByteString} (positive : size ≠ 0)
    (short : buffer.length < size) : Resting lib (size, buffer) := by
  constructor
  · intro items next step
    have complete := (step.inside positive).1
    omega
  · intro last kind faulty
    have complete := (faulty.inside positive).1
    omega

end Machine

/-- A buffer whose length fits an `int` decodes as far as the machine goes. -/
theorem Completes.emits {waiting left : Nat} {buffer rest : ByteString}
    {packets : List ByteString} (completes : Completes lib waiting buffer packets left rest)
    (short : buffer.length < 2 ^ 31) :
    Emits (FrameStep lib) (waiting, buffer) packets (left, rest) ∧ Resting lib (left, rest) := by
  obtain ⟨decoded, inRange⟩ := completes
  induction decoded with
  | noHeader noBrace scanned => exact ⟨.refl _, resting_noBrace noBrace⟩
  | sizeZero announced => exact ⟨.refl _, resting_sizeZero announced⟩
  | header announced positive _ inductionHypothesis =>
      rw [List.length_append] at short
      obtain ⟨run, resting⟩ := inductionHypothesis (by omega) inRange
      exact ⟨.head (.header announced positive) run, resting⟩
  | incomplete positive incomplete =>
      rw [toSigned_of_lt short] at incomplete
      exact ⟨.refl _, resting_incomplete positive (by omega)⟩
  | packet positive complete loads _ inductionHypothesis =>
      rw [toSigned_of_lt short] at complete
      obtain ⟨inside, others⟩ := List.forall_mem_cons.mp inRange
      obtain ⟨run, resting⟩ := inductionHypothesis (by rw [List.length_drop]; omega) others
      exact ⟨.head (.packet positive (by omega) ⟨loads, inside⟩) run, resting⟩

/-- The machine stops where the buffer is decoded, or at a fault. -/
theorem completes_or_faulty (lib : Libraries) (waiting : Nat) {buffer : ByteString}
    (short : buffer.length < 2 ^ 31) :
    (∃ packets left rest, Completes lib waiting buffer packets left rest) ∨
      ∃ packets state last kind, Emits (FrameStep lib) (waiting, buffer) packets state ∧
        Faulty lib state last kind := by
  induction room : buffer.length using Nat.strongRecOn generalizing waiting buffer with
  | _ length inductionHypothesis =>
      by_cases idle : waiting = 0
      · subst idle
        by_cases brace : openBrace ∈ buffer
        · obtain ⟨header, rest, rfl, noBrace⟩ := List.eq_append_cons_of_mem brace
          rw [List.length_append] at short room
          cases sized : extractSize (header.filter isDigit) with
          | none =>
              exact .inr ⟨[], _, _, _, .refl _, .header rfl noBrace (by omega) sized⟩
          | some size =>
              obtain ⟨digits, value, fits⟩ := extractSize_eq_some.mp sized
              have announced : Announces header (openBrace :: rest) size :=
                ⟨rfl, noBrace, by omega, digits, value, fits⟩
              by_cases zero : size = 0
              · subst zero
                exact .inl ⟨[], 0, _, .sizeZero announced, by simp⟩
              · have nonempty : header.length ≠ 0 := by
                  intro empty
                  rw [List.length_eq_zero_iff.mp empty] at digits
                  exact digits rfl
                rcases inductionHypothesis (openBrace :: rest).length (by omega) size (by omega)
                    rfl with
                  ⟨packets, left, final, decoded, inRange⟩ |
                    ⟨packets, state, last, kind, run, faulty⟩
                · exact .inl ⟨packets, left, final, .header announced zero decoded, inRange⟩
                · exact .inr ⟨packets, state, last, kind, .head (.header announced zero) run,
                    faulty⟩
        · exact .inl ⟨[], 0, buffer, .noHeader brace (by omega), by simp⟩
      · by_cases complete : waiting ≤ buffer.length
        · rcases answerable_or lib (buffer.take waiting) with answerable | ⟨kind, stops⟩
          · have shorter : (buffer.drop waiting).length < length := by
              rw [List.length_drop]
              omega
            rcases inductionHypothesis _ shorter 0 (by omega) rfl with
              ⟨packets, left, final, decoded, inRange⟩ |
                ⟨packets, state, last, kind, run, faulty⟩
            · exact .inl ⟨_, left, final, .packet idle (by rw [toSigned_of_lt short]; omega)
                answerable.loads decoded, List.forall_mem_cons.mpr ⟨answerable.inRange, inRange⟩⟩
            · exact .inr ⟨_, state, last, kind, .head (.packet idle complete answerable) run,
                faulty⟩
          · exact .inr ⟨[], _, _, kind, .refl _, .packet idle complete stops⟩
        · exact .inl ⟨[], waiting, buffer, .incomplete idle (by rw [toSigned_of_lt short]; omega),
            by simp⟩

/-! ## The parse loop -/

/-- The packets that the parse loop cuts off the buffer, whether it returns or not. -/
def extracted (lib : Libraries) (view : View) (fd : Nat) : Nat → Iteration → List ByteString
  | 0, _ => []
  | fuel + 1, it =>
      match readHeader fd it.info with
      | .error _ => []
      | .ok info =>
          match takePacket info with
          | none => []
          | some (packet, info) =>
              packet :: match handlePacket lib view fd packet { it with info } with
                | .error _ => []
                | .ok it => extracted lib view fd fuel it

section Loop

variable {fuel : Nat} {it after : Iteration}

/-- When the loop returns, it has handled them. -/
theorem parsePackets_extracted (parsed : parsePackets lib view fd fuel it = .ok after) :
    handled fd after.pc.trace = handled fd it.pc.trace ++ extracted lib view fd fuel it := by
  induction fuel generalizing it with
  | zero =>
      cases parsed
      exact (List.append_nil _).symm
  | succ fuel inductionHypothesis =>
      unfold parsePackets at parsed
      unfold extracted
      cases header : readHeader fd it.info with
      | error fault =>
          rw [header] at parsed
          cases parsed
      | ok info =>
          simp only [header, bind, Except.bind] at parsed ⊢
          cases taken : takePacket info with
          | none =>
              rw [taken] at parsed
              cases parsed
              exact (List.append_nil _).symm
          | some cut =>
              obtain ⟨packet, info⟩ := cut
              simp only [taken] at parsed ⊢
              cases answered : handlePacket lib view fd packet { it with info } with
              | error fault =>
                  rw [answered] at parsed
                  cases parsed
              | ok answer =>
                  rw [answered] at parsed
                  obtain ⟨input, -, -, rfl⟩ := handlePacket_answer answered
                  rw [inductionHypothesis parsed, (answer_trace lib view fd packet input _).2,
                    List.append_assoc, List.singleton_append]

theorem extracted_header {info : SocketInfo} (header : readHeader fd it.info = .ok info)
    (waiting : info.waitingSize ≠ 0) :
    extracted lib view fd (fuel + 1) it = extracted lib view fd (fuel + 1) { it with info } := by
  simp only [extracted, header, readHeader_waiting waiting]

theorem extracted_packet {info : SocketInfo} {packet : ByteString} {input : Json}
    (waiting : it.info.waitingSize ≠ 0) (taken : takePacket it.info = some (packet, info))
    (loaded : lib.loads (cStr packet) = some input) (inside : ¬LacksPermission input) :
    extracted lib view fd (fuel + 1) it =
      packet :: extracted lib view fd fuel (answer lib view fd packet input { it with info }) := by
  simp only [extracted, readHeader_waiting waiting, taken, handlePacket_answerable loaded inside]

/-- Where the decoder of the copy is. -/
def Iteration.decoder (it : Iteration) : Nat × ByteString :=
  (it.info.waitingSize, it.info.readahead)

/-- The loop goes through a run of the machine. -/
theorem parsePackets_of_emits (lib : Libraries) (view : View) (fd : Nat)
    {state last : Nat × ByteString} {packets : List ByteString}
    (run : Emits (FrameStep lib) state packets last) (short : state.2.length < 2 ^ 31)
    (fuel : Nat) (it : Iteration) (here : it.decoder = state) (enough : state.2.length < fuel) :
    ∃ left reached, reached.decoder = last ∧ last.2.length < left ∧
      parsePackets lib view fd fuel it = parsePackets lib view fd left reached ∧
      extracted lib view fd fuel it = packets ++ extracted lib view fd left reached := by
  induction run generalizing fuel it with
  | refl state => exact ⟨fuel, it, here, enough, rfl, rfl⟩
  | head emitted _ inductionHypothesis =>
      obtain ⟨fuel, rfl⟩ := Nat.exists_eq_add_one_of_ne_zero (Nat.ne_zero_of_lt enough)
      have shorter := emitted.length_le
      cases emitted with
      | @header header body size announced positive =>
          obtain ⟨idle, buffer⟩ := Prod.mk.inj here
          have found := readHeader_announced fd idle buffer announced
          rw [if_neg positive] at found
          rw [parsePackets_header found positive, extracted_header found positive]
          exact inductionHypothesis (by omega) (fuel + 1) _ rfl (by omega)
      | @packet size buffer positive complete answerable =>
          obtain ⟨rfl, rfl⟩ := Prod.mk.inj here
          obtain ⟨input, loaded, inside⟩ := answerable.exists_input
          have taken := takePacket_complete positive (by
            rw [toSigned_of_lt short]
            exact_mod_cast complete)
          rw [parsePackets_packet positive taken loaded inside,
            extracted_packet positive taken loaded inside]
          have room : (it.info.readahead.drop it.info.waitingSize).length < fuel := by
            rw [List.length_drop]
            dsimp only at enough complete
            omega
          have there : (answer lib view fd (it.info.readahead.take it.info.waitingSize) input
              { it with info := { it.info with
                readahead := it.info.readahead.drop it.info.waitingSize } }).decoder =
              (0, it.info.readahead.drop it.info.waitingSize) := by
            unfold Iteration.decoder
            rw [answer_waitingSize, answer_readahead]
          obtain ⟨left, reached, finished, spare, parsed, cutOff⟩ :=
            inductionHypothesis (by omega) fuel _ there room
          refine ⟨left, reached, finished, spare, parsed, ?_⟩
          rw [cutOff, List.append_assoc, List.singleton_append]

/-- And stops with the fault it comes to. -/
theorem parsePackets_of_faulty {last : List ByteString} {kind : Nat → Fault}
    (view : View) (fd : Nat) (faulty : Faulty lib it.decoder last kind)
    (short : it.info.readahead.length < 2 ^ 31) :
    parsePackets lib view fd (fuel + 1) it = .error (kind fd) ∧
      extracted lib view fd (fuel + 1) it = last := by
  generalize here : it.decoder = state at faulty
  cases faulty with
  | @header header body brace noBrace scanned unsized =>
      obtain ⟨idle, buffer⟩ := Prod.mk.inj here
      obtain ⟨membership, cut⟩ := takeWhile_scanned body brace noBrace scanned
      have stopped : readHeader fd it.info = .error (.headerAssert fd) := by
        unfold readHeader
        simp only [idle, ne_eq, not_true, if_false, buffer, membership, if_true, cut, unsized]
      simp only [parsePackets, extracted, stopped]
      exact ⟨rfl, trivial⟩
  | @packet size buffer kind positive complete stops =>
      obtain ⟨rfl, rfl⟩ := Prod.mk.inj here
      have taken := takePacket_complete positive (by
        rw [toSigned_of_lt short]
        exact_mod_cast complete)
      refine ⟨parsePackets_unanswerable positive taken stops, ?_⟩
      simp only [extracted, readHeader_waiting positive, taken, handlePacket_unanswerable stops]

end Loop

/-! ## Runs -/

/-- The packets that a call of `poll` cuts off what this socket has received. -/
def extractedBy (lib : Libraries) (view : View) (io : Nat → SocketInput) (pc : PluginComm)
    (fd : Nat) : List ByteString :=
  match pc.sockets[fd]? with
  | none => []
  | some info =>
      let it := readSocket fd (io fd).reads { pc, info, callbacks := (io fd).callbacks }
      extracted lib view fd (it.info.readahead.length + 1) it

/-- How a run can end on a connection to which these bytes are written: all of them were read,
or a call of `poll` stopped on them; with the packets that were extracted, and where the
decoder is if the connection is open. -/
inductive Ends (lib : Libraries) (fd : Nat) (bytes : ByteString) :
    Option Fault → List ByteString → Option (Nat × ByteString) → Prop
  | returned {pc : PluginComm} (reached : (system lib).Reachable pc)
      (all : received fd pc.trace = bytes) :
      Ends lib fd bytes none (handled fd pc.trace) (link fd pc).decoder
  | stopped {pc : PluginComm} {view : View} {io : Nat → SocketInput} {fault : Fault}
      (reached : (system lib).Reachable pc) (failed : pc.poll lib view io = .error fault)
      (own : fault.fd = fd)
      (part : received fd pc.trace ++ bytesRead (io fd).reads <+: bytes) :
      Ends lib fd bytes (some fault) (handled fd pc.trace ++ extractedBy lib view io pc fd) none

/-- The connection is where the machine stops on all that was received. -/
def Link.Machined (lib : Libraries) (link : Link) : Prop :=
  link.received.length < 2 ^ 31 → ∃ state,
    Emits (FrameStep lib) (0, link.received) link.handled state ∧ Resting lib state ∧
      ∀ decoder, link.decoder = some decoder → decoder = state

theorem Link.Machined.fresh {decoder : Option (Nat × ByteString)}
    (nothing : ∀ store, decoder = some store → store = (0, [])) :
    Link.Machined lib ⟨[], [], decoder⟩ :=
  fun _ => ⟨(0, []), .refl _, resting_noBrace List.not_mem_nil, nothing⟩

/-- More bytes take the machine on from where it stopped. -/
theorem Link.Machined.more {link : Link} {waiting : Nat} {buffer bytes : ByteString}
    (machined : link.Machined lib) (decoder : link.decoder = some (waiting, buffer))
    (short : (link.received ++ bytes).length < 2 ^ 31) :
    (buffer ++ bytes).length < 2 ^ 31 ∧ ∀ {packets state},
      Emits (FrameStep lib) (waiting, buffer ++ bytes) packets state →
        Emits (FrameStep lib) (0, link.received ++ bytes) (link.handled ++ packets) state := by
  rw [List.length_append] at short
  obtain ⟨state, run, resting, same⟩ := machined (by omega)
  cases same _ decoder
  have room : buffer.length ≤ link.received.length :=
    run.invariant (motive := fun state => state.2.length ≤ link.received.length)
      (fun step bound => step.length_le.trans bound) le_rfl
  refine ⟨by rw [List.length_append]; omega, ?_⟩
  intro packets state later
  exact run.extend (FrameStep.extend bytes) later

theorem machined_polled {io : Nat → SocketInput} {before after : PluginComm}
    (polled : Polled lib view io before fd after) (machined : (link fd before).Machined lib) :
    (link fd after).Machined lib := by
  rcases polled_link polled with same | ⟨info, packets, left, rest, found, -, -, decoded, same⟩
  · rw [same]
    exact machined
  · rw [same]
    intro short
    have decoder : (link fd before).decoder = some (info.waitingSize, info.readahead) := by
      simp [link, found]
    obtain ⟨room, more⟩ := machined.more decoder short
    obtain ⟨run, resting⟩ := Completes.emits decoded room
    refine ⟨(left, rest), more run, resting, ?_⟩
    rintro store last
    cases last
    rfl

theorem machined_reachable {pc : PluginComm} (fd : Nat) (reached : (system lib).Reachable pc) :
    (link fd pc).Machined lib := by
  refine link_reachable (.fresh nofun) (.fresh ?_) machined_polled ?_ reached
  · rintro store last
    cases last
    rfl
  · intro link machined short
    obtain ⟨state, run, resting, -⟩ := machined short
    exact ⟨state, run, resting, nofun⟩

/-- How the machine ends on the bytes of a connection. -/
inductive Halts (lib : Libraries) (fd : Nat) (bytes : ByteString) :
    Option Fault → List ByteString → Option (Nat × ByteString) → Prop
  | resting {packets : List ByteString} {state : Nat × ByteString}
      {decoder : Option (Nat × ByteString)} (run : Emits (FrameStep lib) (0, bytes) packets state)
      (resting : Resting lib state) (same : ∀ store, decoder = some store → store = state) :
      Halts lib fd bytes none packets decoder
  | faulty {packets last : List ByteString} {state : Nat × ByteString} {kind : Nat → Fault}
      {fault : Fault} (run : Emits (FrameStep lib) (0, bytes) packets state)
      (faulty : Faulty lib state last kind) (same : fault = kind fd) :
      Halts lib fd bytes (some fault) (packets ++ last) none

/-- A call of `poll` that stops does so where the machine is at fault. -/
theorem poll_faulty {pc : PluginComm} {io : Nat → SocketInput} {fault : Fault}
    (machined : (link fault.fd pc).Machined lib) (failed : pc.poll lib view io = .error fault)
    (short : (received fault.fd pc.trace ++ bytesRead (io fault.fd).reads).length < 2 ^ 31) :
    ∃ packets state last kind,
      Emits (FrameStep lib)
        (0, received fault.fd pc.trace ++ bytesRead (io fault.fd).reads)
        (handled fault.fd pc.trace ++ packets) state ∧
      Faulty lib state last kind ∧ fault = kind fault.fd ∧
      extractedBy lib view io pc fault.fd = packets ++ last := by
  obtain ⟨info, it, found, parse⟩ := poll_failed failed
  have decoder : (link fault.fd pc).decoder = some (info.waitingSize, info.readahead) := by
    simp [link, found]
  obtain ⟨room, more⟩ := machined.more decoder short
  rcases completes_or_faulty lib info.waitingSize room with
    ⟨packets, left, rest, decoded, inRange⟩ | ⟨packets, state, last, kind, run, faulty⟩
  · rw [← parse.readahead] at decoded
    obtain ⟨after, parsed, -⟩ := parsePackets_of_decodes view fault.fd decoded inRange _ it
      parse.waitingSize rfl (Nat.lt_succ_self _)
    cases parse.stopped.symm.trans parsed
  · have rounds (it : Iteration)
        (here : it.decoder = (info.waitingSize, info.readahead ++ bytesRead (io fault.fd).reads)) :
        parsePackets lib view fault.fd (it.info.readahead.length + 1) it =
            .error (kind fault.fd) ∧
          extracted lib view fault.fd (it.info.readahead.length + 1) it = packets ++ last := by
      have enough : (info.readahead ++ bytesRead (io fault.fd).reads).length <
          it.info.readahead.length + 1 := by
        rw [← (Prod.mk.inj here).2]
        exact Nat.lt_succ_self _
      obtain ⟨fuel, reached, there, spare, parsed, cutOff⟩ :=
        parsePackets_of_emits lib view fault.fd run room _ it here enough
      obtain ⟨fuel, rfl⟩ := Nat.exists_eq_add_one_of_ne_zero (Nat.ne_zero_of_lt spare)
      rw [← there] at faulty
      have shorter := run.invariant (motive := fun state =>
        state.2.length ≤ (info.readahead ++ bytesRead (io fault.fd).reads).length)
        (fun step bound => step.length_le.trans bound) le_rfl
      rw [← there] at shorter
      obtain ⟨stopped, rest⟩ := parsePackets_of_faulty view fault.fd faulty
        (Nat.lt_of_le_of_lt shorter room)
      exact ⟨parsed.trans stopped, by rw [cutOff, rest]⟩
    refine ⟨packets, state, last, kind, more run, faulty, ?_, ?_⟩
    · have stopped := (rounds it (Prod.ext parse.waitingSize parse.readahead)).1
      exact Except.error.inj (parse.stopped.symm.trans stopped)
    · obtain ⟨noted, removed, read, -⟩ := readSocket_spec fault.fd (io fault.fd).reads
        { pc, info, callbacks := (io fault.fd).callbacks }
      unfold extractedBy
      simp only [found]
      apply (rounds _ _).2
      rw [read]
      rfl

theorem Ends.halts {bytes : ByteString} {fault : Option Fault} {packets : List ByteString}
    {decoder : Option (Nat × ByteString)} (ends : Ends lib fd bytes fault packets decoder)
    (short : bytes.length < 2 ^ 31) : Halts lib fd bytes fault packets decoder := by
  cases ends with
  | returned reached all =>
      subst all
      obtain ⟨state, run, resting, same⟩ := machined_reachable fd reached short
      exact .resting run resting same
  | stopped reached failed own part =>
      subst own
      obtain ⟨rest, rfl⟩ := part
      have part := short
      rw [List.length_append] at part
      obtain ⟨packets, state, last, kind, run, faulty, same, cutOff⟩ :=
        poll_faulty (machined_reachable _ reached) failed (by omega)
      have extended := run.extend (FrameStep.extend rest) (.refl _)
      rw [List.append_nil] at extended
      rw [cutOff, ← List.append_assoc]
      exact .faulty extended (faulty.extend rest) same

/-- However the same bytes are cut, the outcome is the same: the packets that are extracted, and
the fault that stops the bot or where the decoder ends. -/
theorem cut_independent {bytes : ByteString} (short : bytes.length < 2 ^ 31) {fd other : Nat}
    {fault faultToo : Option Fault} {packets packetsToo : List ByteString}
    {decoder decoderToo : Option (Nat × ByteString)}
    (first : Ends lib fd bytes fault packets decoder)
    (second : Ends lib other bytes faultToo packetsToo decoderToo) :
    packets = packetsToo ∧
      (fault = none ∧ faultToo = none ∧
          (∀ state stateToo, decoder = some state → decoderToo = some stateToo →
            state = stateToo) ∨
        ∃ kind : Nat → Fault, (kind = .headerAssert ∨ kind = .notJson ∨ kind = .overrun) ∧
          fault = some (kind fd) ∧ faultToo = some (kind other)) := by
  cases first.halts short with
  | resting run resting same =>
      cases second.halts short with
      | resting runToo restingToo sameToo =>
          obtain ⟨rfl, rfl⟩ := run.unique FrameStep.determined resting.stopped runToo
            restingToo.stopped
          refine ⟨rfl, .inl ⟨rfl, rfl, ?_⟩⟩
          intro state stateToo here there
          exact (same state here).trans (sameToo stateToo there).symm
      | faulty runToo faulty =>
          obtain ⟨rfl, rfl⟩ := run.unique FrameStep.determined resting.stopped runToo
            faulty.stopped
          exact absurd faulty (resting.faultless _ _)
  | @faulty _ _ _ kind _ run faulty same =>
      cases second.halts short with
      | resting runToo resting =>
          obtain ⟨rfl, rfl⟩ := run.unique FrameStep.determined faulty.stopped runToo
            resting.stopped
          exact absurd faulty (resting.faultless _ _)
      | faulty runToo faultyToo sameToo =>
          obtain ⟨rfl, rfl⟩ := run.unique FrameStep.determined faulty.stopped runToo
            faultyToo.stopped
          obtain ⟨rfl, rfl⟩ := faulty.unique faultyToo
          refine ⟨rfl, .inr ⟨kind, ?_, congrArg some same, congrArg some sameToo⟩⟩
          cases faulty with
          | header => exact .inl rfl
          | packet _ _ stops =>
              cases stops with
              | notJson => exact .inr (.inl rfl)
              | overrun => exact .inr (.inr rfl)

/-- A client has connected and sent the first two pieces of ` 2{}{`. -/
def pieces : List (View × Action) :=
  [(.bare, .connect 5 (ascii "unix")),
    (.bare, .poll fun _ => { reads := [.data (ascii " 2\x7b"), .wouldBlock] }),
    (.bare, .poll fun _ => { reads := [.data (ascii "\x7d"), .wouldBlock] })]

def pieced : PluginComm := (performAll (.knowing [.object []]) {} pieces).toOption.getD {}

/-- The second brace comes without a size, in a poll of its own or with all the rest. -/
theorem cut_independent_pieces :
    ∃ packets,
      Ends (.knowing [.object []]) 5 (ascii " 2\x7b\x7d\x7b") (some (.headerAssert 5)) packets
        none ∧ packets = [ascii "\x7b\x7d"] := by
  have whole : poll (.knowing [.object []]) .bare
      (fun _ => { reads := [.data (ascii " 2\x7b\x7d\x7b")] })
      (connect 5 (ascii "unix") {}) = .error (.headerAssert 5) := rfl
  have last : poll (.knowing [.object []]) .bare
      (fun _ => { reads := [.data (ascii "\x7b")] }) pieced = .error (.headerAssert 5) := rfl
  have first : Ends (.knowing [.object []]) 5 _ _ _ none :=
    .stopped (.snoc (.start ⟨rfl, rfl, rfl⟩) (.bare, .connect 5 (ascii "unix")) rfl) whole rfl
      ⟨[], rfl⟩
  have completed : performAll (.knowing [.object []]) {} pieces = .ok pieced := rfl
  have second : Ends (.knowing [.object []]) 5 _ _ _ none :=
    .stopped (reachable_performAll ⟨rfl, rfl, rfl⟩ completed) last rfl ⟨[], rfl⟩
  exact ⟨_, first, (cut_independent (by decide) first second).1.trans rfl⟩

end PluginComm

end DaZeus
