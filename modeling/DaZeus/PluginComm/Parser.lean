import DaZeus.PluginComm.Cuts
import DaZeus.PluginComm.Framing

/-!
# The parser between two polls

`waitingSize` and `readahead` say that the parser is between packets or inside
of one.  A size of zero is taken for no size at all, and the length of the
buffer for an `int`: after either the buffer only grows.  `parser_settled`
says that nothing else leads there.
-/

namespace DaZeus

open Library
open Std (TreeMap)

namespace PluginComm

open PacketFrame

variable {lib : Libraries} {view : View} {fd : Nat}

/-- Between packets, with no header left; or inside a body that starts with its brace and is not
complete. -/
def Settled (state : Nat × ByteString) : Prop :=
  state.1 = 0 ∧ openBrace ∉ state.2 ∨
    0 < state.1 ∧ state.2.head? = some openBrace ∧ state.2.length < state.1

/-- However much of these frames comes in, no packet is extracted and the buffer grows. -/
def Ignores (lib : Libraries) (state : Nat × ByteString) (frames : List PacketFrame) : Prop :=
  ∀ more, more <+: stream frames [] →
    Decodes lib state.1 (state.2 ++ more) [] state.1 (state.2 ++ more)

/-- All packets that are well formed are ignored. -/
def Deaf (lib : Libraries) (state : Nat × ByteString) : Prop :=
  ∀ frames : List PacketFrame, (∀ frame ∈ frames, frame.Loads lib) → Ignores lib state frames

/-! ## One parse loop -/

section Loop

variable {size : Nat} {header body buffer : ByteString}

/-- The loop leaves a settled parser exactly if nothing blocks it. -/
theorem decodes_settled_iff {waiting left : Nat} {rest : ByteString} {packets : List ByteString}
    (decoded : Decodes lib waiting buffer packets left rest)
    (opened : waiting ≠ 0 → buffer.head? = some openBrace) :
    Settled (left, rest) ↔ ¬Blocked lib waiting buffer := by
  induction decoded with
  | noHeader noBrace scanned =>
      constructor
      · intro settled blocked
        exact noBrace (blocked_mem blocked)
      · intro free
        exact .inl ⟨rfl, noBrace⟩
  | sizeZero announced =>
      constructor
      · rintro (⟨-, noBrace⟩ | ⟨positive, -⟩)
        · exact absurd (openBrace_mem announced.brace) noBrace
        · exact absurd positive (lt_irrefl 0)
      · intro free
        exact absurd (.sizeZero announced) free
  | header announced positive _ inductionHypothesis =>
      rw [blocked_header_iff announced, or_iff_right positive]
      apply inductionHypothesis
      intro waiting
      exact announced.brace
  | @incomplete size buffer positive short =>
      rw [blocked_incomplete_iff positive short, not_le]
      constructor
      · rintro (⟨zero, -⟩ | ⟨-, -, incomplete⟩)
        · exact absurd zero positive
        · exact incomplete
      · intro incomplete
        exact .inr ⟨Nat.pos_of_ne_zero positive, opened positive, incomplete⟩
  | packet positive complete loads _ inductionHypothesis =>
      rw [blocked_packet_iff positive complete loads]
      apply inductionHypothesis
      intro waiting
      exact absurd rfl waiting

/-- A size that was read from a header is an `int`. -/
theorem decodes_fits {waiting left : Nat} {rest : ByteString} {packets : List ByteString}
    (decoded : Decodes lib waiting buffer packets left rest) (fits : waiting ≤ 2147483647) :
    left ≤ 2147483647 := by
  induction decoded with
  | noHeader => exact fits
  | sizeZero => exact fits
  | header announced _ _ inductionHypothesis => exact inductionHypothesis announced.fits
  | incomplete => exact fits
  | packet _ _ _ _ inductionHypothesis => exact inductionHypothesis (Nat.zero_le _)

theorem decodes_inside_nothing {left : Nat} {rest : ByteString}
    (decoded : Decodes lib size buffer [] left rest) (positive : size ≠ 0) :
    left = size ∧ toSigned buffer.length < size := by
  cases decoded with
  | noHeader => exact absurd rfl positive
  | sizeZero => exact absurd rfl positive
  | header => exact absurd rfl positive
  | incomplete _ short => exact ⟨rfl, short⟩

/-- From a header on, nothing is extracted and nothing is waited for only if its size is zero. -/
theorem decodes_between_nothing {rest : ByteString} (brace : body.head? = some openBrace)
    (noBrace : openBrace ∉ header) (decoded : Decodes lib 0 (header ++ body) [] 0 rest) :
    ofDecimal (header.filter isDigit) = 0 := by
  generalize same : header ++ body = buffer at decoded
  cases decoded with
  | noHeader none =>
      subst same
      exact absurd (openBrace_mem brace) none
  | sizeZero announced =>
      obtain ⟨rfl, rfl⟩ := header_unique brace noBrace announced.brace announced.noBrace same
      exact announced.value
  | header announced positive rest =>
      exact absurd (decodes_inside_nothing rest positive).1.symm positive
  | incomplete positive => exact absurd rfl positive

end Loop

/-! ## Settled and deaf states -/

theorem deaf_sizeZero {header body : ByteString} (announced : Announces header body 0) :
    Deaf lib (0, header ++ body) := by
  intro frames _ more inside
  dsimp only
  rw [List.append_assoc]
  exact .sizeZero { announced with brace := head?_append announced.brace }

/-- A settled parser takes in packets that are well formed, at the latest when they fill the body
that it waits for. -/
theorem Settled.hears {state : Nat × ByteString} (settled : Settled state)
    (fits : state.1 ≤ 2147483647) {frames : List PacketFrame} (nonempty : frames ≠ [])
    (enough : state.1 ≤ state.2.length + (stream frames []).length) :
    ¬Ignores lib state frames := by
  intro ignores
  obtain ⟨waiting, buffer⟩ := state
  rcases settled with ⟨rfl, noBrace⟩ | ⟨positive, -, short⟩
  · cases frames with
    | nil => exact nonempty rfl
    | cons frame frames =>
        obtain ⟨body, packet⟩ : ∃ body, frame.packet = openBrace :: body := by
          have opens := frame.opens
          cases packet : frame.packet with
          | nil => simp [packet] at opens
          | cons first body =>
              rw [packet] at opens
              cases opens
              exact ⟨body, rfl⟩
        have part : frame.header ++ [openBrace] <+: stream (frame :: frames) [] := by
          rw [stream_cons, packet]
          exact ⟨body ++ stream frames [], by simp⟩
        have ignored := ignores _ part
        dsimp only at ignored
        rw [← List.append_assoc] at ignored
        have headless : openBrace ∉ buffer ++ frame.header := by
          rw [List.mem_append]
          rintro (before | inside)
          · exact noBrace before
          · exact frame.openBrace_not_mem_header inside
        have zero := decodes_between_nothing rfl headless ignored
        have size := ofDecimal_le_append (buffer.filter isDigit) (frame.header.filter isDigit)
        rw [← List.filter_append, zero, frame.filter_header, ofDecimal_decimal] at size
        exact frame.packet_length_ne_zero (Nat.le_zero.mp size)
  · dsimp only at positive short enough fits
    have ignored := ignores _ (List.take_prefix (waiting - buffer.length) _)
    have full : (buffer ++ (stream frames []).take (waiting - buffer.length)).length = waiting := by
      rw [List.length_append, List.length_take]
      omega
    have unseen := (decodes_inside_nothing ignored positive.ne').2
    dsimp only at unseen
    rw [full, toSigned_of_lt (by omega)] at unseen
    exact lt_irrefl _ unseen

theorem length_stream_replicate (frame : PacketFrame) (count : Nat) :
    count ≤ (stream (List.replicate count frame) []).length := by
  induction count with
  | zero => exact Nat.zero_le _
  | succ count inductionHypothesis =>
      have positive := frame.packet_length_ne_zero
      rw [List.replicate_succ, stream_cons, List.length_append, List.length_append]
      omega

theorem Settled.not_deaf {state : Nat × ByteString} (settled : Settled state)
    (fits : state.1 ≤ 2147483647) (frame : PacketFrame) (loads : frame.Loads lib) :
    ¬Deaf lib state := by
  intro deaf
  have filled := length_stream_replicate frame (state.1 + 1)
  apply settled.hears fits ?_ ?_ (deaf (List.replicate (state.1 + 1) frame) ?_)
  · simp
  · omega
  · intro other inside
    rw [List.eq_of_mem_replicate inside]
    exact loads

/-! ## Runs -/

/-- No socket that is read in this action comes to what blocks its parser. -/
def Unblocked (lib : Libraries) (pc : PluginComm) : View × Action → Prop
  | (_, .poll io) => ∀ (fd : Nat) (info : SocketInfo), pc.sockets[fd]? = some info →
      (io fd).status = .ready → bytesRead (io fd).reads ≠ [] →
        ¬Blocked lib info.waitingSize (info.readahead ++ bytesRead (io fd).reads)
  | _ => True

/-- The parser of a connection that is open is settled, and waits for a size that is an `int`. -/
def Link.Settled (link : Link) : Prop :=
  ∀ state, link.decoder = some state → PluginComm.Settled state ∧ state.1 ≤ 2147483647

theorem decoder_eq_some {pc : PluginComm} {state : Nat × ByteString} :
    (link fd pc).decoder = some state ↔
      ∃ info, pc.sockets[fd]? = some info ∧ (info.waitingSize, info.readahead) = state :=
  Option.map_eq_some_iff

/-- An iteration that nothing blocks leaves the parser settled. -/
theorem settled_polled {pc after : PluginComm} {io : Nat → SocketInput}
    (polled : Polled lib view io pc fd after)
    (free : ∀ state, (link fd pc).decoder = some state → (io fd).status = .ready →
      bytesRead (io fd).reads ≠ [] → ¬Blocked lib state.1 (state.2 ++ bytesRead (io fd).reads))
    (settled : (link fd pc).Settled) : (link fd after).Settled := by
  rcases polled_link polled with
    same | ⟨info, packets, left, rest, found, ready, readSome, decoded, same⟩
  · rw [same]
    exact settled
  · have decoder := decoder_eq_some.mpr ⟨info, found, rfl⟩
    obtain ⟨before, fits⟩ := settled _ decoder
    have opened : info.waitingSize ≠ 0 →
        (info.readahead ++ bytesRead (io fd).reads).head? = some openBrace := by
      intro waiting
      rcases before with ⟨idle, -⟩ | ⟨-, brace, -⟩
      · exact absurd idle waiting
      · exact head?_append brace
    rw [same]
    intro state store
    cases store
    constructor
    · exact (decodes_settled_iff decoded.decodes opened).mpr (free _ decoder ready readSome)
    · exact decodes_fits decoded.decodes fits

theorem settled_perform {pc after : PluginComm} {action : Action}
    (free : Unblocked lib pc (view, action)) (completed : pc.perform lib view action = .ok after)
    (settled : (link fd pc).Settled) : (link fd after).Settled := by
  refine link_perform ?_ ?_ ?_ completed settled
  · intro state store
    cases store
    exact ⟨.inl ⟨rfl, List.not_mem_nil⟩, Nat.zero_le _⟩
  · rintro io before next rfl same polled
    rw [← same] at settled
    apply settled_polled polled ?_ settled
    intro state decoder ready readSome
    rw [same] at decoder
    obtain ⟨info, found, rfl⟩ := decoder_eq_some.mp decoder
    exact free fd info found ready readSome
  · intro link settled state store
    cases store

variable {pc : PluginComm}

/-- As long as nothing blocks it, the parser of every open connection is between packets or inside
a body, and hears what comes. -/
theorem parser_settled (reached : ((system lib).guard (Unblocked lib)).Reachable pc)
    {info : SocketInfo} (found : pc.sockets[fd]? = some info) :
    Settled (info.waitingSize, info.readahead) ∧
      ∀ frame : PacketFrame, frame.Loads lib →
        ¬Deaf lib (info.waitingSize, info.readahead) := by
  have settled : (link fd pc).Settled := by
    refine reached.invariant (motive := fun pc => (link fd pc).Settled) ?_ ?_
    · rintro start ⟨empty, -, -⟩ state store
      have missing : start.sockets[fd]? = none := TreeMap.getElem?_of_isEmpty empty
      simp [link, missing] at store
    · rintro before ⟨view, action⟩ after settled ⟨free, completed⟩
      exact settled_perform free completed settled
  obtain ⟨here, fits⟩ := settled _ (decoder_eq_some.mpr ⟨info, found, rfl⟩)
  exact ⟨here, here.not_deaf fits⟩

/-- A client that has connected and sent ` 2{`, the beginning of a frame. -/
def begun : PluginComm :=
  ((connect 5 (ascii "unix") {}).poll (.knowing [.object []]) .bare
    fun _ => { reads := [.data (ascii " 2\x7b"), .wouldBlock] }).toOption.getD {}

theorem parser_settled_begun :
    Settled (2, ascii "\x7b") ∧
      ∀ frame : PacketFrame, frame.Loads (.knowing [.object []]) →
        ¬Deaf (.knowing [.object []]) (2, ascii "\x7b") := by
  have free : Unblocked (.knowing [.object []]) (connect 5 (ascii "unix") {})
      (.bare, .poll fun _ => { reads := [.data (ascii " 2\x7b"), .wouldBlock] }) := by
    intro fd info found ready readSome
    have fresh : info.waitingSize = 0 ∧ info.readahead = [] := by
      simp only [connect, record_sockets, TreeMap.getElem?_insert] at found
      split at found
      · cases found
        exact ⟨rfl, rfl⟩
      · simp at found
    have announced : Announces (ascii " 2") (ascii "\x7b") 2 :=
      ⟨rfl, by decide, by decide, by decide, rfl, by decide⟩
    rw [fresh.1, fresh.2]
    exact mt (blocked_header_iff announced).mp (by
      rintro (zero | blocked)
      · cases zero
      · exact absurd ((blocked_incomplete_iff (by decide) (by decide)).mp blocked) (by decide))
  have connected : ((system (.knowing [.object []])).guard
      (Unblocked (.knowing [.object []]))).Reachable
      (connect 5 (ascii "unix") {}) :=
    .snoc (.start ⟨rfl, rfl, rfl⟩) (.bare, .connect 5 (ascii "unix")) ⟨trivial, rfl⟩
  have reached : ((system (.knowing [.object []])).guard
      (Unblocked (.knowing [.object []]))).Reachable begun := connected.snoc _ ⟨free, rfl⟩
  have found : begun.sockets[5]? =
      some { type := ascii "unix", waitingSize := 2, readahead := ascii "\x7b" } := rfl
  exact parser_settled reached found

/-- A client that sends `0{` and then ` 2{}`. -/
def sizeZeroFirst : List (View × Action) :=
  [(.bare, .connect 5 (ascii "unix")),
    (.bare, .poll fun _ => { reads := [.data (ascii "0\x7b"), .wouldBlock] }),
    (.bare, .poll fun _ => { reads := [.data (ascii " 2\x7b\x7d"), .wouldBlock] })]

/-- The frame is never seen, nor is any other. -/
theorem sizeZero_deafens :
    ∃ pc info, performAll (.knowing [.object []]) {} sizeZeroFirst = .ok pc ∧
      (system (.knowing [.object []])).Reachable pc ∧ pc.sockets[5]? = some info ∧
      handled 5 pc.trace = [] ∧ ¬Settled (info.waitingSize, info.readahead) ∧
      Deaf (.knowing [.object []]) (info.waitingSize, info.readahead) := by
  have completed : performAll (.knowing [.object []]) {} sizeZeroFirst =
      .ok ((performAll (.knowing [.object []]) {} sizeZeroFirst).toOption.getD {}) := rfl
  have announced : Announces (ascii "0") (ascii "\x7b 2\x7b\x7d") 0 :=
    ⟨rfl, by decide, by decide, by decide, rfl, by decide⟩
  have unsettled : ¬Settled (0, ascii "0\x7b 2\x7b\x7d") := by
    have brace : openBrace ∈ ascii "0" ++ ascii "\x7b 2\x7b\x7d" := openBrace_mem announced.brace
    rintro (⟨-, noBrace⟩ | ⟨positive, -⟩)
    · exact noBrace brace
    · cases positive
  have deaf : Deaf (.knowing [.object []]) (0, ascii "0\x7b 2\x7b\x7d") :=
    deaf_sizeZero announced
  exact ⟨_, _, completed, reachable_performAll ⟨rfl, rfl, rfl⟩ completed, rfl, rfl, unsettled, deaf⟩

end PluginComm

end DaZeus
