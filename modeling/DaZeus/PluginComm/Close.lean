import DaZeus.PluginComm.Parser

/-!
# The end of a connection

A client writes its requests and closes.  What it wrote arrives and the close
is noticed in between the calls of `poll`, and in between the system calls of
one of them.  At end-of-file everything was read before; a hang-up that
`::poll` reports is taken for the end whatever is still to be read, and so is
a `write` that fails.
-/

namespace DaZeus

open Library
open Std (TreeMap)

namespace PluginComm

open PacketFrame

variable {lib : Libraries} {view : View} {fd : Nat}

/-! ## The other end -/

/-- The client's end: what has not arrived yet, what has arrived and is unread, and whether the
kernel knows that the client closed, which it does after all that was written. -/
structure Peer where
  unsent : ByteString
  queue : ByteString := []
  closed : Bool := false
  finished : closed = true → unsent = [] := by simp

namespace Peer

variable {peer next after : Peer} {results : List ReadResult} {answers : List WriteResult}
  {input : SocketInput}

/-- Some bytes arrive, or the close does. -/
inductive Step (peer next : Peer) : Prop
  | arrive (bytes : ByteString) (sent : peer.unsent = bytes ++ next.unsent)
      (queued : next.queue = peer.queue ++ bytes) (same : next.closed = peer.closed)
  | close (done : peer.unsent = []) (same : next.queue = peer.queue) (closed : next.closed = true)

/-- The results of the calls of `read` until one finds nothing or the end. -/
inductive Reads : Peer → List ReadResult → Peer → Prop
  | data {peer next after : Peer} {bytes : ByteString} {results : List ReadResult}
      (nonempty : bytes ≠ []) (queue : peer.queue = bytes ++ next.queue)
      (unsent : next.unsent = peer.unsent) (same : next.closed = peer.closed)
      (rest : Reads next results after) : Reads peer (.data bytes :: results) after
  | wouldBlock {peer : Peer} (empty : peer.queue = []) (open_ : peer.closed = false) :
      Reads peer [.wouldBlock] peer
  | endOfFile {peer : Peer} (empty : peer.queue = []) (closed : peer.closed = true) :
      Reads peer [.data []] peer
  | meanwhile {peer next after : Peer} {results : List ReadResult} (moved : Step peer next)
      (rest : Reads next results after) : Reads peer results after

/-- The results of the calls of `write`; none fails as long as the client has not closed. -/
inductive Writes : Peer → List WriteResult → Peer → Prop
  | done (peer : Peer) : Writes peer [] peer
  | answered {peer after : Peer} {answer : WriteResult} {answers : List WriteResult}
      (broken : answer = .error → peer.closed = true) (rest : Writes peer answers after) :
      Writes peer (answer :: answers) after
  | meanwhile {peer next after : Peer} {answers : List WriteResult} (moved : Step peer next)
      (rest : Writes next answers after) : Writes peer answers after

/-- What an iteration of `poll` finds: the close, or a connection that it reads and writes.  No
call fails for another reason. -/
inductive Answers (peer : Peer) (input : SocketInput) : Peer → Prop
  | hungUp (closed : peer.closed = true) (status : input.status = .errorOrHangUp) :
      Answers peer input peer
  | served {middle after : Peer} (status : input.status = .ready)
      (reads : Reads peer input.reads middle) (writes : Writes middle input.writes after) :
      Answers peer input after

/-- What the bot has not read. -/
def unread (peer : Peer) : ByteString := peer.queue ++ peer.unsent

theorem Step.unread (moved : Step peer next) : next.unread = peer.unread := by
  unfold Peer.unread
  cases moved with
  | arrive bytes sent queued => rw [sent, queued, List.append_assoc]
  | close done same closed => rw [same, done, next.finished closed]

theorem Step.closed (moved : Step peer next) (closed : peer.closed = true) :
    next.closed = true := by
  cases moved with
  | arrive _ _ _ same => exact same.trans closed
  | close _ _ after => exact after

theorem Reads.unread (reads : Reads peer results after) :
    peer.unread = bytesRead results ++ after.unread := by
  induction reads with
  | @data peer next after bytes results nonempty queue unsent _ _ inductionHypothesis =>
      have first : peer.unread = bytes ++ next.unread := by
        unfold Peer.unread
        rw [queue, unsent, List.append_assoc]
      have read : bytesRead (.data bytes :: results) = bytes ++ bytesRead results :=
        if_neg nonempty
      rw [first, read, inductionHypothesis, List.append_assoc]
  | wouldBlock => rfl
  | endOfFile => rfl
  | meanwhile moved _ inductionHypothesis => rw [← moved.unread, inductionHypothesis]

/-- The reads come to end-of-file where everything is read, and at the latest when the close is
known before. -/
theorem Reads.ended (reads : Reads peer results after) :
    (closesReading results = true → after.unread = []) ∧
      (peer.closed = true → closesReading results = true) := by
  induction reads with
  | data nonempty _ _ same _ inductionHypothesis =>
      unfold closesReading
      rw [decide_eq_false nonempty, Bool.false_or]
      exact ⟨inductionHypothesis.1, fun closed => inductionHypothesis.2 (same.trans closed)⟩
  | wouldBlock _ open_ =>
      constructor
      · intro ended
        cases ended
      · intro closed
        cases open_.symm.trans closed
  | @endOfFile peer empty closed =>
      refine ⟨fun _ => ?_, fun _ => rfl⟩
      unfold Peer.unread
      rw [empty, peer.finished closed]
      rfl
  | meanwhile moved _ inductionHypothesis =>
      exact ⟨inductionHypothesis.1, fun closed => inductionHypothesis.2 (moved.closed closed)⟩

theorem Writes.unread (writes : Writes peer answers after) : after.unread = peer.unread := by
  induction writes with
  | done => rfl
  | answered _ _ inductionHypothesis => exact inductionHypothesis
  | meanwhile moved _ inductionHypothesis => exact inductionHypothesis.trans moved.unread

/-- Once the client has closed, every iteration finds out. -/
theorem Answers.closes (answers : peer.Answers input after) (closed : peer.closed = true) :
    Closes input := by
  cases answers with
  | hungUp _ status =>
      left
      rw [status]
      exact nofun
  | served _ reads => exact .inr (reads.ended.2 closed)

end Peer

/-! ## A session -/

/-- The component, and the client's end of one of its connections. -/
structure Session where
  pc : PluginComm
  peer : Peer

/-- How often `write` was called for a descriptor. -/
def writeCalls (fd : Nat) (trace : List TraceEvent) : Nat :=
  trace.countP fun
    | .wrote other _ => other == fd
    | _ => false

/-- What happens at the client's end during a call of `poll`: nothing that this call would see once
the connection is gone, and otherwise what its iteration finds, each answer to a `write` that is
made. -/
inductive Answered (fd : Nat) (io : Nat → SocketInput) (pc after : PluginComm) (peer : Peer) :
    Peer → Prop
  | gone (missing : pc.sockets[fd]? = none) : Answered fd io pc after peer peer
  | present {next : Peer} {info : SocketInfo} (found : pc.sockets[fd]? = some info)
      (answers : peer.Answers (io fd) next)
      (made : writeCalls fd after.trace = writeCalls fd pc.trace + (io fd).writes.length) :
      Answered fd io pc after peer next

/-- Something happens at the client's end, or the component does something, which does not give
the descriptor to another connection. -/
inductive Session.Step (lib : Libraries) (fd : Nat) :
    Session → Option (View × Action) → Session → Prop
  | peer {pc : PluginComm} {peer next : Peer} (moved : peer.Step next) :
      Session.Step lib fd ⟨pc, peer⟩ none ⟨pc, next⟩
  | ircEvent {pc after : PluginComm} {peer : Peer} {view : View} {network : NetworkId}
      {event origin : ByteString} {params : List ByteString}
      (completed : pc.perform lib view (.ircEvent network event origin params) = .ok after) :
      Session.Step lib fd ⟨pc, peer⟩ (some (view, .ircEvent network event origin params))
        ⟨after, peer⟩
  | connect {pc after : PluginComm} {peer : Peer} {view : View} {other : Nat} {type : ByteString}
      (different : other ≠ fd) (completed : pc.perform lib view (.connect other type) = .ok after) :
      Session.Step lib fd ⟨pc, peer⟩ (some (view, .connect other type)) ⟨after, peer⟩
  | poll {pc after : PluginComm} {peer next : Peer} {view : View} {io : Nat → SocketInput}
      (completed : pc.perform lib view (.poll io) = .ok after)
      (answered : Answered fd io pc after peer next) :
      Session.Step lib fd ⟨pc, peer⟩ (some (view, .poll io)) ⟨after, next⟩

/-- A client connects, writes these bytes and closes, each at any time. -/
def session (lib : Libraries) (fd : Nat) (bytes : ByteString) :
    TransitionSystem Session (Option (View × Action)) where
  initial start := ∃ pc type, start = ⟨connect fd type pc, { unsent := bytes }⟩
  step := Session.Step lib fd

/-- An iteration that gives the connection up before it has read to the end leaves nothing unread,
and its parser is not blocked. -/
structure Drains (lib : Libraries) (input : SocketInput) (decoder : Nat × ByteString)
    (peer : Peer) : Prop where
  hungUp : input.status = .errorOrHangUp → peer.unread = []
  broken : input.status = .ready → .error ∈ input.writes → peer.unread = bytesRead input.reads
  unblocked : input.status = .ready → bytesRead input.reads ≠ [] →
    ¬Blocked lib decoder.1 (decoder.2 ++ bytesRead input.reads)

/-- Every call of `poll` does so. -/
def Session.Drained (lib : Libraries) (fd : Nat) (before : Session) :
    Option (View × Action) → Prop
  | some (_, .poll io) => ∀ info, before.pc.sockets[fd]? = some info →
      Drains lib (io fd) (info.waitingSize, info.readahead) before.peer
  | _ => True

/-- The frames of a stream that is unread from somewhere on are handled or ahead. -/
structure Link.Tracks (frames : List PacketFrame) (tail unread : ByteString)
    (connection : Link) : Prop where
  decoding : connection.Decoding frames tail
  whole : connection.received ++ unread = stream frames tail

/-- And nothing is unread once the connection is gone. -/
structure Session.Delivers (fd : Nat) (frames : List PacketFrame) (tail : ByteString)
    (state : Session) : Prop where
  tracks : (link fd state.pc).Tracks frames tail state.peer.unread
  gone : state.pc.sockets[fd]? = none → state.peer.unread = []

section Session

variable {frames : List PacketFrame} {tail : ByteString} {pc after : PluginComm}
  {peer next : Peer} {io : Nat → SocketInput}

theorem decoder_eq_none : (link fd pc).decoder = none ↔ pc.sockets[fd]? = none :=
  Option.map_eq_none_iff

theorem Session.Delivers.of_link (delivers : Session.Delivers fd frames tail ⟨pc, peer⟩)
    (same : link fd after = link fd pc) : Session.Delivers fd frames tail ⟨after, peer⟩ := by
  constructor
  · rw [same]
    exact delivers.tracks
  · intro missing
    rw [← decoder_eq_none, same, decoder_eq_none] at missing
    exact delivers.gone missing

theorem Link.Tracks.handled_prefix {unread : ByteString} {connection : Link}
    (tracks : connection.Tracks frames tail unread) :
    connection.handled <+: frames.map packet := by
  obtain ⟨done, rest, split, handled, -⟩ := tracks.decoding unread tracks.whole
  rw [handled, split, List.map_append]
  exact List.prefix_append _ _

theorem Link.Tracks.handled_all {connection : Link} (tracks : connection.Tracks frames tail []) :
    connection.handled = frames.map packet := by
  obtain ⟨done, rest, split, handled, finished, -⟩ := tracks.decoding [] tracks.whole
  rw [handled, split, finished rfl, List.append_nil]

/-- An iteration tracks the stream. -/
theorem iteration_tracks (noBrace : openBrace ∉ tail) {toRemove removed : List Nat}
    {info : SocketInfo} (found : pc.sockets[fd]? = some info)
    (completed : pollSocket lib view io (pc, toRemove) fd = .ok (after, removed))
    (answers : peer.Answers (io fd) next)
    (drains : Drains lib (io fd) (info.waitingSize, info.readahead) peer)
    (tracks : (link fd pc).Tracks frames tail peer.unread) :
    (link fd after).Tracks frames tail next.unread ∧ (link fd after).decoder ≠ none := by
  have decoder : (link fd pc).decoder = some (info.waitingSize, info.readahead) :=
    decoder_eq_some.mpr ⟨info, found, rfl⟩
  have unchanged (same : link fd after = link fd pc) (unread : next.unread = peer.unread) :
      (link fd after).Tracks frames tail next.unread ∧ (link fd after).decoder ≠ none := by
    rw [same, unread]
    refine ⟨tracks, ?_⟩
    rw [decoder]
    exact nofun
  cases answers with
  | hungUp closed status =>
      have down : (io fd).status ≠ .ready := by
        rw [status]
        exact nofun
      obtain ⟨rfl, -⟩ := pollSocket_down found down completed
      exact unchanged (link_record rfl rfl rfl) rfl
  | @served middle _ status reads writes =>
      obtain ⟨it, parsed, rfl, -⟩ := pollSocket_served found status completed
      have unread := reads.unread
      rw [← writes.unread] at unread
      rcases served_link found parsed with
        ⟨nothing, same⟩ | ⟨readSome, packets, left, rest, decoded, same⟩
      · rw [nothing, List.nil_append] at unread
        exact unchanged same unread.symm
      · have free := drains.unblocked status readSome
        have whole := tracks.whole
        rw [unread, ← List.append_assoc] at whole
        rw [same]
        exact ⟨⟨tracks.decoding.more noBrace decoder decoded.decodes free, whole⟩, nofun⟩

/-- A connection that an iteration removes was read to the end. -/
theorem removed_unread {toRemove removed : List Nat} {decoder : Nat × ByteString}
    (completed : pollSocket lib view io (pc, toRemove) fd = .ok (after, removed))
    (answers : peer.Answers (io fd) next) (drains : Drains lib (io fd) decoder peer)
    (fresh : fd ∉ toRemove) (gone : fd ∈ removed) : next.unread = [] := by
  obtain ⟨more, rfl, own, -⟩ := pollSocket_removes completed
  obtain ⟨-, cause⟩ := own fd ((List.mem_append.mp gone).resolve_left fresh)
  cases answers with
  | hungUp closed status => exact drains.hungUp status
  | served status reads writes =>
      rw [writes.unread]
      rcases cause with (down | ended) | failed
      · exact absurd status down
      · exact reads.ended.1 ended
      · have total := reads.unread
        rw [drains.broken status failed] at total
        exact List.append_right_eq_self.mp total.symm

/-- A connection that is gone stays as it is. -/
theorem poll_gone (missing : pc.sockets[fd]? = none) (completed : pc.poll lib view io = .ok after) :
    link fd after = link fd pc := by
  have untouched {before next : PluginComm} {toRemove removed : List Nat}
      (same : link fd before = link fd pc) (fresh : fd ∉ toRemove)
      (iteration : pollSocket lib view io (before, toRemove) fd = .ok (next, removed)) :
      if fd ∈ removed then False else link fd next = link fd pc := by
    have absent : before.sockets[fd]? = none := by
      rw [← decoder_eq_none, same, decoder_eq_none]
      exact missing
    obtain ⟨rfl, rfl⟩ := pollSocket_absent absent iteration
    rw [if_neg fresh]
    exact same
  rcases link_poll_cases (· = link fd pc) (fun _ => False) (fun _ => rfl) untouched completed with
    same | ⟨-, never, -⟩
  · exact same
  · exact never.elim

theorem poll_delivers (noBrace : openBrace ∉ tail) (completed : pc.poll lib view io = .ok after)
    (answered : Answered fd io pc after peer next)
    (drained : ∀ info, pc.sockets[fd]? = some info →
      Drains lib (io fd) (info.waitingSize, info.readahead) peer)
    (delivers : Session.Delivers fd frames tail ⟨pc, peer⟩) :
    Session.Delivers fd frames tail ⟨after, next⟩ := by
  cases answered with
  | gone missing => exact delivers.of_link (poll_gone missing completed)
  | @present _ info found answers made =>
      have drains := drained info found
      have served {before last : PluginComm} {toRemove removed : List Nat}
          (same : link fd before = link fd pc) (fresh : fd ∉ toRemove)
          (iteration : pollSocket lib view io (before, toRemove) fd = .ok (last, removed)) :
          if fd ∈ removed then
            (link fd last).Tracks frames tail next.unread ∧ next.unread = []
          else
            (link fd last).Tracks frames tail next.unread ∧ (link fd last).decoder ≠ none := by
        have decoder : (link fd before).decoder = some (info.waitingSize, info.readahead) := by
          rw [same]
          exact decoder_eq_some.mpr ⟨info, found, rfl⟩
        obtain ⟨copy, foundToo, state⟩ := decoder_eq_some.mp decoder
        have tracks := delivers.tracks
        rw [← same] at tracks
        rw [← state] at drains
        have tracked := iteration_tracks noBrace foundToo iteration answers drains tracks
        split
        · next removed =>
            exact ⟨tracked.1, removed_unread iteration answers drains fresh removed⟩
        · exact tracked
      rcases link_poll_cases
          (fun connection => connection.Tracks frames tail next.unread ∧ connection.decoder ≠ none)
          (fun connection => connection.Tracks frames tail next.unread ∧ next.unread = [])
          (fun missing => by cases missing.symm.trans found) served completed with
        ⟨tracks, open_⟩ | ⟨connection, ⟨tracks, nothing⟩, same⟩
      · exact ⟨tracks, fun closed => absurd (decoder_eq_none.mpr closed) open_⟩
      · refine ⟨?_, fun _ => nothing⟩
        rw [same]
        exact ⟨tracks.decoding.removed, tracks.whole⟩

/-- Once the client has closed, a call of `poll` removes the connection. -/
theorem poll_closed (closed : peer.closed = true) (completed : pc.poll lib view io = .ok after)
    (answered : Answered fd io pc after peer next) : after.sockets[fd]? = none := by
  cases answered with
  | gone missing =>
      rw [← decoder_eq_none, poll_gone missing completed, decoder_eq_none]
      exact missing
  | @present _ info found answers made =>
      have served {before last : PluginComm} {toRemove removed : List Nat}
          (same : link fd before = link fd pc) (_ : fd ∉ toRemove)
          (iteration : pollSocket lib view io (before, toRemove) fd = .ok (last, removed)) :
          if fd ∈ removed then True else False := by
        obtain ⟨more, rfl, -, own⟩ := pollSocket_removes iteration
        have present : before.sockets[fd]? ≠ none := by
          rw [ne_eq, ← decoder_eq_none, same, decoder_eq_none, found]
          exact nofun
        rw [if_pos (List.mem_append_right _ (own present (answers.closes closed)))]
        trivial
      rcases link_poll_cases (fun _ => False) (fun _ => True)
          (fun missing => by cases missing.symm.trans found) served completed with
        never | ⟨connection, -, same⟩
      · exact never.elim
      · rw [← decoder_eq_none, same]

theorem step_delivers (noBrace : openBrace ∉ tail) {before last : Session}
    {label : Option (View × Action)} (drained : before.Drained lib fd label)
    (step : Session.Step lib fd before label last) (delivers : before.Delivers fd frames tail) :
    last.Delivers fd frames tail := by
  cases step with
  | peer moved =>
      obtain ⟨tracks, gone⟩ := delivers
      rw [← moved.unread] at tracks gone
      exact ⟨tracks, gone⟩
  | @ircEvent pc after peer view network event origin params completed =>
      cases completed
      exact delivers.of_link ((link_eventClosed lib fd (link fd pc)).ircEvent rfl)
  | connect different completed =>
      cases completed
      exact delivers.of_link (link_connect different _)
  | poll completed answered => exact poll_delivers noBrace completed answered drained delivers

theorem session_delivers (noBrace : openBrace ∉ tail) {state : Session}
    (reached : ((session lib fd (stream frames tail)).guard (Session.Drained lib fd)).Reachable
      state) : state.Delivers fd frames tail := by
  refine reached.invariant (motive := fun state => state.Delivers fd frames tail) ?_ ?_
  · rintro start ⟨pc, type, rfl⟩
    refine ⟨?_, fun missing => ?_⟩
    · rw [link_connected]
      refine ⟨decoding_fresh rfl rfl ?_, rfl⟩
      intro waiting buffer store
      cases store
      exact ⟨rfl, rfl⟩
    · rw [← decoder_eq_none, link_connected] at missing
      cases missing
  · intro before label last delivers step
    exact step_delivers noBrace step.1 step.2 delivers

/-- A stream of packets that the bot answers stops no call of `poll`. -/
theorem Session.Delivers.stops_nothing {state : Session} (noBrace : openBrace ∉ tail)
    (answerable : ∀ frame ∈ frames, Answerable lib frame.packet)
    (delivers : state.Delivers fd frames tail) (answers : state.peer.Answers (io fd) next)
    (short : ∀ info, state.pc.sockets[fd]? = some info →
      (info.readahead ++ bytesRead (io fd).reads).length < 2 ^ 31) {fault : Fault}
    (stopped : state.pc.poll lib view io = .error fault) : fault.fd ≠ fd := by
  rintro rfl
  obtain ⟨info, found, ready, -, unacceptable⟩ := poll_fault stopped
  apply unacceptable
  cases answers with
  | hungUp closed down => cases down.symm.trans ready
  | served status reads writes =>
      have ahead := delivers.tracks.whole
      rw [reads.unread, ← List.append_assoc] at ahead
      exact decoding_acceptable noBrace answerable (short info found) delivers.tracks.decoding
        found ahead

/-- The requests of a client that closes are handled in order and once each; when the connection
is gone all of them are, and it is gone after the first call of `poll` that follows the close.
If the bot can answer them, they stop no call of `poll`. -/
theorem requests_survive_close (noBrace : openBrace ∉ tail) {state : Session}
    (reached : ((session lib fd (stream frames tail)).guard (Session.Drained lib fd)).Reachable
      state) :
    handled fd state.pc.trace <+: frames.map packet ∧
      (state.pc.sockets[fd]? = none → handled fd state.pc.trace = frames.map packet) ∧
      (∀ view io last, state.peer.closed = true →
        ((session lib fd (stream frames tail)).guard (Session.Drained lib fd)).step state
          (some (view, .poll io)) last →
        last.pc.sockets[fd]? = none ∧ handled fd last.pc.trace = frames.map packet) ∧
      ((∀ frame ∈ frames, Answerable lib frame.packet) →
        ∀ view io next fault, state.peer.Answers (io fd) next →
          (∀ info, state.pc.sockets[fd]? = some info →
            (info.readahead ++ bytesRead (io fd).reads).length < 2 ^ 31) →
          state.pc.poll lib view io = .error fault → fault.fd ≠ fd) := by
  have gone {state : Session} (delivers : state.Delivers fd frames tail)
      (missing : state.pc.sockets[fd]? = none) :
      handled fd state.pc.trace = frames.map packet := by
    have tracks := delivers.tracks
    rw [delivers.gone missing] at tracks
    exact tracks.handled_all
  have delivers := session_delivers noBrace reached
  refine ⟨delivers.tracks.handled_prefix, gone delivers, ?_, ?_⟩
  · intro view io last closed step
    have missing : last.pc.sockets[fd]? = none := by
      cases step.2 with
      | poll completed answered => exact poll_closed closed completed answered
    exact ⟨missing, gone (session_delivers noBrace (reached.snoc _ step)) missing⟩
  · intro answerable view io next fault answers short stopped
    exact delivers.stops_nothing noBrace answerable answers short stopped

end Session

/-- The request has arrived and the client has closed, before `poll` is called. -/
def requestedAndClosed : Session where
  pc := connect 5 (ascii "unix") {}
  peer := { unsent := [], queue := ascii " 2\x7b\x7d", closed := true }

theorem requestedAndClosed_reached
    (allowed : Session → Option (View × Action) → Prop) (free : ∀ state, allowed state none) :
    ((session (.knowing [.object []]) 5 (stream [emptyRequest] [])).guard allowed).Reachable
      requestedAndClosed := by
  have arrived : (Peer.mk (stream [emptyRequest] []) [] false (by simp)).Step
      ⟨[], ascii " 2\x7b\x7d", false, by simp⟩ :=
    .arrive (stream [emptyRequest] []) (List.append_nil _).symm (by decide) rfl
  have closed : (Peer.mk [] (ascii " 2\x7b\x7d") false (by simp)).Step
      requestedAndClosed.peer := .close rfl rfl rfl
  have connected : ((session (.knowing [.object []]) 5 (stream [emptyRequest] [])).guard
      allowed).Reachable ⟨connect 5 (ascii "unix") {}, { unsent := stream [emptyRequest] [] }⟩ :=
    .start ⟨{}, ascii "unix", rfl⟩
  exact (connected.snoc none ⟨free _, .peer arrived⟩).snoc none ⟨free _, .peer closed⟩

/-- The close is seen at end-of-file, and the answer cannot be written. -/
def readToEnd : Nat → SocketInput :=
  fun _ => { reads := [.data (ascii " 2\x7b\x7d"), .data []], writes := [.error] }

theorem requests_survive_close_read :
    ∃ state, ((session (.knowing [.object []]) 5 (stream [emptyRequest] [])).guard
        (Session.Drained (.knowing [.object []]) 5)).Reachable state ∧
      handled 5 state.pc.trace = [ascii "\x7b\x7d"] := by
  have answers : requestedAndClosed.peer.Answers (readToEnd 5)
      { unsent := [], closed := true } := by
    have ended : Peer.Reads { unsent := [], closed := true } [.data []]
        { unsent := [], closed := true } := .endOfFile rfl rfl
    have reads : requestedAndClosed.peer.Reads (readToEnd 5).reads
        { unsent := [], closed := true } := by
      refine .data ?_ ?_ ?_ ?_ ended
      · decide
      · exact (List.append_nil _).symm
      · rfl
      · rfl
    exact .served rfl reads (.answered (fun _ => rfl) (.done _))
  have drained : requestedAndClosed.Drained (.knowing [.object []]) 5
      (some (.bare, .poll readToEnd)) := by
    intro info found
    cases found
    refine ⟨nofun, fun _ _ => rfl, fun _ _ => ?_⟩
    have announced : Announces (ascii " 2") (ascii "\x7b\x7d") 2 :=
      ⟨rfl, by decide, by decide, by decide, rfl, by decide⟩
    have decoded : Decodes (.knowing [.object []]) 0 (ascii " 2" ++ ascii "\x7b\x7d")
        [ascii "\x7b\x7d"] 0 [] :=
      .header announced (by decide) (.packet (by decide) (by decide) (by decide)
        (.noHeader (by decide) (by decide)))
    exact (decodes_settled_iff decoded (absurd rfl)).mp (.inl ⟨rfl, by decide⟩)
  have reached := (requestedAndClosed_reached
    (Session.Drained (.knowing [.object []]) 5) (fun _ => trivial)).snoc
      (some (.bare, .poll readToEnd)) ⟨drained, .poll rfl (.present rfl answers rfl)⟩
  exact ⟨_, reached, (requests_survive_close (by decide) reached).2.1 rfl⟩

/-- The close is seen by `::poll`: the request stays in the queue of the kernel. -/
theorem hangUp_drops :
    ∃ state, (session (.knowing [.object []]) 5 (stream [emptyRequest] [])).Reachable state ∧
      state.peer.closed = true ∧ state.peer.queue = stream [emptyRequest] [] ∧
      state.pc.sockets[5]? = none ∧ handled 5 state.pc.trace = [] := by
  have reached := (requestedAndClosed_reached (fun _ _ => True) (fun _ => trivial)).of_guard
  refine ⟨_, reached.snoc (some (.bare, .poll fun _ => { status := .errorOrHangUp }))
    (.poll rfl (.present rfl (.hungUp rfl rfl) rfl)), rfl, by decide, rfl, rfl⟩

end PluginComm

end DaZeus
