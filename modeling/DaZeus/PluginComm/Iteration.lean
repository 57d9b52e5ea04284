import DaZeus.PluginComm.Requests

/-!
# One iteration of `poll`, function by function

Each function of the iteration gets one lemma that says what it does to the
copy, to the map and to the trace.  `pollSocket_invariant` and
`poll_invariant` then package the induction over the loops for properties of
the component.
-/

namespace DaZeus

open Library
open Std (TreeMap)

/-- What `poll` notes while it works on one descriptor. -/
inductive TraceEvent.Local (fd : Nat) : TraceEvent → Prop
  | read (bytes : Option ByteString) : Local fd (.read fd bytes)
  | handled (packet : ByteString) : Local fd (.handled fd packet)
  | produced (bytes : ByteString) : Local fd (.produced fd bytes)
  | wrote (bytes : Option ByteString) : Local fd (.wrote fd bytes)
  | closed : Local fd (.closed fd)
  | incidental {event : TraceEvent} (incidental : event.Incidental) : Local fd event

namespace PluginComm

variable {lib : Libraries} {view : View} {fd : Nat}

/-- Note several events, the oldest first. -/
def recordAll (pc : PluginComm) (noted : List TraceEvent) : PluginComm :=
  { pc with trace := noted.reverse ++ pc.trace }

theorem recordAll_cons (pc : PluginComm) (event : TraceEvent) (noted : List TraceEvent) :
    pc.recordAll (event :: noted) = (pc.record event).recordAll noted := by
  simp [recordAll, record]

theorem recordAll_invariant {motive : PluginComm → Prop} {noted : List TraceEvent}
    (preserved : ∀ {pc : PluginComm} {event : TraceEvent}, event ∈ noted → motive pc →
      motive (pc.record event))
    {pc : PluginComm} (holds : motive pc) : motive (pc.recordAll noted) := by
  induction noted generalizing pc with
  | nil => exact holds
  | cons event noted inductionHypothesis =>
      rw [recordAll_cons]
      exact inductionHypothesis (fun membership => preserved (List.mem_cons_of_mem _ membership))
        (preserved List.mem_cons_self holds)

theorem gather_recordAll {α : Type} {contribution : TraceEvent → List α}
    {noted : List TraceEvent} (other : ∀ event ∈ noted, event.isConnect fd = false)
    (pc : PluginComm) :
    gather contribution fd (pc.recordAll noted).trace =
      gather contribution fd pc.trace ++ noted.flatMap contribution := by
  induction noted generalizing pc with
  | nil => simp [recordAll]
  | cons event noted inductionHypothesis =>
      rw [recordAll_cons, inductionHypothesis fun event membership =>
        other event (List.mem_cons_of_mem _ membership), record_trace,
        gather_cons (other event List.mem_cons_self), List.flatMap_cons, List.append_assoc]

/-- The bytes that the read loop gets from the client. -/
def bytesRead : List ReadResult → ByteString
  | .data bytes :: rest => if bytes = [] then [] else bytes ++ bytesRead rest
  | _ => []

theorem readSocket_spec (fd : Nat) (reads : List ReadResult) (it : Iteration) :
    ∃ noted toRemove, readSocket fd reads it =
        { it with
          pc := it.pc.recordAll noted
          info := { it.info with readahead := it.info.readahead ++ bytesRead reads }
          appended := it.appended || bytesRead reads != []
          toRemove } ∧
      noted.flatMap (TraceEvent.receivedBytes fd) = bytesRead reads ∧
      ∀ event ∈ noted, (∃ bytes, event = .read fd bytes) ∨ event = .closed fd := by
  induction reads generalizing it with
  | nil => exact ⟨[], it.toRemove, by simp [readSocket, bytesRead, recordAll], rfl, by simp⟩
  | cons result rest inductionHypothesis =>
      cases result with
      | data bytes =>
          by_cases finished : bytes = []
          · refine ⟨[.read fd (some []), .closed fd], it.toRemove ++ [fd], ?_, ?_, by simp⟩
            · simp [readSocket, bytesRead, finished, Iteration.close, Iteration.record,
                recordAll, record]
            · simp [bytesRead, finished, TraceEvent.receivedBytes]
          · obtain ⟨noted, toRemove, same, contributed, events⟩ := inductionHypothesis
              { it.record (.read fd (some bytes)) with
                appended := true
                info := { it.info with readahead := it.info.readahead ++ bytes } }
            refine ⟨.read fd (some bytes) :: noted, toRemove, ?_, ?_, ?_⟩
            · simp only [readSocket, finished, if_false, recordAll_cons]
              apply same.trans
              simp [Iteration.record, bytesRead, finished, List.append_assoc]
            · simp [contributed, bytesRead, finished, TraceEvent.receivedBytes]
            · intro event membership
              rcases List.mem_cons.mp membership with rfl | later
              · exact .inl ⟨_, rfl⟩
              · exact events event later
      | wouldBlock =>
          exact ⟨[.read fd none], it.toRemove,
            by simp [readSocket, bytesRead, Iteration.record, recordAll, record],
            by simp [bytesRead, TraceEvent.receivedBytes], by simp⟩
      | error =>
          exact ⟨[.read fd none, .closed fd], it.toRemove ++ [fd],
            by simp [readSocket, bytesRead, Iteration.close, Iteration.record, recordAll,
              record],
            by simp [bytesRead, TraceEvent.receivedBytes], by simp⟩

/-- What the writes took and what is left is what there was. -/
theorem writeSocket_spec (fd : Nat) (writes : List WriteResult) (it : Iteration) :
    ∃ noted toRemove writebuffer, writeSocket fd writes it =
        { it with
          pc := it.pc.recordAll noted
          info := { it.info with writebuffer }
          toRemove } ∧
      noted.flatMap (TraceEvent.acceptedBytes fd) ++ writebuffer = it.info.writebuffer ∧
      ∀ event ∈ noted, (∃ bytes, event = .wrote fd bytes) ∨ event = .closed fd := by
  induction writes generalizing it with
  | nil => exact ⟨[], it.toRemove, it.info.writebuffer, rfl, by simp, by simp⟩
  | cons result rest inductionHypothesis =>
      by_cases written : it.info.writebuffer = []
      · exact ⟨[], it.toRemove, it.info.writebuffer,
          by simp only [writeSocket, if_pos written]; rfl, by simp, by simp⟩
      cases result with
      | accepted count =>
          obtain ⟨noted, toRemove, writebuffer, same, contributed, events⟩ :=
            inductionHypothesis
              { it.record (.wrote fd (some (it.info.writebuffer.take count))) with
                info := { it.info with writebuffer := it.info.writebuffer.drop count } }
          refine ⟨.wrote fd (some (it.info.writebuffer.take count)) :: noted, toRemove,
            writebuffer, ?_, ?_, ?_⟩
          · simp only [writeSocket, written, if_false, recordAll_cons]
            exact same
          · rw [List.flatMap_cons, List.append_assoc, contributed]
            simp [TraceEvent.acceptedBytes]
          · intro event membership
            rcases List.mem_cons.mp membership with rfl | later
            · exact .inl ⟨_, rfl⟩
            · exact events event later
      | wouldBlock =>
          exact ⟨[.wrote fd none], it.toRemove, it.info.writebuffer,
            by simp [writeSocket, written, Iteration.record, recordAll, record],
            by simp [TraceEvent.acceptedBytes], by simp⟩
      | error =>
          exact ⟨[.wrote fd none, .closed fd], it.toRemove ++ [fd], it.info.writebuffer,
            by simp [writeSocket, written, Iteration.close, Iteration.record, recordAll,
              record],
            by simp [TraceEvent.acceptedBytes], by simp⟩

/-- The callbacks of a Network call only dispatch events to subscribed sockets. -/
theorem callNetwork_invariant {motive : PluginComm → Prop}
    {call : Option (NetworkId × NetworkCall)} {it : Iteration}
    (incidental : ∀ {pc : PluginComm} {event : TraceEvent}, event.Incidental → motive pc →
      motive (pc.record event))
    (raised : ∀ {pc : PluginComm} {target : Nat} {info : SocketInfo} {event : EventName}
      {parameters : List ByteString}, motive pc → pc.sockets[target]? = some info →
      (info.isSubscribed lib event.text ∧ ∃ raise ∈ it.callbacks.headD [],
        2 ≤ raise.params.length ∧ raise.event = event.text) →
      motive (pc.dispatchTo lib target event parameters))
    (holds : motive it.pc) : motive (it.callNetwork lib view call).pc := by
  cases call with
  | none => exact holds
  | some call =>
      refine List.foldlRecOn _ _ (incidental (.called _ _) holds)
        fun pc holds raise membership => ?_
      rcases ircEvent_selfEvent lib pc view.memory view.config.globalConfig call.1 raise.origin
        raise.params raise.known with same | ⟨enough, name, args, text, same⟩
      · rw [same]
        exact holds
      · rw [same]
        exact dispatch_induction holds fun holds found subscribed =>
          raised holds found ⟨subscribed, raise, membership, enough, text.symm⟩

/-- Between the notes about the packet and about the response there are only incidental
ones and what the called Network raises. -/
theorem answer_pc (lib : Libraries) (view : View) (fd : Nat) (packet : ByteString)
    (input : Json) (it : Iteration) {motive : PluginComm → Prop}
    (incidental : ∀ {pc : PluginComm} {event : TraceEvent}, event.Incidental → motive pc →
      motive (pc.record event))
    (network : ∀ {before : Iteration} {call : Option (NetworkId × NetworkCall)},
      before.callbacks = it.callbacks → motive before.pc →
      motive (before.callNetwork lib view call).pc)
    (holds : motive (it.pc.record (.handled fd packet))) :
    ∃ pc, motive pc ∧ (answer lib view fd packet input it).pc =
      pc.record (.produced fd (responseFrame lib view input it.info)) := by
  let start : Iteration :=
    { it.record (.handled fd packet) with info := (handle lib view input it.info).info }
  have reached : motive (if (handle lib view input it.info).reload then
      start.record .reloadConfig else start).pc := by
    split
    · exact incidental .reloadConfig holds
    · exact holds
  refine ⟨_, network ?_ reached, rfl⟩
  split <;> rfl

/-- No callback is answered twice. -/
theorem answer_callbacks {packet : ByteString} {input : Json} {it : Iteration} :
    (answer lib view fd packet input it).callbacks ⊆ it.callbacks := by
  have called (call : Option (NetworkId × NetworkCall)) {before : Iteration}
      (same : before.callbacks = it.callbacks) :
      (before.callNetwork lib view call).callbacks ⊆ it.callbacks := by
    cases call with
    | none => exact same ▸ List.Subset.refl _
    | some call => exact same ▸ List.tail_subset _
  exact called _ (by split <;> rfl)

/-- A property of the component that survives what `poll` does for one descriptor,
short of writing the copy back. -/
structure PollClosed (lib : Libraries) (fd : Nat) (property : PluginComm → Prop) : Prop where
  dispatchTo : ∀ {pc : PluginComm} {target : Nat} {info : SocketInfo} (event : EventName)
    (parameters : List ByteString), property pc → pc.sockets[target]? = some info →
      property (pc.dispatchTo lib target event parameters)
  record : ∀ {pc : PluginComm} {event : TraceEvent}, event.Local fd → property pc →
    property (pc.record event)

namespace PollClosed

variable {property : PluginComm → Prop} (closed : PollClosed lib fd property)

include closed

theorem readSocket (reads : List ReadResult) (it : Iteration) (holds : property it.pc) :
    property (readSocket fd reads it).pc := by
  obtain ⟨noted, toRemove, same, -, events⟩ := readSocket_spec fd reads it
  rw [same]
  refine recordAll_invariant (fun membership holds => closed.record ?_ holds) holds
  rcases events _ membership with ⟨bytes, rfl⟩ | rfl
  · exact .read bytes
  · exact .closed

theorem writeSocket {writes : List WriteResult} {it : Iteration} (holds : property it.pc) :
    property (writeSocket fd writes it).pc := by
  obtain ⟨noted, toRemove, writebuffer, same, -, events⟩ := writeSocket_spec fd writes it
  rw [same]
  refine recordAll_invariant (fun membership holds => closed.record ?_ holds) holds
  rcases events _ membership with ⟨bytes, rfl⟩ | rfl
  · exact .wrote bytes
  · exact .closed

theorem answer {packet : ByteString} {input : Json} {it : Iteration} (holds : property it.pc) :
    property (answer lib view fd packet input it).pc := by
  have incidental {pc : PluginComm} {event : TraceEvent} (harmless : event.Incidental) :
      property pc → property (pc.record event) := closed.record (.incidental harmless)
  obtain ⟨pc, reached, same⟩ := answer_pc lib view fd packet input it incidental
    (fun _ => callNetwork_invariant incidental fun holds found _ =>
      closed.dispatchTo _ _ holds found)
    (closed.record (.handled packet) holds)
  rw [same]
  exact closed.record (.produced _) reached

end PollClosed

theorem callNetwork_info (call : Option (NetworkId × NetworkCall)) (it : Iteration) :
    (it.callNetwork lib view call).info = it.info := by
  cases call <;> rfl

/-- Handling a packet changes the copy as the request does, and appends the response. -/
theorem answer_info (packet : ByteString) (input : Json) (it : Iteration) :
    (answer lib view fd packet input it).info =
      { (handle lib view input it.info).info with
        writebuffer := (handle lib view input it.info).info.writebuffer ++
          responseFrame lib view input it.info
        waitingSize := 0 } := by
  simp only [answer, Iteration.respond, Iteration.record, callNetwork_info]
  split <;> rfl

theorem handlePacket_answer {packet : ByteString} {it after : Iteration}
    (handled : handlePacket lib view fd packet it = .ok after) :
    ∃ input, lib.loads (cStr packet) = some input ∧ ¬LacksPermission input ∧
      after = answer lib view fd packet input it := by
  unfold handlePacket at handled
  split at handled
  · cases handled
  · next input loaded =>
      split at handled
      · cases handled
      · next inside =>
          cases handled
          exact ⟨input, loaded, inside ∘ (handle_overrun lib view input it.info).mpr, rfl⟩

theorem readHeader_cut {info cut : SocketInfo} (read : readHeader fd info = .ok cut) :
    ∃ waitingSize readahead, cut = { info with waitingSize, readahead } := by
  unfold readHeader at read
  split at read
  · cases read
    exact ⟨_, _, rfl⟩
  · dsimp only at read
    split at read
    · split at read
      · cases read
      · cases read
        exact ⟨_, _, rfl⟩
      · cases read
        exact ⟨_, _, rfl⟩
    · split at read
      · cases read
        exact ⟨_, _, rfl⟩
      · cases read

theorem takePacket_cut {info cut : SocketInfo} {packet : ByteString}
    (taken : takePacket info = some (packet, cut)) :
    ∃ readahead, cut = { info with readahead } := by
  unfold takePacket at taken
  split at taken
  · cases taken
    exact ⟨_, rfl⟩
  · cases taken

/-- What cutting the buffer and answering a request preserve, the parse loop preserves. -/
theorem parsePackets_loaded {motive : Iteration → Prop}
    (cut : ∀ {it : Iteration} (waitingSize : Nat) (readahead : ByteString), motive it →
      motive { it with info := { it.info with waitingSize, readahead } })
    (answered : ∀ {it : Iteration} {packet : ByteString} {input : Json},
      lib.loads (cStr packet) = some input → ¬LacksPermission input → motive it →
      motive (answer lib view fd packet input it))
    {fuel : Nat} {it after : Iteration}
    (parsed : parsePackets lib view fd fuel it = .ok after) (holds : motive it) :
    motive after := by
  induction fuel generalizing it with
  | zero =>
      cases parsed
      exact holds
  | succ fuel inductionHypothesis =>
      unfold parsePackets at parsed
      cases header : readHeader fd it.info with
      | error fault =>
          rw [header] at parsed
          cases parsed
      | ok info =>
          rw [header] at parsed
          obtain ⟨waitingSize, readahead, rfl⟩ := readHeader_cut header
          have headed := cut waitingSize readahead holds
          simp only [bind, Except.bind] at parsed
          split at parsed
          · cases parsed
            exact headed
          · next packet info taken =>
              obtain ⟨remaining, rfl⟩ := takePacket_cut taken
              split at parsed
              · cases parsed
              · next answer handled =>
                  obtain ⟨input, loaded, inside, rfl⟩ := handlePacket_answer handled
                  exact inductionHypothesis parsed
                    (answered loaded inside (cut waitingSize remaining holds))

theorem parseSocket_loaded {motive : Iteration → Prop}
    (cut : ∀ {it : Iteration} (waitingSize : Nat) (readahead : ByteString), motive it →
      motive { it with info := { it.info with waitingSize, readahead } })
    (answered : ∀ {it : Iteration} {packet : ByteString} {input : Json},
      lib.loads (cStr packet) = some input → ¬LacksPermission input → motive it →
      motive (answer lib view fd packet input it))
    {it after : Iteration} (parsed : parseSocket lib view fd it = .ok after)
    (holds : motive it) : motive after := by
  unfold parseSocket at parsed
  split at parsed
  · exact parsePackets_loaded cut answered parsed holds
  · cases parsed
    exact holds

theorem parseSocket_invariant {motive : Iteration → Prop}
    (cut : ∀ {it : Iteration} (waitingSize : Nat) (readahead : ByteString), motive it →
      motive { it with info := { it.info with waitingSize, readahead } })
    (answered : ∀ {it : Iteration} {packet : ByteString} {input : Json}, motive it →
      motive (answer lib view fd packet input it))
    {it after : Iteration} (parsed : parseSocket lib view fd it = .ok after)
    (holds : motive it) : motive after :=
  parseSocket_loaded cut (fun _ _ => answered) parsed holds

/-- The ways in which an iteration of `poll` ends normally. -/
inductive Polled (lib : Libraries) (view : View) (io : Nat → SocketInput) (pc : PluginComm)
    (fd : Nat) : PluginComm → Prop
  | absent (missing : pc.sockets[fd]? = none) : Polled lib view io pc fd pc
  | failed : Polled lib view io pc fd (pc.record (.closed fd))
  | served {info : SocketInfo} {toRemove : List Nat} {it : Iteration}
      (found : pc.sockets[fd]? = some info) (ready : (io fd).status = .ready)
      (parsed : parseSocket lib view fd (readSocket fd (io fd).reads
        { pc, info, toRemove, callbacks := (io fd).callbacks }) = .ok it) :
      Polled lib view io pc fd ((writeSocket fd (io fd).writes it).writeBack fd)

variable {io : Nat → SocketInput}

section Outcome

variable {pc after : PluginComm} {toRemove removed : List Nat} {info : SocketInfo}

theorem pollSocket_absent (missing : pc.sockets[fd]? = none)
    (completed : pollSocket lib view io (pc, toRemove) fd = .ok (after, removed)) :
    after = pc ∧ removed = toRemove := by
  simp only [pollSocket, missing] at completed
  cases completed
  exact ⟨rfl, rfl⟩

theorem pollSocket_down (found : pc.sockets[fd]? = some info) (down : (io fd).status ≠ .ready)
    (completed : pollSocket lib view io (pc, toRemove) fd = .ok (after, removed)) :
    after = pc.record (.closed fd) ∧ removed = toRemove ++ [fd] := by
  simp only [pollSocket, found, down, ne_eq, not_false_eq_true, if_true] at completed
  cases completed
  exact ⟨rfl, rfl⟩

theorem pollSocket_served (found : pc.sockets[fd]? = some info) (ready : (io fd).status = .ready)
    (completed : pollSocket lib view io (pc, toRemove) fd = .ok (after, removed)) :
    ∃ it, parseSocket lib view fd (readSocket fd (io fd).reads
        { pc, info, toRemove, callbacks := (io fd).callbacks }) = .ok it ∧
      after = (writeSocket fd (io fd).writes it).writeBack fd ∧
      removed = (writeSocket fd (io fd).writes it).toRemove := by
  simp only [pollSocket, found, ready, ne_eq, not_true, if_false, bind, Except.bind] at completed
  split at completed
  · cases completed
  · next it parsed =>
      cases completed
      exact ⟨it, parsed, rfl, rfl⟩

theorem pollSocket_polled
    (completed : pollSocket lib view io (pc, toRemove) fd = .ok (after, removed)) :
    Polled lib view io pc fd after := by
  cases found : pc.sockets[fd]? with
  | none =>
      rw [(pollSocket_absent found completed).1]
      exact .absent found
  | some info =>
      by_cases ready : (io fd).status = .ready
      · obtain ⟨it, parsed, rfl, -⟩ := pollSocket_served found ready completed
        exact .served found ready parsed
      · rw [(pollSocket_down found ready completed).1]
        exact .failed

end Outcome

/-- Properties that are no matter of the polled entry survive its iteration. -/
theorem PollClosed.pollSocket {property : PluginComm → Prop}
    (closed : PollClosed lib fd property)
    (inserted : ∀ {pc : PluginComm} (info : SocketInfo), property pc →
      property { pc with sockets := pc.sockets.insert fd info })
    {pc after : PluginComm} (polled : Polled lib view io pc fd after) (holds : property pc) :
    property after := by
  cases polled with
  | absent _ => exact holds
  | failed => exact closed.record .closed holds
  | @served info toRemove it found ready parsed =>
      refine inserted _ (closed.writeSocket ?_)
      have read := closed.readSocket (io fd).reads
        { pc, info, toRemove, callbacks := (io fd).callbacks } holds
      exact parseSocket_invariant (motive := fun it => property it.pc)
        (fun _ _ holds => holds) closed.answer parsed read

/-! ## What an iteration removes -/

/-- The read loop closes the connection, at end-of-file or at an error. -/
def closesReading : List ReadResult → Bool
  | .data bytes :: rest => bytes = [] || closesReading rest
  | .error :: _ => true
  | _ => false

theorem readSocket_toRemove (fd : Nat) (reads : List ReadResult) (it : Iteration) :
    (readSocket fd reads it).toRemove =
      it.toRemove ++ if closesReading reads then [fd] else [] := by
  induction reads generalizing it with
  | nil => exact (List.append_nil _).symm
  | cons result rest inductionHypothesis =>
      cases result with
      | data bytes =>
          by_cases finished : bytes = []
          · simp [readSocket, closesReading, finished, Iteration.close, Iteration.record]
          · simp only [readSocket, closesReading, finished, if_false, decide_false, Bool.false_or]
            exact inductionHypothesis _
      | wouldBlock => exact (List.append_nil _).symm
      | error => rfl

theorem writeSocket_toRemove (fd : Nat) (writes : List WriteResult) (it : Iteration) :
    (writeSocket fd writes it).toRemove = it.toRemove ∨
      .error ∈ writes ∧ (writeSocket fd writes it).toRemove = it.toRemove ++ [fd] := by
  induction writes generalizing it with
  | nil => exact .inl rfl
  | cons result rest inductionHypothesis =>
      unfold writeSocket
      split
      · exact .inl rfl
      · cases result with
        | accepted count =>
            rcases inductionHypothesis
                { it.record (.wrote fd (some (it.info.writebuffer.take count))) with
                  info := { it.info with writebuffer := it.info.writebuffer.drop count } } with
              same | ⟨failed, removed⟩
            · exact .inl same
            · exact .inr ⟨List.mem_cons_of_mem _ failed, removed⟩
        | wouldBlock => exact .inl rfl
        | error => exact .inr ⟨List.mem_cons_self, rfl⟩

theorem callNetwork_toRemove (call : Option (NetworkId × NetworkCall)) (it : Iteration) :
    (it.callNetwork lib view call).toRemove = it.toRemove := by
  cases call <;> rfl

theorem parseSocket_toRemove {it after : Iteration}
    (parsed : parseSocket lib view fd it = .ok after) : after.toRemove = it.toRemove := by
  have answered {packet : ByteString} {input : Json} (before : Iteration) :
      (answer lib view fd packet input before).toRemove = before.toRemove := by
    simp only [answer, Iteration.respond, Iteration.record, callNetwork_toRemove]
    split <;> rfl
  apply parseSocket_invariant (motive := fun reached => reached.toRemove = it.toRemove) ?_ ?_
    parsed rfl
  · intro reached waitingSize readahead same
    exact same
  · intro reached packet input same
    exact (answered reached).trans same

/-- The connection is closed on the way, if it is there. -/
def Closes (input : SocketInput) : Prop :=
  input.status ≠ .ready ∨ closesReading input.reads = true

/-- An iteration removes no other connection, and its own only where a call reports its end. -/
theorem pollSocket_removes {pc after : PluginComm} {toRemove removed : List Nat}
    (completed : pollSocket lib view io (pc, toRemove) fd = .ok (after, removed)) :
    ∃ more, removed = toRemove ++ more ∧
      (∀ other ∈ more, other = fd ∧ (Closes (io fd) ∨ .error ∈ (io fd).writes)) ∧
      (pc.sockets[fd]? ≠ none → Closes (io fd) → fd ∈ more) := by
  cases found : pc.sockets[fd]? with
  | none =>
      obtain ⟨-, rfl⟩ := pollSocket_absent found completed
      exact ⟨[], (List.append_nil _).symm, by simp, fun present => absurd rfl present⟩
  | some info =>
      by_cases ready : (io fd).status = .ready
      · obtain ⟨it, parsed, -, rfl⟩ := pollSocket_served found ready completed
        have read := parseSocket_toRemove parsed
        rw [readSocket_toRemove] at read
        have own {other : Nat} (inside : other ∈ if closesReading (io fd).reads then [fd] else []) :
            other = fd ∧ Closes (io fd) := by
          split at inside
          · next closes => exact ⟨List.mem_singleton.mp inside, .inr closes⟩
          · exact absurd inside List.not_mem_nil
        have ended (closes : Closes (io fd)) :
            fd ∈ if closesReading (io fd).reads then [fd] else [] := by
          rcases closes with down | closes
          · exact absurd ready down
          · rw [if_pos closes]
            exact List.mem_singleton_self fd
        rcases writeSocket_toRemove fd (io fd).writes it with same | ⟨failed, same⟩
        · refine ⟨_, same.trans read, ?_, fun _ => ended⟩
          intro other inside
          exact ⟨(own inside).1, .inl (own inside).2⟩
        · rw [read, List.append_assoc] at same
          refine ⟨_, same, ?_, fun _ closes => List.mem_append_left _ (ended closes)⟩
          intro other inside
          rcases List.mem_append.mp inside with early | late
          · exact ⟨(own early).1, .inl (own early).2⟩
          · exact ⟨List.mem_singleton.mp late, .inr failed⟩
      · obtain ⟨-, rfl⟩ := pollSocket_down found ready completed
        refine ⟨[fd], rfl, ?_, fun _ _ => List.mem_singleton_self fd⟩
        intro other inside
        exact ⟨List.mem_singleton.mp inside, .inl (.inl ready)⟩

/-- A `poll` that completes has completed the loop over the sockets, and then erases the entries
that the loop has collected. -/
theorem poll_completed {pc after : PluginComm} (completed : pc.poll lib view io = .ok after) :
    ∃ finish, pc.sockets.keys.foldlM (PluginComm.pollSocket lib view io) (pc, []) = .ok finish ∧
      after = { finish.1 with sockets := finish.2.foldl (·.erase ·) finish.1.sockets } := by
  unfold poll at completed
  cases loop : pc.sockets.keys.foldlM (PluginComm.pollSocket lib view io) (pc, []) with
  | error fault =>
      rw [loop] at completed
      cases completed
  | ok finish =>
      rw [loop] at completed
      cases completed
      exact ⟨finish, rfl, rfl⟩

/-- An invariant of the loop over the sockets, which may speak of those still to come. -/
theorem poll_remaining {motive : List Nat → PluginComm → Prop}
    (polled : ∀ {fd : Nat} {remaining : List Nat} {pc after : PluginComm}, fd ∉ remaining →
      Polled lib view io pc fd after → motive (fd :: remaining) pc → motive remaining after)
    (erased : ∀ {pc : PluginComm} (fd : Nat), motive [] pc →
      motive [] { pc with sockets := pc.sockets.erase fd })
    {pc after : PluginComm} (completed : pc.poll lib view io = .ok after)
    (holds : motive pc.sockets.keys pc) : motive [] after := by
  obtain ⟨finish, loop, rfl⟩ := poll_completed completed
  have served : motive [] finish.1 :=
    (foldlM_remaining
      (motive := fun remaining state => remaining.Nodup ∧ motive remaining state.1)
      (fun holds completed => ⟨(List.nodup_cons.mp holds.1).2,
        polled (List.nodup_cons.mp holds.1).1 (pollSocket_polled completed) holds.2⟩)
      ⟨TreeMap.nodup_keys, holds⟩ loop).2
  exact List.foldlRecOn (motive := fun sockets => motive [] { finish.1 with sockets })
    _ _ served fun _ holds fd _ => erased fd holds

/-- What every iteration and the removal of entries preserve, `poll` preserves. -/
theorem poll_invariant {motive : PluginComm → Prop}
    (polled : ∀ {pc after : PluginComm} {fd : Nat}, Polled lib view io pc fd after →
      motive pc → motive after)
    (erased : ∀ {pc : PluginComm} (fd : Nat), motive pc →
      motive { pc with sockets := pc.sockets.erase fd })
    {pc after : PluginComm} (completed : pc.poll lib view io = .ok after)
    (holds : motive pc) : motive after :=
  poll_remaining (motive := fun _ => motive) (fun _ => polled) erased completed holds

/-! ## What was noted stays noted -/

theorem trace_suffix_eventClosed (lib : Libraries) (trace : List TraceEvent) :
    EventClosed lib fun pc => trace <:+ pc.trace where
  dispatchTo event parameters noted _ := by
    rw [dispatchTo_trace]
    exact noted.trans (List.suffix_cons _ _)
  record _ noted := noted.trans (List.suffix_cons _ _)
  delivered _ _ noted := noted.trans (List.suffix_cons _ _)
  queue _ noted := noted

theorem trace_suffix_pollClosed (lib : Libraries) (trace : List TraceEvent) (fd : Nat) :
    PollClosed lib fd fun pc => trace <:+ pc.trace where
  dispatchTo event parameters noted _ := by
    rw [dispatchTo_trace]
    exact noted.trans (List.suffix_cons _ _)
  record _ noted := noted.trans (List.suffix_cons _ _)

/-- Actions only add to the trace. -/
theorem performAll_trace {actions : List (View × Action)} {start after : PluginComm}
    (completed : performAll lib start actions = .ok after) :
    ∃ noted, after.trace = noted ++ start.trace := by
  have grown : start.trace <:+ after.trace := by
    refine foldlM_invariant (motive := fun pc : PluginComm => start.trace <:+ pc.trace)
      ?_ (List.suffix_refl _) completed
    rintro before ⟨view, action⟩ next - noted performed
    cases action with
    | ircEvent network event origin params =>
        cases performed
        exact (trace_suffix_eventClosed lib start.trace).ircEvent noted
    | poll io =>
        refine poll_invariant (motive := fun pc : PluginComm => start.trace <:+ pc.trace)
          ?_ (fun _ noted => noted) performed noted
        intro pc after fd polled noted
        exact (trace_suffix_pollClosed lib start.trace fd).pollSocket (fun _ noted => noted)
          polled noted
    | connect fd type =>
        cases performed
        exact noted.trans (List.suffix_cons _ _)
  obtain ⟨noted, same⟩ := grown
  exact ⟨noted, same.symm⟩

end PluginComm

end DaZeus
