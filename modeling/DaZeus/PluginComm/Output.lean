import DaZeus.PluginComm.Framing

/-!
# What a plugin is sent

Every frame that is produced for a connection reaches its socket in order, or
waits in its write buffer: `output_exact`.  This needs that no event arrives
for the socket whose request is being handled; such an event goes to the entry
of the map, which the copy then overwrites.
-/

namespace DaZeus

open Library
open Std (TreeMap)

namespace PluginComm

variable {lib : Libraries} {view : View} {fd : Nat} {pc after : PluginComm}
  {io : Nat → SocketInput}

/-- The bytes taken so far and the buffered ones are those produced. -/
def Exact (fd : Nat) (pc : PluginComm) : Prop :=
  ∀ info, pc.sockets[fd]? = some info →
    accepted fd pc.trace ++ info.writebuffer = produced fd pc.trace

/-- The socket hears of nothing that the Network calls of its own requests raise. -/
def Unheard (lib : Libraries) (input : SocketInput) (info : SocketInfo) : Prop :=
  input.status = .ready → ∀ raised ∈ input.callbacks, ∀ raise ∈ raised,
    2 ≤ raise.params.length → info.isSubscribed lib raise.event = false

/-- No socket hears of its own calls during the step. -/
def UnheardStep (lib : Libraries) (pc : PluginComm) : View × Action → Prop
  | (_, .poll io) => ∀ (fd : Nat) (info : SocketInfo), pc.sockets[fd]? = some info →
      Unheard lib (io fd) info
  | _ => True

section Silent

variable {event : TraceEvent}

theorem output_record (pc : PluginComm) (other : event.isConnect fd = false)
    (accepted : event.acceptedBytes fd = []) (produced : event.producedBytes fd = []) :
    DaZeus.accepted fd (pc.record event).trace = DaZeus.accepted fd pc.trace ∧
      DaZeus.produced fd (pc.record event).trace = DaZeus.produced fd pc.trace :=
  ⟨gather_cons_of_nil other accepted, gather_cons_of_nil other produced⟩

theorem output_incidental (fd : Nat) (pc : PluginComm) (incidental : event.Incidental) :
    accepted fd (pc.record event).trace = accepted fd pc.trace ∧
      produced fd (pc.record event).trace = produced fd pc.trace := by
  cases incidental <;> exact output_record pc rfl rfl rfl

theorem exact_record (other : event.isConnect fd = false) (accepted : event.acceptedBytes fd = [])
    (produced : event.producedBytes fd = []) (holds : Exact fd pc) :
    Exact fd (pc.record event) := by
  intro info found
  obtain ⟨sameAccepted, sameProduced⟩ := output_record pc other accepted produced
  rw [sameAccepted, sameProduced]
  exact holds info found

end Silent

/-- A dispatch appends the same frame to the entry and to what was produced. -/
theorem exact_eventClosed (lib : Libraries) (fd : Nat) : EventClosed lib (Exact fd) where
  dispatchTo := by
    intro pc target entry event parameters holds found info changed
    rw [dispatchTo_sockets] at changed
    rw [dispatchTo_trace]
    split at changed
    · next same =>
        subst same
        rw [found, Option.map_some, Option.some.injEq] at changed
        subst changed
        rw [accepted, produced, gather_cons_of_nil rfl rfl, gather_cons rfl]
        simp only [SocketInfo.dispatch, TraceEvent.producedBytes, if_true]
        rw [← List.append_assoc]
        exact congrArg (· ++ _) (holds entry found)
    · next different =>
        rw [accepted, produced, gather_cons_of_nil rfl rfl, gather_cons_of_nil rfl
          (by simp [TraceEvent.producedBytes, different])]
        exact holds info changed
  delivered _ _ := exact_record rfl rfl rfl
  record incidental holds := by
    intro info found
    obtain ⟨sameAccepted, sameProduced⟩ := output_incidental fd _ incidental
    rw [sameAccepted, sameProduced]
    exact holds info found
  queue _ holds := holds

theorem exact_pollClosed {other : Nat} (different : other ≠ fd) :
    PollClosed lib other (Exact fd) where
  dispatchTo := (exact_eventClosed lib fd).dispatchTo
  record := by
    intro pc event own holds
    cases own with
    | wrote bytes =>
        cases bytes <;>
          exact exact_record rfl (by simp [TraceEvent.acceptedBytes, different]) rfl holds
    | produced bytes =>
        exact exact_record rfl rfl (by simp [TraceEvent.producedBytes, different]) holds
    | incidental incidental => exact (exact_eventClosed lib fd).record incidental holds
    | _ => exact exact_record rfl rfl rfl holds

theorem exact_insert {other : Nat} (different : other ≠ fd) (info : SocketInfo)
    (holds : Exact fd pc) :
    Exact fd { pc with sockets := pc.sockets.insert other info } := by
  intro entry found
  simp only [TreeMap.getElem?_insert, compare_eq_iff_eq, different, if_false] at found
  exact holds entry found

/-- The entry of a descriptor and all that was written to it or produced for it. -/
structure Outgoing where
  entry : Option SocketInfo
  accepted : ByteString
  produced : ByteString

def outgoing (fd : Nat) (pc : PluginComm) : Outgoing where
  entry := pc.sockets[fd]?
  accepted := accepted fd pc.trace
  produced := produced fd pc.trace

theorem outgoing_incidental {event : TraceEvent} (incidental : event.Incidental) :
    outgoing fd (pc.record event) = outgoing fd pc := by
  obtain ⟨sameAccepted, sameProduced⟩ := output_incidental fd pc incidental
  simp only [outgoing, record_sockets, sameAccepted, sameProduced]

theorem outgoing_dispatchTo {target : Nat} (different : target ≠ fd) (event : EventName)
    (parameters : List ByteString) :
    outgoing fd (pc.dispatchTo lib target event parameters) = outgoing fd pc := by
  obtain ⟨sameAccepted, sameProduced⟩ : accepted fd (pc.dispatchTo lib target event
      parameters).trace = accepted fd pc.trace ∧ produced fd (pc.dispatchTo lib target event
      parameters).trace = produced fd pc.trace :=
    output_record pc rfl rfl (by simp [TraceEvent.producedBytes, different])
  simp only [outgoing, dispatchTo_sockets, different, if_false, sameAccepted, sameProduced]

/-- The callbacks of a Network do not reach a socket that hears nothing of them. -/
theorem outgoing_callNetwork {info : SocketInfo} {it : Iteration}
    {call : Option (NetworkId × NetworkCall)} (found : it.pc.sockets[fd]? = some info)
    (unheard : ∀ raised ∈ it.callbacks, ∀ raise ∈ raised, 2 ≤ raise.params.length →
      info.isSubscribed lib raise.event = false) :
    outgoing fd (it.callNetwork lib view call).pc = outgoing fd it.pc := by
  refine callNetwork_invariant (motive := fun pc => outgoing fd pc = outgoing fd it.pc)
    (fun incidental holds => (outgoing_incidental incidental).trans holds) ?_ rfl
  rintro pc target entry event parameters holds entryFound
    ⟨subscribed, raise, membership, enough, same⟩
  have different : target ≠ fd := by
    rintro rfl
    have copied := congrArg Outgoing.entry holds
    simp only [outgoing, entryFound, found, Option.some.injEq] at copied
    cases callbacks : it.callbacks with
    | nil => simp [callbacks] at membership
    | cons raised rest =>
        rw [callbacks] at membership
        have silent := unheard raised (by rw [callbacks]; exact List.mem_cons_self) raise
          membership enough
        rw [copied, ← same, silent] at subscribed
        cases subscribed
  exact (outgoing_dispatchTo different event parameters).trans holds

/-- What holds of the copy while its socket is served. -/
structure Serving (io : Nat → SocketInput) (fd : Nat) (info : SocketInfo) (it : Iteration) :
    Prop where
  entry : it.pc.sockets[fd]? = some info
  callbacks : it.callbacks ⊆ (io fd).callbacks
  copied : accepted fd it.pc.trace ++ it.info.writebuffer = produced fd it.pc.trace

theorem serving_answer {info : SocketInfo} {packet : ByteString} {input : Json} {it : Iteration}
    (unheard : ∀ raised ∈ (io fd).callbacks, ∀ raise ∈ raised, 2 ≤ raise.params.length →
      info.isSubscribed lib raise.event = false)
    (serving : Serving io fd info it) :
    Serving io fd info (answer lib view fd packet input it) := by
  have start : outgoing fd (it.pc.record (.handled fd packet)) = outgoing fd it.pc := by
    obtain ⟨sameAccepted, sameProduced⟩ : accepted fd (it.pc.record (.handled fd packet)).trace =
        accepted fd it.pc.trace ∧ produced fd (it.pc.record (.handled fd packet)).trace =
        produced fd it.pc.trace := output_record it.pc rfl rfl rfl
    simp only [outgoing, record_sockets, sameAccepted, sameProduced]
  obtain ⟨pc, reached, same⟩ := answer_pc lib view fd packet input it
    (motive := fun pc => outgoing fd pc = outgoing fd it.pc)
    (fun incidental holds => (outgoing_incidental incidental).trans holds)
    (fun {before call} callbacks holds =>
      (outgoing_callNetwork ((congrArg Outgoing.entry holds).trans serving.entry)
        fun raised membership =>
          unheard raised (serving.callbacks (callbacks ▸ membership))).trans holds) start
  refine ⟨?_, List.Subset.trans answer_callbacks serving.callbacks, ?_⟩
  · rw [same, record_sockets]
    exact (congrArg Outgoing.entry reached).trans serving.entry
  · have sameAccepted : accepted fd pc.trace = accepted fd it.pc.trace :=
      congrArg Outgoing.accepted reached
    have sameProduced : produced fd pc.trace = produced fd it.pc.trace :=
      congrArg Outgoing.produced reached
    rw [same, answer_info, record_trace, accepted, produced, gather_cons_of_nil rfl rfl,
      gather_cons rfl]
    simp only [TraceEvent.producedBytes, if_true,
      (handle_info lib view input it.info).writebuffer]
    rw [← List.append_assoc]
    apply congrArg (· ++ _)
    exact (congrArg (· ++ it.info.writebuffer) sameAccepted).trans
      (serving.copied.trans sameProduced.symm)

theorem serving_readSocket (io : Nat → SocketInput) {info : SocketInfo}
    (toRemove : List Nat) (found : pc.sockets[fd]? = some info) (holds : Exact fd pc) :
    Serving io fd info (readSocket fd (io fd).reads
      { pc, info, toRemove, callbacks := (io fd).callbacks }) := by
  obtain ⟨noted, removed, same, -, events⟩ := readSocket_spec fd (io fd).reads
    { pc, info, toRemove, callbacks := (io fd).callbacks }
  have silent {contribution : TraceEvent → ByteString}
      (nothing : ∀ event ∈ noted, contribution event = []) :
      gather contribution fd (pc.recordAll noted).trace = gather contribution fd pc.trace := by
    rw [gather_recordAll, List.flatMap_eq_nil_iff.mpr nothing, List.append_nil]
    intro event membership
    rcases events event membership with ⟨bytes, rfl⟩ | rfl <;> rfl
  rw [same]
  refine ⟨found, List.Subset.refl _, ?_⟩
  have sameAccepted : accepted fd (pc.recordAll noted).trace = accepted fd pc.trace :=
    silent fun event membership => by
      rcases events event membership with ⟨bytes, rfl⟩ | rfl <;> rfl
  have sameProduced : produced fd (pc.recordAll noted).trace = produced fd pc.trace :=
    silent fun event membership => by
      rcases events event membership with ⟨bytes, rfl⟩ | rfl <;> rfl
  dsimp only
  rw [sameAccepted, sameProduced]
  exact holds info found

/-- Writing moves bytes from the copy to the socket, and the copy becomes the entry. -/
theorem exact_writeBack {info : SocketInfo} {it : Iteration} (serving : Serving io fd info it) :
    Exact fd ((writeSocket fd (io fd).writes it).writeBack fd) := by
  obtain ⟨noted, removed, writebuffer, same, contributed, events⟩ :=
    writeSocket_spec fd (io fd).writes it
  have others : ∀ event ∈ noted, event.isConnect fd = false := by
    intro event membership
    rcases events event membership with ⟨bytes, rfl⟩ | rfl <;> rfl
  have sameProduced : produced fd (it.pc.recordAll noted).trace = produced fd it.pc.trace := by
    rw [produced, gather_recordAll others, List.flatMap_eq_nil_iff.mpr, List.append_nil]
    intro event membership
    rcases events event membership with ⟨bytes, rfl⟩ | rfl <;> rfl
  intro entry found
  rw [same] at found ⊢
  simp only [Iteration.writeBack, TreeMap.getElem?_insert_self, Option.some.injEq] at found
  subst found
  calc
    accepted fd (it.pc.recordAll noted).trace ++ writebuffer
        = accepted fd it.pc.trace ++
            (noted.flatMap (TraceEvent.acceptedBytes fd) ++ writebuffer) := by
          rw [accepted, gather_recordAll others, List.append_assoc]
    _ = accepted fd it.pc.trace ++ it.info.writebuffer := by rw [contributed]
    _ = produced fd it.pc.trace := serving.copied
    _ = produced fd (it.pc.recordAll noted).trace := sameProduced.symm

/-- Serving a socket that hears nothing of its own calls loses none of its frames. -/
theorem exact_polled
    (unheard : ∀ info, pc.sockets[fd]? = some info → Unheard lib (io fd) info)
    (polled : Polled lib view io pc fd after) (holds : Exact fd pc) : Exact fd after := by
  cases polled with
  | absent _ => exact holds
  | failed => exact exact_record rfl rfl rfl holds
  | @served info toRemove it found ready parsed =>
      have reading := serving_readSocket io toRemove found holds
      suffices serving : Serving io fd info it from exact_writeBack serving
      exact parseSocket_invariant (motive := Serving io fd info)
        (fun _ _ serving => ⟨serving.entry, serving.callbacks, serving.copied⟩)
        (serving_answer (unheard info found ready)) parsed reading

/-- What a socket is subscribed to changes in its own iteration only. -/
theorem unheard_pollClosed (other : Nat) (input : SocketInput) :
    PollClosed lib other fun pc => ∀ info, pc.sockets[fd]? = some info →
      Unheard lib input info where
  dispatchTo := by
    intro pc target entry event parameters holds found info changed
    rw [dispatchTo_sockets] at changed
    split at changed
    · next same =>
        subst same
        rw [found, Option.map_some, Option.some.injEq] at changed
        subst changed
        exact holds entry found
    · exact holds info changed
  record _ holds := holds

theorem exact_poll (unheard : UnheardStep lib pc (view, .poll io))
    (completed : pc.poll lib view io = .ok after) (holds : ∀ fd, Exact fd pc) :
    ∀ fd, Exact fd after := by
  refine (poll_remaining (motive := fun remaining pc => (∀ fd, Exact fd pc) ∧
    ∀ fd ∈ remaining, ∀ info, pc.sockets[fd]? = some info → Unheard lib (io fd) info)
    ?_ ?_ completed ⟨holds, fun fd _ => unheard fd⟩).1
  · rintro fd remaining before result fresh polled ⟨holds, unheard⟩
    constructor
    · intro other
      by_cases same : fd = other
      · subst same
        exact exact_polled (unheard fd List.mem_cons_self) polled (holds fd)
      · exact (exact_pollClosed same).pollSocket (fun info => exact_insert same info) polled
          (holds other)
    · intro other membership
      have different : fd ≠ other := fun same => fresh (same ▸ membership)
      refine (unheard_pollClosed fd (io other)).pollSocket ?_ polled
        (unheard other (List.mem_cons_of_mem _ membership))
      intro middle entry holds info found
      simp only [TreeMap.getElem?_insert, compare_eq_iff_eq, different, if_false] at found
      exact holds info found
  · rintro before fd ⟨holds, -⟩
    refine ⟨fun other info found => ?_, by simp⟩
    simp only [TreeMap.getElem?_erase] at found
    split at found
    · cases found
    · exact holds other info found

theorem exact_perform {label : View × Action} (unheard : UnheardStep lib pc label)
    (completed : pc.perform lib label.1 label.2 = .ok after) (holds : ∀ fd, Exact fd pc) :
    ∀ fd, Exact fd after := by
  obtain ⟨view, action⟩ := label
  cases action with
  | ircEvent network event origin params =>
      cases completed
      exact fun fd => (exact_eventClosed lib fd).ircEvent (holds fd)
  | poll io => exact exact_poll unheard completed holds
  | connect other type =>
      cases completed
      intro fd
      by_cases same : other = fd
      · subst same
        intro info found
        simp only [connect, record_sockets, TreeMap.getElem?_insert_self,
          Option.some.injEq] at found
        subst found
        simp only [connect, record_trace, accepted, produced, gather_connected, List.append_nil]
      · exact exact_record (by simpa [TraceEvent.isConnect] using same) rfl rfl
          (exact_insert same _ (holds fd))

/-- In a run in which no socket hears of its own calls, no frame of any socket is lost,
duplicated, reordered or cut. -/
theorem output_exact (reached : ((system lib).guard (UnheardStep lib)).Reachable pc) (fd : Nat)
    (info : SocketInfo) (found : pc.sockets[fd]? = some info) :
    accepted fd pc.trace ++ info.writebuffer = produced fd pc.trace := by
  have holds : ∀ fd, Exact fd pc := by
    refine reached.invariant (motive := fun pc => ∀ fd, Exact fd pc) ?_
      fun holds (step : _ ∧ _) => exact_perform step.1 step.2 holds
    rintro start ⟨empty, -, -⟩ fd info found
    rw [TreeMap.getElem?_of_isEmpty empty] at found
    cases found
  exact holds fd info found

def subscribeRequest : Json := .object [(ascii "do", .string (ascii "subscribe")),
  (ascii "params", .array [.string (ascii "PRIVMSG_ME")])]

def messageRequest : Json := .object [(ascii "do", .string (ascii "message")),
  (ascii "params", .array [.string (ascii "n"), .string (ascii "alice"), .string (ascii "hi")])]

/-- After a write that took three bytes of a response, the rest waits. -/
theorem partial_write_exact :
    ∃ pc info,
      (connect 5 (ascii "unix") {}).poll (.knowing [subscribeRequest]) .online
        (requestInput subscribeRequest [] [.accepted 3]) = .ok pc ∧
      pc.sockets[5]? = some info ∧ (accepted 5 pc.trace).length = 3 ∧
      accepted 5 pc.trace ++ info.writebuffer = produced 5 pc.trace := by
  have written : ((connect 5 (ascii "unix") {}).poll (.knowing [subscribeRequest]) .online
      (requestInput subscribeRequest [] [.accepted 3])).map
        (fun pc => pc.sockets[5]?.map fun _ => (accepted 5 pc.trace).length) = .ok (some 3) := by
    decide +kernel
  cases completed : (connect 5 (ascii "unix") {}).poll (.knowing [subscribeRequest]) .online
      (requestInput subscribeRequest [] [.accepted 3]) with
  | error fault =>
      rw [completed] at written
      cases written
  | ok pc =>
      rw [completed] at written
      cases found : pc.sockets[5]? with
      | none => simp [Except.map, found] at written
      | some info =>
          have reached : ((system (.knowing [subscribeRequest])).guard
              (UnheardStep (.knowing [subscribeRequest]))).Reachable pc :=
            .snoc (.snoc (.start ⟨rfl, rfl, rfl⟩) (.online, .connect 5 (ascii "unix"))
                ⟨trivial, rfl⟩)
              (.online, .poll (requestInput subscribeRequest [] [.accepted 3]))
              ⟨fun _ _ _ _ => by simp [requestInput], completed⟩
          exact ⟨pc, info, rfl, found, by simpa [Except.map, found] using written,
            output_exact reached 5 info found⟩

/-- What a Network raises while it says `hi` to alice. -/
def echo : SelfEvent where
  event := ascii "PRIVMSG_ME"
  known := by decide
  origin := ascii "bot"
  params := [ascii "alice", ascii "hi"]

/-- A plugin subscribes to what the bot says, and then has it say something. -/
def echoRun : List (View × Action) :=
  [(.online, .connect 5 (ascii "unix")),
    (.online, .poll (requestInput subscribeRequest)),
    (.online, .poll (requestInput messageRequest [[echo]]))]

theorem echoRun_lost :
    (performAll (.knowing [subscribeRequest, messageRequest]) {} echoRun).map
      (fun pc => pc.sockets[5]?.map fun info =>
        (accepted 5 pc.trace ++ info.writebuffer == produced 5 pc.trace)) = .ok (some false) := by
  decide +kernel

/-- The event about the message is lost with the entry it was appended to. -/
theorem echo_lost :
    ¬∀ pc info, (system (.knowing [subscribeRequest, messageRequest])).Reachable pc →
      pc.sockets[5]? = some info →
      accepted 5 pc.trace ++ info.writebuffer = produced 5 pc.trace := by
  intro claimed
  have lost := echoRun_lost
  cases completed : performAll (.knowing [subscribeRequest, messageRequest]) {} echoRun with
  | error fault =>
      rw [completed] at lost
      cases lost
  | ok pc =>
      rw [completed] at lost
      cases found : pc.sockets[5]? with
      | none => simp [Except.map, found] at lost
      | some info =>
          have equal := claimed pc info (reachable_performAll ⟨rfl, rfl, rfl⟩ completed) found
          simp [Except.map, found, equal] at lost

end PluginComm

end DaZeus
