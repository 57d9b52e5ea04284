import DaZeus.PluginComm.Iteration

/-!
# Descriptors that `poll` closes

`poll` goes on to parse and to write after the read loop has closed the
descriptor.  `descriptors_kept_iff` says when that does no harm: when there is
nothing to write.  It is a statement about every prefix of a call, since a call
may stop at a later socket.
-/

namespace DaZeus

open Library
open Std (TreeMap)

/-- A call with a descriptor. -/
inductive Operation where
  | read
  | write
  | close
  deriving DecidableEq

def TraceEvent.operation (fd : Nat) : TraceEvent → List Operation
  | .read other _ => if other = fd then [.read] else []
  | .wrote other _ => if other = fd then [.write] else []
  | .closed other => if other = fd then [.close] else []
  | _ => []

/-- The calls with a descriptor, the oldest first. -/
def operations (fd : Nat) (trace : List TraceEvent) : List Operation :=
  trace.reverse.flatMap (TraceEvent.operation fd)

/-- Nothing is done with a descriptor once it is closed, and so it is closed at most once. -/
def ClosedLast (calls : List Operation) : Prop :=
  ∀ earlier later, calls = earlier ++ .close :: later → later = []

theorem closedLast_open {uses last : List Operation} (unclosed : .close ∉ uses)
    (single : last.length ≤ 1) : ClosedLast (uses ++ last) := by
  intro earlier later split
  rcases List.append_eq_append_iff.mp split with ⟨between, rfl, same⟩ | ⟨between, rfl, same⟩
  · have short := congrArg List.length same
    simp only [List.length_append, List.length_cons] at short
    exact List.length_eq_zero_iff.mp (by omega)
  · cases between with
    | nil =>
        have short := congrArg List.length same
        simp only [List.nil_append, List.length_cons] at short
        exact List.length_eq_zero_iff.mp (by omega)
    | cons call between =>
        obtain ⟨rfl, -⟩ := List.cons.inj same
        exact absurd (List.mem_append_right _ List.mem_cons_self) unclosed

theorem closedLast_closed_iff {uses rest : List Operation} (unclosed : .close ∉ uses) :
    ClosedLast (uses ++ .close :: rest) ↔ rest = [] := by
  constructor
  · exact fun last => last uses rest rfl
  · rintro rfl
    exact closedLast_open unclosed (Nat.le_refl 1)

/-- After a part that may close the descriptor comes one that may close it as well. -/
theorem closedLast_parts_iff {uses more : List Operation} (unclosed : .close ∉ uses)
    (alsoUnclosed : .close ∉ more) (closes closed : Bool) :
    ClosedLast ((uses ++ if closes then [.close] else []) ++
        (more ++ if closed then [.close] else [])) ↔
      (closes = true → more = [] ∧ closed = false) := by
  cases closes with
  | false =>
      simp only [Bool.false_eq_true, if_false, List.append_nil, ← List.append_assoc]
      refine iff_of_true (closedLast_open ?_ ?_) fun ended => nomatch ended
      · simp [unclosed, alsoUnclosed]
      · split <;> simp
  | true =>
      simp only [if_true, List.append_assoc, List.singleton_append]
      rw [closedLast_closed_iff unclosed, List.append_eq_nil_iff]
      cases closed <;> simp

/-- The answers with the would-block that ends each list written out, so that every call is in
the trace. -/
def SocketInput.spelledOut (input : SocketInput) : SocketInput :=
  { input with reads := input.reads ++ [.wouldBlock], writes := input.writes ++ [.wouldBlock] }

def spelledOut (io : Nat → SocketInput) (fd : Nat) : SocketInput := (io fd).spelledOut

namespace PluginComm

variable {lib : Libraries} {view : View} {fd : Nat} {io : Nat → SocketInput}

/-! ## The calls of one iteration -/

theorem operations_record (pc : PluginComm) (event : TraceEvent) :
    operations fd (pc.record event).trace = operations fd pc.trace ++ event.operation fd := by
  simp [operations]

theorem operations_incidental {pc : PluginComm} {event : TraceEvent}
    (incidental : event.Incidental) :
    operations fd (pc.record event).trace = operations fd pc.trace := by
  rw [operations_record]
  cases incidental <;> exact List.append_nil _

/-- An iteration makes calls with its own descriptor only. -/
theorem operations_pollClosed {other : Nat} (different : other ≠ fd) (calls : List Operation) :
    PollClosed lib other fun pc => operations fd pc.trace = calls where
  dispatchTo _ _ same _ := by
    rw [dispatchTo, operations_record]
    exact (List.append_nil _).trans same
  record noted same := by
    rw [operations_record, same]
    cases noted with
    | incidental incidental => cases incidental <;> exact List.append_nil _
    | _ => simp [TraceEvent.operation, different]

theorem readSocket_operations (fd : Nat) (reads : List ReadResult) (it : Iteration) :
    ∃ uses, Operation.close ∉ uses ∧ operations fd (readSocket fd reads it).pc.trace =
      operations fd it.pc.trace ++ (uses ++ if closesReading reads then [.close] else []) := by
  induction reads generalizing it with
  | nil => exact ⟨[], List.not_mem_nil, (List.append_nil _).symm⟩
  | cons result rest inductionHypothesis =>
      cases result with
      | data bytes =>
          by_cases finished : bytes = []
          · refine ⟨[.read], by simp, ?_⟩
            simp [readSocket, closesReading, finished, Iteration.close, Iteration.record,
              operations, TraceEvent.operation]
          · obtain ⟨uses, unclosed, same⟩ := inductionHypothesis
              { it.record (.read fd (some bytes)) with
                appended := true
                info := { it.info with readahead := it.info.readahead ++ bytes } }
            refine ⟨.read :: uses, by simp [unclosed], ?_⟩
            simp only [readSocket, finished, if_false]
            apply same.trans
            simp [closesReading, finished, Iteration.record, operations, TraceEvent.operation]
      | wouldBlock =>
          refine ⟨[.read], by simp, ?_⟩
          simp [readSocket, closesReading, Iteration.record, operations, TraceEvent.operation]
      | error =>
          refine ⟨[.read], by simp, ?_⟩
          simp [readSocket, closesReading, Iteration.close, Iteration.record, operations,
            TraceEvent.operation]

/-- The write loop may end with a close, and makes a call if there is anything to write and an
answer to the call. -/
theorem writeSocket_operations (fd : Nat) (writes : List WriteResult) (it : Iteration) :
    ∃ uses closed, Operation.close ∉ uses ∧
      operations fd (writeSocket fd writes it).pc.trace =
        operations fd it.pc.trace ++ (uses ++ if closed then [.close] else []) ∧
      (writeSocket fd writes it).toRemove = it.toRemove ++ (if closed then [fd] else []) ∧
      (it.info.writebuffer = [] → uses = [] ∧ closed = false) ∧
      (it.info.writebuffer ≠ [] → writes ≠ [] → uses ≠ []) := by
  induction writes generalizing it with
  | nil =>
      exact ⟨[], false, List.not_mem_nil, (List.append_nil _).symm, (List.append_nil _).symm,
        fun _ => ⟨rfl, rfl⟩, fun _ none => absurd rfl none⟩
  | cons result rest inductionHypothesis =>
      unfold writeSocket
      split
      · next written =>
          exact ⟨[], false, List.not_mem_nil, (List.append_nil _).symm, (List.append_nil _).symm,
            fun _ => ⟨rfl, rfl⟩, fun left => absurd written left⟩
      · next written =>
        cases result with
        | accepted count =>
            obtain ⟨uses, closed, unclosed, same, removed, -, -⟩ := inductionHypothesis
              { it.record (.wrote fd (some (it.info.writebuffer.take count))) with
                info := { it.info with writebuffer := it.info.writebuffer.drop count } }
            refine ⟨.write :: uses, closed, by simp [unclosed], ?_, removed,
              (absurd · written), by simp⟩
            apply same.trans
            simp [Iteration.record, operations, TraceEvent.operation]
        | wouldBlock =>
            refine ⟨[.write], false, by simp, ?_, ?_, (absurd · written), by simp⟩
            · simp [Iteration.record, operations, TraceEvent.operation]
            · exact (List.append_nil _).symm
        | error =>
            refine ⟨[.write], true, by simp, ?_, rfl, (absurd · written), by simp⟩
            simp [Iteration.close, Iteration.record, operations, TraceEvent.operation]

theorem parseSocket_operations {it after : Iteration}
    (parsed : parseSocket lib view fd it = .ok after) :
    operations fd after.pc.trace = operations fd it.pc.trace := by
  have answered {packet : ByteString} {input : Json} (before : Iteration) :
      operations fd (answer lib view fd packet input before).pc.trace =
        operations fd before.pc.trace := by
    let Kept (pc : PluginComm) : Prop := operations fd pc.trace = operations fd before.pc.trace
    have incidental {pc : PluginComm} {event : TraceEvent} (harmless : event.Incidental)
        (kept : Kept pc) : Kept (pc.record event) :=
      (operations_incidental harmless).trans kept
    have other {pc : PluginComm} {event : TraceEvent} (nothing : event.operation fd = [])
        (kept : Kept pc) : Kept (pc.record event) := by
      apply (operations_record pc event).trans
      rw [nothing, List.append_nil]
      exact kept
    obtain ⟨pc, reached, same⟩ := answer_pc lib view fd packet input before incidental
      (fun _ => callNetwork_invariant incidental fun kept _ _ => other rfl kept)
      (other rfl (rfl : Kept before.pc))
    rw [same]
    exact other rfl reached
  apply parseSocket_invariant
    (motive := fun reached => operations fd reached.pc.trace = operations fd it.pc.trace)
    ?_ ?_ parsed rfl
  · intro reached waitingSize readahead same
    exact same
  · intro reached packet input same
    exact (answered reached).trans same

/-! ## What is left to write -/

/-- The parse loop finds a whole packet in the buffer. -/
def findsPacket (fd : Nat) (info : SocketInfo) : Bool :=
  match readHeader fd info with
  | .ok cut => (takePacket cut).isSome
  | .error _ => false

/-- Something is left over, or these bytes complete a packet, which is answered. -/
def hasOutput (fd : Nat) (info : SocketInfo) (bytes : ByteString) : Bool :=
  info.writebuffer != [] ||
    bytes != [] && findsPacket fd { info with readahead := info.readahead ++ bytes }

theorem answer_writebuffer (packet : ByteString) (input : Json) (it : Iteration) :
    (answer lib view fd packet input it).info.writebuffer ≠ [] := by
  rw [answer_info]
  simp [responseFrame, frame]

theorem parsePackets_writebuffer {fuel : Nat} {it after : Iteration}
    (parsed : parsePackets lib view fd (fuel + 1) it = .ok after) :
    after.info.writebuffer = [] ↔ it.info.writebuffer = [] ∧ findsPacket fd it.info = false := by
  unfold parsePackets at parsed
  unfold findsPacket
  cases header : readHeader fd it.info with
  | error fault =>
      rw [header] at parsed
      cases parsed
  | ok info =>
      rw [header] at parsed
      have same : info.writebuffer = it.info.writebuffer := by
        obtain ⟨waitingSize, readahead, rfl⟩ := readHeader_cut header
        rfl
      simp only [bind, Except.bind] at parsed
      cases taken : takePacket info with
      | none =>
          rw [taken] at parsed
          cases parsed
          simp [same, taken]
      | some cut =>
          rw [taken] at parsed
          simp only at parsed
          split at parsed
          · cases parsed
          · next answered handled =>
              obtain ⟨input, -, -, rfl⟩ := handlePacket_answer handled
              have filled := parsePackets_loaded
                (motive := fun reached => reached.info.writebuffer ≠ [])
                (fun _ _ holds => holds) (fun _ _ _ => answer_writebuffer _ _ _) parsed
                (answer_writebuffer _ _ _)
              simp [filled, taken]

/-- When it comes to the write loop there is output if there was before the parse loop. -/
theorem parseSocket_writebuffer {info : SocketInfo} {bytes : ByteString} {it after : Iteration}
    (read : it.info = { info with readahead := info.readahead ++ bytes })
    (appended : it.appended = (bytes != [])) (parsed : parseSocket lib view fd it = .ok after) :
    after.info.writebuffer = [] ↔ hasOutput fd info bytes = false := by
  unfold parseSocket at parsed
  rw [appended] at parsed
  unfold hasOutput
  split at parsed
  · next some =>
      rw [parsePackets_writebuffer parsed, read, some]
      simp
  · next none =>
      cases parsed
      rw [read, Bool.eq_false_iff.mpr none]
      simp

/-! ## One iteration -/

/-- The read loop does not close the descriptor while there is anything to write. -/
def Careful (fd : Nat) (input : SocketInput) (info : SocketInfo) : Prop :=
  input.status = .ready → closesReading input.reads = true →
    hasOutput fd info (bytesRead input.reads) = false

theorem reads_spelledOut (reads : List ReadResult) :
    closesReading (reads ++ [.wouldBlock]) = closesReading reads ∧
      bytesRead (reads ++ [.wouldBlock]) = bytesRead reads := by
  induction reads with
  | nil => exact ⟨rfl, rfl⟩
  | cons result rest inductionHypothesis =>
      cases result with
      | data bytes => simp [closesReading, bytesRead, inductionHypothesis]
      | wouldBlock => exact ⟨rfl, rfl⟩
      | error => exact ⟨rfl, rfl⟩

/-- The calls of an iteration end with the close, if there is one, exactly when it is careful. -/
theorem pollSocket_operations {pc after : PluginComm} {info : SocketInfo}
    {toRemove removed : List Nat} (found : pc.sockets[fd]? = some info) (first : fd ∉ toRemove)
    (completed : pollSocket lib view (spelledOut io) (pc, toRemove) fd =
      .ok (after, removed)) :
    ∃ calls, operations fd after.trace = operations fd pc.trace ++ calls ∧
      (ClosedLast calls ↔ Careful fd (io fd) info) ∧ (.close ∈ calls ↔ fd ∈ removed) := by
  by_cases ready : (spelledOut io fd).status = .ready
  · obtain ⟨it, parsed, rfl, rfl⟩ := pollSocket_served found ready completed
    obtain ⟨sameCloses, sameBytes⟩ := reads_spelledOut (io fd).reads
    let start : Iteration := { pc, info, toRemove, callbacks := (io fd).callbacks }
    obtain ⟨reads, openReading, read⟩ := readSocket_operations fd (spelledOut io fd).reads start
    obtain ⟨writes, closed, openWriting, written, took, silent, spoken⟩ :=
      writeSocket_operations fd (spelledOut io fd).writes it
    have output :
        it.info.writebuffer = [] ↔ hasOutput fd info (bytesRead (io fd).reads) = false := by
      obtain ⟨noted, gone, same, -⟩ := readSocket_spec fd (spelledOut io fd).reads start
      rw [← sameBytes]
      apply parseSocket_writebuffer ?_ ?_ parsed
      · exact congrArg Iteration.info same
      · exact (congrArg Iteration.appended same).trans (Bool.false_or _)
    have whole : operations fd ((writeSocket fd (spelledOut io fd).writes it).writeBack fd).trace =
        operations fd pc.trace ++
          ((reads ++ if closesReading (io fd).reads then [.close] else []) ++
          (writes ++ if closed then [.close] else [])) := by
      rw [← List.append_assoc]
      apply written.trans
      rw [parseSocket_operations parsed]
      apply congrArg (· ++ _)
      rw [← sameCloses]
      exact read
    have gone : (writeSocket fd (spelledOut io fd).writes it).toRemove =
        (toRemove ++ if closesReading (io fd).reads then [fd] else []) ++
          if closed then [fd] else [] := by
      rw [took, parseSocket_toRemove parsed, ← sameCloses]
      exact congrArg (· ++ _) (readSocket_toRemove fd _ start)
    refine ⟨_, whole, ?_, ?_⟩
    · rw [closedLast_parts_iff openReading openWriting]
      constructor
      · intro quiet _ closes
        rw [← output]
        by_contra left
        exact spoken left (by simp [spelledOut, SocketInput.spelledOut]) (quiet closes).1
      · intro careful closes
        exact silent (output.mpr (careful ready closes))
    · rw [gone]
      cases closesReading (io fd).reads <;> cases closed <;>
        simp [openReading, openWriting, first]
  · obtain ⟨rfl, rfl⟩ := pollSocket_down found ready completed
    refine ⟨[.close], ?_, ?_, ?_⟩
    · exact (operations_record pc (.closed fd)).trans (by simp [TraceEvent.operation])
    · have alone : ClosedLast ([] ++ [Operation.close]) :=
        closedLast_open List.not_mem_nil (Nat.le_refl 1)
      exact iff_of_true alone fun up => absurd up ready
    · simp

/-! ## A call, and any prefix of one -/

/-- `poll` has come through these sockets. -/
structure Underway (lib : Libraries) (view : View) (io : Nat → SocketInput) (pc : PluginComm)
    (done : List Nat) (reached : PluginComm × List Nat) : Prop where
  begun : done <+: pc.sockets.keys
  completed : done.foldlM (pollSocket lib view io) (pc, []) = .ok reached

/-- It comes through with a descriptor, for which it finds this entry. -/
def Serves (lib : Libraries) (view : View) (io : Nat → SocketInput) (pc : PluginComm) (fd : Nat)
    (info : SocketInfo) : Prop :=
  ∃ done middle reached, Underway lib view io pc (done ++ [fd]) reached ∧
    done.foldlM (pollSocket lib view io) (pc, []) = .ok middle ∧
    middle.1.sockets[fd]? = some info

/-- The calls with a descriptor that come after. -/
def operationsSince (before after : PluginComm) (fd : Nat) : List Operation :=
  (operations fd after.trace).drop (operations fd before.trace).length

/-- As far as a call of `poll` comes, a descriptor that it closes is not touched again, and if it
returns, the entries that are left are those of the descriptors that it did not close. -/
structure DescriptorsKept (lib : Libraries) (view : View) (io : Nat → SocketInput)
    (pc : PluginComm) : Prop where
  closedLast : ∀ done reached, Underway lib view io pc done reached →
    ∀ fd, ClosedLast (operationsSince pc reached.1 fd)
  remaining : ∀ after, pc.poll lib view io = .ok after →
    ∀ fd, fd ∈ after.sockets ↔ fd ∈ pc.sockets ∧ .close ∉ operationsSince pc after fd

section Call

variable {pc : PluginComm} {done : List Nat} {start finish reached : PluginComm × List Nat}

theorem operationsSince_eq {before after : PluginComm} {calls : List Operation}
    (same : operations fd after.trace = operations fd before.trace ++ calls) :
    operationsSince before after fd = calls := by
  rw [operationsSince, same, List.drop_left]

/-- The iterations for other descriptors. -/
theorem foldlM_others (other : fd ∉ done)
    (completed : done.foldlM (pollSocket lib view io) start = .ok finish) :
    operations fd finish.1.trace = operations fd start.1.trace ∧
      (fd ∈ finish.2 ↔ fd ∈ start.2) := by
  apply foldlM_invariant
    (motive := fun state => operations fd state.1.trace = operations fd start.1.trace ∧
      (fd ∈ state.2 ↔ fd ∈ start.2)) ?_ ⟨rfl, Iff.rfl⟩ completed
  intro ⟨before, toRemove⟩ item ⟨after, removed⟩ inside ⟨same, alike⟩ round
  have different : item ≠ fd := fun own => other (own ▸ inside)
  refine ⟨?_, ?_⟩
  · exact (operations_pollClosed different _).pollSocket (fun _ => id)
      (pollSocket_polled round) same
  · obtain ⟨more, rfl, own, -⟩ := pollSocket_removes round
    rw [List.mem_append, or_iff_left, alike]
    exact fun late => different (own fd late).1.symm

/-- No entry appears or disappears before the end of the loop. -/
theorem foldlM_present (completed : done.foldlM (pollSocket lib view io) start = .ok finish)
    (fd : Nat) : fd ∈ finish.1.sockets ↔ fd ∈ start.1.sockets := by
  apply foldlM_invariant
    (motive := fun state => fd ∈ state.1.sockets ↔ fd ∈ start.1.sockets) ?_ Iff.rfl completed
  intro ⟨before, toRemove⟩ item ⟨after, removed⟩ _ alike round
  cases found : before.sockets[item]? with
  | none =>
      obtain ⟨rfl, -⟩ := pollSocket_absent found round
      exact alike
  | some info =>
      have present : item ∈ before.sockets := by
        rw [TreeMap.mem_iff_isSome_getElem?, found]
        rfl
      have kept : PollClosed lib item fun pc =>
          item ∈ pc.sockets ∧ (fd ∈ pc.sockets ↔ fd ∈ start.1.sockets) :=
        ⟨fun event parameters holds _ =>
          ⟨TreeMap.mem_modify.mpr holds.1, TreeMap.mem_modify.trans holds.2⟩, fun _ holds => holds⟩
      refine (kept.pollSocket (fun info holds => ?_) (pollSocket_polled round) ⟨present, alike⟩).2
      refine ⟨TreeMap.mem_insert_self, ?_⟩
      rw [TreeMap.mem_insert, ← holds.2, or_iff_right_of_imp]
      intro same
      rw [← compare_eq_iff_eq.mp same]
      exact holds.1

theorem mem_eraseAll {removed : List Nat} {sockets : TreeMap Nat SocketInfo} :
    fd ∈ removed.foldl (·.erase ·) sockets ↔ fd ∈ sockets ∧ fd ∉ removed := by
  induction removed generalizing sockets with
  | nil => simp
  | cons other removed inductionHypothesis =>
      rw [List.foldl_cons, inductionHypothesis, TreeMap.mem_erase, List.mem_cons, not_or, Ne,
        compare_eq_iff_eq, and_assoc, and_left_comm, eq_comm]

/-- The turn of one descriptor in a call that has come through with it. -/
theorem Underway.turn {earlier later : List Nat}
    (underway : Underway lib view (spelledOut io) pc (earlier ++ fd :: later) reached) :
    ∃ middle info, earlier.foldlM (pollSocket lib view (spelledOut io)) (pc, []) = .ok middle ∧
      middle.1.sockets[fd]? = some info ∧ Serves lib view (spelledOut io) pc fd info ∧
      (ClosedLast (operationsSince pc reached.1 fd) ↔ Careful fd (io fd) info) ∧
      (.close ∈ operationsSince pc reached.1 fd ↔ fd ∈ reached.2) := by
  have distinct := TreeMap.nodup_keys.sublist underway.begun.sublist
  have alone := (List.nodup_middle.mp distinct).notMem
  simp only [List.mem_append, not_or] at alone
  obtain ⟨middle, next, before, round, after⟩ := completed_round underway.completed
  obtain ⟨same, unremoved⟩ := foldlM_others alone.1 before
  obtain ⟨kept, alike⟩ := foldlM_others alone.2 after
  have present : fd ∈ middle.1.sockets := by
    rw [foldlM_present before, ← TreeMap.mem_keys]
    exact underway.begun.subset (List.mem_append_right _ List.mem_cons_self)
  obtain ⟨info, found⟩ := Option.isSome_iff_exists.mp (TreeMap.mem_iff_isSome_getElem?.mp present)
  obtain ⟨calls, made, last, closed⟩ := pollSocket_operations found
    (mt unremoved.mp List.not_mem_nil) round
  have whole : operationsSince pc reached.1 fd = calls :=
    operationsSince_eq (by rw [kept, made, same])
  refine ⟨middle, info, before, found, ⟨earlier, middle, next, ⟨?_, ?_⟩, before, found⟩, ?_, ?_⟩
  · refine List.IsPrefix.trans ⟨later, ?_⟩ underway.begun
    rw [List.append_assoc, List.singleton_append]
  · rw [List.foldlM_append, before]
    simp only [bind, Except.bind, List.foldlM_cons, round, List.foldlM_nil]
    rfl
  · rwa [whole]
  · rw [whole, alike, closed]

/-- A descriptor whose turn has not come. -/
theorem Underway.untouched (underway : Underway lib view io pc done reached) (other : fd ∉ done) :
    operationsSince pc reached.1 fd = [] ∧ fd ∉ reached.2 := by
  obtain ⟨same, alike⟩ := foldlM_others other underway.completed
  exact ⟨operationsSince_eq (same.trans (List.append_nil _).symm), mt alike.mp List.not_mem_nil⟩

/-- `poll` keeps to its descriptors if and only if no read loop closes one while there is something
to write. -/
theorem descriptors_kept_iff (lib : Libraries) (view : View) (io : Nat → SocketInput)
    (pc : PluginComm) :
    DescriptorsKept lib view (spelledOut io) pc ↔
      ∀ fd info, Serves lib view (spelledOut io) pc fd info → Careful fd (io fd) info := by
  constructor
  · rintro kept fd info ⟨done, middle, reached, underway, before, found⟩
    obtain ⟨same, entry, again, here, -, last, -⟩ := underway.turn
    cases before.symm.trans again
    cases found.symm.trans here
    exact last.mp (kept.closedLast _ _ underway fd)
  · intro careful
    refine ⟨fun done reached underway fd => ?_, fun after completed fd => ?_⟩
    · by_cases inside : fd ∈ done
      · obtain ⟨earlier, later, rfl⟩ := List.append_of_mem inside
        obtain ⟨_, info, _, _, serves, last, -⟩ := underway.turn
        exact last.mpr (careful fd info serves)
      · rw [(underway.untouched inside).1]
        exact closedLast_open List.not_mem_nil (Nat.zero_le 1)
    · obtain ⟨finish, loop, rfl⟩ := poll_completed completed
      have underway : Underway lib view (spelledOut io) pc pc.sockets.keys finish :=
        ⟨List.prefix_refl _, loop⟩
      have closed : .close ∈ operationsSince pc finish.1 fd ↔ fd ∈ finish.2 := by
        by_cases inside : fd ∈ pc.sockets.keys
        · obtain ⟨earlier, later, split⟩ := List.append_of_mem inside
          rw [split] at underway
          obtain ⟨_, _, _, _, _, _, closed⟩ := underway.turn
          exact closed
        · obtain ⟨nothing, unremoved⟩ := underway.untouched inside
          simp [nothing, unremoved]
      apply mem_eraseAll.trans
      rw [foldlM_present loop, ← closed]
      rfl

/-- A plugin that leaves while an event waits to be written to it: its descriptor is written to
after the close, and as that fails, it is closed again. -/
theorem closed_twice :
    let waiting := SocketInfo.eventFrame (.knowing []) (.of "QUIT") []
    let pc : PluginComm :=
      { sockets := (∅ : TreeMap Nat SocketInfo).insert 4 { writebuffer := waiting } }
    let io : Nat → SocketInput := fun _ => { reads := [.data []], writes := [.error] }
    (∃ after, pc.poll (.knowing []) .bare (spelledOut io) = .ok after ∧
      operationsSince pc after 4 = [.read, .close, .write, .close]) ∧
      ¬DescriptorsKept (.knowing []) .bare (spelledOut io) pc := by
  intro waiting pc io
  have served : ∃ finish, pc.sockets.keys.foldlM (pollSocket (.knowing []) .bare (spelledOut io))
      (pc, []) = .ok finish ∧
        operationsSince pc finish.1 4 = [.read, .close, .write, .close] :=
    ⟨_, rfl, by decide +kernel⟩
  refine ⟨⟨_, rfl, by decide +kernel⟩, fun kept => ?_⟩
  obtain ⟨finish, completed, operations⟩ := served
  have last := kept.closedLast _ finish ⟨List.prefix_refl _, completed⟩ 4
  rw [operations] at last
  cases last [.read] _ rfl

end Call

end PluginComm

end DaZeus
