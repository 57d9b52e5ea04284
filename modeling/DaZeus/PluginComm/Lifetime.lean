import DaZeus.PluginComm.Watch

/-!
# The lives of a descriptor

A descriptor lives from the `accept` that returned it to the next one.
`connections_closed_once` says what happens in these lives, up to the end of
the destructor, in a run in which no read loop closes a connection while there
is something to write: uses, and one `close` after them.
-/

namespace DaZeus

open Library
open Std (TreeMap)

/-- Add a call to the life at the head. -/
def extendLife (calls : List Operation) : List (List Operation) → List (List Operation)
  | [] => [calls]
  | current :: earlier => (current ++ calls) :: earlier

/-- The calls with a descriptor in each of its lives, the newest life first.  The last entry is
for the time before its first `accept`. -/
def lives (fd : Nat) : List TraceEvent → List (List Operation)
  | [] => [[]]
  | event :: earlier =>
      if event.isConnect fd then [] :: lives fd earlier
      else extendLife (event.operation fd) (lives fd earlier)

/-- A life that was ended by a `close`. -/
def Over (life : List Operation) : Prop :=
  ∃ uses, life = uses ++ [.close] ∧ Operation.close ∉ uses

/-- All lives are over, and the descriptor was not used before them. -/
inductive LivesOver : List (List Operation) → Prop
  | unused : LivesOver [[]]
  | life {life : List Operation} {earlier : List (List Operation)} (last : Over life)
      (before : LivesOver earlier) : LivesOver (life :: earlier)

section Lives

variable {fd : Nat} {event : TraceEvent} {earlier : List TraceEvent} {calls : List Operation}

theorem lives_cons (other : event.isConnect fd = false) :
    lives fd (event :: earlier) = extendLife (event.operation fd) (lives fd earlier) := by
  rw [lives, if_neg (by rw [other]; exact Bool.false_ne_true)]

theorem extendLife_nil (current : List Operation) (past : List (List Operation)) :
    extendLife [] (current :: past) = current :: past := by
  rw [extendLife, List.append_nil]

theorem exists_lives (fd : Nat) (trace : List TraceEvent) :
    ∃ current past, lives fd trace = current :: past := by
  induction trace with
  | nil => exact ⟨[], [], rfl⟩
  | cons event earlier inductionHypothesis =>
      obtain ⟨current, past, same⟩ := inductionHypothesis
      unfold lives
      split
      · exact ⟨_, _, rfl⟩
      · exact ⟨_, _, by rw [same, extendLife]⟩

theorem lives_connected (fd : Nat) (earlier : List TraceEvent) :
    lives fd (.connected fd :: earlier) = [] :: lives fd earlier := by
  have begins : (TraceEvent.connected fd).isConnect fd = true := beq_self_eq_true fd
  rw [lives, if_pos begins]

/-- Events that are no connection extend the newest life by their calls. -/
theorem lives_append {noted : List TraceEvent}
    (others : ∀ event ∈ noted, event.isConnect fd = false) (trace : List TraceEvent) :
    lives fd (noted ++ trace) =
      extendLife (noted.reverse.flatMap (TraceEvent.operation fd)) (lives fd trace) := by
  induction noted with
  | nil =>
      obtain ⟨current, past, same⟩ := exists_lives fd trace
      rw [List.nil_append, same]
      exact (extendLife_nil current past).symm
  | cons event noted inductionHypothesis =>
      have rest := inductionHypothesis fun event inside =>
        others event (List.mem_cons_of_mem _ inside)
      obtain ⟨current, past, same⟩ := exists_lives fd trace
      rw [List.cons_append, lives_cons (others event List.mem_cons_self), rest, same,
        List.reverse_cons, List.flatMap_append, List.flatMap_singleton]
      simp only [extendLife, List.append_assoc]

/-- The first close is the last call, so that nothing comes before it but uses. -/
theorem over_of_closedLast (last : ClosedLast calls) (closes : Operation.close ∈ calls) :
    Over calls := by
  obtain ⟨uses, later, split⟩ := List.append_of_mem closes
  have ended := last uses later split
  subst ended
  refine ⟨uses, split, fun again => ?_⟩
  obtain ⟨first, between, rfl⟩ := List.append_of_mem again
  have ended := last first (between ++ [.close]) (by rw [split]; simp)
  simp at ended

end Lives

namespace PluginComm

variable {lib : Libraries} {view : View} {io : Nat → SocketInput} {fd : Nat}
  {pc after : PluginComm}

/-- While a descriptor is open its newest life goes on, and all lives before are over. -/
def Living (fd : Nat) (pc : PluginComm) : Prop :=
  if isOpen fd pc.trace then
    ∃ current past, lives fd pc.trace = current :: past ∧ Operation.close ∉ current ∧
      LivesOver past
  else
    LivesOver (lives fd pc.trace)

/-- The operating system gives out no descriptor that is open, `poll` gets an answer to every
call, and no read loop closes a connection while there is something to write. -/
def CarefulStep (lib : Libraries) (pc : PluginComm) : View × Action → Prop
  | (_, .connect fd _) => ¬pc.Owns fd
  | (view, .poll io) => ∃ answers, io = spelledOut answers ∧ ∀ fd info,
      Serves lib view (spelledOut answers) pc fd info → Careful fd (answers fd) info
  | (_, .ircEvent _ _ _ _) => True

/-- What leaves the calls and the connections of a descriptor alone. -/
theorem living_record {event : TraceEvent} (neutral : event.isNeutral = true)
    (nothing : event.operation fd = []) (living : Living fd pc) :
    Living fd (pc.record event) := by
  have other : event.isConnect fd = false := by
    cases event <;> first | rfl | cases neutral
  obtain ⟨current, past, same⟩ := exists_lives fd pc.trace
  unfold Living at living ⊢
  rw [record_trace, isOpen_neutral neutral, lives_cons other, nothing, same, extendLife_nil,
    ← same]
  exact living

theorem living_eventClosed (lib : Libraries) (fd : Nat) : EventClosed lib (Living fd) where
  dispatchTo _ _ living _ := living_record rfl rfl living
  record incidental living := by
    cases incidental <;> exact living_record rfl rfl living
  delivered _ _ living := living_record rfl rfl living
  queue _ living := living

/-- `poll` accepts no connection. -/
theorem poll_noted (completed : pc.poll lib view io = .ok after) :
    ∃ noted, after.trace = noted ++ pc.trace ∧
      ∀ event ∈ noted, ∀ fd, event.isConnect fd = false := by
  let Grown (reached : PluginComm) : Prop := ∃ noted, reached.trace = noted ++ pc.trace ∧
    ∀ event ∈ noted, ∀ fd, event.isConnect fd = false
  have grow {reached : PluginComm} {event : TraceEvent}
      (other : ∀ fd, event.isConnect fd = false) (grown : Grown reached) :
      Grown (reached.record event) := by
    obtain ⟨noted, same, others⟩ := grown
    exact ⟨event :: noted, congrArg (event :: ·) same, List.forall_mem_cons.mpr ⟨other, others⟩⟩
  apply poll_invariant (motive := Grown) ?_ (fun _ grown => grown) completed ⟨[], rfl, by simp⟩
  intro before next fd polled
  have closed : PollClosed lib fd Grown := by
    refine ⟨fun _ _ grown _ => grow (fun _ => rfl) grown, fun own => grow ?_⟩
    cases own with
    | incidental incidental => cases incidental <;> exact fun _ => rfl
    | _ => exact fun _ => rfl
  exact closed.pollSocket (fun _ grown => grown) polled

/-- What a careful call of `poll` does with one descriptor. -/
theorem poll_calls {answers : Nat → SocketInput}
    (careful : ∀ fd info, Serves lib view (spelledOut answers) pc fd info →
      Careful fd (answers fd) info)
    (tracked : Tracked pc) (completed : pc.poll lib view (spelledOut answers) = .ok after)
    (fd : Nat) :
    ∃ calls, lives fd after.trace = extendLife calls (lives fd pc.trace) ∧
      (isOpen fd pc.trace = false → isOpen fd after.trace = false ∧ calls = []) ∧
      (isOpen fd pc.trace = true →
        isOpen fd after.trace = true ∧ Operation.close ∉ calls ∨
          isOpen fd after.trace = false ∧ Over calls) := by
  obtain ⟨noted, same, others⟩ := poll_noted completed
  have trackedAfter := tracked_poll tracked completed
  obtain ⟨finish, loop, rfl⟩ := poll_completed completed
  have whole : operationsSince pc finish.1 fd =
      noted.reverse.flatMap (TraceEvent.operation fd) := by
    apply operationsSince_eq
    have same : finish.1.trace = noted ++ pc.trace := same
    rw [same, operations, List.reverse_append, List.flatMap_append]
    rfl
  have remains : isOpen fd finish.1.trace = true ↔ fd ∈ pc.sockets ∧ fd ∉ finish.2 := by
    apply (trackedAfter fd).symm.trans
    rw [mem_eraseAll, foldlM_present loop]
  have underway : Underway lib view (spelledOut answers) pc pc.sockets.keys finish :=
    ⟨List.prefix_refl _, loop⟩
  refine ⟨noted.reverse.flatMap (TraceEvent.operation fd), ?_, fun ended => ?_, fun begun => ?_⟩
  · apply (congrArg (lives fd) same).trans
    exact lives_append (fun event inside => others event inside fd) pc.trace
  · have absent : fd ∉ pc.sockets := by
      rw [tracked fd, ended]
      exact Bool.false_ne_true
    have missing : fd ∉ pc.sockets.keys := mt TreeMap.mem_keys.mp absent
    rw [← whole]
    exact ⟨Bool.eq_false_iff.mpr fun still => absent (remains.mp still).1,
      (underway.untouched missing).1⟩
  · have present := (tracked fd).mpr begun
    obtain ⟨before, rest, split⟩ := List.append_of_mem (TreeMap.mem_keys.mpr present)
    rw [split] at underway
    obtain ⟨_, info, _, _, serves, last, closed⟩ := underway.turn
    rw [← whole]
    by_cases gone : fd ∈ finish.2
    · refine .inr ⟨Bool.eq_false_iff.mpr fun still => (remains.mp still).2 gone, ?_⟩
      exact over_of_closedLast (last.mpr (careful fd info serves)) (closed.mpr gone)
    · exact .inl ⟨remains.mpr ⟨present, gone⟩, mt closed.mp gone⟩

theorem living_poll {answers : Nat → SocketInput}
    (careful : ∀ fd info, Serves lib view (spelledOut answers) pc fd info →
      Careful fd (answers fd) info)
    (tracked : Tracked pc) (completed : pc.poll lib view (spelledOut answers) = .ok after)
    (living : Living fd pc) : Living fd after := by
  obtain ⟨calls, same, closed, opened⟩ := poll_calls careful tracked completed fd
  unfold Living at living ⊢
  rw [same]
  cases state : isOpen fd pc.trace with
  | false =>
      obtain ⟨still, rfl⟩ := closed state
      obtain ⟨current, past, lived⟩ := exists_lives fd pc.trace
      rw [still, lived, extendLife_nil, ← lived]
      rwa [state] at living
  | true =>
      rw [state] at living
      obtain ⟨current, past, lived, unclosed, pastOver⟩ := living
      rw [lived, extendLife]
      rcases opened state with ⟨still, quiet⟩ | ⟨ended, uses, rfl, quiet⟩
      · rw [still]
        refine ⟨_, past, rfl, ?_, pastOver⟩
        exact List.not_mem_append unclosed quiet
      · rw [ended]
        refine .life ⟨current ++ uses, (List.append_assoc _ _ _).symm, ?_⟩ pastOver
        exact List.not_mem_append unclosed quiet

theorem living_connect {other : Nat} {type : ByteString} (free : isOpen other pc.trace = false)
    (living : Living fd pc) : Living fd (pc.connect other type) := by
  have trace : (pc.connect other type).trace = .connected other :: pc.trace := rfl
  unfold Living at living ⊢
  rw [trace, isOpen_connected]
  by_cases same : other = fd
  · subst same
    rw [free] at living
    rw [beq_self_eq_true, Bool.true_or, lives_connected]
    exact ⟨[], _, rfl, List.not_mem_nil, living⟩
  · have different : (TraceEvent.connected other).isConnect fd = false := beq_false_of_ne same
    obtain ⟨current, past, lived⟩ := exists_lives fd pc.trace
    have nothing : (TraceEvent.connected other).operation fd = [] := rfl
    rw [beq_false_of_ne same, Bool.false_or, lives_cons different, nothing, lived,
      extendLife_nil, ← lived]
    exact living

theorem lived_perform {label : View × Action} (careful : CarefulStep lib pc label)
    (performed : pc.perform lib label.1 label.2 = .ok after)
    (lived : Tracked pc ∧ ∀ fd, Living fd pc) : Tracked after ∧ ∀ fd, Living fd after := by
  refine ⟨tracked_perform lived.1 performed, fun fd => ?_⟩
  obtain ⟨view, action⟩ := label
  cases action with
  | ircEvent network event origin params =>
      cases performed
      exact (living_eventClosed lib fd).ircEvent (lived.2 fd)
  | poll io =>
      obtain ⟨answers, rfl, careful⟩ := careful
      exact living_poll careful lived.1 performed (lived.2 fd)
  | connect other type =>
      cases performed
      refine living_connect (Bool.eq_false_iff.mpr fun still => ?_) (lived.2 fd)
      exact careful (.inr (.inr still))

theorem living_of_reachable (reached : ((system lib).guard (CarefulStep lib)).Reachable pc)
    (fd : Nat) : Living fd pc := by
  have lived : Tracked pc ∧ ∀ fd, Living fd pc := by
    apply reached.invariant (motive := fun pc => Tracked pc ∧ ∀ fd, Living fd pc)
    · intro start initial
      have initial : (system lib).initial start := initial
      refine ⟨tracked_initial initial, fun fd => ?_⟩
      obtain ⟨-, -, fresh⟩ := initial
      unfold Living
      rw [fresh]
      exact .unused
    · intro before label after lived step
      exact lived_perform step.1 step.2 lived
  exact lived.2 fd

/-! ## The destructor -/

/-- What the destructor closes, and in which order. -/
def owned (pc : PluginComm) : List Nat := pc.sockets.keys ++ pc.tcpServers ++ pc.localServers

theorem destroy_trace (pc : PluginComm) :
    pc.destroy.trace = (pc.owned.map .closed).reverse ++ pc.trace := by
  have closes (fds : List Nat) (pc : PluginComm) :
      (fds.foldl (fun pc fd => pc.record (.closed fd)) pc).trace =
        (fds.map .closed).reverse ++ pc.trace := by
    induction fds generalizing pc with
    | nil => rfl
    | cons fd rest inductionHypothesis =>
        rw [List.foldl_cons, inductionHypothesis, List.map_cons, List.reverse_cons,
          List.append_assoc]
        rfl
  exact closes pc.owned pc

theorem isOpen_destroy (pc : PluginComm) (fd : Nat) :
    isOpen fd pc.destroy.trace = true ↔ fd ∉ pc.owned ∧ isOpen fd pc.trace = true := by
  have closes (fds : List Nat) (trace : List TraceEvent) :
      isOpen fd (fds.map .closed ++ trace) = true ↔ fd ∉ fds ∧ isOpen fd trace = true := by
    induction fds with
    | nil => simp
    | cons other rest inductionHypothesis =>
        rw [List.map_cons, List.cons_append, isOpen_closed, Bool.and_eq_true, inductionHypothesis,
          bne_iff_ne, List.mem_cons, not_or, and_assoc, ne_comm]
  rw [destroy_trace, ← List.map_reverse, closes, List.mem_reverse]

/-- The calls of the destructor. -/
theorem lives_destroy (pc : PluginComm) (fd : Nat) :
    lives fd pc.destroy.trace =
      extendLife (List.replicate (pc.owned.count fd) .close) (lives fd pc.trace) := by
  have closes (fds : List Nat) : (fds.map TraceEvent.closed).flatMap (TraceEvent.operation fd) =
      List.replicate (fds.count fd) .close := by
    induction fds with
    | nil => rfl
    | cons other rest inductionHypothesis =>
        rw [List.map_cons, List.flatMap_cons, inductionHypothesis, List.count_cons]
        by_cases same : other = fd
        · simp [TraceEvent.operation, same, List.replicate_succ]
        · simp [TraceEvent.operation, same]
  rw [destroy_trace, lives_append ?_, List.reverse_reverse, closes]
  intro event inside
  obtain ⟨other, -, rfl⟩ := List.mem_map.mp (List.mem_reverse.mp inside)
  rfl

/-- In a run with careful steps, up to the end of the destructor, every descriptor that was
accepted is closed exactly once, and not used before it was accepted or after it was closed. -/
theorem connections_closed_once (reached : ((system lib).guard (CarefulStep lib)).Reachable pc)
    (fd : Nat) (foreign : fd ∉ pc.tcpServers ++ pc.localServers) :
    isOpen fd pc.destroy.trace = false ∧ LivesOver (lives fd pc.destroy.trace) := by
  have tracked := tracked_of_reachable reached.of_guard
  have living := living_of_reachable reached fd
  unfold Living at living
  have single : pc.owned.count fd = if isOpen fd pc.trace then 1 else 0 := by
    unfold owned
    rw [List.append_assoc, List.count_append, List.count_eq_zero.mpr foreign, Nat.add_zero]
    split
    · next begun =>
        exact List.count_eq_one_of_mem TreeMap.nodup_keys
          (TreeMap.mem_keys.mpr ((tracked fd).mpr begun))
    · next ended =>
        exact List.count_eq_zero.mpr fun inside =>
          ended ((tracked fd).mp (TreeMap.mem_keys.mp inside))
  rw [Bool.eq_false_iff, Ne, isOpen_destroy, lives_destroy, single]
  cases state : isOpen fd pc.trace with
  | false =>
      rw [state] at living
      obtain ⟨current, past, lived⟩ := exists_lives fd pc.trace
      refine ⟨fun still => Bool.false_ne_true still.2, ?_⟩
      rw [lived] at living ⊢
      exact (extendLife_nil current past).symm ▸ living
  | true =>
      rw [state] at living
      obtain ⟨current, past, lived, unclosed, pastOver⟩ := living
      refine ⟨?_, ?_⟩
      · have inside : fd ∈ pc.owned := by
          apply List.mem_append_left
          apply List.mem_append_left
          exact TreeMap.mem_keys.mpr ((tracked fd).mpr state)
        simp [inside]
      · rw [lived]
        exact .life ⟨current, rfl, unclosed⟩ pastOver

/-- The client of the first of two connections hangs up. -/
theorem connections_closed_once_two :
    ∃ pc, (connect 5 (ascii "unix") (connect 4 (ascii "tcp") {})).poll (.knowing []) .bare
        (spelledOut fun fd => if fd = 4 then { status := .errorOrHangUp } else {}) = .ok pc ∧
      isOpen 4 pc.trace = false ∧ isOpen 5 pc.trace = true ∧
      LivesOver (lives 4 pc.destroy.trace) ∧ LivesOver (lives 5 pc.destroy.trace) := by
  let answers (fd : Nat) : SocketInput := if fd = 4 then { status := .errorOrHangUp } else {}
  have polled : ((connect 5 (ascii "unix") (connect 4 (ascii "tcp") {})).poll (.knowing []) .bare
      (spelledOut answers)).map (fun pc => (isOpen 4 pc.trace, isOpen 5 pc.trace,
        pc.tcpServers ++ pc.localServers)) = .ok (false, true, []) := by
    decide +kernel
  cases completed : (connect 5 (ascii "unix") (connect 4 (ascii "tcp") {})).poll (.knowing [])
      .bare (spelledOut answers) with
  | error fault =>
      rw [completed] at polled
      cases polled
  | ok pc =>
      rw [completed] at polled
      simp only [Except.map, Except.ok.injEq, Prod.mk.injEq] at polled
      have careful (fd : Nat) (info : SocketInfo) : Careful fd (answers fd) info := by
        intro ready closes
        simp only [answers] at ready closes
        split at closes
        · next same => simp [same] at ready
        · cases closes
      have reached : ((system (.knowing [])).guard (CarefulStep (.knowing []))).Reachable pc :=
        .snoc (.snoc (.snoc (.start ⟨rfl, rfl, rfl⟩) (.bare, .connect 4 (ascii "tcp"))
              ⟨by simp [CarefulStep, Owns, isOpen], rfl⟩) (.bare, .connect 5 (ascii "unix"))
            ⟨by simp [CarefulStep, Owns, connect, record, isOpen], rfl⟩)
          (.bare, .poll (spelledOut answers))
          ⟨⟨answers, rfl, fun fd info _ => careful fd info⟩, completed⟩
      obtain ⟨ended, begun, servers⟩ := polled
      exact ⟨pc, rfl, ended, begun, (connections_closed_once reached 4 (by simp [servers])).2,
        (connections_closed_once reached 5 (by simp [servers])).2⟩

end PluginComm

end DaZeus
