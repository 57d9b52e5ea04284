import DaZeus.PluginComm.Descriptors
import DaZeus.PluginComm.Select
import DaZeus.PluginComm.Stream

/-!
# What `select` waits for

The entries of the map are the connections that are open, in every state of a
run, and so a round of `select` watches all of these, the ones with output for
writing as well.  `rounds_refine` then takes any number of rounds to a run of
the transition system.
-/

namespace DaZeus

open Library
open Std (TreeMap)

/-- Neither a connection begins nor one ends. -/
def TraceEvent.isNeutral : TraceEvent → Bool
  | .connected _ => false
  | .closed _ => false
  | _ => true

/-- The descriptor was accepted, and not closed since; the trace has the newest event first. -/
def isOpen (fd : Nat) : List TraceEvent → Bool
  | [] => false
  | .connected other :: earlier => other == fd || isOpen fd earlier
  | .closed other :: earlier => other != fd && isOpen fd earlier
  | _ :: earlier => isOpen fd earlier

theorem isOpen_connected (fd other : Nat) (earlier : List TraceEvent) :
    isOpen fd (.connected other :: earlier) = (other == fd || isOpen fd earlier) := rfl

theorem isOpen_closed (fd other : Nat) (earlier : List TraceEvent) :
    isOpen fd (.closed other :: earlier) = (other != fd && isOpen fd earlier) := rfl

theorem isOpen_neutral {fd : Nat} {event : TraceEvent} {earlier : List TraceEvent}
    (neutral : event.isNeutral = true) : isOpen fd (event :: earlier) = isOpen fd earlier := by
  cases event <;> first | rfl | cases neutral

namespace PluginComm

variable {lib : Libraries} {view : View} {io : Nat → SocketInput} {fd : Nat}
  {pc after : PluginComm} {removed : List Nat}

/-- The entries that are not to be removed are the connections that are open; `fd` has one. -/
structure Tracking (fd : Nat) (pc : PluginComm) (removed : List Nat) : Prop where
  present : fd ∈ pc.sockets
  tracked : ∀ other, other ∈ pc.sockets ∧ other ∉ removed ↔ isOpen other pc.trace = true

namespace Tracking

theorem record {event : TraceEvent} (neutral : event.isNeutral = true)
    (tracking : Tracking fd pc removed) : Tracking fd (pc.record event) removed where
  present := tracking.present
  tracked other := by
    rw [record_trace, isOpen_neutral neutral]
    exact tracking.tracked other

theorem dispatchTo {target : Nat} {event : EventName} {parameters : List ByteString}
    (tracking : Tracking fd pc removed) :
    Tracking fd (pc.dispatchTo lib target event parameters) removed where
  present := TreeMap.mem_modify.mpr tracking.present
  tracked other := by
    rw [dispatchTo_trace, isOpen_neutral rfl, ← tracking.tracked other]
    exact and_congr_left fun _ => TreeMap.mem_modify

theorem close (tracking : Tracking fd pc removed) :
    Tracking fd (pc.record (.closed fd)) (removed ++ [fd]) where
  present := tracking.present
  tracked other := by
    rw [record_trace, isOpen_closed, Bool.and_eq_true, ← tracking.tracked other, List.mem_append,
      List.mem_singleton, not_or, bne_iff_ne]
    tauto

theorem readSocket {reads : List ReadResult} {it : Iteration}
    (tracking : Tracking fd it.pc it.toRemove) :
    Tracking fd (readSocket fd reads it).pc (readSocket fd reads it).toRemove := by
  induction reads generalizing it with
  | nil => exact tracking
  | cons result rest inductionHypothesis =>
      cases result with
      | data bytes =>
          have noted : Tracking fd (it.record (.read fd (some bytes))).pc it.toRemove :=
            tracking.record rfl
          unfold PluginComm.readSocket
          dsimp only
          split
          · exact noted.close
          · apply inductionHypothesis
            exact noted
      | wouldBlock => exact tracking.record rfl
      | error =>
          have noted : Tracking fd (it.record (.read fd none)).pc it.toRemove := tracking.record rfl
          exact noted.close

theorem writeSocket {writes : List WriteResult} {it : Iteration}
    (tracking : Tracking fd it.pc it.toRemove) :
    Tracking fd (writeSocket fd writes it).pc (writeSocket fd writes it).toRemove := by
  induction writes generalizing it with
  | nil => exact tracking
  | cons result rest inductionHypothesis =>
      unfold PluginComm.writeSocket
      split
      · exact tracking
      · cases result with
        | accepted count =>
            apply inductionHypothesis
            exact tracking.record rfl
        | wouldBlock => exact tracking.record rfl
        | error =>
            have noted : Tracking fd (it.record (.wrote fd none)).pc it.toRemove :=
              tracking.record rfl
            exact noted.close

theorem answer {packet : ByteString} {input : Json} {it : Iteration}
    (tracking : Tracking fd it.pc removed) :
    Tracking fd (answer lib view fd packet input it).pc removed := by
  have incidental {pc : PluginComm} {event : TraceEvent} (harmless : event.Incidental)
      (tracking : Tracking fd pc removed) : Tracking fd (pc.record event) removed := by
    apply tracking.record
    cases harmless <;> rfl
  obtain ⟨pc, reached, same⟩ := answer_pc lib view fd packet input it
    (motive := fun pc => Tracking fd pc removed) incidental
    (fun _ => callNetwork_invariant (motive := fun pc => Tracking fd pc removed) incidental
      fun holds _ _ => holds.dispatchTo)
    (tracking.record rfl)
  rw [same]
  exact reached.record rfl

theorem parseSocket {it result : Iteration} (tracking : Tracking fd it.pc it.toRemove)
    (parsed : parseSocket lib view fd it = .ok result) :
    Tracking fd result.pc result.toRemove := by
  rw [parseSocket_toRemove parsed]
  exact parseSocket_invariant (motive := fun reached => Tracking fd reached.pc it.toRemove)
    (fun _ _ tracking => tracking) (fun tracking => tracking.answer) parsed tracking

theorem writeBack {it : Iteration} (tracking : Tracking fd it.pc it.toRemove) :
    Tracking fd (it.writeBack fd) it.toRemove where
  present := TreeMap.mem_insert_self
  tracked other := by
    have kept : other ∈ (it.writeBack fd).sockets ↔ other ∈ it.pc.sockets := by
      apply TreeMap.mem_insert.trans
      refine ⟨fun inserted => inserted.elim (fun same => ?_) id, .inr⟩
      rw [← compare_eq_iff_eq.mp same]
      exact tracking.present
    rw [kept]
    exact tracking.tracked other

end Tracking

theorem tracking_pollSocket {toRemove : List Nat}
    (tracked : ∀ other, other ∈ pc.sockets ∧ other ∉ toRemove ↔ isOpen other pc.trace = true)
    (completed : pollSocket lib view io (pc, toRemove) fd = .ok (after, removed)) (other : Nat) :
    other ∈ after.sockets ∧ other ∉ removed ↔ isOpen other after.trace = true := by
  cases found : pc.sockets[fd]? with
  | none =>
      obtain ⟨rfl, rfl⟩ := pollSocket_absent found completed
      exact tracked other
  | some info =>
      have present : fd ∈ pc.sockets := by
        rw [TreeMap.mem_iff_isSome_getElem?, found]
        rfl
      have tracking : Tracking fd pc toRemove := ⟨present, tracked⟩
      by_cases ready : (io fd).status = .ready
      · obtain ⟨it, parsed, rfl, rfl⟩ := pollSocket_served found ready completed
        let start : Iteration := { pc, info, toRemove, callbacks := (io fd).callbacks }
        have read : Tracking fd (readSocket fd (io fd).reads start).pc
            (readSocket fd (io fd).reads start).toRemove :=
          Tracking.readSocket tracking
        exact (read.parseSocket parsed).writeSocket.writeBack.tracked other
      · obtain ⟨rfl, rfl⟩ := pollSocket_down found ready completed
        exact tracking.close.tracked other

/-- The entries of the map are the connections that are open. -/
def Tracked (pc : PluginComm) : Prop :=
  ∀ fd, fd ∈ pc.sockets ↔ isOpen fd pc.trace = true

theorem tracked_poll (tracked : Tracked pc) (completed : pc.poll lib view io = .ok after) :
    Tracked after := by
  obtain ⟨finish, loop, rfl⟩ := poll_completed completed
  intro fd
  apply mem_eraseAll.trans
  apply foldlM_invariant (motive := fun state => ∀ other,
    other ∈ state.1.sockets ∧ other ∉ state.2 ↔ isOpen other state.1.trace = true) ?_ ?_ loop
  · intro ⟨before, toRemove⟩ item ⟨next, gone⟩ _ tracked round
    exact tracking_pollSocket tracked round
  · intro other
    rw [and_iff_left List.not_mem_nil]
    exact tracked other

theorem tracked_eventClosed (lib : Libraries) : EventClosed lib Tracked where
  dispatchTo _ _ tracked _ fd := by
    rw [dispatchTo_trace, isOpen_neutral rfl, ← tracked fd]
    exact TreeMap.mem_modify
  record incidental tracked fd := by
    rw [record_trace, isOpen_neutral (by cases incidental <;> rfl)]
    exact tracked fd
  delivered _ _ tracked fd := tracked fd
  queue _ tracked fd := tracked fd

theorem tracked_perform {label : View × Action} (tracked : Tracked pc)
    (performed : pc.perform lib label.1 label.2 = .ok after) : Tracked after := by
  obtain ⟨view, action⟩ := label
  cases action with
  | ircEvent network event origin params =>
      cases performed
      exact (tracked_eventClosed lib).ircEvent tracked
  | poll io => exact tracked_poll tracked performed
  | connect fd type =>
      cases performed
      intro other
      apply TreeMap.mem_insert.trans
      rw [compare_eq_iff_eq, tracked other]
      simp [connect, isOpen]

theorem tracked_initial (initial : (system lib).initial pc) : Tracked pc := by
  obtain ⟨nobody, -, fresh⟩ := initial
  intro fd
  rw [fresh, TreeMap.mem_iff_isSome_getElem?, TreeMap.getElem?_of_isEmpty nobody]
  simp [isOpen]

theorem tracked_of_reachable (reached : (system lib).Reachable pc) : Tracked pc :=
  reached.invariant tracked_initial tracked_perform

/-! ## What `select` waits for -/

/-- A loop has put descriptors into the sets, up to `highest`. -/
structure Extended (before : FdSets) (reads writes : List Nat) (after : FdSets) : Prop where
  sockets : after.sockets = before.sockets ++ reads
  outSockets : after.outSockets = before.outSockets ++ writes
  highest : before.highest ≤ after.highest
  bounded : ∀ fd ∈ reads ++ writes, fd ≤ after.highest

namespace Extended

variable {before middle sets : FdSets} {reads writes moreReads moreWrites : List Nat}

theorem refl (sets : FdSets) : Extended sets [] [] sets :=
  ⟨(List.append_nil _).symm, (List.append_nil _).symm, le_refl _, by simp⟩

theorem trans (earlier : Extended before reads writes middle)
    (later : Extended middle moreReads moreWrites sets) :
    Extended before (reads ++ moreReads) (writes ++ moreWrites) sets where
  sockets := by rw [later.sockets, earlier.sockets, List.append_assoc]
  outSockets := by rw [later.outSockets, earlier.outSockets, List.append_assoc]
  highest := earlier.highest.trans later.highest
  bounded fd inside := by
    have first := earlier.bounded fd
    have second := later.bounded fd
    have raised := later.highest
    simp only [List.mem_append] at inside first second
    rcases inside with (inside | inside) | inside | inside
    · exact (first (.inl inside)).trans raised
    · exact second (.inl inside)
    · exact (first (.inr inside)).trans raised
    · exact second (.inr inside)

end Extended

theorem watch_extended {before after : FdSets} (watched : before.watch fd = .ok after) :
    Extended before [fd] [] after := by
  unfold FdSets.watch at watched
  split at watched
  · cases watched
    refine ⟨rfl, (List.append_nil _).symm, ?_, ?_⟩
    · dsimp only
      split <;> omega
    · intro other inside
      rw [List.append_nil, List.mem_singleton] at inside
      dsimp only
      split <;> omega
  · cases watched

theorem watchSocket_extended {before after : FdSets} {entry : Nat × SocketInfo}
    (watched : before.watchSocket entry = .ok after) :
    Extended before [entry.1] (if entry.2.writebuffer ≠ [] then [entry.1] else []) after := by
  unfold FdSets.watchSocket at watched
  cases first : before.watch entry.1 with
  | error fault =>
      rw [first] at watched
      cases watched
  | ok middle =>
      rw [first] at watched
      have extended := watch_extended first
      simp only [bind, Except.bind] at watched
      split at watched
      · next waiting =>
          cases watched
          rw [if_pos waiting]
          refine ⟨extended.sockets, ?_, extended.highest, ?_⟩
          · exact congrArg (· ++ [entry.1]) (extended.outSockets.trans (List.append_nil _))
          · intro other inside
            apply extended.bounded
            simpa using inside
      · next empty =>
          cases watched
          rw [if_neg empty]
          exact extended

theorem addDescriptors_extended (answers : RoundAnswers) (before : FdSets)
    (entry : ByteString × NetworkId) :
    Extended before (((answers.descriptors entry.2).map (·.sockets)).getD [])
      (((answers.descriptors entry.2).map (·.outSockets)).getD [])
      (before.addDescriptors answers entry) := by
  unfold FdSets.addDescriptors
  cases answers.descriptors entry.2 with
  | none => exact .refl before
  | some added =>
      refine ⟨rfl, rfl, ?_, fun fd inside => (added.bounded fd inside).trans ?_⟩
      · dsimp only
        split <;> omega
      · dsimp only
        split <;> omega

theorem networks_extended (answers : RoundAnswers) (entries : List (ByteString × NetworkId))
    (before : FdSets) :
    Extended before
      (entries.flatMap fun entry => ((answers.descriptors entry.2).map (·.sockets)).getD [])
      (entries.flatMap fun entry => ((answers.descriptors entry.2).map (·.outSockets)).getD [])
      (entries.foldl (FdSets.addDescriptors answers) before) := by
  induction entries generalizing before with
  | nil => exact .refl before
  | cons entry rest inductionHypothesis =>
      exact (addDescriptors_extended answers before entry).trans (inductionHypothesis _)

/-- What each round of a loop puts into the sets, one after the other. -/
theorem foldlM_extended {Item : Type} {round : FdSets → Item → Except RoundFault FdSets}
    (reads writes : Item → List Nat)
    (extended : ∀ before item after, round before item = .ok after →
      Extended before (reads item) (writes item) after)
    {items : List Item} {before after : FdSets}
    (completed : items.foldlM round before = .ok after) :
    Extended before (items.flatMap reads) (items.flatMap writes) after := by
  induction items generalizing before with
  | nil =>
      cases completed
      exact .refl _
  | cons item rest inductionHypothesis =>
      rw [List.foldlM_cons] at completed
      cases first : round before item with
      | error fault =>
          rw [first] at completed
          cases completed
      | ok middle =>
          rw [first] at completed
          exact (extended _ _ _ first).trans (inductionHypothesis completed)

/-- A network with an active server adds the descriptor. -/
def Added (view : View) (answers : RoundAnswers) (kind : NetworkDescriptors → List Nat)
    (fd : Nat) : Prop :=
  ∃ (name : ByteString) (network : NetworkId) (added : NetworkDescriptors),
    view.networks[name]? = some network ∧ answers.descriptors network = some added ∧
      fd ∈ kind added

theorem mem_added {answers : RoundAnswers} {kind : NetworkDescriptors → List Nat} :
    fd ∈ (view.networks.toList.flatMap fun entry =>
        ((answers.descriptors entry.2).map kind).getD []) ↔ Added view answers kind fd := by
  rw [List.mem_flatMap]
  constructor
  · rintro ⟨⟨name, network⟩, listed, inside⟩
    cases found : answers.descriptors network with
    | none => simp [found] at inside
    | some added =>
        rw [found] at inside
        exact ⟨name, network, added, TreeMap.mem_toList_iff_getElem?_eq_some.mp listed, found,
          inside⟩
  · rintro ⟨name, network, added, listed, found, inside⟩
    refine ⟨(name, network), TreeMap.mem_toList_iff_getElem?_eq_some.mpr listed, ?_⟩
    rw [found]
    exact inside

/-- The connection has output that was not written. -/
def Waiting (pc : PluginComm) (fd : Nat) : Prop :=
  ∃ info, pc.sockets[fd]? = some info ∧ info.writebuffer ≠ []

theorem mem_waiting :
    fd ∈ (pc.sockets.toList.flatMap fun entry =>
        if entry.2.writebuffer ≠ [] then [entry.1] else []) ↔ Waiting pc fd := by
  rw [List.mem_flatMap]
  constructor
  · rintro ⟨⟨other, info⟩, listed, inside⟩
    split at inside
    · next waiting =>
        rw [List.mem_singleton.mp inside]
        exact ⟨info, TreeMap.mem_toList_iff_getElem?_eq_some.mp listed, waiting⟩
    · cases inside
  · rintro ⟨info, found, waiting⟩
    refine ⟨(fd, info), TreeMap.mem_toList_iff_getElem?_eq_some.mpr found, ?_⟩
    rw [if_pos waiting]
    exact List.mem_singleton_self fd

theorem fdSets_extended {answers : RoundAnswers} {sets : FdSets}
    (built : pc.fdSets view answers = .ok sets) :
    Extended {}
      (pc.tcpServers ++ pc.localServers ++ pc.sockets.keys ++
        view.networks.toList.flatMap fun entry =>
          ((answers.descriptors entry.2).map (·.sockets)).getD [])
      ((pc.sockets.toList.flatMap fun entry =>
          if entry.2.writebuffer ≠ [] then [entry.1] else []) ++
        view.networks.toList.flatMap fun entry =>
          ((answers.descriptors entry.2).map (·.outSockets)).getD []) sets := by
  have servers {fds : List Nat} {before after : FdSets}
      (watched : fds.foldlM FdSets.watch before = .ok after) : Extended before fds [] after := by
    have extended := foldlM_extended (fun fd => [fd]) (fun _ => []) (fun _ _ _ => watch_extended)
      watched
    rwa [List.flatMap_singleton', List.flatMap_eq_nil_iff.mpr fun _ _ => rfl] at extended
  unfold fdSets at built
  cases tcp : pc.tcpServers.foldlM FdSets.watch {} with
  | error fault => simp [tcp, bind, Except.bind] at built
  | ok first =>
      cases unix : pc.localServers.foldlM FdSets.watch first with
      | error fault => simp [tcp, unix, bind, Except.bind] at built
      | ok second =>
          cases plugins : pc.sockets.toList.foldlM FdSets.watchSocket second with
          | error fault => simp [tcp, unix, plugins, bind, Except.bind] at built
          | ok third =>
              simp only [tcp, unix, plugins, bind, Except.bind, Except.ok.injEq] at built
              subst built
              have third := foldlM_extended (fun entry => [entry.1])
                (fun entry => if entry.2.writebuffer ≠ [] then [entry.1] else [])
                (fun _ _ _ => watchSocket_extended) plugins
              have last := networks_extended answers view.networks.toList
              have keys : (pc.sockets.toList.flatMap fun entry => [entry.1]) = pc.sockets.keys := by
                rw [← TreeMap.map_fst_toList_eq_keys, List.map_eq_flatMap]
              rw [keys] at third
              exact (((servers tcp).trans (servers unix)).trans third).trans (last _)

theorem fdSets_returns_iff {answers : RoundAnswers} :
    (∃ sets, pc.fdSets view answers = .ok sets) ↔ (∀ fd ∈ pc.tcpServers, fd < fdSetSize) ∧
      (∀ fd ∈ pc.localServers, fd < fdSetSize) ∧
        ∀ entry ∈ pc.sockets.toList, entry.1 < fdSetSize := by
  have watches (before : FdSets) (fd : Nat) :
      (∃ after, before.watch fd = .ok after) ↔ fd < fdSetSize := by
    unfold FdSets.watch
    split <;> simp_all
  have watchesSocket (before : FdSets) (entry : Nat × SocketInfo) :
      (∃ after, before.watchSocket entry = .ok after) ↔ entry.1 < fdSetSize := by
    rw [← watches before entry.1]
    unfold FdSets.watchSocket
    cases before.watch entry.1 with
    | error fault => simp [bind, Except.bind]
    | ok middle =>
        refine iff_of_true ?_ ⟨middle, rfl⟩
        dsimp only [bind, Except.bind]
        split
        · exact ⟨_, rfl⟩
        · exact ⟨_, rfl⟩
  unfold fdSets
  rw [← foldlM_completes_iff watches pc.tcpServers {}]
  cases pc.tcpServers.foldlM FdSets.watch {} with
  | error fault => simp [bind, Except.bind]
  | ok first =>
      rw [← foldlM_completes_iff watches pc.localServers first]
      cases unix : pc.localServers.foldlM FdSets.watch first with
      | error fault => simp [unix, bind, Except.bind]
      | ok second =>
          rw [← foldlM_completes_iff watchesSocket pc.sockets.toList second]
          cases plugins : pc.sockets.toList.foldlM FdSets.watchSocket second with
          | error fault => simp [unix, plugins, bind, Except.bind]
          | ok third => simp [unix, plugins, bind, Except.bind]

/-- What `select` is called with: the listening sockets, the open connections and what the
networks add, those with output for writing as well, and none past the first argument. -/
structure Watches (view : View) (answers : RoundAnswers) (pc : PluginComm) (sets : FdSets) :
    Prop where
  sockets : ∀ fd, fd ∈ sets.sockets ↔ fd ∈ pc.tcpServers ∨ fd ∈ pc.localServers ∨
    isOpen fd pc.trace = true ∨ Added view answers (·.sockets) fd
  outSockets : ∀ fd, fd ∈ sets.outSockets ↔ Waiting pc fd ∨ Added view answers (·.outSockets) fd
  highest : ∀ fd ∈ sets.sockets ++ sets.outSockets, fd ≤ sets.highest

/-- In every state the call of `select` watches exactly what it has to, as long as every
descriptor of the component fits into an `fd_set`. -/
theorem select_watches (reached : (system lib).Reachable pc) (view : View)
    (answers : RoundAnswers) :
    ((∃ sets, pc.fdSets view answers = .ok sets) ↔
      ∀ fd, fd ∈ pc.tcpServers ∨ fd ∈ pc.localServers ∨ isOpen fd pc.trace = true →
        fd < fdSetSize) ∧
      ∀ sets, pc.fdSets view answers = .ok sets → Watches view answers pc sets := by
  have tracked := tracked_of_reachable reached
  refine ⟨?_, fun sets built => ?_⟩
  · rw [fdSets_returns_iff]
    have entries : (∀ entry ∈ pc.sockets.toList, entry.1 < fdSetSize) ↔
        ∀ fd, isOpen fd pc.trace = true → fd < fdSetSize := by
      simp only [← tracked _, ← TreeMap.mem_keys, ← TreeMap.map_fst_toList_eq_keys,
        List.mem_map, forall_exists_index, and_imp, forall_apply_eq_imp_iff₂]
    rw [entries]
    simp only [or_imp, forall_and]
  · have extended := fdSets_extended built
    refine ⟨fun fd => ?_, fun fd => ?_, fun fd inside => extended.bounded fd ?_⟩
    · rw [extended.sockets, ← tracked fd, ← TreeMap.mem_keys, ← mem_added]
      simp only [List.nil_append, List.mem_append, or_assoc]
    · rw [extended.outSockets, ← mem_waiting, ← mem_added]
      simp only [List.nil_append, List.mem_append]
    · rwa [extended.sockets, extended.outSockets] at inside

/-- A listening socket and a connection are watched for reading. -/
theorem select_watches_connected :
    ∃ sets, (connect 4 (ascii "unix") { localServers := [3] }).fdSets .bare
        { select := .timeout } = .ok sets ∧ 3 ∈ sets.sockets ∧ 4 ∈ sets.sockets ∧
      4 ∉ sets.outSockets := by
  have reached : (system (.knowing [])).Reachable
      (connect 4 (ascii "unix") { localServers := [3] }) :=
    .snoc (.start ⟨rfl, rfl, rfl⟩) (.bare, .connect 4 (ascii "unix")) rfl
  obtain ⟨returns, watches⟩ := select_watches reached .bare { select := .timeout }
  have small : ∀ fd, fd ∈ ([] : List Nat) ∨ fd ∈ [3] ∨ isOpen fd [.connected 4] = true →
      fd < fdSetSize := by
    simp [isOpen, fdSetSize]
  obtain ⟨sets, built⟩ := returns.mpr small
  refine ⟨sets, built, ((watches sets built).sockets 3).mpr ?_,
    ((watches sets built).sockets 4).mpr ?_, mt ((watches sets built).outSockets 4).mp ?_⟩
  · exact .inr (.inl (List.mem_singleton_self 3))
  · exact .inr (.inr (.inl rfl))
  · rintro (⟨info, found, waiting⟩ | ⟨name, network, added, -, none, -⟩)
    · cases found
      exact waiting rfl
    · cases none

/-- Between two steps output waits exactly if less was written than was produced. -/
theorem waiting_iff (tracked : Tracked pc) (exact : Exact fd pc) :
    Waiting pc fd ↔ isOpen fd pc.trace = true ∧ accepted fd pc.trace ≠ produced fd pc.trace := by
  rw [← tracked fd, TreeMap.mem_iff_isSome_getElem?]
  unfold Waiting
  cases found : pc.sockets[fd]? with
  | none => simp
  | some info =>
      rw [← exact info found]
      simp

/-- In a run in which no socket hears of its own calls, `select` waits for writability of exactly
those connections that were not yet sent all that was produced for them. -/
theorem unsent_watched (reached : ((system lib).guard (UnheardStep lib)).Reachable pc)
    {answers : RoundAnswers} {sets : FdSets} (built : pc.fdSets view answers = .ok sets)
    (fd : Nat) :
    fd ∈ sets.outSockets ↔
      isOpen fd pc.trace = true ∧ accepted fd pc.trace ≠ produced fd pc.trace ∨
        Added view answers (·.outSockets) fd := by
  rw [(fdSets_extended built).outSockets, List.nil_append, List.mem_append, mem_waiting, mem_added,
    waiting_iff (tracked_of_reachable reached.of_guard) (exact_of_reachable reached fd)]

/-- The response to a request of which three bytes were taken. -/
theorem unsent_watched_response :
    ∃ pc sets, (connect 5 (ascii "unix") {}).poll (.knowing [subscribeRequest]) .online
        (requestInput subscribeRequest [] [.accepted 3]) = .ok pc ∧
      pc.fdSets .online { select := .timeout } = .ok sets ∧ 5 ∈ sets.outSockets := by
  have written : ((connect 5 (ascii "unix") {}).poll (.knowing [subscribeRequest]) .online
      (requestInput subscribeRequest [] [.accepted 3])).map (fun pc =>
        (isOpen 5 pc.trace, decide (accepted 5 pc.trace = produced 5 pc.trace),
          (pc.fdSets .online { select := .timeout }).isOk)) = .ok (true, false, true) := by
    decide +kernel
  cases completed : (connect 5 (ascii "unix") {}).poll (.knowing [subscribeRequest]) .online
      (requestInput subscribeRequest [] [.accepted 3]) with
  | error fault =>
      rw [completed] at written
      cases written
  | ok pc =>
      have reached : ((system (.knowing [subscribeRequest])).guard
          (UnheardStep (.knowing [subscribeRequest]))).Reachable pc :=
        .snoc (.snoc (.start ⟨rfl, rfl, rfl⟩) (.online, .connect 5 (ascii "unix")) ⟨trivial, rfl⟩)
          (.online, .poll (requestInput subscribeRequest [] [.accepted 3]))
          ⟨fun _ _ _ _ => by simp [requestInput], completed⟩
      rw [completed] at written
      simp only [Except.map, Except.ok.injEq, Prod.mk.injEq, decide_eq_false_iff_not] at written
      obtain ⟨begun, unequal, fits⟩ := written
      cases built : pc.fdSets .online { select := .timeout } with
      | error fault =>
          rw [built] at fits
          cases fits
      | ok sets =>
          exact ⟨pc, sets, rfl, built, (unsent_watched reached built 5).mpr (.inl ⟨begun, unequal⟩)⟩

/-! ## Any number of rounds -/

/-- One round after the other, until one of them does not return. -/
def performRounds (lib : Libraries) (start : PluginComm) (rounds : List (View × RoundAnswers)) :
    Except RoundFault PluginComm :=
  rounds.foldlM (fun pc round => pc.run lib round.1 round.2) start

/-- A descriptor of the component. -/
def Owns (pc : PluginComm) (fd : Nat) : Prop :=
  fd ∈ pc.tcpServers ∨ fd ∈ pc.localServers ∨ isOpen fd pc.trace = true

theorem fdSets_error {answers : RoundAnswers} {fault : RoundFault} (tracked : Tracked pc)
    (stopped : pc.fdSets view answers = .error fault) :
    ∃ fd, fault = .setOverflow fd ∧ pc.Owns fd ∧ fdSetSize ≤ fd := by
  have watch {before : FdSets} {fd : Nat} {fault : RoundFault}
      (failed : before.watch fd = .error fault) : fault = .setOverflow fd ∧ fdSetSize ≤ fd := by
    unfold FdSets.watch at failed
    split at failed
    · cases failed
    · next large =>
        cases failed
        exact ⟨rfl, Nat.le_of_not_lt large⟩
  have watchSocket {before : FdSets} {entry : Nat × SocketInfo} {fault : RoundFault}
      (failed : before.watchSocket entry = .error fault) :
      fault = .setOverflow entry.1 ∧ fdSetSize ≤ entry.1 := by
    unfold FdSets.watchSocket at failed
    cases first : before.watch entry.1 with
    | error other =>
        rw [first] at failed
        cases failed
        exact watch first
    | ok middle =>
        rw [first] at failed
        dsimp only [bind, Except.bind] at failed
        split at failed <;> cases failed
  have server {fds : List Nat} {before : FdSets} {fault : RoundFault}
      (failed : fds.foldlM FdSets.watch before = .error fault) :
      ∃ fd ∈ fds, fault = .setOverflow fd ∧ fdSetSize ≤ fd := by
    obtain ⟨done, fd, rest, middle, rfl, -, round⟩ := exists_failed_round failed
    exact ⟨fd, List.mem_append_right _ List.mem_cons_self, watch round⟩
  unfold fdSets at stopped
  cases tcp : pc.tcpServers.foldlM FdSets.watch {} with
  | error other =>
      rw [tcp] at stopped
      cases stopped
      obtain ⟨fd, inside, same, large⟩ := server tcp
      exact ⟨fd, same, .inl inside, large⟩
  | ok first =>
      cases unix : pc.localServers.foldlM FdSets.watch first with
      | error other =>
          simp only [tcp, unix, bind, Except.bind] at stopped
          cases stopped
          obtain ⟨fd, inside, same, large⟩ := server unix
          exact ⟨fd, same, .inr (.inl inside), large⟩
      | ok second =>
          cases plugins : pc.sockets.toList.foldlM FdSets.watchSocket second with
          | error other =>
              simp only [tcp, unix, plugins, bind, Except.bind] at stopped
              cases stopped
              obtain ⟨done, ⟨fd, info⟩, rest, middle, split, -, round⟩ :=
                exists_failed_round plugins
              have listed : (fd, info) ∈ pc.sockets.toList := by
                rw [split]
                exact List.mem_append_right _ List.mem_cons_self
              have found := TreeMap.mem_toList_iff_getElem?_eq_some.mp listed
              obtain ⟨same, large⟩ := watchSocket round
              refine ⟨fd, same, .inr (.inr ((tracked fd).mp ?_)), large⟩
              rw [TreeMap.mem_iff_isSome_getElem?, found]
              rfl
          | ok third =>
              simp only [tcp, unix, plugins, bind, Except.bind] at stopped
              cases stopped

theorem reachable_actions {start finish : PluginComm} {actions : List (View × Action)}
    (reached : (system lib).Reachable start)
    (completed : performAll lib start actions = .ok finish) : (system lib).Reachable finish :=
  foldlM_invariant (motive := (system lib).Reachable)
    (fun {_ label _} _ reached step => reached.snoc label step) reached completed

theorem run_reachable {answers : RoundAnswers} (reached : (system lib).Reachable pc)
    (returned : pc.run lib view answers = .ok after) : (system lib).Reachable after :=
  reachable_actions reached (run_performAll returned)

/-- Where and why a round stops. -/
theorem run_error {answers : RoundAnswers} {fault : RoundFault}
    (reached : (system lib).Reachable pc) (stopped : pc.run lib view answers = .error fault) :
    (∃ middle view io fault', (system lib).Reachable middle ∧ fault = .poll fault' ∧
        middle.poll lib view io = .error fault') ∨
      ∃ fd, fault = .setOverflow fd ∧ pc.Owns fd ∧ fdSetSize ≤ fd := by
  rw [run_eq] at stopped
  cases built : pc.fdSets view answers with
  | error overflow =>
      rw [built] at stopped
      cases stopped
      exact .inr (fdSets_error (tracked_of_reachable reached) built)
  | ok sets =>
      rw [built] at stopped
      cases completed : performAll lib pc (roundActions view answers pc) with
      | ok finish => simp [completed, Except.bind, Except.mapError] at stopped
      | error failure =>
          simp only [completed, Except.bind, Except.mapError] at stopped
          cases stopped
          obtain ⟨done, ⟨seen, action⟩, rest, middle, -, before, failed⟩ :=
            exists_failed_round completed
          have reachedMiddle := reachable_actions reached before
          cases action with
          | ircEvent network event origin params => cases failed
          | connect fd type => cases failed
          | poll io => exact .inl ⟨middle, seen, io, failure, reachedMiddle, rfl, failed⟩

/-- Every state between rounds is one of the transition system, and a round stops where `poll`
does or at a descriptor that does not fit into an `fd_set`. -/
theorem rounds_refine (lib : Libraries) (database : Option DatabaseId)
    (tcpServers localServers : List Nat) (rounds : List (View × RoundAnswers)) :
    match performRounds lib { database, tcpServers, localServers } rounds with
    | .ok finish => (system lib).Reachable finish
    | .error (.poll fault) => ∃ pc view io, (system lib).Reachable pc ∧
        pc.poll lib view io = .error fault
    | .error (.setOverflow fd) => ∃ pc, (system lib).Reachable pc ∧ pc.Owns fd ∧
        fdSetSize ≤ fd := by
  have start : (system lib).Reachable { database, tcpServers, localServers } :=
    .start ⟨rfl, rfl, rfl⟩
  have between {rounds : List (View × RoundAnswers)} {finish : PluginComm}
      (completed : performRounds lib { database, tcpServers, localServers } rounds = .ok finish) :
      (system lib).Reachable finish :=
    foldlM_invariant (motive := (system lib).Reachable)
      (fun _ reached returned => run_reachable reached returned) start completed
  cases outcome : performRounds lib { database, tcpServers, localServers } rounds with
  | ok finish => exact between outcome
  | error fault =>
      obtain ⟨done, round, rest, pc, -, completed, stopped⟩ := exists_failed_round outcome
      have reached := between completed
      rcases run_error reached stopped with
        ⟨middle, view, io, failure, reachedMiddle, rfl, failed⟩ | ⟨fd, rfl, own, large⟩
      · exact ⟨middle, view, io, reachedMiddle, failed⟩
      · exact ⟨pc, reached, own, large⟩

end PluginComm

end DaZeus
