import DaZeus.PluginComm.Poll

/-!
# One round of `select`

`PluginComm::run` and the destructor, with the answers of `select`, of the
other system calls and of the networks as input.  `run_eq` says what a round
amounts to: a list of the actions that the transition system knows.
-/

namespace DaZeus

open Library
open Std (TreeMap)

/-- An event that a network raises, with what the networks know by then. -/
structure NetworkEvent where
  memory : NetworkId → NetworkState
  event : ByteString
  origin : ByteString
  params : List ByteString

/-- What `addDescriptors` of a network puts into the sets, and its `ircmaxfd`. -/
structure NetworkDescriptors where
  sockets : List Nat
  outSockets : List Nat
  maxFd : Nat
  bounded : ∀ fd ∈ sockets ++ outSockets, fd ≤ maxFd

/-- What `select` returns, with the sets as it leaves them. -/
inductive SelectResult where
  | interrupted
  | badDescriptor
  | failed
  | timeout
  | ready (sockets outSockets : List Nat)

/-- The environment's part in one round. -/
structure RoundAnswers where
  /-- The networks that have an active server before `select`, with their descriptors. -/
  descriptors : NetworkId → Option NetworkDescriptors := fun _ => none
  select : SelectResult
  /-- What `accept` returns for a listening socket until it fails. -/
  accepts : Nat → List Nat := fun _ => []
  io : Nat → SocketInput := fun _ => {}
  /-- The networks that have an active server after `select`, with what is raised by
  `processDescriptors` and by `checkTimeouts`. -/
  processDescriptors : NetworkId → Option (List NetworkEvent) := fun _ => none
  checkTimeouts : NetworkId → Option (List NetworkEvent) := fun _ => none

/-- How `run` stops without returning. -/
inductive RoundFault where
  /-- `FD_SET` past the end of an `fd_set`. -/
  | setOverflow (fd : Nat)
  | poll (fault : Fault)
  deriving DecidableEq

/-- The variables of `run` before the call of `select`. -/
structure FdSets where
  sockets : List Nat := []
  outSockets : List Nat := []
  highest : Nat := 0

def fdSetSize : Nat := 1024

namespace FdSets

/-- Raise `highest`, and `FD_SET(fd, &sockets)`. -/
def watch (sets : FdSets) (fd : Nat) : Except RoundFault FdSets :=
  if fd < fdSetSize then
    .ok { sets with
      sockets := sets.sockets ++ [fd]
      highest := if fd > sets.highest then fd else sets.highest }
  else
    .error (.setOverflow fd)

/-- One iteration of the loop over the plugin sockets. -/
def watchSocket (sets : FdSets) (entry : Nat × SocketInfo) : Except RoundFault FdSets := do
  let sets ← sets.watch entry.1
  if entry.2.writebuffer ≠ [] then
    .ok { sets with outSockets := sets.outSockets ++ [entry.1] }
  else
    .ok sets

/-- One iteration of the loop over the networks. -/
def addDescriptors (answers : RoundAnswers) (sets : FdSets) (entry : ByteString × NetworkId) :
    FdSets :=
  match answers.descriptors entry.2 with
  | none => sets
  | some added => {
      sockets := sets.sockets ++ added.sockets
      outSockets := sets.outSockets ++ added.outSockets
      highest := if added.maxFd > sets.highest then added.maxFd else sets.highest }

end FdSets

namespace PluginComm

variable (lib : Libraries)

/-- `run` up to the call of `select`. -/
def fdSets (view : View) (answers : RoundAnswers) (pc : PluginComm) : Except RoundFault FdSets := do
  let sets ← pc.tcpServers.foldlM FdSets.watch {}
  let sets ← pc.localServers.foldlM FdSets.watch sets
  let sets ← pc.sockets.toList.foldlM FdSets.watchSocket sets
  .ok (view.networks.toList.foldl (FdSets.addDescriptors answers) sets)

/-- `while(1)` around `accept`, for every listening socket. -/
def acceptAll (type : ByteString) (servers : List Nat) (accepts : Nat → List Nat)
    (pc : PluginComm) : PluginComm :=
  servers.foldl (fun pc server => (accepts server).foldl (·.connect · type) pc) pc

def newTcpConnection (accepts : Nat → List Nat) (pc : PluginComm) : PluginComm :=
  pc.acceptAll (ascii "tcp") pc.tcpServers accepts

def newLocalConnection (accepts : Nat → List Nat) (pc : PluginComm) : PluginComm :=
  pc.acceptAll (ascii "unix") pc.localServers accepts

/-- What the networks raise, in the order of the map. -/
def raiseAll (view : View) (raised : NetworkId → Option (List NetworkEvent)) (pc : PluginComm) :
    PluginComm :=
  view.networks.toList.foldl
    (fun pc entry => ((raised entry.2).getD []).foldl
      (fun pc raise => pc.ircEvent lib raise.memory view.config.globalConfig entry.2
        raise.event raise.origin raise.params) pc) pc

/-- `poll()` as `run` calls it. -/
def pollRound (view : View) (io : Nat → SocketInput) (pc : PluginComm) :
    Except RoundFault PluginComm :=
  (pc.poll lib view io).mapError .poll

/-- The loops of `run` after `select` has reported descriptors.  For each network
`processDescriptors` comes before `checkTimeouts`. -/
def serve (view : View) (answers : RoundAnswers) (sockets outSockets : List Nat)
    (pc : PluginComm) : Except RoundFault PluginComm := do
  let pc := if pc.tcpServers.any (sockets.contains ·) then
    pc.newTcpConnection answers.accepts else pc
  let pc := if pc.localServers.any (sockets.contains ·) then
    pc.newLocalConnection answers.accepts else pc
  let pc ← if pc.sockets.keys.any fun fd => sockets.contains fd || outSockets.contains fd then
    pc.pollRound lib view answers.io else .ok pc
  .ok (pc.raiseAll lib view fun network =>
    (answers.processDescriptors network).map (· ++ (answers.checkTimeouts network).getD []))

/-- `PluginComm::run`. -/
def run (view : View) (answers : RoundAnswers) (pc : PluginComm) :
    Except RoundFault PluginComm := do
  let _ ← pc.fdSets view answers
  match answers.select with
  | .interrupted => .ok pc
  | .failed => .ok pc
  | .badDescriptor => pc.pollRound lib view answers.io
  | .timeout => .ok (pc.raiseAll lib view answers.checkTimeouts)
  | .ready sockets outSockets => pc.serve lib view answers sockets outSockets

/-- `~PluginComm`. -/
def destroy (pc : PluginComm) : PluginComm :=
  (pc.sockets.keys ++ pc.tcpServers ++ pc.localServers).foldl (fun pc fd => pc.record (.closed fd))
    pc

/-! ## Rounds as actions -/

/-- What is accepted by a number of listening sockets. -/
def connections (type : ByteString) (servers : List Nat) (accepts : Nat → List Nat) :
    List Action :=
  (servers.flatMap accepts).map (.connect · type)

/-- What is accepted in a round in which these descriptors can be read. -/
def roundConnections (accepts : Nat → List Nat) (sockets : List Nat) (pc : PluginComm) :
    List Action :=
  (if pc.tcpServers.any (sockets.contains ·) then
    connections (ascii "tcp") pc.tcpServers accepts else []) ++
  if pc.localServers.any (sockets.contains ·) then
    connections (ascii "unix") pc.localServers accepts else []

/-- The connections of a list of actions. -/
def connectedBy (actions : List Action) : List Nat :=
  actions.filterMap fun
    | .connect fd _ => some fd
    | _ => none

/-- The events of the networks, in the order of the map. -/
def roundEvents (view : View) (raised : NetworkId → Option (List NetworkEvent)) :
    List (View × Action) :=
  view.networks.toList.flatMap fun entry => ((raised entry.2).getD []).map fun raise =>
    ({ view with memory := raise.memory },
      .ircEvent entry.2 raise.event raise.origin raise.params)

/-- The actions that a round consists of: connections, `poll` at most once, and events. -/
def roundActions (view : View) (answers : RoundAnswers) (pc : PluginComm) : List (View × Action) :=
  match answers.select with
  | .interrupted => []
  | .failed => []
  | .badDescriptor => [(view, .poll answers.io)]
  | .timeout => roundEvents view answers.checkTimeouts
  | .ready sockets outSockets =>
      let connections := roundConnections answers.accepts sockets pc
      (connections.map fun action => (view, action)) ++
        (if (pc.sockets.keys ++ connectedBy connections).any fun fd =>
            sockets.contains fd || outSockets.contains fd then
          [(view, .poll answers.io)] else []) ++
        roundEvents view fun network =>
          (answers.processDescriptors network).map (· ++ (answers.checkTimeouts network).getD [])

section Rounds

variable {lib : Libraries} {view : View} {answers : RoundAnswers} {pc after : PluginComm}

theorem performAll_append (first second : List (View × Action)) (pc : PluginComm) :
    performAll lib pc (first ++ second) =
      (performAll lib pc first).bind fun middle => performAll lib middle second :=
  List.foldlM_append

theorem performAll_connect (type : ByteString) (fds : List Nat) (pc : PluginComm) :
    performAll lib pc (fds.map fun fd => (view, .connect fd type)) =
      .ok (fds.foldl (·.connect · type) pc) := by
  induction fds generalizing pc with
  | nil => rfl
  | cons fd rest inductionHypothesis => exact inductionHypothesis _

theorem acceptAll_eq (type : ByteString) (servers : List Nat) (accepts : Nat → List Nat)
    (pc : PluginComm) :
    pc.acceptAll type servers accepts = (servers.flatMap accepts).foldl (·.connect · type) pc := by
  unfold acceptAll
  induction servers generalizing pc with
  | nil => rfl
  | cons server rest inductionHypothesis =>
      rw [List.foldl_cons, inductionHypothesis, List.flatMap_cons, List.foldl_append]

theorem performAll_connections (type : ByteString) (servers : List Nat)
    (accepts : Nat → List Nat) (pc : PluginComm) :
    performAll lib pc ((connections type servers accepts).map fun action => (view, action)) =
      .ok (pc.acceptAll type servers accepts) := by
  rw [acceptAll_eq, connections, List.map_map]
  exact performAll_connect type _ pc

/-- Accepting connections adds their entries, and changes no listening socket. -/
theorem foldl_connect (type : ByteString) (fds : List Nat) (pc : PluginComm) :
    (fds.foldl (·.connect · type) pc).tcpServers = pc.tcpServers ∧
      (fds.foldl (·.connect · type) pc).localServers = pc.localServers ∧
      ∀ fd, fd ∈ (fds.foldl (·.connect · type) pc).sockets ↔ fd ∈ pc.sockets ∨ fd ∈ fds := by
  induction fds generalizing pc with
  | nil => simp
  | cons other rest inductionHypothesis =>
      obtain ⟨tcp, unix, entries⟩ := inductionHypothesis (pc.connect other type)
      refine ⟨tcp, unix, fun fd => (entries fd).trans ?_⟩
      have inserted : fd ∈ (pc.connect other type).sockets ↔ other = fd ∨ fd ∈ pc.sockets := by
        apply TreeMap.mem_insert.trans
        rw [compare_eq_iff_eq]
      rw [inserted, List.mem_cons, eq_comm]
      tauto

theorem connectedBy_connections (type : ByteString) (servers : List Nat)
    (accepts : Nat → List Nat) :
    connectedBy (connections type servers accepts) = servers.flatMap accepts := by
  unfold connectedBy connections
  rw [List.filterMap_map]
  exact List.filterMap_some

theorem performAll_roundEvents (raised : NetworkId → Option (List NetworkEvent))
    (pc : PluginComm) :
    performAll lib pc (roundEvents view raised) = .ok (pc.raiseAll lib view raised) := by
  have events (network : NetworkId) (events : List NetworkEvent) (pc : PluginComm) :
      performAll lib pc (events.map fun raise => ({ view with memory := raise.memory },
        .ircEvent network raise.event raise.origin raise.params)) =
      .ok (events.foldl (fun pc raise => pc.ircEvent lib raise.memory view.config.globalConfig
        network raise.event raise.origin raise.params) pc) := by
    induction events generalizing pc with
    | nil => rfl
    | cons raise rest inductionHypothesis => exact inductionHypothesis _
  unfold roundEvents raiseAll
  induction view.networks.toList generalizing pc with
  | nil => rfl
  | cons entry rest inductionHypothesis =>
      rw [List.flatMap_cons, performAll_append, events]
      exact inductionHypothesis _

theorem connectedBy_append (first second : List Action) :
    connectedBy (first ++ second) = connectedBy first ++ connectedBy second :=
  List.filterMap_append

theorem roundConnections_connect {accepts : Nat → List Nat} {sockets : List Nat}
    {action : Action} (accepted : action ∈ roundConnections accepts sockets pc) :
    ∃ fd type, action = .connect fd type := by
  have part {ready : Bool} {type : ByteString} {servers : List Nat}
      (inside : action ∈ if ready then connections type servers accepts else []) :
      ∃ fd type, action = .connect fd type := by
    split at inside
    · obtain ⟨fd, -, rfl⟩ := List.mem_map.mp inside
      exact ⟨fd, type, rfl⟩
    · cases inside
  exact (List.mem_append.mp accepted).elim part part

/-- One of the two loops over listening sockets. -/
theorem performAll_accept (lib : Libraries) (view : View) (ready : Bool) (type : ByteString)
    (servers : List Nat) (accepts : Nat → List Nat) (pc : PluginComm) :
    let accepted := if ready then connections type servers accepts else []
    let middle := if ready then pc.acceptAll type servers accepts else pc
    performAll lib pc (accepted.map fun action => (view, action)) = .ok middle ∧
      middle.localServers = pc.localServers ∧
      ∀ fd, fd ∈ middle.sockets ↔ fd ∈ pc.sockets ∨ fd ∈ connectedBy accepted := by
  cases ready with
  | false =>
      refine ⟨rfl, rfl, fun fd => ?_⟩
      exact (or_iff_left List.not_mem_nil).symm
  | true =>
      obtain ⟨-, unix, entries⟩ := foldl_connect type (servers.flatMap accepts) pc
      simp only [if_true, connectedBy_connections, acceptAll_eq]
      refine ⟨?_, unix, entries⟩
      rw [← acceptAll_eq]
      exact performAll_connections type servers accepts pc

theorem performAll_roundConnections (lib : Libraries) (view : View)
    (accepts : Nat → List Nat) (sockets : List Nat) (pc : PluginComm) :
    let tcp := if pc.tcpServers.any (sockets.contains ·) then pc.newTcpConnection accepts else pc
    let middle := if tcp.localServers.any (sockets.contains ·) then
      tcp.newLocalConnection accepts else tcp
    performAll lib pc ((roundConnections accepts sockets pc).map fun action => (view, action)) =
        .ok middle ∧
      ∀ fd, fd ∈ middle.sockets ↔
        fd ∈ pc.sockets ∨ fd ∈ connectedBy (roundConnections accepts sockets pc) := by
  intro tcp middle
  obtain ⟨first, same, entries⟩ := performAll_accept lib view
    (pc.tcpServers.any (sockets.contains ·)) (ascii "tcp") pc.tcpServers accepts pc
  obtain ⟨second, -, more⟩ := performAll_accept lib view
    (tcp.localServers.any (sockets.contains ·)) (ascii "unix") tcp.localServers accepts tcp
  have split : roundConnections accepts sockets pc =
      (if pc.tcpServers.any (sockets.contains ·) then
        connections (ascii "tcp") pc.tcpServers accepts else []) ++
      if tcp.localServers.any (sockets.contains ·) then
        connections (ascii "unix") tcp.localServers accepts else [] := by
    have same : tcp.localServers = pc.localServers := same
    rw [same]
    rfl
  rw [split, List.map_append, performAll_append]
  constructor
  · exact (congrArg (Except.bind · _) first).trans second
  · intro fd
    apply (more fd).trans
    rw [connectedBy_append, List.mem_append, ← or_assoc]
    exact or_congr_left (entries fd)

/-- A round is its actions, once the descriptors are in the sets. -/
theorem run_eq (lib : Libraries) (view : View) (answers : RoundAnswers) (pc : PluginComm) :
    pc.run lib view answers = (pc.fdSets view answers).bind fun _ =>
      (performAll lib pc (roundActions view answers pc)).mapError .poll := by
  unfold run
  apply congrArg (Except.bind _)
  funext sets
  have polled (pc : PluginComm) : pc.pollRound lib view answers.io =
      (performAll lib pc [(view, .poll answers.io)]).mapError .poll := by
    unfold pollRound performAll
    rw [List.foldlM_cons]
    cases reached : pc.poll lib view answers.io with
    | error fault => simp [perform, reached, bind, Except.bind]
    | ok after => simp [perform, reached, bind, Except.bind, pure, Except.pure]
  have raised (outcome : Except Fault PluginComm)
      (events : NetworkId → Option (List NetworkEvent)) :
      (outcome.mapError .poll >>= fun pc => .ok (pc.raiseAll lib view events) :
        Except RoundFault PluginComm) =
      (outcome.bind fun pc => performAll lib pc (roundEvents view events)).mapError .poll := by
    cases outcome with
    | error fault => rfl
    | ok middle =>
        simp only [Except.bind, performAll_roundEvents]
        rfl
  cases selected : answers.select with
  | interrupted => simp [roundActions, selected, performAll, Except.mapError, pure, Except.pure]
  | failed => simp [roundActions, selected, performAll, Except.mapError, pure, Except.pure]
  | badDescriptor => simp [roundActions, selected, polled]
  | timeout => simp [roundActions, selected, performAll_roundEvents, Except.mapError]
  | ready sockets outSockets =>
      have accepted := performAll_roundConnections lib view answers.accepts sockets pc
      dsimp only at accepted
      unfold serve
      dsimp only
      generalize (if List.any _ _ then newLocalConnection _ _ else _) = middle at accepted ⊢
      obtain ⟨connected, entries⟩ := accepted
      have alike : (middle.sockets.keys.any fun fd =>
          sockets.contains fd || outSockets.contains fd) =
          (pc.sockets.keys ++ connectedBy (roundConnections answers.accepts sockets pc)).any
            fun fd => sockets.contains fd || outSockets.contains fd := by
        apply Bool.eq_iff_iff.mpr
        simp only [List.any_eq_true, List.mem_append, TreeMap.mem_keys, entries]
      simp only [roundActions, selected, performAll_append, connected, alike]
      split
      · rw [polled]
        exact raised (performAll lib middle [(view, .poll answers.io)]) _
      · exact raised (.ok middle) _

/-- A round that returned has performed its actions. -/
theorem run_performAll (returned : pc.run lib view answers = .ok after) :
    performAll lib pc (roundActions view answers pc) = .ok after := by
  rw [run_eq] at returned
  cases built : pc.fdSets view answers with
  | error fault =>
      rw [built] at returned
      cases returned
  | ok sets =>
      rw [built] at returned
      cases completed : performAll lib pc (roundActions view answers pc) with
      | error fault => simp [completed, Except.bind, Except.mapError] at returned
      | ok finish =>
          simp only [completed, Except.bind, Except.mapError] at returned
          cases returned
          rfl

end Rounds

end PluginComm

end DaZeus
