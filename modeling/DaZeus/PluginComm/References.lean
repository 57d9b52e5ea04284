import DaZeus.PluginComm.EachSocket
import DaZeus.PluginComm.Init

/-!
# What the plugin interface refers to

The component holds pointers to objects of others: the database, and the
networks of queued commands and of registrations.  No action changes the
database pointer, and a new reference is to the network that raised an event
or to one that a request looked up.
-/

namespace DaZeus

open Library
open Std (TreeMap)

namespace PluginComm

/-- The component holds a pointer to this network. -/
inductive References (pc : PluginComm) : NetworkId → Prop
  | queued {cmd : Command} (membership : cmd ∈ pc.commandQueue) : References pc cmd.network
  | registered {fd : Nat} {info : SocketInfo} {registration : ByteString × RequirementInfo}
      {network : NetworkId} (found : pc.sockets[fd]? = some info)
      (membership : registration ∈ info.commands)
      (wanted : registration.2.wantedNetwork = some network) : References pc network

/-- The networks that the component refers to, one for every pointer. -/
def referenced (pc : PluginComm) : List NetworkId :=
  pc.commandQueue.map (·.network) ++
    pc.sockets.toList.flatMap fun entry => entry.2.commands.filterMap (·.2.wantedNetwork)

theorem references_iff (pc : PluginComm) (network : NetworkId) :
    pc.References network ↔ network ∈ pc.referenced := by
  simp only [referenced, List.mem_append, List.mem_map, List.mem_flatMap, List.mem_filterMap]
  constructor
  · rintro (membership | ⟨found, membership, wanted⟩)
    · exact .inl ⟨_, membership, rfl⟩
    · exact .inr ⟨(_, _), TreeMap.mem_toList_iff_getElem?_eq_some.mpr found, _, membership, wanted⟩
  · rintro (⟨cmd, membership, rfl⟩ | ⟨entry, inside, registration, membership, wanted⟩)
    · exact .queued membership
    · exact .registered (TreeMap.mem_toList_iff_getElem?_eq_some.mp inside) membership wanted

/-- All registrations of all sockets meet a condition. -/
def Registrations (allowed : ByteString × RequirementInfo → Prop) (pc : PluginComm) : Prop :=
  ∀ (fd : Nat) (info : SocketInfo), pc.sockets[fd]? = some info →
    ∀ registration ∈ info.commands, allowed registration

variable {lib : Libraries} {view : View} {io : Nat → SocketInput} {pc after : PluginComm}
  {allowed : ByteString × RequirementInfo → Prop}

/-- The component already refers to the network of the registration, if it has one. -/
def Covers (pc : PluginComm) (registration : ByteString × RequirementInfo) : Prop :=
  ∀ network, registration.2.wantedNetwork = some network → pc.References network

theorem registrations_covers (pc : PluginComm) : Registrations pc.Covers pc :=
  fun _ _ found _ membership _ wanted => .registered found membership wanted

theorem registrations_ignoreBuffers :
    IgnoresBuffers fun info => ∀ registration ∈ info.commands, allowed registration :=
  fun _ _ _ _ holds => holds

/-! ## Events -/

theorem registrations_eventClosed : EventClosed lib (Registrations allowed) :=
  eachSocket_eventClosed registrations_ignoreBuffers

/-- What only the bot sets: the pointer to the database, and the servers. -/
def wiring (pc : PluginComm) : Option DatabaseId × List Nat × List Nat :=
  (pc.database, pc.tcpServers, pc.localServers)

theorem wiring_eventClosed (wiring : Option DatabaseId × List Nat × List Nat) :
    EventClosed lib fun pc => pc.wiring = wiring where
  dispatchTo _ _ same _ := same
  record _ same := same
  delivered _ _ same := same
  queue _ same := same

/-- What stays in the queue was in it, but for the flag. -/
theorem flushLoop_network {memory : NetworkId → NetworkState} {nick : ByteString}
    {identified : Bool} {queue : List Command} {cmd : Command}
    (kept : cmd ∈ (flushLoop lib memory nick identified queue pc).1) :
    ∃ old ∈ queue, old.network = cmd.network := by
  induction queue generalizing pc with
  | nil => cases kept
  | cons head rest inductionHypothesis =>
      unfold flushLoop at kept
      split at kept
      · rcases List.mem_cons.mp kept with rfl | later
        · exact ⟨head, List.mem_cons_self, rfl⟩
        · obtain ⟨old, membership, same⟩ := inductionHypothesis later
          exact ⟨old, List.mem_cons_of_mem _ membership, same⟩
      · obtain ⟨old, membership, same⟩ := inductionHypothesis kept
        exact ⟨old, List.mem_cons_of_mem _ membership, same⟩

section Queue

variable {memory : NetworkId → NetworkState} {global : GlobalConfig} {network : NetworkId}
  {event origin : ByteString} {params : List ByteString} {cmd : Command}

theorem messageReceived_network {message receiver : ByteString}
    (kept : cmd ∈ (pc.messageReceived lib memory global origin message receiver
      network).commandQueue) :
    cmd.network = network ∨ ∃ old ∈ pc.commandQueue, old.network = cmd.network := by
  unfold messageReceived at kept
  rw [dispatch_commandQueue] at kept
  split at kept
  · next new asked =>
      obtain ⟨old, membership, same⟩ := flushLoop_network kept
      rcases List.mem_append.mp membership with earlier | now
      · exact .inr ⟨old, earlier, same⟩
      · rw [List.mem_singleton.mp now] at same
        obtain ⟨command, args, -, rfl⟩ := commandOf_eq_some asked
        exact .inl same.symm
  · exact .inr ⟨cmd, kept, rfl⟩

/-- Only a message brings a command into the queue, and it is for the network it is from. -/
theorem ircEvent_network
    (kept : cmd ∈ (pc.ircEvent lib memory global network event origin params).commandQueue) :
    event = ascii "PRIVMSG" ∧ cmd.network = network ∨
      ∃ old ∈ pc.commandQueue, old.network = cmd.network := by
  cases ircEvent_outcome lib memory global pc network event origin params with
  | ignored same =>
      rw [← same] at kept
      exact .inr ⟨cmd, kept, rfl⟩
  | sent name args same =>
      rw [← same, dispatch_commandQueue] at kept
      exact .inr ⟨cmd, kept, rfl⟩
  | message kind same =>
      rw [← same] at kept
      exact (messageReceived_network kept).imp (⟨kind, ·⟩) id
  | whois kind enough args same =>
      rw [← same] at kept
      obtain ⟨old, membership, network⟩ := flushLoop_network kept
      rw [dispatch_commandQueue] at membership
      exact .inr ⟨old, membership, network⟩
  | unknown args same =>
      rw [← same, dispatch_commandQueue] at kept
      exact .inr ⟨cmd, kept, rfl⟩

theorem ircEvent_references {target : NetworkId}
    (refers : (pc.ircEvent lib memory global network event origin params).References target) :
    pc.References target ∨ event = ascii "PRIVMSG" ∧ target = network := by
  cases refers with
  | queued kept =>
      rcases ircEvent_network kept with message | ⟨old, membership, same⟩
      · exact .inr message
      · exact .inl (same ▸ .queued membership)
  | registered found membership wanted =>
      have covered : Registrations pc.Covers
          (pc.ircEvent lib memory global network event origin params) :=
        registrations_eventClosed.ircEvent (registrations_covers pc)
      exact .inl (covered _ _ found _ membership _ wanted)

end Queue

/-! ## Requests -/

theorem wiring_pollClosed (fd : Nat) (wiring : Option DatabaseId × List Nat × List Nat) :
    PollClosed lib fd fun pc => pc.wiring = wiring where
  dispatchTo _ _ same _ := same
  record _ same := same

theorem commandQueue_pollClosed (fd : Nat) (queue : List Command) :
    PollClosed lib fd fun pc => pc.commandQueue = queue where
  dispatchTo _ _ same _ := same
  record _ same := same

theorem registrations_poll
    (known : ∀ registration : ByteString × RequirementInfo,
      RequirementInfo.Known view registration.2 → allowed registration)
    (completed : pc.poll lib view io = .ok after) (holds : Registrations allowed pc) :
    Registrations allowed after := by
  apply EachSocket.poll registrations_ignoreBuffers _ completed holds
  intro info input registered registration inside
  obtain old | new := (handle_info lib view input info).commands inside
  · exact registered registration old
  · exact known registration new

theorem commandQueue_poll (completed : pc.poll lib view io = .ok after) :
    after.commandQueue = pc.commandQueue :=
  poll_invariant (motive := fun after => after.commandQueue = pc.commandQueue)
    (fun {_ _ fd} polled same =>
      (commandQueue_pollClosed fd pc.commandQueue).pollSocket (fun _ same => same) polled same)
    (fun _ same => same) completed rfl

/-! ## Actions -/

theorem ircEvent_wiring (lib : Libraries) (memory : NetworkId → NetworkState)
    (global : GlobalConfig) (network : NetworkId) (event origin : ByteString)
    (params : List ByteString) (pc : PluginComm) :
    (pc.ircEvent lib memory global network event origin params).wiring = pc.wiring :=
  (wiring_eventClosed pc.wiring).ircEvent rfl

theorem perform_wiring {action : Action} (performed : pc.perform lib view action = .ok after) :
    after.wiring = pc.wiring := by
  cases action with
  | ircEvent network event origin params =>
      cases performed
      exact ircEvent_wiring lib view.memory view.config.globalConfig network event origin params pc
  | poll io =>
      exact poll_invariant (motive := fun after => after.wiring = pc.wiring)
        (fun {_ _ fd} polled same =>
          (wiring_pollClosed fd pc.wiring).pollSocket (fun _ same => same) polled same)
        (fun _ same => same) performed rfl
  | connect fd type =>
      cases performed
      rfl

/-- No action changes the pointer to the database. -/
theorem perform_database {action : Action} (performed : pc.perform lib view action = .ok after) :
    after.database = pc.database :=
  congrArg Prod.fst (perform_wiring performed)

/-- A new reference is to the network that raised the event, or to one of the bot's. -/
theorem perform_references {action : Action} {target : NetworkId}
    (performed : pc.perform lib view action = .ok after) (refers : after.References target) :
    pc.References target ∨ (∃ name : ByteString, view.networks[name]? = some target) ∨
      ∃ event origin params, action = .ircEvent target event origin params := by
  cases action with
  | ircEvent network event origin params =>
      cases performed
      rcases ircEvent_references refers with old | ⟨-, rfl⟩
      · exact .inl old
      · exact .inr (.inr ⟨event, origin, params, rfl⟩)
  | poll io =>
      cases refers with
      | queued membership =>
          rw [commandQueue_poll performed] at membership
          exact .inl (.queued membership)
      | registered found membership wanted =>
          have holds : Registrations (fun registration => pc.Covers registration ∨
              RequirementInfo.Known view registration.2) after := by
            refine registrations_poll (fun _ => .inr) performed ?_
            intro fd info found registration membership
            exact .inl (registrations_covers pc fd info found registration membership)
          rcases holds _ _ found _ membership with covered | known
          · exact .inl (covered _ wanted)
          · exact .inr (.inl (known _ wanted))
  | connect fd type =>
      cases performed
      cases refers with
      | queued membership => exact .inl (.queued membership)
      | registered found membership wanted =>
          simp only [connect, record_sockets, TreeMap.getElem?_insert, compare_eq_iff_eq] at found
          split at found
          · cases found
            cases membership
          · exact .inl (.registered found membership wanted)

end PluginComm

namespace Startup

variable {start final : Startup}

/-- Nothing but the servers differs. -/
def SameButServers (before after : PluginComm) : Prop :=
  after = { before with
    tcpServers := after.tcpServers, localServers := after.localServers }

theorem SameButServers.trans {first second third : PluginComm}
    (earlier : SameButServers first second) (later : SameButServers second third) :
    SameButServers first third := by
  unfold SameButServers at *
  rw [later, earlier]

theorem initUnix_pc {socket : SocketConfig} {answers : SetupAnswers} {before after : Startup}
    (completed : before.initUnix socket answers = .ok after) :
    SameButServers before.pc after.pc := by
  unfold initUnix at completed
  dsimp only at completed
  split at completed
  · cases completed
    rfl
  · split at completed
    · cases completed
      rfl
    · split at completed
      · cases completed
      · split at completed <;> cases completed <;> simp [SameButServers, leave]

theorem initTcp_pc (socket : SocketConfig) (answers : SetupAnswers) (before : Startup) :
    SameButServers before.pc (before.initTcp socket answers).pc := by
  unfold initTcp
  split
  · rfl
  · dsimp only
    split
    · rfl
    · split
      · rfl
      · cases answers.bind <;> simp [SameButServers, leave]

theorem initSocket_pc {block : SocketConfig × SetupAnswers} {before after : Startup}
    (completed : before.initSocket block = .ok after) : SameButServers before.pc after.pc := by
  unfold initSocket at completed
  split at completed
  · exact initUnix_pc completed
  · split at completed
    · cases completed
      exact initTcp_pc block.1 block.2 before
    · cases completed
      rfl

theorem init_pc {blocks : List (SocketConfig × SetupAnswers)}
    (completed : start.init blocks = .ok final) : SameButServers start.pc final.pc := by
  have unchanged : SameButServers start.pc start.pc := rfl
  exact foldlM_invariant (motive := fun state => SameButServers start.pc state.pc)
    (fun _ same step => same.trans (initSocket_pc step)) unchanged completed

end Startup

end DaZeus
