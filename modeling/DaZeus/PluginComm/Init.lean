import DaZeus.Library.DescriptorTable
import DaZeus.Library.ErrorFold
import DaZeus.PluginComm.Events

/-!
# Listening sockets

`PluginComm::init` over the socket blocks of the configuration, with the
answers of the operating system as input.  `init_iff` says when it leaves only
listening descriptors behind: when nothing fails after a socket was created,
except for the `bind` of a unix socket.
-/

namespace DaZeus

open Library

/-- What the operating system knows about an open descriptor. -/
structure Descriptor where
  bound : Bool := false
  listening : Bool := false
  deriving DecidableEq

/-- The address that `getaddrinfo` found. -/
structure AddrInfo where
  inet : Bool
  inaddrAny : Bool

/-- Which calls succeed for one block, and what the others return. -/
structure SetupAnswers where
  getaddrinfo : Option AddrInfo := none
  socket : Bool
  bind : Bool
  listen : Bool
  realpath : ByteString := []

/-- `strcpy` writes past the end of `sun_path`. -/
structure PathOverflow where
  path : ByteString
  deriving DecidableEq

/-- The component, the descriptors of the process, and the blocks as `init` changed them.
`badCloses` lists what was closed while it was not open. -/
structure Startup where
  pc : PluginComm := {}
  descriptors : DescriptorTable Descriptor
  badCloses : List Nat := []
  sockets : List SocketConfig := []

namespace Startup

def closeFd (fd : Nat) (state : Startup) : Startup :=
  match state.descriptors.lookup fd with
  | some _ => { state with descriptors := state.descriptors.close fd }
  | none => { state with badCloses := state.badCloses ++ [fd] }

/-- `listen(server, 5) < 0` with the `close` that follows; a closed descriptor cannot listen. -/
def listenOrClose (fd : Nat) (succeeds : Bool) (state : Startup) : Startup :=
  match state.descriptors.lookup fd with
  | some descriptor =>
      if succeeds then
        { state with descriptors :=
            state.descriptors.put fd { descriptor with listening := true } }
      else
        state.closeFd fd
  | none => state.closeFd fd

/-- Go on to the next block, with this one as it is now. -/
def leave (socket : SocketConfig) (state : Startup) : Startup :=
  { state with sockets := state.sockets ++ [socket] }

/-- The branch for `unix`. -/
def initUnix (socket : SocketConfig) (answers : SetupAnswers) (state : Startup) :
    Except PathOverflow Startup :=
  if !answers.socket then
    .ok (state.leave socket)
  else
    let server := state.descriptors.lowestFree
    let state := { state with descriptors := state.descriptors.put server {} }
    if server = 0 then
      -- `server <= 0`: descriptor 0 is taken for a failure, and stays open
      .ok (state.leave socket)
    else if (cStr socket.path).length > 107 then
      .error ⟨socket.path⟩
    else if !answers.bind then
      .ok ((state.closeFd server).leave socket)
    else
      let state := { state with
        descriptors := state.descriptors.put server { bound := true } }
      let state := state.listenOrClose server answers.listen
      .ok ({ state with
        pc := { state.pc with localServers := state.pc.localServers ++ [server] } }.leave
          { socket with path := answers.realpath })

/-- The branch for `tcp`. -/
def initTcp (socket : SocketConfig) (answers : SetupAnswers) (state : Startup) :
    Startup :=
  match answers.getaddrinfo with
  | none => state.leave socket
  | some result =>
      if !answers.socket then
        state.leave socket
      else
        let server := state.descriptors.lowestFree
        let state := { state with descriptors := state.descriptors.put server {} }
        if server = 0 then
          state.leave socket
        else
          let state :=
            if answers.bind then
              { state with descriptors := state.descriptors.put server { bound := true } }
            else
              state.closeFd server
          -- no `continue` after a failed `bind` here
          let state := state.listenOrClose server answers.listen
          let host := if result.inet && result.inaddrAny then ascii "127.0.0.1" else socket.host
          { state with
            pc := { state.pc with tcpServers := state.pc.tcpServers ++ [server] } }.leave
              { socket with host }

/-- One iteration of the loop over the blocks. -/
def initSocket (state : Startup) (block : SocketConfig × SetupAnswers) :
    Except PathOverflow Startup :=
  if block.1.type = ascii "unix" then
    state.initUnix block.1 block.2
  else if block.1.type = ascii "tcp" then
    .ok (state.initTcp block.1 block.2)
  else
    .ok (state.leave block.1)

/-- `PluginComm::init`. -/
def init (state : Startup) (blocks : List (SocketConfig × SetupAnswers)) :
    Except PathOverflow Startup :=
  blocks.foldlM initSocket state

/-! ## What a block leaves behind -/

def Listening (state : Startup) (fd : Nat) : Prop :=
  state.descriptors.lookup fd = some { bound := true, listening := true }

/-- Every server is a listening descriptor, and nothing was closed that was not open. -/
structure Sound (state : Startup) : Prop where
  servers : ∀ fd ∈ state.pc.tcpServers ++ state.pc.localServers, state.Listening fd
  closes : state.badCloses = []

/-- The call of `socket` is taken for a success. -/
def Created (state : Startup) (answers : SetupAnswers) : Prop :=
  answers.socket = true ∧ state.descriptors.lowestFree ≠ 0

/-- Every call that sets the block up succeeds. -/
def Succeeds (state : Startup) (block : SocketConfig × SetupAnswers) : Prop :=
  if block.1.type = ascii "unix" then
    state.Created block.2 ∧ block.2.bind = true ∧ block.2.listen = true
  else if block.1.type = ascii "tcp" then
    block.2.getaddrinfo.isSome ∧ state.Created block.2 ∧ block.2.bind = true ∧
      block.2.listen = true
  else
    False

/-- What fails, fails early enough: for `unix` up to `bind`, for `tcp` up to `socket`. -/
def FailsEarly (state : Startup) (block : SocketConfig × SetupAnswers) : Prop :=
  if block.1.type = ascii "unix" then
    state.Created block.2 → block.2.bind = true → block.2.listen = true
  else if block.1.type = ascii "tcp" then
    block.2.getaddrinfo.isSome → state.Created block.2 →
      block.2.bind = true ∧ block.2.listen = true
  else
    True

/-- What one block may do: touch no descriptor but the one it got, close nothing twice,
and contribute that descriptor only if it succeeds, as a listening one. -/
structure Contributes (succeeds : Prop) (before after : Startup) : Prop where
  others : ∀ fd, fd ≠ before.descriptors.lowestFree →
    after.descriptors.lookup fd = before.descriptors.lookup fd
  closes : after.badCloses = before.badCloses
  servers : after.pc = before.pc ∨ succeeds ∧ after.Listening before.descriptors.lowestFree ∧
    ∀ fd ∈ after.pc.tcpServers ++ after.pc.localServers, fd = before.descriptors.lowestFree ∨
      fd ∈ before.pc.tcpServers ++ before.pc.localServers

variable {before after : Startup} {socket : SocketConfig} {answers : SetupAnswers}

theorem closeFd_put (fd : Nat) (descriptor : Descriptor) (state : Startup) :
    closeFd fd { state with descriptors := state.descriptors.put fd descriptor } =
      { state with descriptors := (state.descriptors.put fd descriptor).close fd } := by
  simp [closeFd, DescriptorTable.lookup_put]

theorem listenOrClose_put (fd : Nat) (descriptor : Descriptor) (succeeds : Bool)
    (state : Startup) :
    listenOrClose fd succeeds
        { state with descriptors := state.descriptors.put fd descriptor } =
      { state with descriptors :=
          if succeeds then
            (state.descriptors.put fd descriptor).put fd { descriptor with listening := true }
          else
            (state.descriptors.put fd descriptor).close fd } := by
  unfold listenOrClose
  simp only [DescriptorTable.lookup_put, if_true]
  cases succeeds with
  | true => rfl
  | false => exact closeFd_put fd descriptor state

theorem initUnix_contributes
    (early : before.Created answers → answers.bind = true → answers.listen = true)
    (completed : before.initUnix socket answers = .ok after) :
    Contributes (before.Created answers ∧ answers.bind = true ∧ answers.listen = true) before
      after := by
  unfold initUnix at completed
  dsimp only at completed
  split at completed
  · cases completed
    exact ⟨fun _ _ => rfl, rfl, .inl rfl⟩
  · next created =>
      split at completed
      · cases completed
        refine ⟨fun fd other => ?_, rfl, .inl rfl⟩
        simp [leave, DescriptorTable.lookup_put, other]
      · next positive =>
          split at completed
          · cases completed
          · split at completed
            · cases completed
              rw [closeFd_put]
              refine ⟨fun fd other => ?_, rfl, .inl rfl⟩
              simp [leave, DescriptorTable.lookup_close, DescriptorTable.lookup_put, other]
            · next bound =>
                have created : before.Created answers := ⟨by simpa using created, positive⟩
                have bound : answers.bind = true := by simpa using bound
                have listens := early created bound
                have succeeds : before.Created answers ∧ answers.bind = true ∧
                    answers.listen = true := ⟨created, bound, listens⟩
                generalize (before.Created answers ∧ _) = Succeeds at succeeds ⊢
                cases completed
                rw [listenOrClose_put before.descriptors.lowestFree { bound := true } _
                  { before with descriptors :=
                      before.descriptors.put before.descriptors.lowestFree {} }, listens]
                refine ⟨fun fd other => ?_, rfl,
                  .inr ⟨succeeds, ?_, fun fd membership => ?_⟩⟩
                · simp [leave, DescriptorTable.lookup_put, other]
                · simp [Listening, leave, DescriptorTable.lookup_put]
                · simp only [leave, List.mem_append, List.mem_singleton] at membership ⊢
                  tauto

theorem initTcp_contributes
    (early : answers.getaddrinfo.isSome → before.Created answers →
      answers.bind = true ∧ answers.listen = true) :
    Contributes (answers.getaddrinfo.isSome ∧ before.Created answers ∧
      answers.bind = true ∧ answers.listen = true) before (before.initTcp socket answers) := by
  unfold initTcp
  split
  · exact ⟨fun _ _ => rfl, rfl, .inl rfl⟩
  · next result found =>
      dsimp only
      split
      · exact ⟨fun _ _ => rfl, rfl, .inl rfl⟩
      · next created =>
          split
          · refine ⟨fun fd other => ?_, rfl, .inl rfl⟩
            simp [leave, DescriptorTable.lookup_put, other]
          · next positive =>
              have resolved : answers.getaddrinfo.isSome := by rw [found]; rfl
              have created : before.Created answers := ⟨by simpa using created, positive⟩
              obtain ⟨binds, listens⟩ := early resolved created
              have succeeds : answers.getaddrinfo.isSome ∧ before.Created answers ∧
                  answers.bind = true ∧ answers.listen = true :=
                ⟨resolved, created, binds, listens⟩
              generalize (answers.getaddrinfo.isSome = true ∧ _) = Succeeds at succeeds ⊢
              rw [binds, listens, if_pos rfl,
                listenOrClose_put before.descriptors.lowestFree { bound := true } _
                  { before with descriptors :=
                      before.descriptors.put before.descriptors.lowestFree {} }]
              refine ⟨fun fd other => ?_, rfl,
                .inr ⟨succeeds, ?_, fun fd membership => ?_⟩⟩
              · simp [leave, DescriptorTable.lookup_put, other]
              · simp [Listening, leave, DescriptorTable.lookup_put]
              · simp only [leave, List.mem_append, List.mem_singleton] at membership ⊢
                tauto

variable {block : SocketConfig × SetupAnswers}

theorem initSocket_contributes (early : before.FailsEarly block)
    (completed : before.initSocket block = .ok after) :
    Contributes (before.Succeeds block) before after := by
  unfold initSocket at completed
  unfold FailsEarly at early
  unfold Succeeds
  split at completed
  · next unix =>
      rw [if_pos unix] at early ⊢
      exact initUnix_contributes early completed
  · next unix =>
      rw [if_neg unix] at early ⊢
      split at completed
      · next tcp =>
          rw [if_pos tcp] at early ⊢
          cases completed
          exact initTcp_contributes early
      · cases completed
        exact ⟨fun _ _ => rfl, rfl, .inl rfl⟩

@[simp]
theorem closeFd_pc (fd : Nat) (state : Startup) : (state.closeFd fd).pc = state.pc := by
  unfold closeFd
  split <;> rfl

@[simp]
theorem listenOrClose_pc (fd : Nat) (succeeds : Bool) (state : Startup) :
    (state.listenOrClose fd succeeds).pc = state.pc := by
  unfold listenOrClose
  split
  · split
    · rfl
    · exact closeFd_pc fd state
  · exact closeFd_pc fd state

theorem initUnix_bound (created : before.Created answers) (bound : answers.bind = true)
    (completed : before.initUnix socket answers = .ok after) :
    after.pc.localServers = before.pc.localServers ++ [before.descriptors.lowestFree] := by
  unfold initUnix at completed
  simp only [created.1, created.2, bound, Bool.not_true, Bool.false_eq_true, if_false]
    at completed
  split at completed
  · cases completed
  · cases completed
    simp [leave]

theorem initTcp_created (found : answers.getaddrinfo.isSome) (created : before.Created answers) :
    (before.initTcp socket answers).pc.tcpServers =
      before.pc.tcpServers ++ [before.descriptors.lowestFree] := by
  obtain ⟨result, found⟩ := Option.isSome_iff_exists.mp found
  unfold initTcp
  simp only [found, created.1, created.2, Bool.not_true, Bool.false_eq_true, if_false]
  cases answers.bind <;> simp [leave]

/-- A block that fails late contributes a server all the same. -/
theorem failsEarly_of_unchanged (completed : before.initSocket block = .ok after)
    (unchanged : ¬before.Succeeds block → after.pc = before.pc) : before.FailsEarly block := by
  unfold initSocket at completed
  unfold Succeeds at unchanged
  unfold FailsEarly
  split at completed
  · next unix =>
      rw [if_pos unix] at unchanged ⊢
      intro created bound
      by_contra late
      have added := initUnix_bound created bound completed
      rw [unchanged fun succeeds => late succeeds.2.2] at added
      simp at added
  · next unix =>
      rw [if_neg unix] at unchanged ⊢
      split at completed
      · next tcp =>
          rw [if_pos tcp] at unchanged ⊢
          intro found created
          by_contra late
          cases completed
          have added : (before.initTcp block.1 block.2).pc.tcpServers =
              before.pc.tcpServers ++ [before.descriptors.lowestFree] :=
            initTcp_created found created
          rw [unchanged fun succeeds => late succeeds.2.2] at added
          simp at added
      · next tcp =>
          rw [if_neg tcp]
          trivial

/-- A sound state stays sound when a block contributes as it should. -/
theorem Sound.contributes {succeeds : Prop} (sound : before.Sound)
    (contributes : Contributes succeeds before after) : after.Sound := by
  have kept {fd : Nat} (membership : fd ∈ before.pc.tcpServers ++ before.pc.localServers) :
      after.Listening fd := by
    have listening := sound.servers fd membership
    have other : fd ≠ before.descriptors.lowestFree := by
      rintro rfl
      rw [Listening, DescriptorTable.lookup_lowestFree] at listening
      cases listening
    exact (contributes.others fd other).trans listening
  refine ⟨fun fd membership => ?_, contributes.closes.trans sound.closes⟩
  rcases contributes.servers with same | ⟨-, listening, servers⟩
  · rw [same] at membership
    exact kept membership
  · rcases servers fd membership with rfl | earlier
    · exact listening
    · exact kept earlier

/-- When `init` returns: all servers listen, nothing was closed twice, and no block that
failed contributed anything, if and only if what failed, failed early. -/
theorem init_iff {descriptors : DescriptorTable Descriptor}
    {blocks : List (SocketConfig × SetupAnswers)} {final : Startup}
    (completed : init { descriptors } blocks = .ok final) :
    (final.Sound ∧ ∀ done block rest before after, blocks = done ++ block :: rest →
      init { descriptors } done = .ok before → before.initSocket block = .ok after →
      ¬before.Succeeds block → after.pc = before.pc) ↔
    ∀ done block rest before, blocks = done ++ block :: rest →
      init { descriptors } done = .ok before → before.FailsEarly block := by
  constructor
  · rintro ⟨-, unchanged⟩ done block rest before split reached
    have whole := completed
    rw [split] at whole
    obtain ⟨middle, after, earlier, round, -⟩ := completed_round whole
    cases reached.symm.trans earlier
    exact failsEarly_of_unchanged round
      (unchanged done block rest before after split reached round)
  · intro early
    constructor
    · have start : Sound { descriptors } := ⟨by simp, rfl⟩
      refine (foldlM_remaining (motive := fun remaining state => Sound state ∧
        ∀ done block rest before, remaining = done ++ block :: rest →
          init state done = .ok before → before.FailsEarly block) ?_ ⟨start, early⟩ completed).1
      rintro block rest before after ⟨sound, early⟩ round
      refine ⟨sound.contributes
        (initSocket_contributes (early [] block rest before rfl rfl) round), ?_⟩
      intro done other later middle split reached
      apply early (block :: done) other later middle (by rw [split]; rfl)
      rw [init, List.foldlM_cons, round]
      exact reached
    · intro done block rest before after split reached round failed
      rcases (initSocket_contributes (early done block rest before split reached) round).servers
        with same | ⟨succeeds, -⟩
      · exact same
      · exact absurd succeeds failed

/-- A process with its three standard streams. -/
def standardStreams : DescriptorTable Descriptor := ⟨[some {}, some {}, some {}]⟩

def tcpSocket : SocketConfig := { type := ascii "tcp", host := ascii "localhost", port := 1234 }

def unixSocket : SocketConfig := { type := ascii "unix", path := ascii "/tmp/dazeus.sock" }

/-- Where every `bind` and `listen` succeeds, whatever fails fails early. -/
theorem failsEarly_of_answers (bound : block.2.bind = true) (listens : block.2.listen = true) :
    before.FailsEarly block := by
  unfold FailsEarly
  split
  · exact fun _ _ => listens
  · split
    · exact fun _ _ => ⟨bound, listens⟩
    · trivial

/-- A name that does not resolve, and one socket of each kind that can be set up. -/
def mixedSockets : List (SocketConfig × SetupAnswers) :=
  [(tcpSocket, { socket := true, bind := true, listen := true }),
    (unixSocket, { socket := true, bind := true, listen := true }),
    (tcpSocket, { getaddrinfo := some ⟨true, true⟩, socket := true, bind := true,
                  listen := true })]

theorem mixedSockets_sound :
    ∃ final, init { descriptors := standardStreams } mixedSockets = .ok final ∧
      final.Sound := by
  cases completed : init { descriptors := standardStreams } mixedSockets with
  | error overflow => cases completed
  | ok final =>
      refine ⟨final, rfl, ((init_iff completed).mpr ?_).1⟩
      intro done block rest before split _
      have membership : block ∈ mixedSockets := by simp [split]
      have answers : block.2.bind = true ∧ block.2.listen = true := by
        simp only [mixedSockets, List.mem_cons, List.not_mem_nil, or_false] at membership
        rcases membership with rfl | rfl | rfl <;> exact ⟨rfl, rfl⟩
      exact failsEarly_of_answers answers.1 answers.2

/-- The port is taken: the entry is for a descriptor that was closed twice. -/
theorem taken_port_unsound :
    ∃ final, init { descriptors := standardStreams }
        [(tcpSocket, { getaddrinfo := some ⟨true, true⟩, socket := true, bind := false,
                       listen := true })] = .ok final ∧
      final.pc.tcpServers = [3] ∧ final.descriptors.lookup 3 = none ∧ final.badCloses = [3] ∧
      ¬final.Sound :=
  ⟨_, rfl, by decide, by decide, by decide, fun sound => by cases sound.closes⟩

end Startup

end DaZeus
