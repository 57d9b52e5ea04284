import DaZeus.PluginComm.Init

/-!
# The addresses of the sockets

What `init` leaves of a block, and for how long: a descriptor that listens
after its own round is a listening server after all of them.
-/

namespace DaZeus

open Library

namespace Startup

instance (state : Startup) (answers : SetupAnswers) : Decidable (state.Created answers) :=
  inferInstanceAs (Decidable (_ ∧ _))

/-- The block with the path of a socket that was bound, or the host to connect to. -/
def resolve (state : Startup) (block : SocketConfig × SetupAnswers) : SocketConfig :=
  if block.1.type = ascii "unix" then
    if state.Created block.2 ∧ block.2.bind = true then
      { block.1 with path := block.2.realpath }
    else
      block.1
  else if block.1.type = ascii "tcp" then
    if state.Created block.2 ∧
        block.2.getaddrinfo.any (fun result => result.inet && result.inaddrAny) = true then
      { block.1 with host := ascii "127.0.0.1" }
    else
      block.1
  else
    block.1

/-- The descriptor is a server, and listens. -/
def Serves (state : Startup) (fd : Nat) : Prop :=
  fd ∈ state.pc.tcpServers ++ state.pc.localServers ∧ state.Listening fd

variable {before after : Startup} {socket : SocketConfig} {answers : SetupAnswers}
  {block : SocketConfig × SetupAnswers}

/-! ## The rest of the state in a round -/

@[simp]
theorem closeFd_sockets (fd : Nat) (state : Startup) :
    (state.closeFd fd).sockets = state.sockets := by
  unfold closeFd
  split <;> rfl

@[simp]
theorem listenOrClose_sockets (fd : Nat) (succeeds : Bool) (state : Startup) :
    (state.listenOrClose fd succeeds).sockets = state.sockets := by
  unfold listenOrClose
  split
  · split
    · rfl
    · exact closeFd_sockets fd state
  · exact closeFd_sockets fd state

theorem closeFd_other {fd other : Nat} (different : other ≠ fd) (state : Startup) :
    (state.closeFd fd).descriptors.lookup other = state.descriptors.lookup other := by
  unfold closeFd
  split
  · rw [DescriptorTable.lookup_close, if_neg different]
  · rfl

theorem listenOrClose_other {fd other : Nat} (different : other ≠ fd) (succeeds : Bool)
    (state : Startup) :
    (state.listenOrClose fd succeeds).descriptors.lookup other =
      state.descriptors.lookup other := by
  unfold listenOrClose
  split
  · split
    · rw [DescriptorTable.lookup_put, if_neg different]
    · exact closeFd_other different state
  · exact closeFd_other different state

/-- A round appends its block as it resolved it, and neither takes a server away nor touches
a descriptor that was open before. -/
structure Round (block : SocketConfig × SetupAnswers) (before after : Startup) : Prop where
  sockets : after.sockets = before.sockets ++ [before.resolve block]
  servers : ∀ fd ∈ before.pc.tcpServers ++ before.pc.localServers,
    fd ∈ after.pc.tcpServers ++ after.pc.localServers
  others : ∀ fd, fd ≠ before.descriptors.lowestFree →
    after.descriptors.lookup fd = before.descriptors.lookup fd

theorem initUnix_round (unix : socket.type = ascii "unix")
    (completed : before.initUnix socket answers = .ok after) :
    Round (socket, answers) before after := by
  unfold initUnix at completed
  dsimp only at completed
  split at completed
  · next failed =>
      cases completed
      refine ⟨?_, fun _ inside => inside, fun _ _ => rfl⟩
      have failed : ¬before.Created answers := fun created => by simp [created.1] at failed
      simp [leave, resolve, unix, failed]
  · next created =>
      split at completed
      · next standard =>
          cases completed
          refine ⟨?_, fun _ inside => inside, fun fd other => ?_⟩
          · have failed : ¬before.Created answers := fun created => created.2 standard
            simp [leave, resolve, unix, failed]
          · simp [leave, DescriptorTable.lookup_put, other]
      · next positive =>
          have created : before.Created answers := ⟨by simpa using created, positive⟩
          split at completed
          · cases completed
          · split at completed
            · next failed =>
                cases completed
                refine ⟨?_, fun _ inside => by simpa [leave] using inside, fun fd other => ?_⟩
                · simp [leave, resolve, unix, by simpa using failed]
                · simp [leave, closeFd_other other, DescriptorTable.lookup_put, other]
            · next bound =>
                cases completed
                refine ⟨?_, fun fd inside => ?_, fun fd other => ?_⟩
                · simp [leave, resolve, unix, created, by simpa using bound]
                · simp only [leave, listenOrClose_pc, List.mem_append] at inside ⊢
                  tauto
                · simp [leave, listenOrClose_other other, DescriptorTable.lookup_put, other]

theorem initTcp_round (tcp : socket.type = ascii "tcp") :
    Round (socket, answers) before (before.initTcp socket answers) := by
  have different : ascii "tcp" ≠ ascii "unix" := by decide
  unfold initTcp
  split
  · next unresolved =>
      refine ⟨?_, fun _ inside => inside, fun _ _ => rfl⟩
      simp [leave, resolve, tcp, different, unresolved]
  · next result found =>
      dsimp only
      split
      · next failed =>
          refine ⟨?_, fun _ inside => inside, fun _ _ => rfl⟩
          have failed : ¬before.Created answers := fun created => by simp [created.1] at failed
          simp [leave, resolve, tcp, different, failed]
      · next created =>
          split
          · next standard =>
              refine ⟨?_, fun _ inside => inside, fun fd other => ?_⟩
              · have failed : ¬before.Created answers := fun created => created.2 standard
                simp [leave, resolve, tcp, different, failed]
              · simp [leave, DescriptorTable.lookup_put, other]
          · next positive =>
              have created : before.Created answers := ⟨by simpa using created, positive⟩
              have resolved : before.resolve (socket, answers) = { socket with
                  host := if result.inet && result.inaddrAny then ascii "127.0.0.1"
                    else socket.host } := by
                unfold resolve
                rw [if_neg (by rw [tcp]; exact different), if_pos tcp, found]
                cases any : result.inet && result.inaddrAny <;> simp [created, any]
              refine ⟨?_, fun fd inside => ?_, fun fd other => ?_⟩
              · rw [resolved]
                cases answers.bind <;> simp [leave]
              · cases answers.bind <;>
                  simp only [leave, listenOrClose_pc, closeFd_pc, if_true, if_false,
                    Bool.false_eq_true, List.mem_append] at inside ⊢ <;> tauto
              · cases answers.bind <;>
                  simp [leave, listenOrClose_other other, closeFd_other other,
                    DescriptorTable.lookup_put, other]

theorem initSocket_round (completed : before.initSocket block = .ok after) :
    Round block before after := by
  unfold initSocket at completed
  split at completed
  · next unix => exact initUnix_round unix completed
  · next unix =>
      split at completed
      · next tcp =>
          cases completed
          exact initTcp_round tcp
      · next tcp =>
          cases completed
          exact ⟨by simp [leave, resolve, unix, tcp], fun _ inside => inside, fun _ _ => rfl⟩

/-! ## Servers that listen -/

theorem Succeeds.failsEarly (succeeds : before.Succeeds block) : before.FailsEarly block := by
  unfold Succeeds at succeeds
  unfold FailsEarly
  split at succeeds
  · next unix =>
      rw [if_pos unix]
      exact fun _ _ => succeeds.2.2
  · next unix =>
      rw [if_neg unix]
      split at succeeds
      · next tcp =>
          rw [if_pos tcp]
          exact fun _ _ => succeeds.2.2
      · exact succeeds.elim

/-- A block that succeeds makes its descriptor a server that listens. -/
theorem Succeeds.serves (succeeds : before.Succeeds block)
    (completed : before.initSocket block = .ok after) :
    after.Serves before.descriptors.lowestFree := by
  have added : after.pc ≠ before.pc ∧
      before.descriptors.lowestFree ∈ after.pc.tcpServers ++ after.pc.localServers := by
    unfold Succeeds at succeeds
    unfold initSocket at completed
    split at completed
    · next unix =>
        rw [if_pos unix] at succeeds
        have added := initUnix_bound succeeds.1 succeeds.2.1 completed
        refine ⟨fun same => ?_, by simp [added]⟩
        simp [same] at added
    · next unix =>
        rw [if_neg unix] at succeeds
        split at completed
        · next tcp =>
            rw [if_pos tcp] at succeeds
            cases completed
            have added : (before.initTcp block.1 block.2).pc.tcpServers =
                before.pc.tcpServers ++ [before.descriptors.lowestFree] :=
              initTcp_created succeeds.1 succeeds.2.1
            refine ⟨fun same => ?_, by simp [added]⟩
            simp [same] at added
        · next tcp =>
            rw [if_neg tcp] at succeeds
            exact succeeds.elim
  rcases (initSocket_contributes succeeds.failsEarly completed).servers with
    same | ⟨-, listening, -⟩
  · exact absurd same added.1
  · exact ⟨added.2, listening⟩

/-- The descriptors of later rounds are other ones. -/
theorem Serves.round {fd : Nat} (serves : before.Serves fd) (round : Round block before after) :
    after.Serves fd := by
  refine ⟨round.servers fd serves.1, ?_⟩
  have listening := serves.2
  have other : fd ≠ before.descriptors.lowestFree := by
    rintro rfl
    rw [Listening, DescriptorTable.lookup_lowestFree] at listening
    cases listening
  exact (round.others fd other).trans listening

theorem init_serves {start final : Startup} {done rest : List (SocketConfig × SetupAnswers)}
    (reached : start.init done = .ok before) (succeeds : before.Succeeds block)
    (completed : start.init (done ++ block :: rest) = .ok final) :
    final.Serves before.descriptors.lowestFree := by
  rw [init, List.foldlM_append, show done.foldlM initSocket start = .ok before from reached]
    at completed
  change (block :: rest).foldlM initSocket before = .ok final at completed
  rw [List.foldlM_cons] at completed
  cases first : before.initSocket block with
  | error overflow =>
      rw [first] at completed
      cases completed
  | ok after =>
      rw [first] at completed
      refine foldlM_invariant
        (motive := fun state => state.Serves before.descriptors.lowestFree) ?_
        (succeeds.serves first) completed
      intro middle item next _ serves round
      exact serves.round (initSocket_round round)

/-- The first block stays first. -/
theorem init_head {start final : Startup} {blocks : List (SocketConfig × SetupAnswers)}
    (empty : start.sockets = []) (completed : start.init blocks = .ok final) :
    final.sockets.head? = blocks.head?.map start.resolve := by
  cases blocks with
  | nil =>
      cases completed
      rw [empty]
      rfl
  | cons block rest =>
      rw [init, List.foldlM_cons] at completed
      cases first : start.initSocket block with
      | error overflow =>
          rw [first] at completed
          cases completed
      | ok after =>
          rw [first] at completed
          refine foldlM_invariant (motive := fun state =>
            state.sockets.head? = some (start.resolve block)) ?_ ?_ completed
          · intro before item after _ head round
            rw [(initSocket_round round).sockets, List.head?_append, head]
            rfl
          · rw [(initSocket_round first).sockets, empty]
            rfl

end Startup

end DaZeus
