import DaZeus.PluginComm.Trace

/-!
# What a request can change

Whatever a plugin asks, `handle` leaves the parser state and the write buffer
of its socket alone, and a registration names a network of the bot.
-/

namespace DaZeus

open Library
open Std (TreeMap)

namespace Reply

variable {lib : Libraries}

@[simp]
theorem set_info (reply : Reply) (name : String) (value : Json) :
    (reply.set name value).info = reply.info := rfl

@[simp]
theorem setString_info (reply : Reply) (name : String) (text : ByteString) :
    (reply.setString lib name text).info = reply.info := by
  unfold setString
  split <;> rfl

@[simp]
theorem success_info (reply : Reply) : reply.success.info = reply.info := rfl

@[simp]
theorem throw_info (reply : Reply) (what : String) : (reply.throw what).info = reply.info :=
  rfl

@[simp]
theorem throwText_info (reply : Reply) (what : ByteString) :
    (reply.throwText what).info = reply.info := rfl

@[simp]
theorem callNetwork_info (reply : Reply) (network : NetworkId) (call : NetworkCall) :
    (reply.callNetwork network call).info = reply.info := rfl

@[simp]
theorem wrote_info (reply : Reply) (write : DatabaseWrite) :
    (reply.wrote write).info = reply.info := rfl

@[simp]
theorem setString_overrun (reply : Reply) (name : String) (text : ByteString) :
    (reply.setString lib name text).overrun = reply.overrun := by
  unfold setString
  split <;> rfl

@[simp]
theorem set_overrun (reply : Reply) (name : String) (value : Json) :
    (reply.set name value).overrun = reply.overrun := rfl

@[simp]
theorem success_overrun (reply : Reply) : reply.success.overrun = reply.overrun := rfl

@[simp]
theorem throw_overrun (reply : Reply) (what : String) :
    (reply.throw what).overrun = reply.overrun := rfl

@[simp]
theorem callNetwork_overrun (reply : Reply) (network : NetworkId) (call : NetworkCall) :
    (reply.callNetwork network call).overrun = reply.overrun := rfl

@[simp]
theorem wrote_overrun (reply : Reply) (write : DatabaseWrite) :
    (reply.wrote write).overrun = reply.overrun := rfl

/-- A database call changes the socket only through its continuation. -/
theorem database_info {α : Type} {reply : Reply} {result : Except ByteString α}
    {next : Reply → α → Reply} (kept : ∀ value, (next reply value).info = reply.info) :
    (reply.database result next).info = reply.info := by
  unfold database
  cases result with
  | ok value => exact kept value
  | error what => rfl

theorem database_overrun {α : Type} {reply : Reply} {result : Except ByteString α}
    {next : Reply → α → Reply} (kept : ∀ value, (next reply value).overrun = reply.overrun) :
    (reply.database result next).overrun = reply.overrun := by
  unfold database
  cases result with
  | ok value => exact kept value
  | error what => rfl

end Reply

/-- A registration is for no network or for one that the bot has. -/
def RequirementInfo.Known (view : View) (requirement : RequirementInfo) : Prop :=
  ∀ network, requirement.wantedNetwork = some network →
    ∃ name : ByteString, view.networks[name]? = some network

namespace PluginComm

variable {lib : Libraries}

/-- The ways in which a request changes its socket. -/
inductive InfoChange (view : View) (before : SocketInfo) : SocketInfo → Prop
  | same : InfoChange view before before
  | handshake (name version group : ByteString) (protocol : Nat) :
      InfoChange view before { before with
        pluginName := name, pluginVersion := version
        protocolVersion := protocol, configGroup := group }
  | subscriptions (names : List ByteString) :
      InfoChange view before { before with subscriptions := names }
  | command (name : ByteString) {requirement : RequirementInfo}
      (known : RequirementInfo.Known view requirement) :
      InfoChange view before (before.subscribeToCommand name requirement)

variable {view : View} {reply : Reply} {params scope : List ByteString}

theorem handleHandshake_info :
    InfoChange view reply.info (handleHandshake lib params reply).info := by
  unfold handleHandshake
  dsimp only
  split
  · simpa using .same
  · split
    · simpa using .same
    · split
      · simpa using .same
      · simpa using .handshake _ _ _ _

theorem handleOnNetwork_info {action : ByteString} :
    (handleOnNetwork lib view action params reply).info = reply.info := by
  unfold handleOnNetwork
  dsimp only
  split
  · simp [apply_ite Reply.info]
  · split
    · simp [apply_ite Reply.info]
    · split
      · simp [apply_ite Reply.info]
      · split <;> simp [apply_ite Reply.info]

theorem handleOnChannel_info {action : ByteString} :
    (handleOnChannel lib view action params reply).info = reply.info := by
  unfold handleOnChannel
  dsimp only
  split
  · simp
  · split
    · simp [apply_ite Reply.info]
    · split <;> simp [apply_ite Reply.info]

theorem countChanges_subscriptions
    (change : SocketInfo → ByteString → SocketInfo × Bool)
    (only : ∀ info name, ∃ names, (change info name).1 = { info with subscriptions := names })
    (info : SocketInfo) (list : List ByteString) :
    ∃ names, (countChanges change info list).1 = { info with subscriptions := names } := by
  induction list generalizing info with
  | nil => exact ⟨info.subscriptions, rfl⟩
  | cons name rest inductionHypothesis =>
      obtain ⟨first, changed⟩ := only info name
      obtain ⟨names, others⟩ := inductionHypothesis (change info name).1
      refine ⟨names, ?_⟩
      simp only [countChanges]
      rw [others, changed]

theorem handleSubscribe_info :
    InfoChange view reply.info (handleSubscribe lib params reply).info := by
  obtain ⟨names, changed⟩ := countChanges_subscriptions (SocketInfo.subscribe lib)
    (fun info name => by
      unfold SocketInfo.subscribe
      split
      · exact ⟨info.subscriptions, rfl⟩
      · exact ⟨_, rfl⟩) reply.info params
  simp only [handleSubscribe, Reply.set_info, Reply.success_info, Reply.setString_info, changed]
  exact .subscriptions names

theorem handleUnsubscribe_info :
    InfoChange view reply.info (handleUnsubscribe lib params reply).info := by
  obtain ⟨names, changed⟩ := countChanges_subscriptions (SocketInfo.unsubscribe lib)
    (fun info name => by
      unfold SocketInfo.unsubscribe
      split
      · exact ⟨info.subscriptions, rfl⟩
      · exact ⟨_, rfl⟩) reply.info params
  simp only [handleUnsubscribe, Reply.set_info, Reply.success_info, Reply.setString_info,
    changed]
  exact .subscriptions names

theorem known_anything : RequirementInfo.Known view .anything := by
  intro network wanted
  simp [RequirementInfo.anything] at wanted

theorem known_onNetworkFor {network : NetworkId} {name object : ByteString} {isSender : Bool}
    (found : view.networks[name]? = some network) :
    RequirementInfo.Known view (.onNetworkFor network object isSender) := by
  intro wanted same
  cases isSender <;>
    exact ⟨name, by simpa [RequirementInfo.onNetworkFor, ← same] using found⟩

theorem known_onNetwork {network : NetworkId} {name : ByteString}
    (found : view.networks[name]? = some network) :
    RequirementInfo.Known view (.onNetwork network) := by
  intro wanted same
  exact ⟨name, by simpa [RequirementInfo.onNetwork, ← same] using found⟩

theorem handleCommand_info :
    InfoChange view reply.info (handleCommand lib view params reply).info := by
  unfold handleCommand
  dsimp only
  split
  · simpa using .same
  · next commandName rest =>
      split
      · simpa using .command commandName known_anything
      · split
        · split
          · simpa using .same
          · next net found =>
              split
              · simpa using .command commandName (known_onNetwork found)
              · simpa using .command commandName (known_onNetworkFor found)
        · simpa using .same

theorem handleProperty_info :
    (handleProperty lib view params scope reply).info = reply.info := by
  unfold handleProperty
  dsimp only
  split
  · simp
  · split
    · refine (Reply.database_info fun value => ?_).trans (by simp)
      split <;> simp
    · split
      · split
        · simp
        · exact (Reply.database_info fun _ => by simp).trans (by simp)
      · split
        · exact (Reply.database_info fun _ => by simp).trans (by simp)
        · split
          · exact (Reply.database_info fun _ => by simp).trans (by simp)
          · simp

theorem handleConfig_info : (handleConfig lib view params reply).info = reply.info := by
  unfold handleConfig
  dsimp only
  split
  · simp
  · split
    · split
      · simp
      · split <;> simp
    · split
      · split <;> simp
      · simp

theorem handlePermission_info :
    (handlePermission lib view params scope reply).info = reply.info := by
  unfold handlePermission
  dsimp only
  split
  · simp
  · split
    · simp
    · split
      · split
        · simp
        · exact (Reply.database_info fun _ => by simp).trans (by simp)
      · split
        · exact (Reply.database_info fun _ => by simp).trans (by simp)
        · split
          · split
            · simp
            · exact (Reply.database_info fun _ => by simp).trans (by simp)
          · simp

/-- The actions that `handle` knows. -/
def knownActions : List ByteString :=
  ["networks", "handshake", "reload", "channels", "whois", "join", "part", "nick", "message",
    "notice", "action", "ctcp", "ctcp_rep", "names", "subscribe", "unsubscribe", "command",
    "property", "config", "permission"].map ascii

/-- The dispatch on the action, one case for each group. -/
theorem handleAction_cases {motive : ByteString → Reply → Prop} (reply : Reply)
    (networks : motive (ascii "networks") (handleNetworks lib view reply))
    (handshake : motive (ascii "handshake") (handleHandshake lib params reply))
    (reload : motive (ascii "reload") (handleReload lib reply))
    (onNetwork : ∀ action ∈ [ascii "channels", ascii "whois", ascii "join", ascii "part",
      ascii "nick"], motive action (handleOnNetwork lib view action params reply))
    (onChannel : ∀ action ∈ [ascii "message", ascii "notice", ascii "action", ascii "ctcp",
      ascii "ctcp_rep", ascii "names"],
      motive action (handleOnChannel lib view action params reply))
    (subscribe : motive (ascii "subscribe") (handleSubscribe lib params reply))
    (unsubscribe : motive (ascii "unsubscribe") (handleUnsubscribe lib params reply))
    (command : motive (ascii "command") (handleCommand lib view params reply))
    (property : motive (ascii "property") (handleProperty lib view params scope reply))
    (config : motive (ascii "config") (handleConfig lib view params reply))
    (permission : motive (ascii "permission") (handlePermission lib view params scope reply))
    (unknown : ∀ action, action ∉ knownActions →
      motive action (reply.throw "Did not understand request")) (action : ByteString) :
    motive action (handleAction lib view action params scope reply) := by
  have same {other : ByteString} {result rest : Reply} (holds : motive other result)
      (otherwise : ¬ action = other → motive action rest) :
      motive action (if action = other then result else rest) := by
    by_cases asked : action = other
    · rw [if_pos asked, asked]
      exact holds
    · rw [if_neg asked]
      exact otherwise asked
  have listed {group : List ByteString} {result rest : Reply}
      (holds : action ∈ group → motive action result)
      (otherwise : ¬ action ∈ group → motive action rest) :
      motive action (if action ∈ group then result else rest) := by
    by_cases asked : action ∈ group
    · rw [if_pos asked]
      exact holds asked
    · rw [if_neg asked]
      exact otherwise asked
  unfold handleAction
  apply same networks
  intro networks
  apply same handshake
  intro handshake
  apply same reload
  intro reload
  apply listed (onNetwork action)
  intro onNetwork
  apply listed (onChannel action)
  intro onChannel
  apply same subscribe
  intro subscribe
  apply same unsubscribe
  intro unsubscribe
  apply same command
  intro command
  apply same property
  intro property
  apply same config
  intro config
  apply same permission
  intro permission
  apply unknown
  simp only [List.mem_cons, List.not_mem_nil, or_false, not_or] at onNetwork onChannel
  simp only [knownActions, List.map_cons, List.map_nil, List.mem_cons, List.not_mem_nil,
    networks, handshake, reload, onNetwork, onChannel, subscribe, unsubscribe, command,
    property, config, permission, or_self, not_false_eq_true]

theorem handleAction_info (reply : Reply) (action : ByteString) :
    InfoChange view reply.info (handleAction lib view action params scope reply).info := by
  have unchanged {other : Reply} (same : other.info = reply.info) :
      InfoChange view reply.info other.info := by
    rw [same]
    exact .same
  apply handleAction_cases (motive := fun _ other => InfoChange view reply.info other.info)
  · exact unchanged (by simp [handleNetworks])
  · exact handleHandshake_info
  · exact unchanged (by simp [handleReload])
  · intro action _
    exact unchanged handleOnNetwork_info
  · intro action _
    exact unchanged handleOnChannel_info
  · exact handleSubscribe_info
  · exact handleUnsubscribe_info
  · exact handleCommand_info
  · exact unchanged handleProperty_info
  · exact unchanged handleConfig_info
  · exact unchanged handlePermission_info
  · intro action _
    exact .same

/-- `handle` changes its socket in one of the four ways only. -/
theorem handle_info (lib : Libraries) (view : View) (input : Json) (info : SocketInfo) :
    InfoChange view info (handle lib view input info).info := by
  unfold handle
  split
  · exact .same
  · split
    · exact .same
    · exact handleAction_info { info } _

/-! ## Requests that read past the end of their parameters -/

/-- `permission set` without the third parameter that it looks at. -/
def UncheckedSet (params scope : List ByteString) : Prop :=
  scope ≠ [] ∧ params.length = 2 ∧ params.head? = some (ascii "set")

/-- The request is a `permission set` that lacks its third parameter. -/
def LacksPermission (input : Json) : Prop :=
  ∃ params, readParams input = .ok params ∧ readAction input = .ok (ascii "permission") ∧
    UncheckedSet params (readScope input)

theorem paramAt_zero_eq {text : ByteString} (some : 0 < params.length) :
    paramAt lib params 0 = text ↔ params.head? = .some text := by
  cases params with
  | nil => exact absurd some (Nat.lt_irrefl 0)
  | cons first rest => simp [paramAt]

theorem handlePermission_overrun (fresh : reply.overrun = false) :
    (handlePermission lib view params scope reply).overrun = true ↔
      UncheckedSet params scope := by
  have kept {other : Reply} (same : other.overrun = reply.overrun)
      (checked : ¬UncheckedSet params scope) :
      other.overrun = true ↔ UncheckedSet params scope := by
    rw [same, fresh]
    exact iff_of_false Bool.false_ne_true checked
  unfold handlePermission
  dsimp only
  split
  · next nowhere => exact kept (by simp) fun set => set.1 (List.length_eq_zero_iff.mp nowhere)
  · next somewhere =>
      have nonempty : scope ≠ [] := fun nowhere => somewhere (by rw [nowhere]; rfl)
      split
      · exact kept (by simp) fun set => by have two := set.2.1; omega
      · next enough =>
          have first {text : ByteString} : paramAt lib params 0 = text ↔
              params.head? = some text := paramAt_zero_eq (by omega)
          split
          · next asked =>
              split
              · next few =>
                  exact iff_of_true rfl ⟨nonempty, by omega, first.mp asked⟩
              · next third =>
                  refine kept ((Reply.database_overrun fun _ => by simp).trans (by simp)) ?_
                  intro set
                  exact third (by rw [set.2.1]; decide)
          · next other =>
              have unlike : ¬UncheckedSet params scope := fun set => other (first.mpr set.2.2)
              split
              · exact kept ((Reply.database_overrun fun _ => by simp).trans (by simp)) unlike
              · split
                · split
                  · exact kept (by simp) unlike
                  · exact kept ((Reply.database_overrun fun _ => by simp).trans (by simp)) unlike
                · exact kept (by simp) unlike

theorem handleHandshake_overrun :
    (handleHandshake lib params reply).overrun = reply.overrun := by
  unfold handleHandshake
  dsimp only
  split
  · simp
  · split
    · simp
    · split <;> simp

theorem handleOnNetwork_overrun {action : ByteString} :
    (handleOnNetwork lib view action params reply).overrun = reply.overrun := by
  unfold handleOnNetwork
  dsimp only
  split
  · simp [apply_ite Reply.overrun]
  · split
    · simp [apply_ite Reply.overrun]
    · split
      · simp [apply_ite Reply.overrun]
      · split <;> simp [apply_ite Reply.overrun]

theorem handleOnChannel_overrun {action : ByteString} :
    (handleOnChannel lib view action params reply).overrun = reply.overrun := by
  unfold handleOnChannel
  dsimp only
  split
  · simp
  · split
    · simp [apply_ite Reply.overrun]
    · split <;> simp [apply_ite Reply.overrun]

theorem handleCommand_overrun :
    (handleCommand lib view params reply).overrun = reply.overrun := by
  unfold handleCommand
  dsimp only
  split
  · simp
  · split
    · simp
    · split
      · split
        · simp
        · split <;> simp
      · simp

theorem handleProperty_overrun :
    (handleProperty lib view params scope reply).overrun = reply.overrun := by
  unfold handleProperty
  dsimp only
  split
  · simp
  · split
    · refine (Reply.database_overrun fun value => ?_).trans (by simp)
      split <;> simp
    · split
      · split
        · simp
        · exact (Reply.database_overrun fun _ => by simp).trans (by simp)
      · split
        · exact (Reply.database_overrun fun _ => by simp).trans (by simp)
        · split
          · exact (Reply.database_overrun fun _ => by simp).trans (by simp)
          · simp

theorem handleConfig_overrun :
    (handleConfig lib view params reply).overrun = reply.overrun := by
  unfold handleConfig
  dsimp only
  split
  · simp
  · split
    · split
      · simp
      · split <;> simp
    · split
      · split <;> simp
      · simp

theorem handleAction_overrun (reply : Reply) (fresh : reply.overrun = false)
    (action : ByteString) :
    (handleAction lib view action params scope reply).overrun = true ↔
      action = ascii "permission" ∧ UncheckedSet params scope := by
  have inside {action : ByteString} {other : Reply} (same : other.overrun = reply.overrun)
      (different : action ≠ ascii "permission") :
      other.overrun = true ↔ action = ascii "permission" ∧ UncheckedSet params scope := by
    rw [same, fresh]
    exact iff_of_false Bool.false_ne_true fun set => different set.1
  have onNetwork : ∀ action ∈ [ascii "channels", ascii "whois", ascii "join", ascii "part",
      ascii "nick"], action ≠ ascii "permission" := by decide +kernel
  have onChannel : ∀ action ∈ [ascii "message", ascii "notice", ascii "action", ascii "ctcp",
      ascii "ctcp_rep", ascii "names"], action ≠ ascii "permission" := by decide +kernel
  apply handleAction_cases (motive := fun action other =>
    other.overrun = true ↔ action = ascii "permission" ∧ UncheckedSet params scope)
  · exact inside (by simp [handleNetworks]) (by decide)
  · exact inside handleHandshake_overrun (by decide)
  · exact inside (by simp [handleReload]) (by decide)
  · intro action listed
    exact inside handleOnNetwork_overrun (onNetwork action listed)
  · intro action listed
    exact inside handleOnChannel_overrun (onChannel action listed)
  · exact inside (by simp [handleSubscribe]) (by decide)
  · exact inside (by simp [handleUnsubscribe]) (by decide)
  · exact inside handleCommand_overrun (by decide)
  · exact inside handleProperty_overrun (by decide)
  · exact inside handleConfig_overrun (by decide)
  · rw [handlePermission_overrun fresh]
    exact (and_iff_right rfl).symm
  · intro action unknown
    refine inside rfl ?_
    rintro rfl
    exact unknown (by decide)

/-- `handle` reads past the end on no other request. -/
theorem handle_overrun (lib : Libraries) (view : View) (input : Json) (info : SocketInfo) :
    (handle lib view input info).overrun = true ↔ LacksPermission input := by
  unfold handle LacksPermission
  cases read : readParams input with
  | error what => simp
  | ok params =>
      cases asked : readAction input with
      | error what => simp
      | ok action =>
          dsimp only
          rw [handleAction_overrun { info } rfl action]
          simp

/-- `{"do":"permission","scope":["n"],"params":["set","p"]}`. -/
def setRequest : Json := .object [(ascii "do", .string (ascii "permission")),
  (ascii "scope", .array [.string (ascii "n")]),
  (ascii "params", .array [.string (ascii "set"), .string (ascii "p")])]

/-- The request of a packet, if there is one, is within its parameters. -/
def InRange (lib : Libraries) (packet : ByteString) : Prop :=
  ∀ input, lib.loads (cStr packet) = some input → ¬LacksPermission input

namespace InfoChange

variable {before after : SocketInfo}

theorem readahead (change : InfoChange view before after) :
    after.readahead = before.readahead := by
  cases change <;> rfl

theorem writebuffer (change : InfoChange view before after) :
    after.writebuffer = before.writebuffer := by
  cases change <;> rfl

/-- Every registration after a request was there before or names a known network. -/
theorem commands (change : InfoChange view before after)
    {registration : ByteString × RequirementInfo} (membership : registration ∈ after.commands) :
    registration ∈ before.commands ∨ RequirementInfo.Known view registration.2 := by
  cases change with
  | command name known =>
      rcases List.mem_append.mp membership with old | new
      · exact .inl old
      · rw [List.mem_singleton.mp new]
        exact .inr known
  | _ => exact .inl membership

end InfoChange

end PluginComm

end DaZeus
