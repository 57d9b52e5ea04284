import DaZeus.Bot.Run

/-!
# Networks that are gone

Commands and registrations hold pointers to networks, and `loadConfig` deletes
networks without telling the plugin interface.  `references_live` says that
this is the only way for a pointer to dangle: in a run in which no reload drops
a network that is referred to, every reference is to a network of the bot.
-/

namespace DaZeus

open Library
open Std (TreeMap)

namespace Bot

variable {lib : Libraries} {built : Backend → Bool} {answers : LoadAnswers}
  {bot before after : Bot} {network : NetworkId}

/-- The bot has this network. -/
def Present (bot : Bot) (network : NetworkId) : Prop :=
  ∃ name : ByteString, bot.networks[name]? = some network

/-- Every reference is to a network that the bot has. -/
def Live (bot : Bot) : Prop := ∀ network, bot.References network → bot.Present network

/-- A reload that gets as far as the networks has a block for each that is referred to. -/
def KeepsReferenced (built : Backend → Bool) (bot : Bot) : Event → Prop
  | .reload answers => ∀ config middle, answers.read = .ok config →
      (bot.configured config).prepare built answers = (.ok true, middle) →
      ∀ network, bot.References network →
        ∃ block ∈ config.networks, bot.networks[block.name]? = some network
  | _ => True

/-! ## The network diff -/

theorem loadNetwork_keeps {name : ByteString} (block : NetworkConfig)
    (found : before.networks[name]? = some network) :
    (before.loadNetwork lib answers block).networks[name]? = some network ∧
      (before.loadNetwork lib answers block).config = before.config := by
  unfold loadNetwork
  split
  · next absent =>
      have inserted : (before.networks.insert block.name before.nextNetwork)[name]? =
          some network := by
        rw [TreeMap.getElem?_insert, if_neg, found]
        intro same
        rw [Std.LawfulEqOrd.eq_of_compare same, found] at absent
        cases absent
      dsimp only
      split <;> exact ⟨inserted, rfl⟩
  · exact ⟨found, rfl⟩

theorem dropNetwork_keeps {block : NetworkConfig} (entry : ByteString × NetworkId)
    (configured : block ∈ before.config.networks)
    (found : before.networks[block.name]? = some network) :
    (before.dropNetwork lib answers entry).networks[block.name]? = some network ∧
      (before.dropNetwork lib answers entry).config = before.config := by
  unfold dropNetwork
  split
  · exact ⟨found, rfl⟩
  · next gone =>
      have kept : (before.networks.erase entry.1)[block.name]? = some network := by
        rw [TreeMap.getElem?_erase, if_neg, found]
        intro same
        refine gone (List.any_eq_true.mpr ⟨block, configured, ?_⟩)
        rw [Std.LawfulEqOrd.eq_of_compare same]
        exact beq_self_eq_true block.name
      exact ⟨kept, rfl⟩

/-- A network with a block in the configuration survives the diff. -/
theorem loadNetworks_keeps {block : NetworkConfig} (configured : block ∈ before.config.networks)
    (found : before.networks[block.name]? = some network) :
    (before.loadNetworks lib answers).networks[block.name]? = some network := by
  have loaded : (before.config.networks.foldl (loadNetwork lib answers) before).networks[
        block.name]? = some network ∧
      (before.config.networks.foldl (loadNetwork lib answers) before).config = before.config := by
    refine List.foldlRecOn (motive := fun bot : Bot =>
      bot.networks[block.name]? = some network ∧ bot.config = before.config) _ _
      ⟨found, rfl⟩ ?_
    rintro bot ⟨found, config⟩ other _
    obtain ⟨kept, same⟩ := loadNetwork_keeps other found
    exact ⟨kept, same.trans config⟩
  unfold loadNetworks
  refine (List.foldlRecOn (motive := fun bot : Bot =>
    bot.networks[block.name]? = some network ∧ bot.config = before.config) _ _ loaded ?_).1
  rintro bot ⟨found, config⟩ entry _
  obtain ⟨kept, same⟩ := dropNetwork_keeps entry (config ▸ configured) found
  exact ⟨kept, same.trans config⟩

/-! ## Runs -/

theorem Loaded.references {result : Bool} (loaded : Loaded lib built answers before result after)
    (refers : after.References network) : before.References network := by
  cases loaded with
  | unread read => exact refers
  | rejected read prepared => exact prepared.references network refers
  | accepted read reached prepared =>
      exact prepared.references network (loadNetworks_references refers)

theorem Loaded.live {result : Bool} (loaded : Loaded lib built answers before result after)
    (keeps : KeepsReferenced built before (.reload answers)) (live : before.Live) :
    after.Live := by
  intro network refers
  have earlier := loaded.references refers
  cases loaded with
  | unread read => exact live network earlier
  | rejected read prepared =>
      obtain ⟨name, found⟩ := live network earlier
      exact ⟨name, by rw [prepared.networks]; exact found⟩
  | accepted read reached prepared =>
      obtain ⟨block, configured, found⟩ := keeps _ _ read reached network earlier
      refine ⟨block.name, loadNetworks_keeps ?_ ?_⟩
      · rw [prepared.configured]
        exact configured
      · rw [prepared.networks]
        exact found

theorem Step.live {event : Event} (step : Step lib built before event after)
    (keeps : KeepsReferenced built before event) (live : before.Live) : after.Live := by
  cases step with
  | reload returned => exact (loadConfig_loaded returned).live keeps live
  | plugins constructed possible performed =>
      rintro network ⟨pc, same, refers⟩
      cases same
      rcases PluginComm.perform_references performed refers with old | known | ⟨_, _, _, rfl⟩
      · exact live network ⟨_, constructed, old⟩
      · exact known
      · exact possible
  | runOnce constructed returned => exact live
  | process constructed => exact live

/-- If no reload drops a network that is referred to, no command and no registration outlives
its network. -/
theorem references_live
    (reached : ((system lib built).guard (KeepsReferenced built)).Reachable bot)
    (refers : bot.References network) : bot.Present network := by
  have live : bot.Live := by
    apply reached.invariant
    · rintro start ⟨answers, returned⟩ network refers
      obtain ⟨pc, none, -⟩ := (loadConfig_loaded returned).references refers
      cases none
    · rintro middle event next live ⟨keeps, step⟩
      exact step.live keeps live
  exact live network refers

/-! ## A plugin that waits for commands on one network -/

theorem references_iff_any (bot : Bot) (network : NetworkId) :
    bot.plugins.any (·.referenced.contains network) = true ↔ bot.References network := by
  cases found : bot.plugins <;> simp [References, found, PluginComm.references_iff]

instance (bot : Bot) (network : NetworkId) : Decidable (bot.References network) :=
  decidable_of_iff _ (references_iff_any bot network)

def anyBackend (_ : Backend) : Bool := true

def oneNetwork : ConfigReader where
  networks := [{ name := ascii "n", autoConnect := false }]
  databaseConfig := { type := ascii "sqlite" }

/-- Register the command `open` on the network. -/
def openRequest : Json := .object [(ascii "do", .string (ascii "command")),
  (ascii "params", .array [.string (ascii "open"), .string (ascii "n")])]

def online : Bot :=
  (({} : Bot).loadConfig (.knowing [openRequest]) anyBackend { read := .ok oneNetwork }).2

/-- The plugin has connected. -/
def waiting : PluginComm := PluginComm.connect 5 (ascii "unix") { database := some 1 }

/-- The answer to the poll in which it registers its command. -/
def registration : Except Fault PluginComm :=
  waiting.poll (.knowing [openRequest]) (online.view View.bare.memory View.bare.database)
    (PluginComm.requestInput openRequest)

def listening : Bot := { online with plugins := registration.toOption }

theorem listening_reachable (allowed : Bot → Event → Prop)
    (always : ∀ bot memory database action, allowed bot (.plugins memory database action)) :
    ((system (.knowing [openRequest]) anyBackend).guard allowed).Reachable listening := by
  have online_reachable : ((system (.knowing [openRequest]) anyBackend).guard allowed).Reachable
      online := .start ⟨{ read := .ok oneNetwork }, Prod.ext (by decide +kernel) rfl⟩
  have connected : Step (.knowing [openRequest]) anyBackend online
      (.plugins View.bare.memory View.bare.database (.connect 5 (ascii "unix")))
      { online with plugins := some waiting } := .plugins rfl trivial rfl
  have returns : registration.isOk = true := by decide +kernel
  unfold listening
  cases completed : registration with
  | error fault =>
      rw [completed] at returns
      cases returns
  | ok pc =>
      refine (online_reachable.snoc _ ⟨always _ _ _ _, connected⟩).snoc
        (.plugins View.bare.memory View.bare.database
          (.poll (PluginComm.requestInput openRequest))) ⟨always _ _ _ _, ?_⟩
      exact .plugins rfl trivial completed

theorem listening_references (refers : listening.References network) : network = 1 := by
  have only : listening.plugins.map (·.referenced) = some [1] := by decide +kernel
  obtain ⟨pc, found, refers⟩ := refers
  rw [found, Option.map_some, Option.some.injEq] at only
  rw [PluginComm.references_iff, only] at refers
  exact List.mem_singleton.mp refers

/-- A reload with the same file keeps the network. -/
theorem same_network_live :
    ∃ bot, listening.loadConfig (.knowing [openRequest]) anyBackend { read := .ok oneNetwork } =
      (.ok true, bot) ∧ bot.References 1 ∧ bot.Present 1 := by
  have returned : listening.loadConfig (.knowing [openRequest]) anyBackend
      { read := .ok oneNetwork } = (.ok true, (listening.loadConfig (.knowing [openRequest])
        anyBackend { read := .ok oneNetwork }).2) := Prod.ext (by decide +kernel) rfl
  have keeps : KeepsReferenced anyBackend listening (.reload { read := .ok oneNetwork }) := by
    rintro config middle read - network refers
    cases read
    rw [listening_references refers]
    exact ⟨{ name := ascii "n", autoConnect := false }, List.mem_singleton_self _,
      by decide +kernel⟩
  have reached := (listening_reachable (KeepsReferenced anyBackend) fun _ _ _ _ => trivial).snoc
    (.reload { read := .ok oneNetwork }) ⟨keeps, .reload returned⟩
  exact ⟨_, returned, by decide +kernel, references_live reached (by decide +kernel)⟩

/-- A reload with a file without the network deletes it, and the registration stays. -/
theorem removed_network_dangles :
    ∃ bot, (system (.knowing [openRequest]) anyBackend).Reachable bot ∧ bot.References 1 ∧
      ¬bot.Present 1 := by
  have reached := (listening_reachable (fun _ _ => True) fun _ _ _ _ => trivial).of_guard
  refine ⟨_, reached.snoc (.reload { read := .ok { oneNetwork with networks := [] } })
    (.reload (Prod.ext (by decide +kernel) rfl)), by decide +kernel, ?_⟩
  rintro ⟨name, found⟩
  rw [TreeMap.getElem?_of_isEmpty (by decide +kernel)] at found
  cases found

end Bot

end DaZeus
