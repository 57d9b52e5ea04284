import DaZeus.Bot.Networks
import DaZeus.Bot.Reconciliation

/-!
# The lives of network objects

One load follows the blocks of one configuration.  Over a whole run `loadConfig`
creates a network object from a block, resets it with others of the same name,
and disconnects it when it deletes it; it calls it neither before nor after
that, and keeps it in the map for as long as it lives.
-/

namespace DaZeus

open Library
open Std (TreeMap)

namespace Bot

/-- The calls of `loadConfig` to a network so far, the oldest first. -/
def history (bot : Bot) (network : NetworkId) : List ConfigCall :=
  callsTo network bot.calls.reverse

/-- The network was created from a block of this name, and given others. -/
def Configured (name : ByteString) (calls : List ConfigCall) : Prop :=
  ∃ first later, (∀ block ∈ first :: later, block.name = name) ∧
    calls = connects first ++ later.map .resetConfig

variable {lib : Libraries} {built : Backend → Bool} {answers : LoadAnswers}
  {bot before after : Bot} {network : NetworkId} {name : ByteString}
  {blocks : List NetworkConfig} {calls : List (NetworkId × ConfigCall)}

theorem name_of_blocksOf {block : NetworkConfig} (listed : block ∈ blocksOf blocks name) :
    block.name = name :=
  eq_of_beq (List.mem_filter.mp listed).2

theorem Configured.created {first : NetworkConfig} {later : List NetworkConfig}
    (named : blocksOf blocks name = first :: later) :
    Configured name (connects first ++ later.map .resetConfig) := by
  refine ⟨first, later, fun block listed => ?_, rfl⟩
  rw [← named] at listed
  exact name_of_blocksOf listed

theorem Configured.reset {earlier : List ConfigCall} (configured : Configured name earlier) :
    Configured name (earlier ++ (blocksOf blocks name).map .resetConfig) := by
  obtain ⟨first, later, named, rfl⟩ := configured
  refine ⟨first, later ++ blocksOf blocks name, fun block listed => ?_, ?_⟩
  · rw [← List.cons_append, List.mem_append] at listed
    exact listed.elim (named block) name_of_blocksOf
  · rw [List.map_append, List.append_assoc]

theorem callsTo_eq_nil (uncalled : ∀ call ∈ calls, call.1 ≠ network) :
    callsTo network calls = [] := by
  refine List.filterMap_eq_nil_iff.mpr fun call listed => ?_
  exact if_neg (uncalled call listed)

theorem history_of_calls (noted : after.calls = calls.reverse ++ before.calls) :
    after.history network = before.history network ++ callsTo network calls := by
  rw [history, noted, List.reverse_append, List.reverse_reverse, callsTo_append, history]

/-! ## Who is called in a load -/

/-- The network was there before, or was created since. -/
def Since (before bot : Bot) (network : NetworkId) : Prop :=
  before.Present network ∨ before.nextNetwork ≤ network ∧ network < bot.nextNetwork

/-- Nobody else was called since, and nobody else is in the map. -/
structure Involves (before bot : Bot) : Prop where
  grown : before.nextNetwork ≤ bot.nextNetwork
  present : ∀ network, bot.Present network → before.Since bot network
  called : ∃ calls : List (NetworkId × ConfigCall), bot.calls = calls.reverse ++ before.calls ∧
    ∀ call ∈ calls, before.Since bot call.1

theorem Involves.call (involves : before.Involves bot) (call : ConfigCall)
    (known : before.Since bot network) :
    before.Involves (bot.callNetwork lib answers network call) := by
  obtain ⟨calls, noted, only⟩ := involves.called
  refine ⟨involves.grown, involves.present, calls ++ [(network, call)], ?_, ?_⟩
  · rw [List.reverse_append, List.append_assoc, ← noted]
    rfl
  · intro other listed
    rcases List.mem_append.mp listed with earlier | new
    · exact only other earlier
    · cases List.mem_singleton.mp new
      exact known

theorem Involves.loadNetwork (involves : before.Involves bot) (block : NetworkConfig) :
    before.Involves (bot.loadNetwork lib answers block) := by
  unfold Bot.loadNetwork
  split
  · next missing =>
      have grown := Nat.le_succ_of_le involves.grown
      have widened {network : NetworkId} (since : before.Since bot network) :
          before.Present network ∨
            before.nextNetwork ≤ network ∧ network < bot.nextNetwork + 1 :=
        since.imp_right fun new => ⟨new.1, Nat.lt_succ_of_lt new.2⟩
      have created : before.Involves { bot with
          networks := bot.networks.insert block.name bot.nextNetwork
          nextNetwork := bot.nextNetwork + 1 } := by
        obtain ⟨calls, noted, only⟩ := involves.called
        refine ⟨grown, ?_, calls, noted, fun call listed => widened (only call listed)⟩
        rintro network ⟨name, found⟩
        rw [TreeMap.getElem?_insert] at found
        split at found
        · cases found
          exact .inr ⟨involves.grown, Nat.lt_succ_self _⟩
        · exact widened (involves.present network ⟨name, found⟩)
      dsimp only
      split
      · exact created.call _ (.inr ⟨involves.grown, Nat.lt_succ_self _⟩)
      · exact created
  · next network found =>
      exact involves.call _ (involves.present network ⟨block.name, found⟩)

theorem Involves.dropNetwork (involves : before.Involves bot) {entry : ByteString × NetworkId}
    (known : before.Since bot entry.2) :
    before.Involves (bot.dropNetwork lib answers entry) := by
  unfold Bot.dropNetwork
  split
  · exact involves
  · have erased : before.Involves { bot with networks := bot.networks.erase entry.1 } := by
      refine ⟨involves.grown, ?_, involves.called⟩
      rintro network ⟨name, found⟩
      rw [TreeMap.getElem?_erase] at found
      split at found
      · cases found
      · exact involves.present network ⟨name, found⟩
    exact erased.call _ known

theorem loadNetworks_involves (before : Bot) :
    before.Involves (before.loadNetworks lib answers) := by
  have start : before.Involves before :=
    ⟨Nat.le_refl _, fun _ => .inl, [], rfl, nofun⟩
  have loaded : before.Involves (before.config.networks.foldl (loadNetwork lib answers) before) :=
    List.foldlRecOn (motive := before.Involves) _ _ start
      fun _ involves block _ => involves.loadNetwork block
  unfold loadNetworks
  generalize before.config.networks.foldl (loadNetwork lib answers) before = middle at loaded ⊢
  suffices dropped : before.Involves (middle.networks.toList.foldl (dropNetwork lib answers)
      middle) ∧ (middle.networks.toList.foldl (dropNetwork lib answers)
        middle).nextNetwork = middle.nextNetwork from dropped.1
  refine List.foldlRecOn (motive := fun bot : Bot =>
    before.Involves bot ∧ bot.nextNetwork = middle.nextNetwork) _ _ ⟨loaded, rfl⟩ ?_
  rintro bot ⟨involves, same⟩ entry listed
  have known := loaded.present entry.2
    ⟨entry.1, TreeMap.mem_toList_iff_getElem?_eq_some.mp listed⟩
  refine ⟨involves.dropNetwork ?_, ?_⟩
  · rw [Since, same]
    exact known
  · unfold Bot.dropNetwork
    split
    · exact same
    · exact same

/-! ## Whole lives -/

/-- What the map and the calls say about each object. -/
structure Lives (bot : Bot) : Prop where
  owns : bot.OwnsNetworks
  started : 0 < bot.nextNetwork
  living : ∀ {name : ByteString} {network : NetworkId}, bot.networks[name]? = some network →
    0 < network ∧ Configured name (bot.history network)
  ended : ∀ network, 0 < network → network < bot.nextNetwork → ¬bot.Present network →
    ∃ name calls, Configured name calls ∧
      bot.history network = calls ++ [.disconnectFromNetwork]
  unused : ∀ network, network = 0 ∨ bot.nextNetwork ≤ network → bot.history network = []

theorem Reconciled.old (reconciled : Reconciled blocks calls before after)
    (found : after.networks[name]? = some network) (older : network < before.nextNetwork) :
    before.networks[name]? = some network := by
  have listed : name ∈ after.networks :=
    TreeMap.mem_iff_isSome_getElem?.mpr (by rw [found]; rfl)
  obtain ⟨block, inside, same⟩ := (reconciled.names name).mp listed
  cases named : blocksOf blocks name with
  | nil => exact absurd same (blocksOf_eq_nil.mp named block inside)
  | cons first later =>
      cases held : before.networks[name]? with
      | none =>
          obtain ⟨created, same, fresh, -⟩ := reconciled.created held named
          cases same.symm.trans found
          exact absurd older (Nat.not_lt.mpr fresh)
      | some other =>
          have last : ∃ block, (blocksOf blocks name).getLast? = some block := by
            rw [named]
            exact ⟨_, List.getLast?_cons⟩
          obtain ⟨block, last⟩ := last
          cases (reconciled.kept held last).1.symm.trans found
          rfl

theorem Reconciled.new (reconciled : Reconciled blocks calls before after)
    (owns : before.OwnsNetworks) (found : after.networks[name]? = some network)
    (fresh : before.nextNetwork ≤ network) : Configured name (callsTo network calls) := by
  have listed : name ∈ after.networks :=
    TreeMap.mem_iff_isSome_getElem?.mpr (by rw [found]; rfl)
  obtain ⟨block, inside, same⟩ := (reconciled.names name).mp listed
  cases named : blocksOf blocks name with
  | nil => exact absurd same (blocksOf_eq_nil.mp named block inside)
  | cons first later =>
      cases held : before.networks[name]? with
      | none =>
          obtain ⟨created, same, -, called⟩ := reconciled.created held named
          cases same.symm.trans found
          rw [called]
          exact .created named
      | some other =>
          have last : ∃ block, (blocksOf blocks name).getLast? = some block := by
            rw [named]
            exact ⟨_, List.getLast?_cons⟩
          obtain ⟨block, last⟩ := last
          cases (reconciled.kept held last).1.symm.trans found
          exact absurd (owns.older held) (Nat.not_lt.mpr fresh)

theorem Lives.same (lives : before.Lives) (networks : after.networks = before.networks)
    (next : after.nextNetwork = before.nextNetwork) (calls : after.calls = before.calls) :
    after.Lives := by
  have history (network : NetworkId) : after.history network = before.history network := by
    rw [Bot.history, calls, Bot.history]
  refine ⟨lives.owns.of_same networks next, next ▸ lives.started, ?_, ?_, ?_⟩
  · intro name network found
    rw [networks] at found
    rw [history]
    exact lives.living found
  · intro network positive older gone
    rw [next] at older
    rw [Present, networks] at gone
    rw [history]
    exact lives.ended network positive older gone
  · intro network outside
    rw [next] at outside
    rw [history]
    exact lives.unused network outside

/-- One load that reaches the networks. -/
theorem Lives.reconciled (lives : before.Lives) (involves : before.Involves after)
    (noted : after.calls = calls.reverse ++ before.calls)
    (reconciled : Reconciled blocks calls before after) : after.Lives := by
  have since : ∀ call ∈ calls, before.Since after call.1 := by
    obtain ⟨others, same, only⟩ := involves.called
    have equal := List.append_cancel_right (noted.symm.trans same)
    rw [List.reverse_injective equal]
    exact only
  have history (network : NetworkId) :
      after.history network = before.history network ++ callsTo network calls :=
    history_of_calls noted
  refine ⟨reconciled.owns, Nat.lt_of_lt_of_le lives.started involves.grown, ?_, ?_, ?_⟩
  · intro name network found
    by_cases older : network < before.nextNetwork
    · have held := reconciled.old found older
      obtain ⟨positive, configured⟩ := lives.living held
      refine ⟨positive, ?_⟩
      cases last : (blocksOf blocks name).getLast? with
      | none =>
          have unnamed := List.getLast?_eq_none_iff.mp last
          cases (reconciled.dropped held unnamed).1.symm.trans found
      | some block =>
          rw [history, (reconciled.kept held last).2.1]
          exact configured.reset
    · have fresh := Nat.not_lt.mp older
      refine ⟨Nat.lt_of_lt_of_le lives.started fresh, ?_⟩
      rw [history, lives.unused network (.inr fresh)]
      exact reconciled.new lives.owns found fresh
  · intro network positive created gone
    by_cases older : network < before.nextNetwork
    · by_cases present : before.Present network
      · obtain ⟨name, held⟩ := present
        cases last : (blocksOf blocks name).getLast? with
        | none =>
            have unnamed := List.getLast?_eq_none_iff.mp last
            refine ⟨name, _, (lives.living held).2, ?_⟩
            rw [history, (reconciled.dropped held unnamed).2]
        | some block => exact absurd ⟨name, (reconciled.kept held last).1⟩ gone
      · obtain ⟨name, earlier, configured, ended⟩ := lives.ended network positive older present
        refine ⟨name, earlier, configured, ?_⟩
        rw [history, ended, callsTo_eq_nil, List.append_nil]
        rintro call listed rfl
        rcases since call listed with there | ⟨fresh, -⟩
        · exact present there
        · exact absurd older (Nat.not_lt.mpr fresh)
    · obtain ⟨name, found⟩ := reconciled.objects network (Nat.not_lt.mp older) created
      exact absurd ⟨name, found⟩ gone
  · intro network outside
    have before_outside : network = 0 ∨ before.nextNetwork ≤ network :=
      outside.imp_right (Nat.le_trans involves.grown)
    rw [history, lives.unused network before_outside, callsTo_eq_nil]
    · rfl
    · rintro call listed rfl
      rcases since call listed with ⟨name, held⟩ | ⟨fresh, older⟩
      · rcases outside with zero | beyond
        · exact absurd zero (Nat.ne_of_gt (lives.living held).1)
        · have old := Nat.lt_of_lt_of_le (lives.owns.older held) involves.grown
          exact absurd old (Nat.not_lt.mpr beyond)
      · rcases outside with zero | beyond
        · exact absurd zero (Nat.ne_of_gt (Nat.lt_of_lt_of_le lives.started fresh))
        · exact absurd older (Nat.not_lt.mpr beyond)

theorem Lives.loadConfig {result : Bool} (lives : before.Lives)
    (returned : before.loadConfig lib built answers = (.ok result, after)) : after.Lives := by
  unfold Bot.loadConfig at returned
  split at returned
  · cases returned
    exact lives.same rfl rfl rfl
  · cases returned
  · next config read =>
      generalize outcome : (before.configured config).prepare built answers = prepared at returned
      rcases prepared with ⟨stop | goesOn, middle⟩
      · cases returned
      · obtain ⟨networks, next, calls⟩ := prepare_networks outcome
        have middleLives : middle.Lives := lives.same networks next calls
        cases goesOn with
        | false =>
            cases returned
            exact middleLives
        | true =>
            obtain ⟨-, rfl⟩ := Prod.mk.inj returned
            obtain ⟨made, noted, reconciled⟩ :=
              loadNetworks_reconciled lib answers middleLives.owns
            exact middleLives.reconciled (loadNetworks_involves middle) noted reconciled

theorem Lives.empty : Lives {} where
  owns := OwnsNetworks.empty
  started := Nat.one_pos
  living found := by simp at found
  ended network positive older := absurd positive (Nat.not_lt.mpr (Nat.le_of_lt_succ older))
  unused _ _ := rfl

theorem lives_of_reachable (reached : (system lib built).Reachable bot) : bot.Lives := by
  apply reached.invariant
  · rintro start ⟨answers, returned⟩
    exact Lives.empty.loadConfig returned
  · intro middle event next lives step
    cases step with
    | reload returned => exact lives.loadConfig returned
    | plugins constructed possible performed => exact lives.same rfl rfl rfl
    | runOnce constructed returned => exact lives.same rfl rfl rfl
    | process constructed => exact lives.same rfl rfl rfl

/-- In every run each network object lives once.  An object in the map was created from a block of
its name and reset with others since; one that was created and is not in the map was disconnected
after that, once; and `loadConfig` calls neither again, nor one that was not created yet. -/
theorem network_lives (reached : (system lib built).Reachable bot) (network : NetworkId) :
    (∀ name : ByteString, bot.networks[name]? = some network →
      0 < network ∧ network < bot.nextNetwork ∧ Configured name (bot.history network) ∧
        ∀ other : ByteString, bot.networks[other]? = some network → other = name) ∧
    (0 < network → network < bot.nextNetwork → ¬bot.Present network →
      ∃ name calls, Configured name calls ∧
        bot.history network = calls ++ [.disconnectFromNetwork]) ∧
    (network = 0 ∨ bot.nextNetwork ≤ network → bot.history network = []) := by
  have lives := lives_of_reachable reached
  refine ⟨fun name found => ?_, lives.ended network, lives.unused network⟩
  obtain ⟨positive, configured⟩ := lives.living found
  exact ⟨positive, lives.owns.older found, configured, fun other held =>
    lives.owns.distinct held found⟩

/-- The answers for a file with these network blocks. -/
def networksFile (blocks : List NetworkConfig) : LoadAnswers where
  read := .ok { networks := blocks, databaseConfig := { type := ascii "sqlite" } }

/-- A network that is dropped, and another object when it comes back. -/
theorem network_lives_returning :
    let load (bot : Bot) (blocks : List NetworkConfig) :=
      bot.loadConfig (.knowing []) anyBackend (networksFile blocks)
    let first := (load {} [{ name := ascii "a", autoConnect := true }]).2
    let second := (load first []).2
    let third := (load second [{ name := ascii "a", autoConnect := false }]).2
    (∃ name calls, Configured name calls ∧
      third.history 1 = calls ++ [.disconnectFromNetwork]) ∧
      Configured (ascii "a") (third.history 2) := by
  intro load first second third
  have loads (bot : Bot) (blocks : List NetworkConfig) (accepted : (load bot blocks).1 = .ok true) :
      load bot blocks = (.ok true, (load bot blocks).2) := Prod.ext accepted rfl
  have created := loads {} [{ name := ascii "a", autoConnect := true }] (by decide +kernel)
  have emptied := loads first [] (by decide +kernel)
  have returned := loads second [{ name := ascii "a", autoConnect := false }] (by decide +kernel)
  have start : (system (.knowing []) anyBackend).Reachable first := .start ⟨_, created⟩
  have reached := (start.snoc _ (.reload emptied)).snoc _ (.reload returned)
  have held : third.networks.toList = [(ascii "a", 2)] := by decide +kernel
  have found : third.networks[ascii "a"]? = some 2 :=
    TreeMap.mem_toList_iff_getElem?_eq_some.mp (by rw [held]; exact List.mem_singleton_self _)
  have gone : ¬third.Present 1 := by
    rintro ⟨name, same⟩
    have listed := TreeMap.mem_toList_iff_getElem?_eq_some.mpr same
    rw [held] at listed
    cases List.mem_singleton.mp listed
  have next : third.nextNetwork = 3 := by decide +kernel
  refine ⟨(network_lives reached 1).2.1 Nat.one_pos (by rw [next]; decide) gone, ?_⟩
  exact ((network_lives reached 2).1 _ found).2.2.1

end Bot

end DaZeus
