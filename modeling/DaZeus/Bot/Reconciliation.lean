import DaZeus.Bot.Run

/-!
# The networks of a new configuration

One loop creates the networks that are new and resets the others, a second one
drops those that are gone.  What a network is told depends on the blocks with
its name only, in their order, and a name keeps its network as long as there
is a block for it.
-/

namespace DaZeus

open Library
open Std (TreeMap)

namespace Bot

/-- The networks of the bot are objects of their own, and older than the next one. -/
structure OwnsNetworks (bot : Bot) : Prop where
  distinct : ∀ {first second : ByteString} {network : NetworkId},
    bot.networks[first]? = some network → bot.networks[second]? = some network → first = second
  older : ∀ {name : ByteString} {network : NetworkId},
    bot.networks[name]? = some network → network < bot.nextNetwork

/-- The calls to one network. -/
def callsTo (network : NetworkId) (calls : List (NetworkId × ConfigCall)) : List ConfigCall :=
  calls.filterMap fun call => if call.1 = network then some call.2 else none

/-- The blocks with a name. -/
def blocksOf (blocks : List NetworkConfig) (name : ByteString) : List NetworkConfig :=
  blocks.filter (·.name == name)

/-- Whether a network is told to connect when it is created from the block. -/
def connects (block : NetworkConfig) : List ConfigCall :=
  if block.autoConnect then [.connectToNetwork] else []

/-- The networks follow the blocks of the new configuration, with these calls, the oldest first:
a network that stays gets every block of its name, a new one is created from the first block of
its name and gets the others, and one that is gone is disconnected. -/
structure Reconciled (blocks : List NetworkConfig) (calls : List (NetworkId × ConfigCall))
    (before after : Bot) : Prop where
  names : ∀ name : ByteString, name ∈ after.networks ↔ ∃ block ∈ blocks, block.name = name
  kept : ∀ {name : ByteString} {network : NetworkId} {block : NetworkConfig},
    before.networks[name]? = some network → (blocksOf blocks name).getLast? = some block →
    after.networks[name]? = some network ∧
      callsTo network calls = (blocksOf blocks name).map .resetConfig ∧
      (callsTo network calls).getLast? = some (.resetConfig block)
  created : ∀ {name : ByteString} {first : NetworkConfig} {later : List NetworkConfig},
    before.networks[name]? = none → blocksOf blocks name = first :: later →
    ∃ network, after.networks[name]? = some network ∧ before.nextNetwork ≤ network ∧
      callsTo network calls = connects first ++ later.map .resetConfig
  dropped : ∀ {name : ByteString} {network : NetworkId},
    before.networks[name]? = some network → blocksOf blocks name = [] →
    after.networks[name]? = none ∧ callsTo network calls = [.disconnectFromNetwork]
  objects : ∀ network, before.nextNetwork ≤ network → network < after.nextNetwork →
    ∃ name : ByteString, after.networks[name]? = some network
  owns : after.OwnsNetworks

variable {lib : Libraries} {built : Backend → Bool} {answers : LoadAnswers}
  {bot before after : Bot} {network : NetworkId} {name : ByteString} {block : NetworkConfig}
  {blocks done : List NetworkConfig} {calls : List (NetworkId × ConfigCall)}

theorem callsTo_append (network : NetworkId) (first second : List (NetworkId × ConfigCall)) :
    callsTo network (first ++ second) = callsTo network first ++ callsTo network second :=
  List.filterMap_append

theorem callsTo_own (network : NetworkId) (call : ConfigCall) :
    callsTo network [(network, call)] = [call] := by
  simp [callsTo]

theorem callsTo_other {other : NetworkId} (different : other ≠ network) (call : ConfigCall) :
    callsTo network [(other, call)] = [] := by
  simp [callsTo, different]

theorem blocksOf_snoc_own (done : List NetworkConfig) (block : NetworkConfig) :
    blocksOf (done ++ [block]) block.name = blocksOf done block.name ++ [block] := by
  simp [blocksOf]

theorem blocksOf_snoc_other (done : List NetworkConfig) (different : block.name ≠ name) :
    blocksOf (done ++ [block]) name = blocksOf done name := by
  simp [blocksOf, different]

theorem blocksOf_eq_nil : blocksOf blocks name = [] ↔ ∀ block ∈ blocks, block.name ≠ name := by
  simp [blocksOf]

/-! ## The loop over the blocks -/

/-- What has become of a name after some blocks. -/
inductive Entry (before : Bot) (done : List NetworkConfig) (bot : Bot)
    (calls : List (NetworkId × ConfigCall)) (name : ByteString) : Prop
  | kept {network : NetworkId} (old : before.networks[name]? = some network)
      (found : bot.networks[name]? = some network)
      (called : callsTo network calls = (blocksOf done name).map .resetConfig)
  | absent (new : before.networks[name]? = none) (missing : bot.networks[name]? = none)
      (unnamed : blocksOf done name = [])
  | created {network : NetworkId} {first : NetworkConfig} {later : List NetworkConfig}
      (new : before.networks[name]? = none) (found : bot.networks[name]? = some network)
      (fresh : before.nextNetwork ≤ network) (named : blocksOf done name = first :: later)
      (called : callsTo network calls = connects first ++ later.map .resetConfig)

/-- The loop has come through some blocks with these calls. -/
structure Loading (before : Bot) (done : List NetworkConfig) (bot : Bot)
    (calls : List (NetworkId × ConfigCall)) : Prop where
  entries : ∀ name, Entry before done bot calls name
  owns : bot.OwnsNetworks
  unused : ∀ network, bot.nextNetwork ≤ network → callsTo network calls = []
  objects : ∀ network, before.nextNetwork ≤ network → network < bot.nextNetwork →
    ∃ name : ByteString, bot.networks[name]? = some network
  later : before.nextNetwork ≤ bot.nextNetwork
  noted : bot.calls = calls.reverse ++ before.calls
  config : bot.config = before.config

theorem Loading.start (owns : before.OwnsNetworks) : Loading before [] before [] where
  entries name := by
    cases found : before.networks[name]? with
    | none => exact .absent found found rfl
    | some network => exact .kept found found rfl
  owns := owns
  unused _ _ := rfl
  objects network old new := absurd new (Nat.not_lt.mpr old)
  later := Nat.le_refl _
  noted := rfl
  config := rfl

/-- An entry of another name stays as it is. -/
theorem Entry.other {next : Bot}
    (entry : Entry before done bot calls name) (different : block.name ≠ name)
    (same : next.networks[name]? = bot.networks[name]?)
    {more : List (NetworkId × ConfigCall)}
    (elsewhere : ∀ network, bot.networks[name]? = some network → callsTo network more = []) :
    Entry before (done ++ [block]) next (calls ++ more) name := by
  cases entry with
  | kept old found called =>
      refine .kept old (same.trans found) ?_
      rw [callsTo_append, elsewhere _ found, called, blocksOf_snoc_other done different,
        List.append_nil]
  | absent new missing unnamed =>
      exact .absent new (same.trans missing) ((blocksOf_snoc_other done different).trans unnamed)
  | created new found fresh named called =>
      refine .created new (same.trans found) fresh
        ((blocksOf_snoc_other done different).trans named) ?_
      rw [callsTo_append, elsewhere _ found, called, List.append_nil]

theorem Loading.reset (loading : Loading before done bot calls)
    (found : bot.networks[block.name]? = some network) :
    Loading before (done ++ [block]) (bot.callNetwork lib answers network (.resetConfig block))
      (calls ++ [(network, .resetConfig block)]) where
  entries name := by
    by_cases same : block.name = name
    · subst same
      have called : callsTo network (calls ++ [(network, .resetConfig block)]) =
          callsTo network calls ++ [.resetConfig block] := by
        rw [callsTo_append, callsTo_own]
      cases loading.entries block.name with
      | kept old own earlier =>
          cases own.symm.trans found
          refine .kept old found ?_
          rw [called, earlier, blocksOf_snoc_own, List.map_append]
          rfl
      | absent _ missing _ => cases missing.symm.trans found
      | @created _ first rest new own fresh named earlier =>
          cases own.symm.trans found
          have names : blocksOf (done ++ [block]) block.name = first :: (rest ++ [block]) := by
            rw [blocksOf_snoc_own, named]
            rfl
          refine .created new found fresh names ?_
          rw [called, earlier, List.map_append, List.append_assoc]
          rfl
    · have unchanged : (bot.callNetwork lib answers network (.resetConfig block)).networks[name]? =
          bot.networks[name]? := rfl
      apply (loading.entries name).other same unchanged
      intro other otherFound
      apply callsTo_other
      rintro rfl
      exact same (loading.owns.distinct found otherFound)
  owns := ⟨loading.owns.distinct, loading.owns.older⟩
  unused other new := by
    rw [callsTo_append, loading.unused other new, callsTo_other]
    · rfl
    · exact Nat.ne_of_lt (Nat.lt_of_lt_of_le (loading.owns.older found) new)
  objects := loading.objects
  later := loading.later
  noted := by
    rw [List.reverse_append, List.append_assoc, ← loading.noted]
    rfl
  config := loading.config

theorem lookup_inserted {next : Bot} {own : ByteString}
    (inserted : next.networks = bot.networks.insert own bot.nextNetwork) (name : ByteString) :
    next.networks[name]? = if own = name then some bot.nextNetwork else bot.networks[name]? := by
  simp only [inserted, TreeMap.getElem?_insert, Std.LawfulEqOrd.compare_eq_iff_eq]

theorem OwnsNetworks.insert (owns : bot.OwnsNetworks) {next : Bot} {own : ByteString}
    (inserted : next.networks = bot.networks.insert own bot.nextNetwork)
    (counted : next.nextNetwork = bot.nextNetwork + 1) : next.OwnsNetworks where
  distinct {first second network} firstFound secondFound := by
    rw [lookup_inserted inserted] at firstFound secondFound
    split at firstFound
    · next firstSame =>
        cases firstFound
        split at secondFound
        · next secondSame => exact firstSame.symm.trans secondSame
        · exact absurd (owns.older secondFound) (Nat.lt_irrefl _)
    · split at secondFound
      · cases secondFound
        exact absurd (owns.older firstFound) (Nat.lt_irrefl _)
      · exact owns.distinct firstFound secondFound
  older {name network} found := by
    rw [lookup_inserted inserted] at found
    rw [counted]
    split at found
    · cases found
      exact Nat.lt_succ_self _
    · exact Nat.lt_succ_of_lt (owns.older found)

theorem Loading.create (loading : Loading before done bot calls)
    (missing : bot.networks[block.name]? = none) {next : Bot}
    {more : List (NetworkId × ConfigCall)}
    (inserted : next.networks = bot.networks.insert block.name bot.nextNetwork)
    (counted : next.nextNetwork = bot.nextNetwork + 1) (config : next.config = bot.config)
    (noted : next.calls = more.reverse ++ bot.calls)
    (own : callsTo bot.nextNetwork more = connects block)
    (others : ∀ network, network ≠ bot.nextNetwork → callsTo network more = []) :
    Loading before (done ++ [block]) next (calls ++ more) where
  entries name := by
    by_cases same : block.name = name
    · subst same
      have found : next.networks[block.name]? = some bot.nextNetwork :=
        (lookup_inserted inserted block.name).trans (if_pos rfl)
      have called : callsTo bot.nextNetwork (calls ++ more) = connects block := by
        rw [callsTo_append, loading.unused _ (Nat.le_refl _), own]
        rfl
      cases loading.entries block.name with
      | kept _ found _ => cases found.symm.trans missing
      | absent new _ unnamed =>
          have names : blocksOf (done ++ [block]) block.name = [block] := by
            rw [blocksOf_snoc_own, unnamed]
            rfl
          exact .created new found loading.later names (by simp [called])
      | created _ found _ _ _ => cases found.symm.trans missing
    · have unchanged : next.networks[name]? = bot.networks[name]? :=
        (lookup_inserted inserted name).trans (if_neg same)
      apply (loading.entries name).other same unchanged
      intro network found
      exact others network (Nat.ne_of_lt (loading.owns.older found))
  owns := loading.owns.insert inserted counted
  unused network new := by
    rw [counted] at new
    rw [callsTo_append, loading.unused network (Nat.le_of_succ_le new),
      others network (Nat.ne_of_gt new)]
    rfl
  objects network old new := by
    rw [counted] at new
    obtain older | rfl := Nat.lt_succ_iff_lt_or_eq.mp new
    · obtain ⟨name, found⟩ := loading.objects network old older
      have different : block.name ≠ name := by
        rintro rfl
        cases found.symm.trans missing
      exact ⟨name, ((lookup_inserted inserted name).trans (if_neg different)).trans found⟩
    · exact ⟨block.name, (lookup_inserted inserted block.name).trans (if_pos rfl)⟩
  later := by
    rw [counted]
    exact Nat.le_succ_of_le loading.later
  noted := by
    rw [noted, loading.noted, List.reverse_append, List.append_assoc]
  config := config.trans loading.config

theorem Loading.loadNetwork (lib : Libraries) (answers : LoadAnswers)
    (loading : Loading before done bot calls) (block : NetworkConfig) :
    ∃ more, Loading before (done ++ [block]) (bot.loadNetwork lib answers block)
      (calls ++ more) := by
  unfold Bot.loadNetwork
  cases found : bot.networks[block.name]? with
  | some network => exact ⟨_, loading.reset found⟩
  | none =>
      dsimp only
      cases wanted : block.autoConnect with
      | true =>
          refine ⟨[(bot.nextNetwork, .connectToNetwork)],
            loading.create found rfl rfl rfl rfl ?_ ?_⟩
          · simp [callsTo_own, connects, wanted]
          · exact fun network other => callsTo_other (Ne.symm other) _
      | false =>
          refine ⟨[], loading.create found rfl rfl rfl rfl ?_ ?_⟩
          · simp [callsTo, connects, wanted]
          · exact fun network other => rfl

theorem Loading.run (lib : Libraries) (answers : LoadAnswers)
    (loading : Loading before done bot calls) (rest : List NetworkConfig) :
    ∃ more, Loading before (done ++ rest) (rest.foldl (Bot.loadNetwork lib answers) bot)
      (calls ++ more) := by
  induction rest generalizing done bot calls with
  | nil => exact ⟨[], by rwa [List.append_nil, List.append_nil]⟩
  | cons block rest inductionHypothesis =>
      obtain ⟨first, loaded⟩ := loading.loadNetwork lib answers block
      obtain ⟨more, finished⟩ := inductionHypothesis loaded
      rw [List.append_assoc, List.append_assoc] at finished
      exact ⟨first ++ more, finished⟩

section Found

variable (loading : Loading before done bot calls)

include loading

theorem Loading.kept (old : before.networks[name]? = some network) :
    bot.networks[name]? = some network ∧
      callsTo network calls = (blocksOf done name).map .resetConfig := by
  cases loading.entries name with
  | kept same found called =>
      cases same.symm.trans old
      exact ⟨found, called⟩
  | absent new _ _ => cases new.symm.trans old
  | created new _ _ _ _ => cases new.symm.trans old

theorem Loading.created {first : NetworkConfig} {later : List NetworkConfig}
    (new : before.networks[name]? = none) (named : blocksOf done name = first :: later) :
    ∃ network, bot.networks[name]? = some network ∧ before.nextNetwork ≤ network ∧
      callsTo network calls = connects first ++ later.map .resetConfig := by
  cases loading.entries name with
  | kept old _ _ => cases new.symm.trans old
  | absent _ _ unnamed => cases unnamed.symm.trans named
  | created _ found fresh names called =>
      cases names.symm.trans named
      exact ⟨_, found, fresh, called⟩

theorem Loading.found (named : blocksOf done name ≠ []) :
    ∃ network, bot.networks[name]? = some network := by
  cases loading.entries name with
  | kept _ found _ => exact ⟨_, found⟩
  | absent _ _ unnamed => exact absurd unnamed named
  | created _ found _ _ _ => exact ⟨_, found⟩

/-- The networks that are new have a block. -/
theorem Loading.named (owns : before.OwnsNetworks) (found : bot.networks[name]? = some network)
    (new : before.nextNetwork ≤ network) : blocksOf done name ≠ [] := by
  cases loading.entries name with
  | kept old same _ =>
      cases same.symm.trans found
      exact absurd (owns.older old) (Nat.not_lt.mpr new)
  | absent _ missing _ => cases missing.symm.trans found
  | created _ _ _ names _ =>
      rw [names]
      exact List.cons_ne_nil _ _

end Found

/-! ## The loop over the networks -/

/-- The networks without a block. -/
def gone (blocks : List NetworkConfig) (entries : List (ByteString × NetworkId)) :
    List (ByteString × NetworkId) :=
  entries.filter fun entry => !blocks.any (·.name == entry.1)

def disconnections (entries : List (ByteString × NetworkId)) : List (NetworkId × ConfigCall) :=
  entries.map fun entry => (entry.2, .disconnectFromNetwork)

theorem dropNetwork_configured {entry : ByteString × NetworkId}
    (configured : bot.config.networks.any (·.name == entry.1) = true) :
    bot.dropNetwork lib answers entry = bot := by
  unfold dropNetwork
  rw [if_pos configured]

theorem dropNetwork_gone {entry : ByteString × NetworkId}
    (missing : bot.config.networks.any (·.name == entry.1) = false) :
    bot.dropNetwork lib answers entry =
      { bot with networks := bot.networks.erase entry.1 }.callNetwork lib answers entry.2
        .disconnectFromNetwork := by
  unfold dropNetwork
  rw [if_neg (by simp [missing])]

theorem dropNetworks_spec (lib : Libraries) (answers : LoadAnswers)
    (entries : List (ByteString × NetworkId)) (bot : Bot) :
    let after := entries.foldl (dropNetwork lib answers) bot
    let dropped := gone bot.config.networks entries
    (∀ name, name ∈ dropped.map Prod.fst → after.networks[name]? = none) ∧
      (∀ name, name ∉ dropped.map Prod.fst → after.networks[name]? = bot.networks[name]?) ∧
      after.calls = (disconnections dropped).reverse ++ bot.calls ∧
      after.nextNetwork = bot.nextNetwork := by
  induction entries generalizing bot with
  | nil => exact ⟨fun name none => absurd none List.not_mem_nil, fun name _ => rfl, rfl, rfl⟩
  | cons entry entries inductionHypothesis =>
      obtain ⟨removed, others, calls, next⟩ :=
        inductionHypothesis (bot.dropNetwork lib answers entry)
      cases configured : bot.config.networks.any (·.name == entry.1) with
      | true =>
          have same : gone bot.config.networks (entry :: entries) =
              gone bot.config.networks entries := by
            simp [gone, configured]
          rw [dropNetwork_configured configured] at removed others calls next
          rw [List.foldl_cons, dropNetwork_configured configured, same]
          exact ⟨removed, others, calls, next⟩
      | false =>
          have more : gone bot.config.networks (entry :: entries) =
              entry :: gone bot.config.networks entries := by
            simp [gone, configured]
          rw [dropNetwork_gone configured] at removed others calls next
          rw [List.foldl_cons, dropNetwork_gone configured, more]
          refine ⟨fun name dropped => ?_, fun name kept => ?_, ?_, next⟩
          · by_cases later : name ∈ (gone bot.config.networks entries).map Prod.fst
            · exact removed name later
            · have own : name = entry.1 := (List.mem_cons.mp dropped).resolve_right later
              rw [others name later, own]
              exact TreeMap.getElem?_erase_self
          · obtain ⟨different, later⟩ := not_or.mp (mt List.mem_cons.mpr kept)
            rw [others name later]
            refine (TreeMap.getElem?_erase ..).trans (if_neg fun same => different ?_)
            exact (Std.LawfulEqOrd.eq_of_compare same).symm
          · rw [calls, disconnections, disconnections, List.map_cons, List.reverse_cons,
              List.append_assoc]
            rfl

theorem callsTo_cons_disconnection (entry : ByteString × NetworkId)
    (entries : List (ByteString × NetworkId)) :
    callsTo network (disconnections (entry :: entries)) =
      (if entry.2 = network then [.disconnectFromNetwork] else []) ++
        callsTo network (disconnections entries) := by
  rw [disconnections, List.map_cons, ← List.singleton_append, callsTo_append]
  split
  · next same => rw [same, callsTo_own, disconnections]
  · next different => rw [callsTo_other different, disconnections]

theorem callsTo_disconnections (entries : List (ByteString × NetworkId)) :
    callsTo network (disconnections entries) =
      (entries.filter (·.2 == network)).map fun _ => .disconnectFromNetwork := by
  induction entries with
  | nil => rfl
  | cons entry entries inductionHypothesis =>
      rw [callsTo_cons_disconnection, inductionHypothesis, List.filter_cons]
      by_cases same : entry.2 = network <;> simp [same]

theorem OwnsNetworks.entry (owns : bot.OwnsNetworks)
    (found : bot.networks[name]? = some network) :
    bot.networks.toList.filter (·.2 == network) = [(name, network)] := by
  have distinct : bot.networks.toList.Nodup :=
    TreeMap.distinct_keys_toList.imp fun different same => different (by simp [same])
  have only : ∀ entry ∈ bot.networks.toList,
      (entry.2 == network) = (entry == (name, network)) := by
    rintro ⟨other, held⟩ listed
    have held := TreeMap.mem_toList_iff_getElem?_eq_some.mp listed
    rw [Bool.eq_iff_iff, beq_iff_eq, beq_iff_eq, Prod.mk.injEq]
    refine ⟨?_, And.right⟩
    rintro rfl
    exact ⟨owns.distinct held found, rfl⟩
  rw [List.filter_congr only, List.filter_beq, List.count_eq_one_of_mem distinct
    (TreeMap.mem_toList_iff_getElem?_eq_some.mpr found)]
  rfl

theorem blocksOf_eq_nil_iff_any :
    blocksOf blocks name = [] ↔ blocks.any (·.name == name) = false := by
  simp [blocksOf]

/-- A network is disconnected once if it is gone. -/
theorem OwnsNetworks.disconnected (owns : bot.OwnsNetworks)
    (found : bot.networks[name]? = some network) (unnamed : blocksOf blocks name = []) :
    callsTo network (disconnections (gone blocks bot.networks.toList)) =
      [.disconnectFromNetwork] := by
  rw [callsTo_disconnections, gone, List.filter_comm, owns.entry found, List.filter_singleton,
    blocksOf_eq_nil_iff_any.mp unnamed]
  rfl

/-- A network with a block is not disconnected. -/
theorem OwnsNetworks.spared (owns : bot.OwnsNetworks)
    (found : bot.networks[name]? = some network) (named : blocksOf blocks name ≠ []) :
    callsTo network (disconnections (gone blocks bot.networks.toList)) = [] := by
  have configured := Bool.eq_true_of_not_eq_false (mt blocksOf_eq_nil_iff_any.mpr named)
  rw [callsTo_disconnections, gone, List.filter_comm, owns.entry found, List.filter_singleton,
    configured]
  rfl

theorem mem_gone {entries : List (ByteString × NetworkId)} :
    name ∈ (gone blocks entries).map Prod.fst ↔
      name ∈ entries.map Prod.fst ∧ blocksOf blocks name = [] := by
  simp only [gone, List.mem_map, List.mem_filter, Bool.not_eq_true', ← blocksOf_eq_nil_iff_any]
  constructor
  · rintro ⟨entry, ⟨listed, unnamed⟩, rfl⟩
    exact ⟨⟨entry, listed, rfl⟩, unnamed⟩
  · rintro ⟨⟨entry, listed, rfl⟩, unnamed⟩
    exact ⟨entry, ⟨listed, unnamed⟩, rfl⟩

/-- The networks without a block are gone, and the others are there. -/
structure Reduced (blocks : List NetworkConfig) (before after : Bot) : Prop where
  unnamed : ∀ {name : ByteString}, blocksOf blocks name = [] → after.networks[name]? = none
  named : ∀ {name : ByteString}, blocksOf blocks name ≠ [] →
    after.networks[name]? = before.networks[name]?
  nextNetwork : after.nextNetwork = before.nextNetwork

theorem dropNetworks_reduced (lib : Libraries) (answers : LoadAnswers) (bot : Bot) :
    let after := bot.networks.toList.foldl (dropNetwork lib answers) bot
    Reduced bot.config.networks bot after ∧ after.calls =
      (disconnections (gone bot.config.networks bot.networks.toList)).reverse ++ bot.calls := by
  obtain ⟨removed, others, calls, next⟩ :=
    dropNetworks_spec lib answers bot.networks.toList bot
  refine ⟨⟨fun {name} unnamed => ?_, fun {name} named => ?_, next⟩, calls⟩
  · by_cases present : name ∈ bot.networks.toList.map Prod.fst
    · exact removed name (mem_gone.mpr ⟨present, unnamed⟩)
    · rw [others name fun dropped => present (mem_gone.mp dropped).1]
      rw [TreeMap.map_fst_toList_eq_keys, TreeMap.mem_keys] at present
      exact TreeMap.getElem?_eq_none present
  · exact others name fun dropped => named (mem_gone.mp dropped).2

theorem Reduced.earlier (reduced : Reduced blocks before after)
    (found : after.networks[name]? = some network) : before.networks[name]? = some network := by
  by_cases unnamed : blocksOf blocks name = []
  · cases (reduced.unnamed unnamed).symm.trans found
  · exact (reduced.named unnamed).symm.trans found

theorem Reduced.owns (reduced : Reduced blocks before after) (owns : before.OwnsNetworks) :
    after.OwnsNetworks where
  distinct first second := owns.distinct (reduced.earlier first) (reduced.earlier second)
  older found := reduced.nextNetwork ▸ owns.older (reduced.earlier found)

/-! ## Both loops -/

theorem Loading.reconciled {loaded : Bot} (loading : Loading before blocks loaded calls)
    (owns : before.OwnsNetworks) (reduced : Reduced blocks loaded after) :
    Reconciled blocks (calls ++ disconnections (gone blocks loaded.networks.toList)) before
      after where
  names name := by
    rw [TreeMap.mem_iff_isSome_getElem?]
    by_cases unnamed : blocksOf blocks name = []
    · rw [reduced.unnamed unnamed]
      refine iff_of_false Bool.false_ne_true ?_
      rintro ⟨block, listed, same⟩
      exact blocksOf_eq_nil.mp unnamed block listed same
    · obtain ⟨network, found⟩ := loading.found unnamed
      rw [reduced.named unnamed, found]
      refine iff_of_true rfl ?_
      by_contra none
      exact unnamed (blocksOf_eq_nil.mpr fun block listed same => none ⟨block, listed, same⟩)
  kept {name network block} old last := by
    have named : blocksOf blocks name ≠ [] := by
      intro none
      rw [none] at last
      cases last
    obtain ⟨found, called⟩ := loading.kept old
    have all : callsTo network (calls ++ disconnections (gone blocks loaded.networks.toList)) =
        (blocksOf blocks name).map .resetConfig := by
      rw [callsTo_append, called, loading.owns.spared found named, List.append_nil]
    refine ⟨(reduced.named named).trans found, all, ?_⟩
    rw [all, List.getLast?_map, last]
    rfl
  created {name first later} new names := by
    have named : blocksOf blocks name ≠ [] := by
      rw [names]
      exact List.cons_ne_nil first later
    obtain ⟨network, found, fresh, called⟩ := loading.created new names
    refine ⟨network, (reduced.named named).trans found, fresh, ?_⟩
    rw [callsTo_append, called, loading.owns.spared found named, List.append_nil]
  dropped {name network} old unnamed := by
    obtain ⟨found, called⟩ := loading.kept old
    refine ⟨reduced.unnamed unnamed, ?_⟩
    rw [callsTo_append, called, loading.owns.disconnected found unnamed, unnamed]
    rfl
  objects network old new := by
    rw [reduced.nextNetwork] at new
    obtain ⟨name, found⟩ := loading.objects network old new
    exact ⟨name, (reduced.named (loading.named owns found old)).trans found⟩
  owns := reduced.owns loading.owns

theorem loadNetworks_reconciled (lib : Libraries) (answers : LoadAnswers)
    (owns : before.OwnsNetworks) :
    ∃ calls, (before.loadNetworks lib answers).calls = calls.reverse ++ before.calls ∧
      Reconciled before.config.networks calls before (before.loadNetworks lib answers) := by
  obtain ⟨made, loading⟩ := (Loading.start owns).run lib answers before.config.networks
  obtain ⟨reduced, noted⟩ := dropNetworks_reduced lib answers
    (before.config.networks.foldl (Bot.loadNetwork lib answers) before)
  rw [loading.config] at reduced noted
  refine ⟨_, ?_, loading.reconciled owns reduced⟩
  rw [List.reverse_append, List.append_assoc]
  exact noted.trans (congrArg _ loading.noted)

/-! ## Whole calls -/

theorem prepare_networks {result : Bool}
    (returned : before.prepare built answers = (.ok result, after)) :
    after.networks = before.networks ∧ after.nextNetwork = before.nextNetwork ∧
      after.calls = before.calls := by
  have connecting {connected : Bool} {bot : Bot}
      (connection : before.connectDatabase built answers = (.ok connected, bot)) :
      bot.networks = before.networks ∧ bot.nextNetwork = before.nextNetwork ∧
        bot.calls = before.calls := by
    cases connectDatabase_connected connection <;> exact ⟨rfl, rfl, rfl⟩
  unfold prepare at returned
  split at returned
  · cases returned
  · next outcome =>
      cases returned
      exact connecting outcome
  · next connected outcome =>
      split at returned
      · cases returned
      · next attached attachment =>
          obtain ⟨pc, sockets, rfl, -⟩ := attachPlugins_attached attachment
          obtain ⟨monitor, rfl, -⟩ := reloadMonitor_reloaded returned
          obtain ⟨networks, next, calls⟩ := connecting outcome
          exact ⟨networks, next, calls⟩

theorem OwnsNetworks.empty : OwnsNetworks {} where
  distinct found := by simp at found
  older found := by simp at found

theorem OwnsNetworks.of_same (owns : before.OwnsNetworks)
    (networks : after.networks = before.networks)
    (next : after.nextNetwork = before.nextNetwork) : after.OwnsNetworks := by
  constructor
  · intro first second network
    rw [networks]
    exact owns.distinct
  · intro name network
    rw [networks, next]
    exact owns.older

theorem OwnsNetworks.loadConfig {result : Bool} (owns : before.OwnsNetworks)
    (returned : before.loadConfig lib built answers = (.ok result, after)) :
    after.OwnsNetworks := by
  unfold Bot.loadConfig at returned
  split at returned
  · cases returned
    exact owns.of_same rfl rfl
  · cases returned
  · next config read =>
      generalize outcome : (before.configured config).prepare built answers = prepared at returned
      rcases prepared with ⟨stop | goesOn, middle⟩
      · cases returned
      · obtain ⟨networks, next, -⟩ := prepare_networks outcome
        have middleOwns : middle.OwnsNetworks := owns.of_same networks next
        cases goesOn with
        | false =>
            cases returned
            exact middleOwns
        | true =>
            obtain ⟨-, rfl⟩ := Prod.mk.inj returned
            obtain ⟨calls, -, reconciled⟩ :=
              loadNetworks_reconciled lib answers middleOwns
            exact reconciled.owns

theorem ownsNetworks_of_reachable (reached : (system lib built).Reachable bot) :
    bot.OwnsNetworks := by
  apply reached.invariant
  · rintro start ⟨answers, returned⟩
    exact OwnsNetworks.empty.loadConfig returned
  · rintro middle event next owns step
    cases step with
    | reload returned => exact owns.loadConfig returned
    | plugins constructed possible performed => exact owns.of_same rfl rfl
    | runOnce constructed returned => exact owns.of_same rfl rfl
    | process constructed => exact owns.of_same rfl rfl

theorem Reconciled.of_same {middle : Bot} (reconciled : Reconciled blocks calls middle after)
    (networks : middle.networks = before.networks)
    (next : middle.nextNetwork = before.nextNetwork) : Reconciled blocks calls before after := by
  obtain ⟨names, kept, created, dropped, objects, owns⟩ := reconciled
  rw [networks] at kept created dropped
  rw [next] at created objects
  exact ⟨names, kept, created, dropped, objects, owns⟩

/-- A load that returns true reconciles the networks with the blocks of the configuration it has
read; and the networks of every bot that is reached are objects of their own. -/
theorem networks_reconciled {config : ConfigReader} (owns : before.OwnsNetworks)
    (read : answers.read = .ok config)
    (returned : before.loadConfig lib built answers = (.ok true, after)) :
    (∃ calls, after.calls = calls.reverse ++ before.calls ∧
      Reconciled config.networks calls before after) ∧
    ∀ bot, (system lib built).Reachable bot → bot.OwnsNetworks := by
  refine ⟨?_, fun bot => ownsNetworks_of_reachable⟩
  cases loadConfig_loaded returned with
  | @accepted other middle same reached prepared =>
      cases same.symm.trans read
      obtain ⟨networks, next, calls⟩ := prepare_networks reached
      have middleOwns : middle.OwnsNetworks := owns.of_same networks next
      obtain ⟨made, noted, reconciled⟩ :=
        loadNetworks_reconciled lib answers middleOwns
      refine ⟨made, noted.trans (congrArg _ calls), ?_⟩
      rw [prepared.configured] at reconciled
      exact reconciled.of_same networks next

/-- One network is dropped, one is kept, and a new one has two blocks. -/
theorem networks_reconciled_mixed :
    let load (bot : Bot) (blocks : List NetworkConfig) :=
      bot.loadConfig (.knowing []) (fun _ => true)
        { read := .ok { networks := blocks, databaseConfig := { type := ascii "sqlite" } } }
    let before := (load {} [{ name := ascii "a", autoConnect := true },
      { name := ascii "b", autoConnect := false }]).2
    let blocks := [{ name := ascii "c", autoConnect := true },
      { name := ascii "b", autoConnect := true },
      { name := ascii "c", nickName := ascii "nick", autoConnect := false }]
    ∃ calls, (load before blocks).2.calls = calls.reverse ++ before.calls ∧
      Reconciled blocks calls before (load before blocks).2 := by
  intro load before blocks
  have first : load {} [{ name := ascii "a", autoConnect := true },
      { name := ascii "b", autoConnect := false }] = (.ok true, before) :=
    Prod.ext (by decide +kernel) rfl
  have second : load before blocks = (.ok true, (load before blocks).2) :=
    Prod.ext (by decide +kernel) rfl
  exact (networks_reconciled (OwnsNetworks.empty.loadConfig first) rfl second).1

end Bot

end DaZeus
