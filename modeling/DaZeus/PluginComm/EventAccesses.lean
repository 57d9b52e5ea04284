import DaZeus.PluginComm.Accesses

/-!
# The parameters of an event

Every branch of `ircEvent` that looks at a parameter by its index has asked for
enough of them first, but for the last one, which takes the events that no
other branch is for.  It reads the first parameter of a list that may be empty.
-/

namespace DaZeus

open Library

namespace PluginComm

open Access

def ircEventAccesses (event : ByteString) (params : List ByteString) : List Access :=
  match branchFor event params with
  | some branch => if params.length < branch.minimum then [] else elements params branch.indices
  | none => elements params [0]

/-- Some branch of `ircEvent` is for events with this name. -/
def Recognised (event : ByteString) : Prop :=
  event ∈ (branches 0).flatMap (·.names)

instance (event : ByteString) : Decidable (Recognised event) :=
  inferInstanceAs (Decidable (event ∈ (branches 0).flatMap (·.names)))

theorem branchFor_none_iff (event : ByteString) (params : List ByteString) :
    branchFor event params = none ↔ ¬Recognised event := by
  have names : (branches params.length).flatMap (·.names) = (branches 0).flatMap (·.names) := rfl
  rw [branchFor, Recognised, ← names, List.find?_eq_none]
  simp

theorem branches_inside {count : Nat} {branch : Branch} (listed : branch ∈ branches count)
    (enough : branch.minimum ≤ count) : ∀ index ∈ branch.indices, index < count := by
  simp only [branches, List.mem_cons, List.not_mem_nil, or_false] at listed
  rcases listed with rfl | rfl | rfl | rfl | rfl | rfl | rfl | rfl | rfl | rfl | rfl | rfl |
    rfl | rfl | rfl | rfl | rfl | rfl | rfl | rfl | rfl | rfl | rfl | rfl
  all_goals
    intro index membership
    grind [Branch.indices, Argument.indices, Reaction.indices]

variable {lib : Libraries} {memory : NetworkId → NetworkState} {global : GlobalConfig}
  {pc : PluginComm} {network : NetworkId} {event origin : ByteString} {params : List ByteString}

/-- The values of arguments whose indices are inside do not depend on what lies past the end. -/
theorem values_unspecified (unspecified : ByteString) {n : NetworkState} {args : List Argument}
    (inside : ∀ index ∈ args.flatMap Argument.indices, index < params.length) :
    args.flatMap (·.values { lib with unspecified } n origin params) =
      args.flatMap (·.values lib n origin params) := by
  apply List.flatMap_congr
  intro argument listed
  cases argument with
  | param index =>
      have within : index < params.length :=
        inside index (List.mem_flatMap.mpr ⟨_, listed, List.mem_singleton_self index⟩)
      rw [Argument.values, Argument.values, paramAt_of_lt within]
  | _ => rfl

theorem ircEventAccesses_inRange :
    (∀ access ∈ ircEventAccesses event params, access.InRange) ↔
      Recognised event ∨ params ≠ [] := by
  unfold ircEventAccesses
  cases found : branchFor event params with
  | none =>
      have unknown := (branchFor_none_iff event params).mp found
      dsimp only
      rw [elements_inRange, or_iff_right unknown, ← List.length_pos_iff]
      simp
  | some branch =>
      have known : Recognised event := by
        by_contra unknown
        rw [(branchFor_none_iff event params).mpr unknown] at found
        cases found
      apply iff_of_true _ (.inl known)
      dsimp only
      split
      · exact fun access none => absurd none List.not_mem_nil
      · next enough =>
          apply elements_inRange.mpr
          exact branches_inside (List.mem_of_find?_eq_some found) (Nat.le_of_not_lt enough)

theorem flushLoop_unspecified (unspecified nick : ByteString) (identified : Bool)
    (queue : List Command) (pc : PluginComm) :
    flushLoop { lib with unspecified } memory nick identified queue pc =
      flushLoop lib memory nick identified queue pc := by
  induction queue generalizing pc with
  | nil => rfl
  | cons cmd rest inductionHypothesis =>
      unfold flushLoop
      simp only [inductionHypothesis]
      rfl

theorem flushCommandQueue_unspecified (unspecified nick : ByteString) (identified : Bool)
    (pc : PluginComm) :
    pc.flushCommandQueue { lib with unspecified } memory nick identified =
      pc.flushCommandQueue lib memory nick identified := by
  unfold flushCommandQueue
  rw [flushLoop_unspecified]

theorem messageReceived_unspecified (unspecified message receiver : ByteString) :
    pc.messageReceived { lib with unspecified } memory global origin message receiver network =
      pc.messageReceived lib memory global origin message receiver network := by
  have same : commandOf { lib with unspecified } origin receiver network
      (payloadOf { lib with unspecified } global (memory network).nick message) =
        commandOf lib origin receiver network
          (payloadOf lib global (memory network).nick message) := rfl
  unfold messageReceived
  dsimp only
  rw [same]
  cases commandOf lib origin receiver network
      (payloadOf lib global (memory network).nick message) with
  | none => rfl
  | some cmd =>
      dsimp only
      rw [flushCommandQueue_unspecified]
      rfl

/-- An event none of whose accesses is past the end does not depend on what lies there. -/
theorem ircEvent_unspecified (unspecified : ByteString)
    (inside : ∀ access ∈ ircEventAccesses event params, access.InRange) :
    pc.ircEvent { lib with unspecified } memory global network event origin params =
      pc.ircEvent lib memory global network event origin params := by
  unfold ircEvent
  dsimp only
  cases found : branchFor event params with
  | none =>
      have unknown := (branchFor_none_iff event params).mp found
      have some := (ircEventAccesses_inRange.mp inside).resolve_left unknown
      dsimp only
      rw [paramAt_of_lt (List.length_pos_iff.mpr some)]
      rfl
  | some branch =>
      dsimp only
      split
      · rfl
      · next enough =>
          have within :=
            branches_inside (List.mem_of_find?_eq_some found) (Nat.le_of_not_lt enough)
          have args := @values_unspecified lib origin params unspecified (memory network)
            branch.args fun index listed => within index (List.mem_append_left _ listed)
          have read (index : Nat) (listed : index ∈ branch.reaction.indices) :
              paramAt { lib with unspecified } params index = paramAt lib params index :=
            paramAt_of_lt (within index (List.mem_append_right _ listed))
          rw [args]
          cases reaction : branch.reaction with
          | messageReceived =>
              rw [reaction] at read
              dsimp only
              rw [read 0 (by decide), read 1 (by decide), messageReceived_unspecified]
          | dispatch name => rfl
          | whois =>
              rw [reaction] at read
              dsimp only
              rw [read 0 (by decide), read 1 (by decide), flushCommandQueue_unspecified]
              rfl

/-- `ircEvent` stays within the parameters if there is a branch for the event, or any parameter;
then what it does is the same whatever lies past their end. -/
theorem params_inRange_iff (event : ByteString) (params : List ByteString) :
    ((∀ access ∈ ircEventAccesses event params, access.InRange) ↔
      Recognised event ∨ params ≠ []) ∧
    (Recognised event ∨ params ≠ [] →
      ∀ (lib : Libraries) (memory : NetworkId → NetworkState) (global : GlobalConfig)
        (pc : PluginComm) (network : NetworkId) (origin unspecified : ByteString),
        pc.ircEvent { lib with unspecified } memory global network event origin params =
          pc.ircEvent lib memory global network event origin params) := by
  refine ⟨ircEventAccesses_inRange, ?_⟩
  intro checked lib memory global pc network origin unspecified
  exact ircEvent_unspecified unspecified (ircEventAccesses_inRange.mpr checked)

/-- An event that `ircEvent` does not know, without parameters: the first one is read all the
same. -/
theorem unknown_event_overruns :
    ircEventAccesses (ascii "AWAY") [] = [⟨0, 0⟩] ∧
      ¬(∀ (event : ByteString) (params : List ByteString),
        ∀ access ∈ ircEventAccesses event params, access.InRange) := by
  have accesses : ircEventAccesses (ascii "AWAY") [] = [⟨0, 0⟩] := by decide
  refine ⟨accesses, fun inside => ?_⟩
  have first := inside (ascii "AWAY") [] ⟨0, 0⟩ (by rw [accesses]; exact List.mem_singleton_self _)
  exact absurd first (Nat.lt_irrefl 0)

end PluginComm

end DaZeus
