import DaZeus.PluginComm.Outcomes

/-!
# The elements of params and scope that a request looks at

`handleAccesses` lists every element that `handle` accesses by its index, with
the size of the vector at that moment.  It is an access past the end that stops
`handle`, and `permission set` makes one.
-/

namespace DaZeus

open Library
open Std (TreeMap)

/-- One access `vector[index]`, with the size of the vector. -/
structure Access where
  index : Nat
  size : Nat
  deriving DecidableEq

namespace Access

def InRange (access : Access) : Prop := access.index < access.size

/-- The accesses to some elements of a vector. -/
def elements (vector : List ByteString) (indices : List Nat) : List Access :=
  indices.map fun index => ⟨index, vector.length⟩

theorem elements_inRange {vector : List ByteString} {indices : List Nat} :
    (∀ access ∈ elements vector indices, access.InRange) ↔
      ∀ index ∈ indices, index < vector.length := by
  simp [elements, InRange]

end Access

namespace PluginComm

open Access Reply

variable (lib : Libraries)

def handshakeAccesses (info : SocketInfo) (params : List ByteString) : List Access :=
  if info.didHandshake then
    []
  else if params.length < 4 then
    []
  else if paramAt lib params 2 ≠ ascii "1" then
    elements params [2]
  else
    elements params [2, 0, 1, 3]

def onNetworkAccesses (view : View) (action : ByteString) (params : List ByteString) :
    List Access :=
  let network := if params.length > 0 then paramAt lib params 0 else []
  (if params.length > 0 then elements params [0] else []) ++
    match view.networks[network]? with
    | none => []
    | some _ =>
        if action = ascii "channels" ∨ action = ascii "nick" then
          []
        else if params.length < 2 then
          []
        else
          elements params [1]

def onChannelAccesses (action : ByteString) (params : List ByteString) : List Access :=
  if params.length < 2 || (action != ascii "names" && params.length < 3) then
    []
  else
    elements params [0, 1] ++ if action ≠ ascii "names" then elements params [2] else []

/-- The name is erased from `params` before the others are accessed. -/
def commandAccesses (view : View) : List ByteString → List Access
  | [] => []
  | commandName :: params =>
      elements (commandName :: params) [0] ++
        if params.length = 0 then
          []
        else if params.length = 1 ∨ params.length = 3 then
          elements params [0] ++
            match view.networks[paramAt lib params 0]? with
            | none => []
            | some _ => if params.length = 1 then [] else elements params [1, 2]
        else
          []

/-- `switch(scope.size())` with its fall-throughs. -/
def propertyScopeAccesses (scope : List ByteString) : List Access :=
  match scope with
  | [_] => elements scope [0]
  | [_, _] => elements scope [1, 0]
  | [_, _, _] => elements scope [2, 1, 0]
  | _ => []

def propertyAccesses (params scope : List ByteString) : List Access :=
  let param := paramAt lib params
  propertyScopeAccesses scope ++
    if params.length < 2 then
      []
    else
      elements params [0] ++
        if param 0 = ascii "get" then
          elements params [1]
        else if param 0 = ascii "set" then
          if params.length < 3 then [] else elements params [1, 2]
        else if param 0 = ascii "unset" then
          elements params [1]
        else if param 0 = ascii "keys" then
          elements params [1]
        else
          []

def configAccesses (params : List ByteString) : List Access :=
  if params.length ≠ 2 then [] else elements params [0, 1]

def permissionAccesses (params scope : List ByteString) : List Access :=
  let param := paramAt lib params
  if scope.length = 0 then
    []
  else
    elements scope [0] ++ (if scope.length ≥ 2 then elements scope [1] else []) ++
      (if scope.length ≥ 3 then elements scope [2] else []) ++
      if params.length < 2 then
        []
      else
        elements params [0] ++
          if param 0 = ascii "set" then
            elements params [1, 2]
          else if param 0 = ascii "unset" then
            elements params [1]
          else if param 0 = ascii "has" then
            if params.length < 3 then [] else elements params [1, 2]
          else
            []

/-- The accesses of the branch that `handle` takes. -/
def actionAccesses (view : View) (info : SocketInfo) (action : ByteString)
    (params scope : List ByteString) : List Access :=
  if action = ascii "handshake" then
    handshakeAccesses lib info params
  else if action ∈ [ascii "channels", ascii "whois", ascii "join", ascii "part",
      ascii "nick"] then
    onNetworkAccesses lib view action params
  else if action ∈ [ascii "message", ascii "notice", ascii "action", ascii "ctcp",
      ascii "ctcp_rep", ascii "names"] then
    onChannelAccesses action params
  else if action = ascii "command" then
    commandAccesses lib view params
  else if action = ascii "property" then
    propertyAccesses lib params scope
  else if action = ascii "config" then
    configAccesses params
  else if action = ascii "permission" then
    permissionAccesses lib params scope
  else
    -- `subscribe` and `unsubscribe` go through `params` with an iterator
    []

def handleAccesses (view : View) (input : Json) (info : SocketInfo) : List Access :=
  match readParams input, readAction input with
  | .ok params, .ok action => actionAccesses lib view info action params (readScope input)
  | _, _ => []

/-! ## What lies past the end of a vector -/

variable {lib : Libraries} {view : View} {info : SocketInfo} {params scope : List ByteString}
  {action unspecified : ByteString}

theorem paramAt_of_lt {index : Nat} (inside : index < params.length) :
    paramAt { lib with unspecified } params index = paramAt lib params index := by
  simp [paramAt, inside]

theorem handleHandshake_unspecified {reply : Reply} :
    handleHandshake { lib with unspecified } params reply = handleHandshake lib params reply := by
  apply ite_congr rfl (fun _ => rfl)
  intro _
  apply ite_congr rfl (fun _ => rfl)
  intro enough
  have param {index : Nat} (small : index < 4) :
      paramAt { lib with unspecified } params index = paramAt lib params index :=
    paramAt_of_lt (by omega)
  rw [param (show 0 < 4 by omega), param (show 1 < 4 by omega), param (show 2 < 4 by omega),
    param (show 3 < 4 by omega)]
  rfl

theorem handleOnNetwork_unspecified {reply : Reply} :
    handleOnNetwork { lib with unspecified } view action params reply =
      handleOnNetwork lib view action params reply := by
  have first : (if params.length > 0 then paramAt { lib with unspecified } params 0 else []) =
      if params.length > 0 then paramAt lib params 0 else [] := by
    apply ite_congr rfl _ (fun _ => rfl)
    intro some
    exact paramAt_of_lt some
  unfold handleOnNetwork
  dsimp only
  rw [first]
  split
  · rfl
  · apply ite_congr rfl (fun _ => rfl)
    intro _
    apply ite_congr rfl (fun _ => rfl)
    intro _
    apply ite_congr rfl (fun _ => rfl)
    intro enough
    rw [paramAt_of_lt (show 1 < params.length by omega)]
    rfl

theorem handleOnChannel_unspecified {reply : Reply} :
    handleOnChannel { lib with unspecified } view action params reply =
      handleOnChannel lib view action params reply := by
  apply ite_congr rfl (fun _ => rfl)
  intro enough
  simp only [Bool.or_eq_true, decide_eq_true_eq, Bool.and_eq_true, bne_iff_ne, not_or,
    not_and] at enough
  have message : (if action ≠ ascii "names" then paramAt { lib with unspecified } params 2
      else []) = if action ≠ ascii "names" then paramAt lib params 2 else [] := by
    apply ite_congr rfl _ (fun _ => rfl)
    intro other
    have third := enough.2 other
    exact paramAt_of_lt (by omega)
  rw [paramAt_of_lt (show 0 < params.length by omega),
    paramAt_of_lt (show 1 < params.length by omega), message]
  rfl

theorem handleCommand_unspecified {reply : Reply} :
    handleCommand { lib with unspecified } view params reply =
      handleCommand lib view params reply := by
  cases params with
  | nil => rfl
  | cons commandName params =>
      apply ite_congr rfl (fun _ => rfl)
      intro _
      apply ite_congr rfl _ (fun _ => rfl)
      intro size
      rw [paramAt_of_lt (show 0 < params.length by omega)]
      split
      · rfl
      · apply ite_congr rfl (fun _ => rfl)
        intro several
        rw [paramAt_of_lt (show 1 < params.length by omega),
          paramAt_of_lt (show 2 < params.length by omega)]
        rfl

theorem handleProperty_unspecified {reply : Reply} :
    handleProperty { lib with unspecified } view params scope reply =
      handleProperty lib view params scope reply := by
  apply ite_congr rfl (fun _ => rfl)
  intro enough
  rw [paramAt_of_lt (show 0 < params.length by omega),
    paramAt_of_lt (show 1 < params.length by omega)]
  apply ite_congr rfl (fun _ => rfl)
  intro _
  apply ite_congr rfl _ (fun _ => rfl)
  intro _
  apply ite_congr rfl (fun _ => rfl)
  intro third
  rw [paramAt_of_lt (show 2 < params.length by omega)]
  rfl

theorem handleConfig_unspecified {reply : Reply} :
    handleConfig { lib with unspecified } view params reply =
      handleConfig lib view params reply := by
  apply ite_congr rfl (fun _ => rfl)
  intro two
  rw [paramAt_of_lt (show 0 < params.length by omega),
    paramAt_of_lt (show 1 < params.length by omega)]
  rfl

theorem handlePermission_unspecified {reply : Reply} :
    handlePermission { lib with unspecified } view params scope reply =
      handlePermission lib view params scope reply := by
  unfold handlePermission
  dsimp only
  apply ite_congr rfl (fun _ => rfl)
  intro nonempty
  have network : paramAt { lib with unspecified } scope 0 = paramAt lib scope 0 :=
    paramAt_of_lt (by omega)
  have channel : (if scope.length ≥ 2 then paramAt { lib with unspecified } scope 1 else []) =
      if scope.length ≥ 2 then paramAt lib scope 1 else [] := by
    apply ite_congr rfl _ (fun _ => rfl)
    intro two
    exact paramAt_of_lt two
  have sender : (if scope.length ≥ 3 then paramAt { lib with unspecified } scope 2 else []) =
      if scope.length ≥ 3 then paramAt lib scope 2 else [] := by
    apply ite_congr rfl _ (fun _ => rfl)
    intro three
    exact paramAt_of_lt three
  rw [network, channel, sender]
  apply ite_congr rfl (fun _ => rfl)
  intro enough
  have first : paramAt { lib with unspecified } params 0 = paramAt lib params 0 :=
    paramAt_of_lt (by omega)
  have second : paramAt { lib with unspecified } params 1 = paramAt lib params 1 :=
    paramAt_of_lt (by omega)
  rw [first, second]
  refine ite_congr rfl ?_ ?_
  · intro _
    apply ite_congr rfl (fun _ => rfl)
    intro third
    rw [paramAt_of_lt (show 2 < params.length by omega)]
    rfl
  · intro _
    apply ite_congr rfl (fun _ => rfl)
    intro _
    apply ite_congr rfl _ (fun _ => rfl)
    intro _
    apply ite_congr rfl (fun _ => rfl)
    intro third
    rw [paramAt_of_lt (show 2 < params.length by omega)]
    rfl

theorem handleAction_unspecified {reply : Reply} :
    handleAction { lib with unspecified } view action params scope reply =
      handleAction lib view action params scope reply := by
  unfold handleAction
  rw [handleHandshake_unspecified, handleOnNetwork_unspecified, handleOnChannel_unspecified,
    handleCommand_unspecified, handleProperty_unspecified, handleConfig_unspecified,
    handlePermission_unspecified]
  rfl

/-! ## The accesses -/

theorem inRange_append {first second : List Access} :
    (∀ access ∈ first ++ second, access.InRange) ↔
      (∀ access ∈ first, access.InRange) ∧ ∀ access ∈ second, access.InRange :=
  List.forall_mem_append

theorem inRange_nil : ∀ access ∈ ([] : List Access), access.InRange := by simp

theorem handshakeAccesses_inRange :
    ∀ access ∈ handshakeAccesses lib info params, access.InRange := by
  unfold handshakeAccesses
  split
  · exact inRange_nil
  · split
    · exact inRange_nil
    · split
      · exact elements_inRange.mpr (by simp; omega)
      · exact elements_inRange.mpr (by simp; omega)

theorem onNetworkAccesses_inRange :
    ∀ access ∈ onNetworkAccesses lib view action params, access.InRange := by
  unfold onNetworkAccesses
  dsimp only
  apply inRange_append.mpr
  constructor
  · split
    · exact elements_inRange.mpr (by simp; omega)
    · exact inRange_nil
  · split
    · exact inRange_nil
    · split
      · exact inRange_nil
      · split
        · exact inRange_nil
        · exact elements_inRange.mpr (by simp; omega)

theorem onChannelAccesses_inRange :
    ∀ access ∈ onChannelAccesses action params, access.InRange := by
  unfold onChannelAccesses
  split
  · exact inRange_nil
  · next enough =>
      simp only [Bool.or_eq_true, decide_eq_true_eq, Bool.and_eq_true, bne_iff_ne, not_or,
        not_and] at enough
      apply inRange_append.mpr
      constructor
      · exact elements_inRange.mpr (by simp; omega)
      · split
        · next other =>
            have third := enough.2 other
            exact elements_inRange.mpr (by simp; omega)
        · exact inRange_nil

theorem commandAccesses_inRange :
    ∀ access ∈ commandAccesses lib view params, access.InRange := by
  cases params with
  | nil => exact inRange_nil
  | cons commandName params =>
      apply inRange_append.mpr
      constructor
      · exact elements_inRange.mpr (by simp)
      · split
        · exact inRange_nil
        · split
          · next size =>
              apply inRange_append.mpr
              constructor
              · exact elements_inRange.mpr (by simp; omega)
              · split
                · exact inRange_nil
                · split
                  · exact inRange_nil
                  · exact elements_inRange.mpr (by simp; omega)
          · exact inRange_nil

theorem propertyScopeAccesses_inRange :
    ∀ access ∈ propertyScopeAccesses scope, access.InRange := by
  unfold propertyScopeAccesses
  split
  · exact elements_inRange.mpr (by simp)
  · exact elements_inRange.mpr (by simp)
  · exact elements_inRange.mpr (by simp)
  · exact inRange_nil

theorem propertyAccesses_inRange :
    ∀ access ∈ propertyAccesses lib params scope, access.InRange := by
  unfold propertyAccesses
  dsimp only
  apply inRange_append.mpr
  refine ⟨propertyScopeAccesses_inRange, ?_⟩
  split
  · exact inRange_nil
  · apply inRange_append.mpr
    constructor
    · exact elements_inRange.mpr (by simp; omega)
    · split
      · exact elements_inRange.mpr (by simp; omega)
      · split
        · split
          · exact inRange_nil
          · exact elements_inRange.mpr (by simp; omega)
        · split
          · exact elements_inRange.mpr (by simp; omega)
          · split
            · exact elements_inRange.mpr (by simp; omega)
            · exact inRange_nil

theorem configAccesses_inRange : ∀ access ∈ configAccesses params, access.InRange := by
  unfold configAccesses
  split
  · exact inRange_nil
  · exact elements_inRange.mpr (by simp; omega)

/-- The branch for `permission` is in range but for `set` with two parameters. -/
theorem permissionAccesses_inRange :
    (∀ access ∈ permissionAccesses lib params scope, access.InRange) ↔
      ¬UncheckedSet params scope := by
  constructor
  · rintro inside ⟨some, two, set⟩
    have scope : ¬ scope.length = 0 := fun none => some (List.length_eq_zero_iff.mp none)
    have first : paramAt lib params 0 = ascii "set" := (paramAt_zero_eq (by omega)).mpr set
    have third := inside ⟨2, params.length⟩ (by
      simp [permissionAccesses, scope, first, two, elements])
    simp only [Access.InRange, two, Nat.lt_irrefl] at third
  · intro checked
    unfold permissionAccesses
    dsimp only
    split
    · exact inRange_nil
    · next nonempty =>
        apply inRange_append.mpr
        constructor
        · apply inRange_append.mpr
          constructor
          · apply inRange_append.mpr
            constructor
            · exact elements_inRange.mpr (by simp; omega)
            · split
              · exact elements_inRange.mpr (by simp; omega)
              · exact inRange_nil
          · split
            · exact elements_inRange.mpr (by simp; omega)
            · exact inRange_nil
        · split
          · exact inRange_nil
          · apply inRange_append.mpr
            constructor
            · exact elements_inRange.mpr (by simp; omega)
            · split
              · next first =>
                  have set := (paramAt_zero_eq (show 0 < params.length by omega)).mp first
                  have three : params.length ≠ 2 := fun two =>
                    checked ⟨fun none => nonempty (by rw [none]; rfl), two, set⟩
                  exact elements_inRange.mpr (by simp; omega)
              · split
                · exact elements_inRange.mpr (by simp; omega)
                · split
                  · split
                    · exact inRange_nil
                    · exact elements_inRange.mpr (by simp; omega)
                  · exact inRange_nil

theorem actionAccesses_inRange :
    (∀ access ∈ actionAccesses lib view info action params scope, access.InRange) ↔
      ¬(action = ascii "permission" ∧ UncheckedSet params scope) := by
  have always {accesses : List Access} (inside : ∀ access ∈ accesses, access.InRange)
      (other : action ≠ ascii "permission") : (∀ access ∈ accesses, access.InRange) ↔
        ¬(action = ascii "permission" ∧ UncheckedSet params scope) :=
    iff_of_true inside fun both => other both.1
  unfold actionAccesses
  split
  · next same => exact always handshakeAccesses_inRange (by rw [same]; decide)
  split
  · next listed =>
      apply always onNetworkAccesses_inRange
      intro same
      rw [same] at listed
      exact absurd listed (by decide)
  split
  · next listed =>
      apply always onChannelAccesses_inRange
      intro same
      rw [same] at listed
      exact absurd listed (by decide)
  split
  · next same => exact always commandAccesses_inRange (by rw [same]; decide)
  split
  · next same => exact always propertyAccesses_inRange (by rw [same]; decide)
  split
  · next same => exact always configAccesses_inRange (by rw [same]; decide)
  split
  · next same =>
      rw [permissionAccesses_inRange]
      simp only [same, true_and]
  · next other => exact always inRange_nil other

/-! ## Requests with too few parameters -/

/-- The number of parameters that a request needs; `channels` and `nick` default to the
network without a name. -/
def neededParams (action : ByteString) (params : List ByteString) : Nat :=
  if action = ascii "handshake" then 4
  else if action ∈ [ascii "whois", ascii "join", ascii "part", ascii "names"] then 2
  else if action ∈ [ascii "message", ascii "notice", ascii "action", ascii "ctcp",
      ascii "ctcp_rep"] then 3
  else if action = ascii "command" then
    if params.length = 3 then 4 else 1
  else if action = ascii "property" then
    if params.head? = some (ascii "set") then 3 else 2
  else if action = ascii "config" then 2
  else if action = ascii "permission" then
    if params.head? = some (ascii "set") ∨ params.head? = some (ascii "has") then 3 else 2
  else 0

theorem handleHandshake_few {reply : Reply} (few : params.length < 4) :
    (handleHandshake lib params reply).thrown.isSome := by
  unfold handleHandshake
  dsimp only
  split
  · rfl
  · rfl

theorem handleOnNetwork_few {reply : Reply} (few : params.length < 2)
    (channels : action ≠ ascii "channels") (nick : action ≠ ascii "nick") :
    (handleOnNetwork lib view action params reply).thrown.isSome := by
  unfold handleOnNetwork
  dsimp only
  split
  · rfl
  · rw [if_neg channels, if_neg nick, if_pos few]
    rfl

theorem handleOnChannel_few {reply : Reply}
    (few : params.length < if action = ascii "names" then 2 else 3) :
    (handleOnChannel lib view action params reply).thrown.isSome := by
  unfold handleOnChannel
  dsimp only
  rw [if_pos]
  · rfl
  · split at few
    · simp [few]
    · next other =>
        simp only [Bool.or_eq_true, decide_eq_true_eq, Bool.and_eq_true, bne_iff_ne]
        exact .inr ⟨other, few⟩

theorem handleCommand_few {reply : Reply}
    (few : params.length < if params.length = 3 then 4 else 1) :
    (handleCommand lib view params reply).thrown.isSome := by
  cases params with
  | nil => rfl
  | cons commandName params =>
      have two : params.length = 2 := by
        simp only [List.length_cons] at few
        split at few <;> omega
      unfold handleCommand
      dsimp only
      rw [if_neg (by omega), if_neg (by omega)]
      rfl

theorem handleProperty_few {reply : Reply}
    (few : params.length < if params.head? = some (ascii "set") then 3 else 2) :
    (handleProperty lib view params scope reply).thrown.isSome := by
  unfold handleProperty
  dsimp only
  split
  · rfl
  · next enough =>
      have set : params.head? = some (ascii "set") := by
        by_contra other
        rw [if_neg other] at few
        omega
      have first : paramAt lib params 0 = ascii "set" := (paramAt_zero_eq (by omega)).mpr set
      rw [if_pos set] at few
      rw [if_neg (by rw [first]; decide), if_pos first, if_pos few]
      rfl

theorem handleConfig_few {reply : Reply} (few : params.length < 2) :
    (handleConfig lib view params reply).thrown.isSome := by
  unfold handleConfig
  dsimp only
  rw [if_pos (by omega)]
  rfl

theorem handlePermission_few {reply : Reply} (checked : ¬UncheckedSet params scope)
    (few : params.length < if params.head? = some (ascii "set") ∨
      params.head? = some (ascii "has") then 3 else 2) :
    (handlePermission lib view params scope reply).thrown.isSome := by
  unfold handlePermission
  dsimp only
  split
  · rfl
  · next nonempty =>
      split
      · rfl
      · next enough =>
          have listed : params.head? = some (ascii "set") ∨ params.head? = some (ascii "has") := by
            by_contra other
            rw [if_neg other] at few
            omega
          rw [if_pos listed] at few
          rcases listed with set | has
          · exact absurd ⟨fun none => nonempty (by rw [none]; rfl), by omega, set⟩ checked
          · have first : paramAt lib params 0 = ascii "has" :=
              (paramAt_zero_eq (by omega)).mpr has
            rw [if_neg (by rw [first]; decide), if_neg (by rw [first]; decide), if_pos first,
              if_pos few]
            rfl

/-- A dispatched request without the parameters it needs ends in an exception. -/
theorem handleAction_few (action : ByteString)
    (checked : action = ascii "permission" → ¬UncheckedSet params scope)
    (few : params.length < neededParams action params) :
    (handleAction lib view action params scope { info }).thrown.isSome := by
  revert checked few
  apply handleAction_cases (motive := fun action reply =>
    (action = ascii "permission" → ¬UncheckedSet params scope) →
    params.length < neededParams action params → reply.thrown.isSome) { info }
  · intro _ few
    exact absurd few (Nat.not_lt_zero _)
  · intro _ few
    exact handleHandshake_few few
  · intro _ few
    exact absurd few (Nat.not_lt_zero _)
  · intro action listed _ few
    simp only [List.mem_cons, List.not_mem_nil, or_false] at listed
    rcases listed with rfl | rfl | rfl | rfl | rfl
    · exact absurd few (Nat.not_lt_zero _)
    · exact handleOnNetwork_few few (by decide) (by decide)
    · exact handleOnNetwork_few few (by decide) (by decide)
    · exact handleOnNetwork_few few (by decide) (by decide)
    · exact absurd few (Nat.not_lt_zero _)
  · intro action listed _ few
    apply handleOnChannel_few
    simp only [List.mem_cons, List.not_mem_nil, or_false] at listed
    rcases listed with rfl | rfl | rfl | rfl | rfl | rfl
    · exact few
    · exact few
    · exact few
    · exact few
    · exact few
    · exact few
  · intro _ few
    exact absurd few (Nat.not_lt_zero _)
  · intro _ few
    exact absurd few (Nat.not_lt_zero _)
  · intro _ few
    exact handleCommand_few few
  · intro _ few
    exact handleProperty_few few
  · intro _ few
    exact handleConfig_few few
  · intro checked few
    exact handlePermission_few (checked rfl) few
  · intro action unknown _ few
    rfl

/-- The request has fewer parameters than its action needs. -/
def TooFewParams (input : Json) : Prop :=
  ∃ params action, readParams input = .ok params ∧ readAction input = .ok action ∧
    params.length < neededParams action params

theorem handleAccesses_inRange (lib : Libraries) (view : View) (input : Json)
    (info : SocketInfo) :
    (∀ access ∈ handleAccesses lib view input info, access.InRange) ↔ ¬LacksPermission input := by
  unfold handleAccesses LacksPermission
  cases read : readParams input with
  | error what => simp
  | ok params =>
      cases asked : readAction input with
      | error what => simp
      | ok action =>
          dsimp only
          rw [actionAccesses_inRange]
          simp

/-- It is a read past the end that stops `handle`. -/
theorem handle_overrun_iff (lib : Libraries) (view : View) (input : Json) (info : SocketInfo) :
    (handle lib view input info).overrun = true ↔
      ∃ access ∈ handleAccesses lib view input info, ¬access.InRange := by
  rw [handle_overrun, ← not_iff_not, ← handleAccesses_inRange lib view input info]
  simp

/-- So nothing depends on what lies there. -/
theorem handle_unspecified (unspecified : ByteString) (view : View) (input : Json)
    (info : SocketInfo) :
    handle { lib with unspecified } view input info = handle lib view input info := by
  unfold handle
  cases readParams input with
  | error what => rfl
  | ok params =>
      cases readAction input with
      | error what => rfl
      | ok action => exact handleAction_unspecified

/-- `handle` stays within `params` and `scope`, and refuses requests with too few parameters,
but for `permission set` with two parameters, which makes it access the third. -/
theorem accesses_checked_iff (lib : Libraries) (view : View) (input : Json) (info : SocketInfo) :
    ((∀ access ∈ handleAccesses lib view input info, access.InRange) ∧
      (TooFewParams input → (handle lib view input info).thrown.isSome)) ↔
      ¬LacksPermission input := by
  constructor
  · intro both
    exact (handleAccesses_inRange lib view input info).mp both.1
  · intro checked
    refine ⟨(handleAccesses_inRange lib view input info).mpr checked, ?_⟩
    rintro ⟨params, action, read, asked, few⟩
    unfold handle
    rw [read, asked]
    dsimp only
    apply handleAction_few action _ few
    intro permission set
    exact checked ⟨params, read, permission ▸ asked, set⟩

/-- The third of two parameters is accessed, and no exception says that it is missing. -/
theorem missing_permission_accessed :
    ⟨2, 2⟩ ∈ handleAccesses (.knowing []) .bare setRequest {} ∧
      ¬Access.InRange ⟨2, 2⟩ ∧ TooFewParams setRequest ∧
      (handle (.knowing []) .bare setRequest {}).thrown = none := by
  refine ⟨?_, Nat.lt_irrefl 2, ⟨[ascii "set", ascii "p"], ascii "permission", rfl, rfl, ?_⟩, ?_⟩
  · decide +kernel
  · decide +kernel
  · decide +kernel

end PluginComm

end DaZeus
