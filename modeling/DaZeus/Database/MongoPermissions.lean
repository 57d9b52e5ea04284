import DaZeus.Database.Mongo
import DaZeus.Database.Permissions

/-!
# Permissions in the MongoDB backend

`hasPermission` asks for four scopes, one after the other, and takes the empty
text for a channel or a sender like any other there.  No document holds it, as
the calls that write make a null of it, so that the steps in which it stands for
none find nothing.
-/

namespace DaZeus.Database

open Library

/-- A document of `permissions`. -/
structure PermissionDocument where
  name : Text
  network : Text
  permission : Bool
  channel : Option Text
  sender : Option Text
  deriving DecidableEq

structure PermissionSelector where
  name : Text
  network : Text
  channel : Option Text
  sender : Option Text

def PermissionSelector.selects (selector : PermissionSelector) (document : PermissionDocument) :
    Bool :=
  document.name = selector.name && document.network = selector.network &&
    document.channel = selector.channel && document.sender = selector.sender

/-- What a step of the loop leaves open; the last value of the source ends the loop. -/
inductive PermSelectMode where
  | all
  | sender
  | channel
  | network
  deriving DecidableEq

namespace PermSelectMode

def order : List PermSelectMode := [all, sender, channel, network]

def selector (mode : PermSelectMode) (name : Text) (scope : Scope) : PermissionSelector where
  name
  network := scope.network
  channel := if mode = all ∨ mode = channel then some scope.receiver else none
  sender := if mode = all ∨ mode = sender then some scope.sender else none

end PermSelectMode

structure MongoPermissions where
  permissions : Table PermissionDocument := []
  deriving DecidableEq

namespace MongoPermissions

variable (db : MongoPermissions) (scope : Scope) (name : Text)

/-- The document of the packet, which holds one at most. -/
def result (selector : PermissionSelector) : Option PermissionDocument :=
  db.permissions.find? selector.selects

/-- The loop of `hasPermission`, from this mode on. -/
def lookup : List PermSelectMode → Bool → Bool
  | [], defaultPermission => defaultPermission
  | mode :: rest, defaultPermission =>
      match db.result (mode.selector name scope) with
      | none => lookup rest defaultPermission
      | some document => document.permission

def hasPermission (defaultPermission : Bool) : Bool :=
  db.lookup scope name PermSelectMode.order defaultPermission

/-- The selector of the calls that write. -/
def writing : PermissionSelector where
  name
  network := scope.network
  channel := column scope.receiver
  sender := column scope.sender

def unsetPermission : MongoPermissions :=
  { permissions := db.permissions.delete (writing scope name).selects }

def setPermission (permission : Bool) : MongoPermissions :=
  let new : PermissionDocument :=
    { name, network := scope.network, permission
      channel := column scope.receiver, sender := column scope.sender }
  { permissions := db.permissions.upsert (writing scope name).selects new }

def permissionCall (db : MongoPermissions) : PermissionCall → MongoPermissions
  | .setPermission permission name scope => db.setPermission scope name permission
  | .unsetPermission name scope => db.unsetPermission scope name

end MongoPermissions

/-! ## The map behind the documents -/

open MongoPermissions

variable {db : MongoPermissions} {grants : Grants} {scope : Scope} {name : Text}

/-- The documents say what the calls have set, each scope by itself. -/
structure Tells (db : MongoPermissions) (grants : Grants) : Prop where
  told : ∀ name scope, (db.result (writing scope name)).map (·.permission) = grants name scope
  channel : ∀ document ∈ db.permissions, document.channel ≠ some []
  sender : ∀ document ∈ db.permissions, document.sender ≠ some []

theorem column_inj {first second : Text} : column first = column second ↔ first = second := by
  unfold column
  grind

theorem column_ne (text : Text) : column text ≠ some [] := by
  unfold column
  split <;> simp_all

theorem selects_writing {document : PermissionDocument} :
    (writing scope name).selects document = true ↔
      document.name = name ∧ document.network = scope.network ∧
        document.channel = column scope.receiver ∧ document.sender = column scope.sender := by
  simp only [PermissionSelector.selects, Bool.and_eq_true, decide_eq_true_eq, and_assoc]
  exact Iff.rfl

/-- The selectors of two scopes have no document in common. -/
theorem writing_apart {otherName : Text} {other : Scope}
    (different : ¬(otherName = name ∧ other = scope)) (document : PermissionDocument)
    (selected : (writing scope name).selects document = true) :
    (writing other otherName).selects document = false := by
  rw [Bool.eq_false_iff]
  intro both
  obtain ⟨rfl, network, channel, sender⟩ := selects_writing.mp selected
  obtain ⟨rfl, otherNetwork, otherChannel, otherSender⟩ := selects_writing.mp both
  obtain ⟨_, _, _⟩ := scope
  obtain ⟨_, _, _⟩ := other
  cases otherNetwork.symm.trans network
  cases column_inj.mp (otherChannel.symm.trans channel)
  cases column_inj.mp (otherSender.symm.trans sender)
  exact different ⟨rfl, rfl⟩

theorem Tells.call (tells : Tells db grants) (call : PermissionCall) :
    Tells (db.permissionCall call) (grants.call call) := by
  cases call with
  | setPermission permission name scope =>
      have own : (writing scope name).selects ⟨name, scope.network, permission,
          column scope.receiver, column scope.sender⟩ = true :=
        selects_writing.mpr ⟨rfl, rfl, rfl, rfl⟩
      constructor
      · intro otherName other
        unfold Grants.call permissionCall setPermission
        dsimp only
        split
        · next same =>
            obtain ⟨rfl, rfl⟩ := same
            exact congrArg (Option.map _) (Table.find?_upsert own)
        · next different =>
            rw [← tells.told otherName other]
            exact congrArg (Option.map _) (Table.find?_upsert_other (writing_apart different) own)
      · intro document membership
        rcases Table.mem_upsert membership with rfl | old
        · exact column_ne scope.receiver
        · exact tells.channel document old
      · intro document membership
        rcases Table.mem_upsert membership with rfl | old
        · exact column_ne scope.sender
        · exact tells.sender document old
  | unsetPermission name scope =>
      constructor
      · intro otherName other
        unfold Grants.call permissionCall unsetPermission
        dsimp only
        split
        · next same =>
            obtain ⟨rfl, rfl⟩ := same
            exact congrArg (Option.map _) Table.find?_delete
        · next different =>
            rw [← tells.told otherName other]
            exact congrArg (Option.map _) (Table.find?_delete_other (writing_apart different))
      · intro document membership
        exact tells.channel document (Table.mem_delete.mp membership).1
      · intro document membership
        exact tells.sender document (Table.mem_delete.mp membership).1

theorem Tells.run (tells : Tells db grants) (calls : List PermissionCall) :
    Tells (calls.foldl permissionCall db) (calls.foldl Grants.call grants) := by
  induction calls generalizing db grants with
  | nil => exact tells
  | cons call rest inductionHypothesis => exact inductionHypothesis (tells.call call)

theorem Tells.empty : Tells {} fun _ _ => none where
  told _ _ := rfl
  channel _ membership := absurd membership List.not_mem_nil
  sender _ membership := absurd membership List.not_mem_nil

/-! ## The four steps -/

theorem lookup_eq (modes : List PermSelectMode) (defaultPermission : Bool) :
    db.lookup scope name modes defaultPermission =
      (modes.findSome? fun mode =>
        (db.result (mode.selector name scope)).map (·.permission)).getD defaultPermission := by
  induction modes with
  | nil => rfl
  | cons mode rest inductionHypothesis =>
      unfold lookup
      rw [List.findSome?_cons]
      cases db.result (mode.selector name scope) with
      | none => exact inductionHypothesis
      | some document => rfl

/-- The scope that a step asks for, with the empty text for none. -/
def PermSelectMode.asked (mode : PermSelectMode) (scope : Scope) : Scope where
  network := scope.network
  receiver := if mode = all ∨ mode = channel then scope.receiver else []
  sender := if mode = all ∨ mode = sender then scope.sender else []

/-- A step that asks for the empty text finds nothing, any other finds what its scope was set to. -/
theorem Tells.result_selector (tells : Tells db grants) (mode : PermSelectMode) :
    (db.result (mode.selector name scope)).map (·.permission) =
      if (mode = .all ∨ mode = .channel) ∧ scope.receiver = [] ∨
          (mode = .all ∨ mode = .sender) ∧ scope.sender = [] then
        none
      else
        grants name (mode.asked scope) := by
  split
  · next empty =>
      suffices nothing : db.result (mode.selector name scope) = none by
        rw [nothing]
        rfl
      apply List.find?_eq_none.mpr
      intro document stored selected
      simp only [PermissionSelector.selects, Bool.and_eq_true, decide_eq_true_eq] at selected
      rcases empty with ⟨given, none⟩ | ⟨given, none⟩
      · apply tells.channel document stored
        rw [selected.1.2, PermSelectMode.selector, if_pos given, none]
      · apply tells.sender document stored
        rw [selected.2, PermSelectMode.selector, if_pos given, none]
  · next filled =>
      rw [← tells.told]
      congr 2
      unfold PermSelectMode.selector PermSelectMode.asked writing column
      grind

theorem Tells.hasPermission (tells : Tells db grants) (defaultPermission : Bool) :
    db.hasPermission scope name defaultPermission =
      grants.hasPermission scope name defaultPermission := by
  unfold MongoPermissions.hasPermission
  rw [lookup_eq]
  congr 1
  obtain ⟨network, channel, sender⟩ := scope
  simp only [PermSelectMode.order, Scope.wider, PermSelectMode.asked, List.findSome?_cons,
    tells.result_selector, reduceCtorEq, or_true, or_false, or_self, if_true, if_false,
    true_and, false_and, false_or]
  -- the empty text makes a step fail that asks for a scope of a later step
  by_cases noChannel : channel = [] <;> by_cases noSender : sender = [] <;>
    simp only [noChannel, noSender, or_self, or_true, true_or, if_true, if_false] <;> grind

/-! ## One scope and the others -/

/-- The scope that decides: the first populated one. -/
def Grants.decider (grants : Grants) (scope : Scope) (name : Text) : Option Scope :=
  (scope :: scope.wider).find? fun asked => (grants name asked).isSome

def PermissionCall.entry : PermissionCall → Text × Scope
  | .setPermission _ name scope => (name, scope)
  | .unsetPermission name scope => (name, scope)

theorem Grants.call_other {call : PermissionCall} {other : Scope}
    (different : call.entry ≠ (name, other)) : grants.call call name other = grants name other := by
  have apart {callName : Text} {callScope : Scope}
      (different : (callName, callScope) ≠ (name, other)) :
      ¬(name = callName ∧ other = callScope) := by
    rintro ⟨rfl, rfl⟩
    exact different rfl
  cases call with
  | setPermission permission callName callScope => exact if_neg (apart different)
  | unsetPermission callName callScope => exact if_neg (apart different)

/-- A map that is changed in one place has the same first value, unless that place is the first. -/
theorem findSome?_frame {before after : Scope → Option Bool} {changed : Scope}
    (agree : ∀ other, other ≠ changed → after other = before other) {scopes : List Scope}
    (first : scopes.find? (fun scope => (before scope).isSome) ≠ some changed)
    (later : scopes.find? (fun scope => (after scope).isSome) ≠ some changed) :
    scopes.findSome? after = scopes.findSome? before := by
  induction scopes with
  | nil => rfl
  | cons scope rest inductionHypothesis =>
      rw [List.find?_cons] at first later
      rw [List.findSome?_cons, List.findSome?_cons]
      by_cases same : scope = changed
      · subst same
        cases held : before scope with
        | some permission => simp [held] at first
        | none =>
            cases set : after scope with
            | some permission => simp [set] at later
            | none =>
                rw [held] at first
                rw [set] at later
                exact inductionHypothesis first later
      · rw [agree scope same] at later ⊢
        cases held : before scope with
        | some permission => rfl
        | none =>
            rw [held] at first later
            exact inductionHypothesis first later

/-- The answer is what the first populated scope was last set to.  A call on a scope that decides
neither before nor after it does not change the answer. -/
theorem MongoPermissions.answers_first_populated (calls : List PermissionCall) (scope : Scope)
    (name : Text) (defaultPermission : Bool) :
    let db := calls.foldl permissionCall {}
    let grants := calls.foldl Grants.call fun _ _ => none
    db.hasPermission scope name defaultPermission =
        grants.hasPermission scope name defaultPermission ∧
      ∀ call : PermissionCall,
        (∀ decider, grants.decider scope name = some decider ∨
          (grants.call call).decider scope name = some decider → call.entry ≠ (name, decider)) →
        (db.permissionCall call).hasPermission scope name defaultPermission =
          db.hasPermission scope name defaultPermission := by
  intro db grants
  have tells : Tells db grants := Tells.empty.run calls
  refine ⟨tells.hasPermission defaultPermission, fun call elsewhere => ?_⟩
  rw [(tells.call call).hasPermission, tells.hasPermission]
  unfold Grants.hasPermission
  congr 1
  by_cases about : call.entry.1 = name
  · have agree (other : Scope) (different : other ≠ call.entry.2) :
        grants.call call name other = grants name other :=
      Grants.call_other fun same => different (congrArg Prod.snd same).symm
    apply findSome?_frame agree
    · exact fun first => elsewhere _ (.inl first) (Prod.ext about rfl)
    · exact fun later => elsewhere _ (.inr later) (Prod.ext about rfl)
  · have same : grants.call call name = grants name :=
      funext fun other => Grants.call_other fun same => about (congrArg Prod.fst same)
    rw [same]

end DaZeus.Database
