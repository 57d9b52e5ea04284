import DaZeus.Database.Statements

/-!
# The PostgreSQL backend

`PostgreSQLDatabase` holds the map that its `setProperty` calls describe as
long as they are `Supported`: the statement `update_property` inserts a new
row with its receiver and its sender exchanged, and a column of type
`VARCHAR(255)` does not take every text.
-/

namespace DaZeus.Database

open Library

inductive SqlError where
  | valueTooLong
  | uniqueViolation
  | unknownStatement
  deriving DecidableEq

/-- Assignment to a column of type `VARCHAR(n)`: only blanks may be cut off. -/
def varchar (limit : Nat) (text : Text) : Except SqlError Text :=
  if text.length ≤ limit then
    .ok text
  else if (text.drop limit).all (· = ' ') then
    .ok (text.take limit)
  else
    .error .valueTooLong

/-- The names that `bootstrapDB` prepares statements under. -/
def preparedStatements : List String :=
  ["find_table", "find_property", "remove_property", "update_property", "properties",
    "add_permission", "remove_permission", "has_permission"]

/-- `prepared(name)` looks the statement up before anything is sent. -/
def prepared {Result : Type} (name : String) (exec : Except SqlError Result) :
    Except SqlError Result :=
  if name ∈ preparedStatements then exec else .error .unknownStatement

/-- The columns of `dazeus_properties_pk`. -/
def Property.primaryKey (row : Property) : Text × Text × Scope := (row.key, row.value, row.scope)

structure PostgreSQLDatabase where
  properties : Table Property := []
  permissions : Table Permission := []
  deriving DecidableEq

/-- `INSERT INTO dazeus_properties(key, value, network, receiver, sender)`. -/
def insertProperty (table : Table Property) (key value network receiver sender : Text) :
    Except SqlError (Table Property) := do
  let key ← varchar 255 key
  let network ← varchar 255 network
  let receiver ← varchar 255 receiver
  let sender ← varchar 255 sender
  match table.insert Property.primaryKey
      { key, value, scope := { network, receiver, sender } } with
  | some table => .ok table
  | none => .error .uniqueViolation

/-- The statement `update_property`. -/
def upsertProperty (table : Table Property) (key value : Text) (scope : Scope) :
    Except SqlError (Table Property) :=
  let matching (row : Property) : Bool := row.entry = (key, scope)
  let upsert := table.select matching
  let updated := table.update matching fun row => { row with value }
  if ¬updated.Unique Property.primaryKey then
    .error .uniqueViolation
  else if upsert.isEmpty then
    -- SELECT key, value, network, sender, receiver FROM new_values
    insertProperty updated key value scope.network scope.sender scope.receiver
  else
    .ok updated

/-- The statement `add_permission`. -/
def insertPermission (table : Table Permission) (name : Text) (scope : Scope) :
    Except SqlError (Table Permission) :=
  if { permission := name, scope } ∈ table then
    .ok table
  else do
    let permission ← varchar 255 name
    let network ← varchar 255 scope.network
    let receiver ← varchar 255 scope.receiver
    let sender ← varchar 255 scope.sender
    match table.insert id { permission, scope := { network, receiver, sender } } with
    | some table => .ok table
    | none => .error .uniqueViolation

namespace PostgreSQLDatabase

variable (db : PostgreSQLDatabase) (collation : Collation) (key value : Text) (scope : Scope)

def property : Except SqlError Text :=
  prepared "find_property" <|
    match findProperty collation db.properties key scope with
    | some row => .ok row.value
    | none => .ok []

def setProperty : Except SqlError PostgreSQLDatabase :=
  if value = [] then
    prepared "remove_property" <|
      .ok { db with properties := db.properties.delete fun row => row.entry = (key, scope) }
  else
    prepared "update_property" <| do
      let properties ← upsertProperty db.properties key value scope
      return { db with properties }

def propertyKeys (start : Text) : Except SqlError (List Text) :=
  prepared "properties" <| .ok (Database.properties db.properties start scope)

/-- The first letter of the statement's name has a dot below it. -/
def hasPermission (name : Text) (defaultPermission : Bool) : Except SqlError Bool :=
  prepared "\u1e25as_permission" <|
    match db.permissions.select fun row => row = { permission := name, scope } with
    | _ :: _ => .ok true
    | [] => .ok defaultPermission

def unsetPermission (name : Text) : Except SqlError PostgreSQLDatabase :=
  prepared "remove_permission" <|
    .ok { db with permissions :=
            db.permissions.delete fun row => row = { permission := name, scope } }

/-- The `permission` argument has no name in the source either. -/
def setPermission (_permission : Bool) (name : Text) : Except SqlError PostgreSQLDatabase :=
  prepared "add_permission" <| do
    let permissions ← insertPermission db.permissions name scope
    return { db with permissions }

end PostgreSQLDatabase

/-! ## What the column types leave alone -/

theorem varchar_of_length {limit : Nat} {text : Text} (short : text.length ≤ limit) :
    varchar limit text = .ok text :=
  if_pos short

theorem varchar_length {limit : Nat} {text stored : Text}
    (assigned : varchar limit text = .ok stored) :
    stored.length ≤ limit := by
  unfold varchar at assigned
  split at assigned
  · cases assigned
    assumption
  · split at assigned
    · cases assigned
      exact List.length_take_le limit text
    · cases assigned

/-- Every column takes these texts as they are. -/
structure Fits (key : Text) (scope : Scope) : Prop where
  key : key.length ≤ 255
  network : scope.network.length ≤ 255
  receiver : scope.receiver.length ≤ 255
  sender : scope.sender.length ≤ 255

/-- The statement for an entry does what it is meant to do. -/
structure Supported (key : Text) (scope : Scope) : Prop where
  fits : Fits key scope
  symmetric : scope.receiver = scope.sender

/-- What runs of supported calls lead to. -/
structure Stored (table : Table Property) (store : Properties) : Prop where
  holds : Holds table store
  unique : table.Unique Property.entry
  supported : ∀ row ∈ table, Supported row.key row.scope

variable {table changed : Table Property} {store : Properties}
variable {key value : Text} {scope : Scope}

theorem insertProperty_fits (fits : Fits key scope)
    (fresh : ∀ row ∈ table, row.entry ≠ (key, scope)) :
    insertProperty table key value scope.network scope.receiver scope.sender =
      .ok (table ++ [⟨key, value, scope⟩]) := by
  have untaken : ({ key, value, scope } : Property).primaryKey ∉ table.map Property.primaryKey := by
    intro taken
    obtain ⟨row, membership, same⟩ := List.mem_map.mp taken
    simp only [Property.primaryKey, Prod.mk.injEq] at same
    exact fresh row membership (by rw [Property.entry, same.1, same.2.2])
  unfold insertProperty Table.insert
  simp only [varchar_of_length, fits.key, fits.network, fits.receiver, fits.sender, bind,
    Except.bind, if_neg untaken]

theorem insertProperty_stores {network receiver sender : Text}
    (completed : insertProperty table key value network receiver sender = .ok changed) :
    ∃ row : Property, changed = table ++ [row] ∧ varchar 255 key = .ok row.key ∧
      varchar 255 network = .ok row.scope.network ∧
      varchar 255 receiver = .ok row.scope.receiver ∧
      varchar 255 sender = .ok row.scope.sender := by
  unfold insertProperty Table.insert at completed
  cases keys : varchar 255 key <;> cases networks : varchar 255 network <;>
    cases receivers : varchar 255 receiver <;> cases senders : varchar 255 sender <;>
      simp only [keys, networks, receivers, senders, bind, Except.bind, reduceCtorEq]
        at completed
  split at completed
  · next inserted =>
      split at inserted
      · cases inserted
      · cases inserted
        cases completed
        exact ⟨_, rfl, rfl, rfl, rfl, rfl⟩
  · cases completed

theorem entry_of_primaryKey {row other : Property} (same : row.primaryKey = other.primaryKey) :
    row.entry = other.entry := by
  simp only [Property.primaryKey, Prod.mk.injEq] at same
  rw [Property.entry, Property.entry, same.1, same.2.2]

/-- The rows of an update are the one of its entry, with the new value, and the others. -/
theorem mem_updated {matched : Property} (membership : matched ∈ table)
    (entry : matched.entry = (key, scope)) (row : Property) :
    row ∈ table.update (fun row => row.entry = (key, scope)) (fun row => { row with value }) ↔
      row = ⟨key, value, scope⟩ ∨ row ∈ table ∧ row.entry ≠ (key, scope) := by
  simp only [Table.mem_update, decide_eq_true_eq, decide_eq_false_iff_not, Property.entry,
    ne_eq, Prod.mk.injEq] at entry ⊢
  constructor
  · rintro (other | ⟨old, -, ⟨rfl, rfl⟩, rfl⟩)
    · exact .inr other
    · exact .inl rfl
  · rintro (rfl | other)
    · exact .inr ⟨matched, membership, entry, by rw [entry.1, entry.2]⟩
    · exact .inl other

/-- Without a row of the entry the statement comes down to the insertion. -/
theorem upsertProperty_absent (unique : table.Unique Property.entry)
    (absent : ∀ row ∈ table, row.entry ≠ (key, scope)) :
    upsertProperty table key value scope =
      insertProperty table key value scope.network scope.sender scope.receiver := by
  have nothing : ∀ row ∈ table, decide (row.entry = (key, scope)) = false :=
    fun row membership => decide_eq_false (absent row membership)
  have finer : table.Unique Property.primaryKey :=
    unique.refine entry_of_primaryKey
  have empty : (table.select fun row => row.entry = (key, scope)).isEmpty = true := by
    simpa [Table.select] using absent
  unfold upsertProperty
  simp only [Table.update_eq_self nothing, finer, empty, not_true_eq_false, if_false, if_true]

/-- With one, it comes down to the update. -/
theorem upsertProperty_present {matched : Property} (unique : table.Unique Property.entry)
    (membership : matched ∈ table) (entry : matched.entry = (key, scope)) :
    upsertProperty table key value scope =
      .ok (table.update (fun row => row.entry = (key, scope)) fun row => { row with value }) := by
  have kept : Table.Unique Property.entry
      (table.update (fun row => row.entry = (key, scope)) fun row => { row with value }) :=
    unique.update fun _ => rfl
  have finer := kept.refine entry_of_primaryKey
  have nonempty : (table.select fun row => row.entry = (key, scope)).isEmpty = false := by
    rw [List.isEmpty_eq_false_iff]
    exact List.ne_nil_of_mem (Table.mem_select.mpr ⟨membership, decide_eq_true entry⟩)
  unfold upsertProperty
  simp only [finer, nonempty, not_true_eq_false, if_false, Bool.false_eq_true]

theorem Stored.upsert (stored : Stored table store) (nonempty : value ≠ [])
    (supported : Supported key scope) :
    ∃ changed, upsertProperty table key value scope = .ok changed ∧
      Stored changed (store.set key value scope) := by
  by_cases present : ∃ matched ∈ table, matched.entry = (key, scope)
  · obtain ⟨matched, membership, entry⟩ := present
    refine ⟨_, upsertProperty_present stored.unique membership entry, ?_,
      stored.unique.update fun _ => rfl, ?_⟩
    · exact stored.holds.set nonempty (mem_updated membership entry)
    · intro row inside
      rcases (mem_updated membership entry row).mp inside with rfl | ⟨old, -⟩
      · exact supported
      · exact stored.supported row old
  · have absent : ∀ row ∈ table, row.entry ≠ (key, scope) :=
      fun row membership same => present ⟨row, membership, same⟩
    have inserted : upsertProperty table key value scope =
        .ok (table ++ [⟨key, value, scope⟩]) := by
      rw [upsertProperty_absent stored.unique absent]
      have inserted : insertProperty table key value scope.network scope.receiver scope.sender =
          .ok (table ++ [⟨key, value, scope⟩]) := insertProperty_fits supported.fits absent
      rwa [supported.symmetric] at inserted ⊢
    refine ⟨_, inserted, stored.holds.set nonempty fun row => ?_, stored.unique.append ?_, ?_⟩
    · rw [List.mem_append, List.mem_singleton, or_comm]
      exact or_congr_right ⟨fun old => ⟨old, absent row old⟩, And.left⟩
    · intro taken
      obtain ⟨row, membership, same⟩ := List.mem_map.mp taken
      exact absent row membership same
    · intro row inside
      rcases List.mem_append.mp inside with old | new
      · exact stored.supported row old
      · rw [List.mem_singleton.mp new]
        exact supported

/-- A statement for another entry fails, or does not store that entry. -/
theorem Stored.upsert_unsupported (stored : Stored table store)
    (unsupported : ¬Supported key scope)
    (completed : upsertProperty table key value scope = .ok changed) :
    ∀ row ∈ changed, row.entry ≠ (key, scope) := by
  have absent : ∀ row ∈ table, row.entry ≠ (key, scope) := by
    intro row membership same
    have supported := stored.supported row membership
    simp only [Property.entry, Prod.mk.injEq] at same
    rw [same.1, same.2] at supported
    exact unsupported supported
  rw [upsertProperty_absent stored.unique absent] at completed
  obtain ⟨new, rfl, keys, networks, receivers, senders⟩ := insertProperty_stores completed
  intro row inside
  rcases List.mem_append.mp inside with old | inserted
  · exact absent row old
  · rw [List.mem_singleton.mp inserted]
    intro same
    simp only [Property.entry, Prod.mk.injEq] at same
    obtain ⟨rfl, rfl⟩ := same
    -- the receiver is what was stored of the sender, and the other way round
    have symmetric : new.scope.receiver = new.scope.sender := by
      rw [varchar_of_length (varchar_length senders)] at receivers
      exact (Except.ok.inj receivers).symm
    exact unsupported ⟨⟨varchar_length keys, varchar_length networks, varchar_length receivers,
      varchar_length senders⟩, symmetric⟩

end DaZeus.Database
