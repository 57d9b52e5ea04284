import Mathlib.Data.Finset.Max
import DaZeus.Database.Mongo
import DaZeus.Database.Postgres

/-!
# Keys of a namespace

What `propertyKeys` returns, against the names that are missing behind a prefix
and a dot.  The SQL backends return whole keys.  MongoDB drops as many bytes
as the prefix has and one more, whatever that one is.
-/

namespace DaZeus.Database

open Library

/-- The keys are what is stored in the namespace. -/
def Namespace (stored : Text → Prop) (start : Text) (keys : List Text) : Prop :=
  ∀ key, key ∈ keys ↔ stored (start ++ '.' :: key)

/-! ## Whole keys -/

/-- Among keys that are not cut, one that is in its own namespace would need a longer one. -/
theorem namespace_uncut {stored : Text → Prop} {start : Text} {keys : List Text}
    (uncut : ∀ key, key ∈ keys ↔ stored key ∧ startsWith start key = true) :
    Namespace stored start keys ↔ ∀ key, stored key → startsWith start key = false := by
  have empty : keys = [] ↔ ∀ key, stored key → startsWith start key = false := by
    rw [List.eq_nil_iff_forall_not_mem]
    apply forall_congr'
    intro key
    rw [uncut, not_and, Bool.not_eq_true]
  rw [← empty]
  constructor
  · intro named
    by_contra filled
    obtain ⟨longest, inside, most⟩ :=
      keys.toFinset.exists_max_image List.length (List.toFinset_nonempty_iff _ |>.mpr filled)
    rw [List.mem_toFinset] at inside
    have longer : start ++ '.' :: longest ∈ keys.toFinset := by
      rw [List.mem_toFinset, uncut]
      exact ⟨(named longest).mp inside, startsWith_iff.mpr (List.prefix_append _ _)⟩
    have grown := most _ longer
    simp only [List.length_append, List.length_cons] at grown
    omega
  · rintro rfl key
    refine ⟨fun inside => absurd inside List.not_mem_nil, fun stored => ?_⟩
    have listed := (uncut (start ++ '.' :: key)).mpr
      ⟨stored, startsWith_iff.mpr (List.prefix_append _ _)⟩
    exact absurd listed List.not_mem_nil

/-- The rows of one scope. -/
theorem mem_properties_scope {table : Table Property} {start key : Text} {scope : Scope} :
    key ∈ properties table start scope ↔
      (∃ row ∈ table, row.entry = (key, scope)) ∧ startsWith start key = true := by
  simp only [properties, List.mem_map, Table.mem_select, Bool.and_eq_true, decide_eq_true_eq,
    Property.entry, Prod.mk.injEq]
  constructor
  · rintro ⟨row, ⟨stored, starts, rfl⟩, rfl⟩
    exact ⟨⟨row, stored, rfl, rfl⟩, starts⟩
  · rintro ⟨⟨row, stored, rfl, rfl⟩, starts⟩
    exact ⟨row, ⟨stored, starts, rfl⟩, rfl⟩

/-! ## MongoDB -/

/-- What is not in the sources: how the server reads regular expressions, and whether the client
library has a packet for a reply without documents. -/
structure MongoClient where
  finds : (expression text : Text) → Bool
  emptyPacket : Bool

/-- The string that begins so many bytes behind the start of a text. -/
inductive Pointed where
  | text (text : Text)
  /-- It begins inside a character. -/
  | broken
  /-- It begins behind the NUL at the end. -/
  | outside
  deriving DecidableEq

def pointed : Nat → Text → Pointed
  | 0, text => .text text
  | _ + 1, [] => .outside
  | bytes + 1, character :: rest =>
      if character.utf8Size ≤ bytes + 1 then pointed (bytes + 1 - character.utf8Size) rest
      else .broken

/-- `std::string::length` -/
def byteLength : Text → Nat
  | [] => 0
  | character :: rest => character.utf8Size + byteLength rest

/-- `"^\\Q" << prefix << "\\E"` -/
def quoted (start : Text) : Text := ['^', '\\', 'Q'] ++ start ++ ['\\', 'E']

namespace MongoDatabase

/-- The documents that `propertyKeys` asks for; in their scope they are those that `setProperty`
would update. -/
def listed (client : MongoClient) (start : Text) (scope : Scope) (document : Document) : Bool :=
  client.finds (quoted start) document.key && (exactly document.key scope).selects document

def propertyKeys (client : MongoClient) (db : MongoDatabase) (scope : Scope) (start : Text) :
    Except String (List Pointed) :=
  let documents := db.properties.select (listed client start scope)
  if documents = [] ∧ client.emptyPacket = false then
    .error "Failed to execute query"
  else
    .ok (documents.map fun document => pointed (byteLength start + 1) document.key)

end MongoDatabase

theorem pointed_cons {bytes : Nat} (some : bytes ≠ 0) (character : Char) (rest : Text) :
    pointed bytes (character :: rest) =
      if character.utf8Size ≤ bytes then pointed (bytes - character.utf8Size) rest
      else .broken := by
  cases bytes with
  | zero => exact absurd rfl some
  | succ bytes => rfl

theorem pointed_append (start : Text) {extra : Nat} (some : extra ≠ 0) (rest : Text) :
    pointed (byteLength start + extra) (start ++ rest) = pointed extra rest := by
  induction start with
  | nil => rw [byteLength, Nat.zero_add, List.nil_append]
  | cons character start inductionHypothesis =>
      rw [byteLength, List.cons_append, pointed_cons (by omega), if_pos (by omega), Nat.add_assoc,
        Nat.add_sub_cancel_left, inductionHypothesis]

/-- One byte on. -/
theorem pointed_one {rest key : Text} :
    pointed 1 rest = .text key ↔
      ∃ character, character.utf8Size = 1 ∧ rest = character :: key := by
  cases rest with
  | nil => simp [pointed]
  | cons character rest =>
      have positive := character.utf8Size_pos
      rw [pointed_cons Nat.one_ne_zero]
      split
      · next single =>
          have one : character.utf8Size = 1 := by omega
          rw [one]
          simp [pointed, one]
      · next wide =>
          simp only [reduceCtorEq, false_iff, not_exists, not_and]
          intro other one same
          cases same
          omega

theorem drop_behind (start : Text) (character : Char) (rest : Text) :
    (start ++ character :: rest).drop (start.length + 1) = rest := by
  rw [← List.drop_drop, List.drop_left]
  rfl

/-- Some document holds the key in the scope, as `setProperty` has it. -/
def MongoDatabase.Stores (db : MongoDatabase) (scope : Scope) (key : Text) : Prop :=
  ∃ document ∈ db.properties, (exactly key scope).selects document = true

/-- The answer consists of the names in the namespace. -/
def Answers (stored : Text → Prop) (start : Text) (answer : Except String (List Pointed)) :
    Prop :=
  ∃ keys : List Text, answer = .ok (keys.map .text) ∧ Namespace stored start keys

/-- Behind the prefix, each key has a character of one byte and a name of the namespace; and
without any such key the client library has a packet nevertheless. -/
structure Listable (client : MongoClient) (stored : Text → Prop) (start : Text) : Prop where
  answered : client.emptyPacket = true ∨ ∃ key, stored key ∧ startsWith start key = true
  behind : ∀ key, stored key → startsWith start key = true → ∃ character rest,
    key = start ++ character :: rest ∧ character.utf8Size = 1 ∧ stored (start ++ '.' :: rest)

namespace MongoDatabase

variable {client : MongoClient} {db : MongoDatabase} {start key : Text} {scope : Scope}

theorem selects_key {document : Document}
    (selected : (exactly key scope).selects document = true) : document.key = key := by
  simp only [Selector.selects, Bool.and_eq_true, decide_eq_true_eq] at selected
  have same : (exactly key scope).key = key := by
    unfold exactly
    split
    · split
      · split <;> rfl
      · rfl
    · rfl
  exact selected.1.1.1.trans same

theorem mem_listed
    (literal : ∀ text, client.finds (quoted start) text = startsWith start text) :
    (∃ document ∈ db.properties.select (listed client start scope), document.key = key) ↔
      db.Stores scope key ∧ startsWith start key = true := by
  simp only [Table.mem_select, listed, literal, Bool.and_eq_true, Stores]
  constructor
  · rintro ⟨document, ⟨stored, starts, selected⟩, rfl⟩
    exact ⟨⟨document, stored, selected⟩, starts⟩
  · rintro ⟨⟨document, stored, selected⟩, starts⟩
    have same := selects_key selected
    subst same
    exact ⟨document, ⟨stored, starts, selected⟩, rfl⟩

theorem propertyKeys_answers
    (literal : ∀ text, client.finds (quoted start) text = startsWith start text) :
    Answers (db.Stores scope) start (db.propertyKeys client scope start) ↔
      Listable client (db.Stores scope) start := by
  have listed_iff (key : Text) :
      (∃ document ∈ db.properties.select (listed client start scope), document.key = key) ↔
        db.Stores scope key ∧ startsWith start key = true := mem_listed literal
  unfold propertyKeys
  generalize db.properties.select (listed client start scope) = documents at listed_iff ⊢
  constructor
  · rintro ⟨keys, returned, named⟩
    dsimp only at returned
    split at returned
    · cases returned
    · next answered =>
        have texts := Except.ok.inj returned
        constructor
        · by_contra silent
          simp only [not_or, not_exists, Bool.not_eq_true] at silent
          refine answered ⟨List.eq_nil_iff_forall_not_mem.mpr fun document inside => ?_, silent.1⟩
          exact silent.2 _ ((listed_iff _).mp ⟨document, inside, rfl⟩)
        · intro key stored starts
          obtain ⟨document, inside, rfl⟩ := (listed_iff key).mpr ⟨stored, starts⟩
          obtain ⟨rest, whole⟩ := startsWith_iff.mp starts
          have cut := List.mem_map_of_mem
            (f := fun document => pointed (byteLength start + 1) document.key) inside
          rw [texts, ← whole, pointed_append start Nat.one_ne_zero] at cut
          obtain ⟨name, found, same⟩ := List.mem_map.mp cut
          obtain ⟨character, single, rfl⟩ := pointed_one.mp same.symm
          exact ⟨character, name, whole.symm, single, (named name).mp found⟩
  · rintro ⟨answered, behind⟩
    refine ⟨documents.map fun document => document.key.drop (start.length + 1), ?_, fun key => ?_⟩
    · rw [if_neg]
      · rw [List.map_map]
        apply congrArg Except.ok
        apply List.map_congr_left
        intro document inside
        obtain ⟨stored, starts⟩ := (listed_iff _).mp ⟨document, inside, rfl⟩
        obtain ⟨character, rest, whole, single, -⟩ := behind _ stored starts
        rw [whole, pointed_append start Nat.one_ne_zero, Function.comp_apply, whole, drop_behind]
        exact pointed_one.mpr ⟨character, single, rfl⟩
      · rintro ⟨none, silent⟩
        obtain ⟨key, stored, starts⟩ := answered.resolve_left (by simp [silent])
        obtain ⟨document, inside, -⟩ := (listed_iff key).mpr ⟨stored, starts⟩
        rw [none] at inside
        exact absurd inside List.not_mem_nil
    · rw [List.mem_map]
      constructor
      · rintro ⟨document, inside, rfl⟩
        obtain ⟨stored, starts⟩ := (listed_iff _).mp ⟨document, inside, rfl⟩
        obtain ⟨character, rest, whole, -, named⟩ := behind _ stored starts
        rw [whole, drop_behind]
        exact named
      · intro stored
        have starts := startsWith_iff.mpr (List.prefix_append start ('.' :: key))
        obtain ⟨document, inside, whole⟩ := (listed_iff _).mpr ⟨stored, starts⟩
        exact ⟨document, inside, by rw [whole, drop_behind]⟩

end MongoDatabase

/-! ## All backends -/

/-- Every key of the scope that starts with the prefix is in the way of the SQL backends, which
return it whole.  MongoDB answers as it should if each has a character of one byte and then a
name of the namespace behind the prefix; the prefix must not end the quotation in the regular
expression. -/
theorem propertyKeys_namespace_iff (sqlite : SQLiteDatabase) (postgres : PostgreSQLDatabase)
    (mongo : MongoDatabase) (client : MongoClient)
    (literal : ∀ start text, ¬['\\', 'E'] <:+: start →
      client.finds (quoted start) text = startsWith start text)
    (start : Text) (scope : Scope) :
    (Namespace (fun key => ∃ row ∈ sqlite.properties, row.entry = (key, scope)) start
        (sqlite.propertyKeys scope start) ↔
      ∀ row ∈ sqlite.properties, row.scope = scope → startsWith start row.key = false) ∧
    ((∃ keys, postgres.propertyKeys scope start = .ok keys ∧
        Namespace (fun key => ∃ row ∈ postgres.properties, row.entry = (key, scope)) start keys) ↔
      ∀ row ∈ postgres.properties, row.scope = scope → startsWith start row.key = false) ∧
    (¬['\\', 'E'] <:+: start →
      (Answers (mongo.Stores scope) start (mongo.propertyKeys client scope start) ↔
        Listable client (mongo.Stores scope) start)) := by
  have rows (table : Table Property) :
      Namespace (fun key => ∃ row ∈ table, row.entry = (key, scope)) start
          (properties table start scope) ↔
        ∀ row ∈ table, row.scope = scope → startsWith start row.key = false := by
    apply (namespace_uncut fun key => mem_properties_scope).trans
    constructor
    · rintro apart row stored rfl
      exact apart row.key ⟨row, stored, rfl⟩
    · rintro apart key ⟨row, stored, same⟩
      cases same
      exact apart row stored rfl
  refine ⟨rows sqlite.properties, ?_, fun plain => ?_⟩
  · rw [← rows postgres.properties]
    have returned : postgres.propertyKeys scope start =
        .ok (properties postgres.properties start scope) := by
      unfold PostgreSQLDatabase.propertyKeys prepared
      rw [if_pos (by decide)]
    rw [returned]
    constructor
    · rintro ⟨keys, same, named⟩
      cases same
      exact named
    · exact fun named => ⟨_, rfl, named⟩
  · exact MongoDatabase.propertyKeys_answers fun text => literal start text plain

/-- A server that has seen only quoted texts, and a client library that takes a reply without
documents for an error. -/
def quotingClient : MongoClient where
  finds expression text := startsWith (expression.drop 3).dropLast.dropLast text
  emptyPacket := false

theorem quotingClient_finds (start text : Text) :
    quotingClient.finds (quoted start) text = startsWith start text := by
  simp [quotingClient, quoted, List.dropLast_append_of_ne_nil]

/-- A key outside of the namespace for SQLite, and one inside for MongoDB. -/
theorem propertyKeys_namespace_iff_small :
    let row : Property := ⟨['a'], ['1'], {}⟩
    let document : Document := ⟨['b', '.', 'c'], ['1'], none, none, none⟩
    Namespace (fun key => ∃ other ∈ [row], other.entry = (key, {})) ['b']
        (({ properties := [row] } : SQLiteDatabase).propertyKeys {} ['b']) ∧
      Answers (({ properties := [document] } : MongoDatabase).Stores {}) ['b']
        (({ properties := [document] } : MongoDatabase).propertyKeys quotingClient {} ['b']) := by
  intro row document
  obtain ⟨sqlite, -, mongo⟩ := propertyKeys_namespace_iff { properties := [row] } {}
    { properties := [document] } quotingClient (fun start text _ => quotingClient_finds start text)
    ['b'] {}
  have held : ({ properties := [document] } : MongoDatabase).Stores {} ['b', '.', 'c'] :=
    ⟨document, List.mem_singleton_self _, by decide⟩
  refine ⟨sqlite.mpr (by decide), (mongo (by decide)).mpr ⟨.inr ⟨_, held, by decide⟩, ?_⟩⟩
  rintro key ⟨other, inside, selected⟩ -
  rw [← MongoDatabase.selects_key selected, List.mem_singleton.mp inside]
  exact ⟨'.', ['c'], rfl, by decide, held⟩

/-- SQLite repeats the namespace.  MongoDB goes past the end of a key that is the prefix itself,
takes a key without a dot for one of the namespace, and fails where there is none. -/
theorem propertyKeys_uncut :
    let row : Property := ⟨['b', '.', 'c'], ['1'], {}⟩
    let sqlite : SQLiteDatabase := { properties := [row] }
    let mongo (keys : List Text) : Except String (List Pointed) :=
      ({ properties := keys.map fun key => ⟨key, ['1'], none, none, none⟩ } :
        MongoDatabase).propertyKeys quotingClient {} ['b']
    sqlite.propertyKeys {} ['b'] = [['b', '.', 'c']] ∧
      ¬Namespace (fun key => ∃ other ∈ [row], other.entry = (key, {})) ['b']
        (sqlite.propertyKeys {} ['b']) ∧
      mongo [['b']] = .ok [.outside] ∧
      mongo [['b', 'c', 'd']] = .ok [.text ['d']] ∧
      mongo [] = .error "Failed to execute query" := by
  intro row sqlite mongo
  refine ⟨by decide, fun named => ?_, by decide +kernel⟩
  have name := (named ['c']).mpr ⟨row, List.mem_singleton_self _, rfl⟩
  exact absurd name (by decide)

end DaZeus.Database
