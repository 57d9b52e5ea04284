import DaZeus.Database.Sqlite

/-!
# The MongoDB backend

A document leaves the fields below its scope null.  `property` asks only for
the levels it is given, so that the documents further down are asked for as
well: `property_scoped_iff` says that this is what goes wrong, and all of it.
The scopes are nested here; no text holds a NUL, since all come from JSON.
-/

namespace DaZeus.Database

open Library

/-- A document of `properties`.  The source calls the key `variable`; an absent field is null. -/
structure Document where
  key : Text
  value : Text
  network : Option Text
  receiver : Option Text
  sender : Option Text
  deriving DecidableEq

/-- What a selector says of a field. -/
inductive Condition where
  | unmentioned
  | equal (value : Option Text)
  | oneOf (values : List (Option Text))

def Condition.selects : Condition → Option Text → Bool
  | unmentioned, _ => true
  | equal value, field => field = value
  | oneOf values, field => field ∈ values

/-- A field of the document that an upsert makes of a selector. -/
def Condition.field : Condition → Option Text
  | equal value => value
  | _ => none

structure Selector where
  key : Text
  network : Condition := .unmentioned
  receiver : Condition := .unmentioned
  sender : Condition := .unmentioned

def Selector.selects (selector : Selector) (document : Document) : Bool :=
  document.key = selector.key && selector.network.selects document.network &&
    selector.receiver.selects document.receiver && selector.sender.selects document.sender

/-- `MONGO_WIRE_FLAG_UPDATE_UPSERT` with `$set`: the first document, or a new one. -/
def upsert (selector : Selector) (value : Text) : Table Document → Table Document
  | [] =>
      [{ key := selector.key, value, network := selector.network.field
         receiver := selector.receiver.field, sender := selector.sender.field }]
  | document :: rest =>
      if selector.selects document then
        { document with value } :: rest
      else
        document :: upsert selector value rest

/-- Null sorts below the strings. -/
def Collation.nullable (collation : Collation) : Option Text → Option Text → Bool
  | none, _ => true
  | some _, none => false
  | some first, some second => collation.le first second

structure MongoDatabase where
  properties : Table Document := []
  deriving DecidableEq

namespace MongoDatabase

/-- The selector of `setProperty`. -/
def exactly (key : Text) (scope : Scope) : Selector :=
  if scope.network ≠ [] then
    if scope.receiver ≠ [] then
      if scope.sender ≠ [] then
        { key, network := .equal (some scope.network), receiver := .equal (some scope.receiver)
          sender := .equal (some scope.sender) }
      else
        { key, network := .equal (some scope.network), receiver := .equal (some scope.receiver)
          sender := .equal none }
    else
      { key, network := .equal (some scope.network), receiver := .equal none
        sender := .equal none }
  else
    { key, network := .equal none, receiver := .equal none, sender := .equal none }

/-- The selector of `property`. -/
def reaching (key : Text) (scope : Scope) : Selector :=
  if scope.network ≠ [] then
    if scope.receiver ≠ [] then
      if scope.sender ≠ [] then
        { key, network := .oneOf [some scope.network, none]
          receiver := .oneOf [some scope.receiver, none]
          sender := .oneOf [some scope.sender, none] }
      else
        { key, network := .oneOf [some scope.network, none]
          receiver := .oneOf [some scope.receiver, none] }
    else
      { key, network := .oneOf [some scope.network, none] }
  else
    { key }

variable (db : MongoDatabase) (collation : Collation) (key value : Text) (scope : Scope)

/-- The only document of the packet; none without a packet. -/
def result : Option Document :=
  ((db.properties.select (reaching key scope).selects).orderBy
    (Table.byDescending collation.nullable [(·.network), (·.receiver), (·.sender)])).head?

def property : Text :=
  match db.result collation key scope with
  | none => []
  | some document => document.value

def setProperty : MongoDatabase :=
  { properties :=
      if value = [] then
        db.properties.delete (exactly key scope).selects
      else
        upsert (exactly key scope) value db.properties }

end MongoDatabase

/-! ## Nested scopes -/

/-- A receiver comes with its network, and a sender with its receiver. -/
def Scope.Nested (scope : Scope) : Prop :=
  (scope.receiver ≠ [] → scope.network ≠ []) ∧ (scope.sender ≠ [] → scope.receiver ≠ [])

instance (scope : Scope) : Decidable scope.Nested :=
  inferInstanceAs (Decidable (_ ∧ _))

abbrev NestedScope := { scope : Scope // scope.Nested }

/-- The scope and those around it, the most specific first. -/
def Scope.prefixes (scope : Scope) : List Scope :=
  [scope, { scope with sender := [] }, { network := scope.network }, {}]

/-- A scope further down. -/
def Scope.Inside (inner asked : Scope) : Prop :=
  inner.Nested ∧ asked ∈ inner.prefixes ∧ inner ≠ asked

def Document.scope (document : Document) : Scope where
  network := document.network.getD []
  receiver := document.receiver.getD []
  sender := document.sender.getD []

/-- The entry that the document stands for. -/
def Document.property (document : Document) : Property :=
  { key := document.key, value := document.value, scope := document.scope }

structure Document.WellFormed (document : Document) : Prop where
  network : document.network ≠ some []
  receiver : document.receiver ≠ some []
  sender : document.sender ≠ some []
  nested : document.scope.Nested

/-- The documents stand for the map, each entry once. -/
structure Represents (documents : Table Document) (store : Properties) : Prop where
  holds : Holds (documents.map Document.property) store
  unique : Table.Unique Property.entry (documents.map Document.property)
  wellFormed : ∀ document ∈ documents, document.WellFormed

open MongoDatabase

variable {db : MongoDatabase} {collation : Collation} {document : Document}
variable {key value : Text} {scope asked inner : Scope} {store : Properties}
variable {documents : Table Document}

/-- A column of a document, and what a nested scope asks of it. -/
def column (text : Text) : Option Text := if text = [] then none else some text

def reach (text : Text) : Condition :=
  if text = [] then .unmentioned else .oneOf [some text, none]

theorem eq_column {field : Option Text} {text : Text} (wellFormed : field ≠ some []) :
    field = column text ↔ field.getD [] = text := by
  unfold column
  cases field with
  | none => split <;> simp_all [eq_comm]
  | some held => split <;> simp_all

theorem selects_reach {field : Option Text} {text : Text} (wellFormed : field ≠ some []) :
    (reach text).selects field = true ↔
      text = [] ∨ field.getD [] = text ∨ field.getD [] = [] := by
  unfold reach
  cases field <;> split <;> simp_all [Condition.selects]

theorem exactly_eq (nested : scope.Nested) :
    exactly key scope =
      { key, network := .equal (column scope.network), receiver := .equal (column scope.receiver)
        sender := .equal (column scope.sender) } := by
  obtain ⟨receivers, senders⟩ := nested
  unfold exactly column
  split
  · split
    · split <;> simp_all
    · simp_all
  · simp_all

theorem reaching_eq (nested : scope.Nested) :
    reaching key scope =
      { key, network := reach scope.network, receiver := reach scope.receiver
        sender := reach scope.sender } := by
  obtain ⟨receivers, senders⟩ := nested
  unfold reaching reach
  split
  · split
    · split <;> simp_all
    · simp_all
  · simp_all

theorem selects_exactly (nested : scope.Nested) (wellFormed : document.WellFormed) :
    (exactly key scope).selects document =
      decide (document.property.entry = (key, scope)) := by
  rw [exactly_eq nested, Bool.eq_iff_iff, decide_eq_true_eq]
  simp only [Selector.selects, Condition.selects, Bool.and_eq_true, decide_eq_true_eq,
    eq_column wellFormed.network, eq_column wellFormed.receiver, eq_column wellFormed.sender]
  obtain ⟨network, receiver, sender⟩ := scope
  simp only [Property.entry, Document.property, Document.scope, Prod.mk.injEq, Scope.mk.injEq]
  tauto

/-- The selector of `property` reaches the scopes around the asked one and those inside it. -/
theorem selects_reaching (nested : asked.Nested) (wellFormed : document.WellFormed) :
    (reaching key asked).selects document = true ↔ document.key = key ∧
      (document.scope ∈ asked.prefixes ∨ document.scope.Inside asked) := by
  rw [reaching_eq nested]
  simp only [Selector.selects, Bool.and_eq_true, decide_eq_true_eq,
    selects_reach wellFormed.network, selects_reach wellFormed.receiver,
    selects_reach wellFormed.sender]
  have below := wellFormed.nested
  change ((_ ∧ (_ ∨ document.scope.network = _ ∨ document.scope.network = _)) ∧
    (_ ∨ document.scope.receiver = _ ∨ document.scope.receiver = _)) ∧
    (_ ∨ document.scope.sender = _ ∨ document.scope.sender = _) ↔ _
  rw [and_assoc, and_assoc]
  apply and_congr_right
  intro _
  generalize document.scope = found at below ⊢
  obtain ⟨network, receiver, sender⟩ := found
  obtain ⟨askedNetwork, askedReceiver, askedSender⟩ := asked
  simp only [Scope.Nested, Scope.Inside, Scope.prefixes, List.mem_cons, Scope.mk.injEq,
    List.not_mem_nil, or_false] at *
  grind

theorem nullable_eq {first second : Option Text} (wellFormed : first ≠ some []) :
    collation.nullable first second = collation.le (first.getD []) (second.getD []) := by
  cases first with
  | none => exact (collation.empty_le _).symm
  | some first =>
      cases second with
      | some second => rfl
      | none =>
          have above : collation.le first [] ≠ true := by
            intro least
            exact wellFormed (congrArg some (Collation.le_empty.mp least))
          exact (Bool.eq_false_iff.mpr above).symm

variable (collation key asked) in
/-- The documents are sorted by scope, as the rows of the other backends are. -/
theorem result_property (wellFormed : ∀ document ∈ db.properties, document.WellFormed) :
    (db.result collation key asked).map Document.property =
      (Table.orderBy (fun first second => collation.narrowestFirst first.scope second.scope)
        ((db.properties.select (reaching key asked).selects).map Document.property)).head? := by
  unfold result Table.orderBy
  rw [← List.head?_map]
  congr 1
  apply List.map_insertionSort
  intro first inFirst second inSecond
  have first := wellFormed first (Table.mem_select.mp inFirst).1
  have second := wellFormed second (Table.mem_select.mp inSecond).1
  simp only [Collation.narrowestFirst, Table.byDescending, nullable_eq first.network,
    nullable_eq first.receiver, nullable_eq first.sender, nullable_eq second.network,
    nullable_eq second.receiver, nullable_eq second.sender]
  rfl

variable (collation) in
/-- Of a nested scope and those around it, the later one comes before only if they are one. -/
theorem prefixes_sorted (nested : asked.Nested) :
    asked.prefixes.Pairwise fun earlier later =>
      collation.narrowestFirst later earlier = true → later = earlier := by
  obtain ⟨network, receiver, sender⟩ := asked
  obtain ⟨receivers, senders⟩ := nested
  simp only at receivers senders
  by_cases noNetwork : network = [] <;> by_cases noReceiver : receiver = [] <;>
    by_cases noSender : sender = [] <;>
      simp_all [Scope.prefixes, Collation.narrowestFirst, Table.byDescending, collation.empty_le,
        collation.le_refl]

variable (collation) in
/-- No scope around the asked one comes before a scope inside it. -/
theorem inside_first {outer : Scope} (outside : outer ∈ asked.prefixes)
    (inside : inner.Inside asked) :
    collation.narrowestFirst outer inner = false := by
  obtain ⟨network, receiver, sender⟩ := inner
  obtain ⟨below, around, other⟩ := inside
  obtain ⟨receivers, senders⟩ := below
  rw [← Bool.not_eq_true]
  intro first
  simp only [Scope.prefixes, List.mem_cons, List.not_mem_nil, or_false] at around outside
  simp only at receivers senders
  rcases around with rfl | rfl | rfl | rfl
  · exact other rfl
  all_goals
    rcases outside with rfl | rfl | rfl | rfl <;>
      simp_all [Collation.narrowestFirst, Table.byDescending, collation.empty_le,
        collation.le_refl]

/-! ## The map behind the documents -/

theorem Represents.empty : Represents [] fun _ _ => none where
  holds := by simp [Holds]
  unique := List.nodup_nil
  wellFormed := by simp

theorem Represents.delete (represents : Represents documents store) (nested : scope.Nested) :
    Represents (documents.delete (exactly key scope).selects) (store.set key [] scope) := by
  have same : (documents.delete (exactly key scope).selects).map Document.property =
      Table.delete (fun row => row.entry = (key, scope)) (documents.map Document.property) := by
    unfold Table.delete
    rw [List.filter_map]
    congr 1
    apply List.filter_congr
    intro document membership
    rw [Function.comp_apply, selects_exactly nested (represents.wellFormed document membership)]
  constructor
  · rw [same]
    exact represents.holds.delete
  · rw [same]
    exact represents.unique.delete
  · intro document membership
    exact represents.wellFormed document (Table.mem_delete.mp membership).1

/-- The document that an upsert makes of its selector. -/
theorem upserted_wellFormed (nested : scope.Nested) :
    (Document.mk key value (column scope.network) (column scope.receiver)
      (column scope.sender)).WellFormed ∧
    (Document.mk key value (column scope.network) (column scope.receiver)
      (column scope.sender)).property = ⟨key, value, scope⟩ := by
  have getD_column : ∀ text, (column text).getD [] = text := by
    intro text
    unfold column
    split <;> simp_all
  have nonempty : ∀ text, column text ≠ some [] := by
    intro text
    unfold column
    split <;> simp_all
  have same : (Document.mk key value (column scope.network) (column scope.receiver)
      (column scope.sender)).scope = scope := by
    simp only [Document.scope, getD_column]
  refine ⟨⟨nonempty _, nonempty _, nonempty _, ?_⟩, ?_⟩
  · rw [same]
    exact nested
  · rw [Document.property, same]

theorem upsert_wellFormed (nested : scope.Nested)
    (wellFormed : ∀ document ∈ documents, document.WellFormed) :
    ∀ document ∈ upsert (exactly key scope) value documents, document.WellFormed := by
  induction documents with
  | nil =>
      rw [exactly_eq nested]
      intro document membership
      rw [List.mem_singleton.mp membership]
      exact (upserted_wellFormed nested).1
  | cons first rest inductionHypothesis =>
      obtain ⟨here, later⟩ := List.forall_mem_cons.mp wellFormed
      unfold upsert
      split
      · exact List.forall_mem_cons.mpr
          ⟨⟨here.network, here.receiver, here.sender, here.nested⟩, later⟩
      · exact List.forall_mem_cons.mpr ⟨here, inductionHypothesis later⟩

variable (key value) in
/-- An upsert replaces the row of the entry where it stands, or adds it at the end. -/
theorem upsert_properties (nested : scope.Nested)
    (wellFormed : ∀ document ∈ documents, document.WellFormed)
    (unique : Table.Unique Property.entry (documents.map Document.property)) (row : Property) :
    row ∈ (upsert (exactly key scope) value documents).map Document.property ↔
      row = ⟨key, value, scope⟩ ∨
        row ∈ documents.map Document.property ∧ row.entry ≠ (key, scope) := by
  induction documents with
  | nil =>
      unfold upsert
      rw [exactly_eq nested, List.map_singleton, List.mem_singleton]
      simp [Condition.field, (upserted_wellFormed nested).2]
  | cons first rest inductionHypothesis =>
      obtain ⟨here, later⟩ := List.forall_mem_cons.mp wellFormed
      obtain ⟨apart, unique⟩ := List.nodup_cons.mp unique
      unfold upsert
      rw [selects_exactly nested here]
      by_cases same : first.property.entry = (key, scope)
      · rw [if_pos (decide_eq_true same), List.map_cons, List.mem_cons]
        have replaced : Document.property { first with value } = ⟨key, value, scope⟩ := by
          simp only [Property.entry, Document.property, Prod.mk.injEq] at same
          rw [← same.1, ← same.2]
          rfl
        rw [replaced, List.map_cons, List.mem_cons]
        apply or_congr_right
        constructor
        · intro membership
          refine ⟨.inr membership, fun entry => apart ?_⟩
          rw [same, ← entry]
          exact List.mem_map_of_mem membership
        · rintro ⟨rfl | membership, other⟩
          · exact absurd same other
          · exact membership
      · rw [if_neg (by simpa using same), List.map_cons, List.mem_cons,
          inductionHypothesis later unique, List.map_cons, List.mem_cons]
        constructor
        · rintro (rfl | new | ⟨membership, other⟩)
          · exact .inr ⟨.inl rfl, same⟩
          · exact .inl new
          · exact .inr ⟨.inr membership, other⟩
        · rintro (new | ⟨old | membership, other⟩)
          · exact .inr (.inl new)
          · exact .inl old
          · exact .inr (.inr ⟨membership, other⟩)

theorem upsert_unique (nested : scope.Nested)
    (wellFormed : ∀ document ∈ documents, document.WellFormed)
    (unique : Table.Unique Property.entry (documents.map Document.property)) :
    Table.Unique Property.entry
      ((upsert (exactly key scope) value documents).map Document.property) := by
  induction documents with
  | nil => exact List.nodup_singleton _
  | cons first rest inductionHypothesis =>
      obtain ⟨here, later⟩ := List.forall_mem_cons.mp wellFormed
      have members := upsert_properties key value nested later
        (List.nodup_cons.mp unique).2
      unfold upsert
      split
      · exact unique
      · next other =>
          rw [selects_exactly nested here, decide_eq_true_eq] at other
          apply List.nodup_cons.mpr
          refine ⟨fun taken => ?_, inductionHypothesis later (List.nodup_cons.mp unique).2⟩
          obtain ⟨row, membership, same⟩ := List.mem_map.mp taken
          rcases (members row).mp membership with rfl | ⟨old, -⟩
          · exact other same.symm
          · exact (List.nodup_cons.mp unique).1 (List.mem_map.mpr ⟨row, old, same⟩)

/-- One call keeps the documents a map. -/
theorem Represents.setProperty (represents : Represents db.properties store)
    (nested : scope.Nested) :
    Represents (db.setProperty key value scope).properties (store.set key value scope) := by
  unfold MongoDatabase.setProperty
  by_cases empty : value = []
  · subst empty
    simp only [if_true]
    exact represents.delete nested
  · simp only [if_neg empty]
    constructor
    · apply represents.holds.set empty
      exact upsert_properties key value nested represents.wellFormed represents.unique
    · exact upsert_unique nested represents.wellFormed represents.unique
    · exact upsert_wellFormed nested represents.wellFormed

/-- A call of `setProperty` with a nested scope. -/
structure MongoDatabase.Call where
  key : Text
  value : Text
  scope : NestedScope

def MongoDatabase.assign (db : MongoDatabase) (calls : List Call) : MongoDatabase :=
  calls.foldl (fun db call => db.setProperty call.key call.value call.scope) db

def MongoDatabase.Call.assignment (call : Call) : Assignment := ⟨call.key, call.value, call.scope⟩

theorem Represents.assign {calls : List Call} (represents : Represents db.properties store) :
    Represents (db.assign calls).properties (store.assign (calls.map Call.assignment)) := by
  induction calls generalizing db store with
  | nil => exact represents
  | cons call rest inductionHypothesis =>
      apply inductionHypothesis
      exact represents.setProperty call.scope.property

/-! ## What `property` finds -/

/-- The documents that the selector reaches, as rows. -/
theorem mem_reached (represents : Represents db.properties store) (nested : asked.Nested)
    {row : Property} :
    row ∈ (db.properties.select (reaching key asked).selects).map Document.property ↔
      row.key = key ∧ (row.scope ∈ asked.prefixes ∨ row.scope.Inside asked) ∧
        store key row.scope = some row.value := by
  simp only [List.mem_map, Table.mem_select]
  constructor
  · rintro ⟨document, ⟨stored, selected⟩, rfl⟩
    obtain ⟨rfl, reached⟩ :=
      (selects_reaching nested (represents.wellFormed document stored)).mp selected
    exact ⟨rfl, reached, (represents.holds _).mp (List.mem_map_of_mem stored)⟩
  · rintro ⟨rfl, reached, populated⟩
    obtain ⟨document, stored, rfl⟩ := List.mem_map.mp ((represents.holds row).mpr populated)
    have selected := (selects_reaching nested (represents.wellFormed document stored)).mpr
      ⟨rfl, reached⟩
    exact ⟨document, ⟨stored, selected⟩, rfl⟩

/-- With nothing stored inside the asked scope, the first populated scope around it decides. -/
theorem property_eq_of_outside (represents : Represents db.properties store)
    (nested : asked.Nested) (outside : ∀ inner, inner.Inside asked → store key inner = none) :
    db.property collation key asked = (asked.prefixes.findSome? (store key)).getD [] ∧
      ∀ document, db.result collation key asked = some document →
        document.scope ∈ asked.prefixes := by
  have rows : ∀ row, row ∈
      (db.properties.select (reaching key asked).selects).map Document.property ↔
        row.key = key ∧ row.scope ∈ asked.prefixes ∧ store key row.scope = some row.value := by
    intro row
    rw [mem_reached represents nested]
    constructor
    · rintro ⟨same, around | inside, populated⟩
      · exact ⟨same, around, populated⟩
      · rw [outside _ inside] at populated
        cases populated
    · rintro ⟨same, around, populated⟩
      exact ⟨same, .inl around, populated⟩
  have sorted := result_property collation key asked represents.wellFormed
  constructor
  · have first := first_populated (prefixes_sorted collation nested) rows
    rw [← sorted] at first
    rw [← first]
    unfold MongoDatabase.property
    cases db.result collation key asked <;> rfl
  · intro document found
    rw [found] at sorted
    exact ((rows _).mp (Table.mem_orderBy.mp (List.mem_of_head? sorted.symm))).2.1

variable (collation) in
/-- A document inside the asked scope is preferred to all around it. -/
theorem result_inside (represents : Represents db.properties store) (nested : asked.Nested)
    (inside : inner.Inside asked) (populated : store key inner = some value) :
    ∃ document, db.result collation key asked = some document ∧
      document.scope ∉ asked.prefixes := by
  have reached : ⟨key, value, inner⟩ ∈
      (db.properties.select (reaching key asked).selects).map Document.property :=
    (mem_reached represents nested).mpr ⟨rfl, .inr inside, populated⟩
  have sorted := result_property collation key asked represents.wellFormed
  cases found : db.result collation key asked with
  | none =>
      rw [found, Option.map_none, eq_comm, List.head?_eq_none_iff] at sorted
      have absent := List.eq_nil_iff_forall_not_mem.mp sorted
      exact absurd (Table.mem_orderBy.mpr reached) (absent _)
  | some document =>
      refine ⟨document, rfl, fun around => ?_⟩
      rw [found] at sorted
      have least := (Collation.head_narrowestFirst sorted.symm).2 _ reached
      have later := inside_first collation around inside
      exact Bool.false_ne_true (later.symm.trans least)

/-- The answer is the one of the most specific populated scope, and from no other scope, if and
only if nothing is stored inside the asked scope. -/
theorem MongoDatabase.property_scoped_iff (collation : Collation) (calls : List Call) (key : Text)
    (asked : NestedScope) :
    let db := MongoDatabase.assign {} calls
    let store := Properties.assign (fun _ _ => none) (calls.map Call.assignment)
    (db.property collation key asked = (asked.val.prefixes.findSome? (store key)).getD [] ∧
      ∀ document, db.result collation key asked = some document →
        document.scope ∈ asked.val.prefixes) ↔
    ∀ inner, inner.Inside asked → store key inner = none := by
  intro db store
  have represents : Represents db.properties store := Represents.assign .empty
  constructor
  · rintro ⟨-, answered⟩ inner inside
    by_contra stored
    obtain ⟨value, populated⟩ := Option.ne_none_iff_exists'.mp stored
    obtain ⟨document, found, other⟩ := result_inside collation represents
      asked.property inside populated
    exact other (answered document found)
  · exact property_eq_of_outside represents asked.property

/-- A value for one network is the answer to a query for none. -/
theorem MongoDatabase.network_value_global :
    ¬((MongoDatabase.assign {} [⟨['k'], ['v'], ⟨{ network := ['n'] }, by decide⟩⟩]).property
        binary ['k'] {} =
      ((Scope.prefixes {}).findSome? (Properties.assign (fun _ _ => none)
        [⟨['k'], ['v'], { network := ['n'] }⟩] ['k'])).getD []) := by
  decide

end DaZeus.Database
