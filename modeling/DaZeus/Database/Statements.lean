import DaZeus.Library.Table

/-!
# The tables of the SQL backends

The rows of `dazeus_properties` and `dazeus_permissions`, and the statements
that SQLite and PostgreSQL share.  Above them are the maps the tables stand
for: `findProperty_eq` says that sorting the rows by scope, as the statement
does, finds the entry of the first populated scope.
-/

namespace DaZeus.Database

open Library

/-- A text is counted and cut by characters. -/
abbrev Text := List Char

/-- The columns `network`, `receiver` and `sender`; the empty text stands for no restriction. -/
structure Scope where
  network : Text := []
  receiver : Text := []
  sender : Text := []
  deriving DecidableEq

/-- A row of `dazeus_properties`.  Nothing reads its two time stamps. -/
structure Property where
  key : Text
  value : Text
  scope : Scope
  deriving DecidableEq

/-- A row of `dazeus_permissions`. -/
structure Permission where
  permission : Text
  scope : Scope
  deriving DecidableEq

/-- What the order of a database is relied on for: the empty text comes before all others. -/
structure Collation where
  le : Text → Text → Bool
  total : ∀ first second, le first second ∨ le second first
  trans : ∀ {first second third}, le first second → le second third → le first third
  empty_le : ∀ text, le [] text
  eq_empty : ∀ {text}, le text [] → text = []

/-- The same key and scope columns. -/
def Property.entry (row : Property) : Text × Scope := (row.key, row.scope)

/-- `(network = ?2 OR network = '') AND ...` -/
def Scope.covers (row asked : Scope) : Bool :=
  (row.network = asked.network || row.network = []) &&
    (row.receiver = asked.receiver || row.receiver = []) &&
    (row.sender = asked.sender || row.sender = [])

/-- `ORDER BY network DESC, receiver DESC, sender DESC` -/
def Collation.narrowestFirst (collation : Collation) : Scope → Scope → Bool :=
  Table.byDescending collation.le [(·.network), (·.receiver), (·.sender)]

/-- The statement `find_property`. -/
def findProperty (collation : Collation) (table : Table Property) (key : Text) (scope : Scope) :
    Option Property :=
  ((table.select fun row => row.key = key && row.scope.covers scope).orderBy
    fun first second => collation.narrowestFirst first.scope second.scope).head?

/-- `SUBSTR(key, 1, LENGTH(?1)) = ?1` -/
def startsWith (start key : Text) : Bool := key.take start.length = start

/-- The statement `properties`. -/
def properties (table : Table Property) (start : Text) (scope : Scope) : List Text :=
  (table.select fun row => startsWith start row.key && row.scope = scope).map (·.key)

/-! ## The maps behind the tables -/

/-- The value of each key in each scope. -/
abbrev Properties := Text → Scope → Option Text

namespace Properties

/-- The empty value unsets the entry. -/
def set (store : Properties) (key value : Text) (scope : Scope) : Properties :=
  fun otherKey otherScope =>
    if otherKey = key ∧ otherScope = scope then
      if value = [] then none else some value
    else
      store otherKey otherScope

end Properties

/-- The arguments of a call of `setProperty`. -/
structure Assignment where
  key : Text
  value : Text
  scope : Scope

def Properties.assign (store : Properties) (calls : List Assignment) : Properties :=
  calls.foldl (fun store call => store.set call.key call.value call.scope) store

/-- What a column of a row may hold for this text of the query. -/
def orEmpty (text : Text) : List Text := if text = [] then [[]] else [text, []]

/-- The scopes that cover this one, the narrowest first. -/
def Scope.fallbacks (scope : Scope) : List Scope :=
  (orEmpty scope.network).flatMap fun network =>
    (orEmpty scope.receiver).flatMap fun receiver =>
      (orEmpty scope.sender).map fun sender => { network, receiver, sender }

/-- The first populated scope decides. -/
def Properties.property (store : Properties) (key : Text) (scope : Scope) : Text :=
  (scope.fallbacks.findSome? (store key)).getD []

/-- The table holds the map. -/
def Holds (table : Table Property) (store : Properties) : Prop :=
  ∀ row, row ∈ table ↔ store row.key row.scope = some row.value

variable {collation : Collation} {table : Table Property} {store : Properties}
variable {key value start : Text} {scope : Scope}

/-- No call stores the empty value. -/
theorem Properties.set_nonempty (nonempty : ∀ key scope, store key scope ≠ some [])
    (otherKey : Text) (otherScope : Scope) :
    store.set key value scope otherKey otherScope ≠ some [] := by
  unfold Properties.set
  split
  · split <;> simp_all
  · exact nonempty otherKey otherScope

theorem Properties.assign_nonempty {calls : List Assignment}
    (nonempty : ∀ key scope, store key scope ≠ some []) (key : Text) (scope : Scope) :
    store.assign calls key scope ≠ some [] := by
  induction calls generalizing store with
  | nil => exact nonempty key scope
  | cons call rest inductionHypothesis =>
      apply inductionHypothesis
      exact Properties.set_nonempty nonempty

theorem Collation.le_refl (text : Text) : collation.le text text = true :=
  (collation.total text text).elim id id

@[simp]
theorem Collation.le_empty {text : Text} : collation.le text [] = true ↔ text = [] :=
  ⟨collation.eq_empty, by rintro rfl; exact collation.empty_le []⟩

theorem Collation.narrowestFirst_trans {first second third : Scope}
    (earlier : collation.narrowestFirst first second = true)
    (later : collation.narrowestFirst second third = true) :
    collation.narrowestFirst first third = true := by
  unfold Collation.narrowestFirst at *
  apply Table.byDescending_trans ?_ earlier later
  exact collation.trans

/-- The first row, the narrowest scope first. -/
theorem Collation.head_narrowestFirst {rows : Table Property} {best : Property}
    (found : (rows.orderBy fun first second =>
      collation.narrowestFirst first.scope second.scope).head? = some best) :
    best ∈ rows ∧ ∀ row ∈ rows, collation.narrowestFirst best.scope row.scope = true := by
  apply Table.head_orderBy ?_ ?_ found
  · exact fun first second => Table.byDescending_total collation.total _ _ _
  · exact fun earlier later => Collation.narrowestFirst_trans earlier later

theorem mem_orEmpty {text : Text} : value ∈ orEmpty text ↔ value = text ∨ value = [] := by
  unfold orEmpty
  split <;> simp_all

theorem orEmpty_findSome? {α : Type} (text : Text) (found : Text → Option α) :
    (orEmpty text).findSome? found = [text, []].findSome? found := by
  unfold orEmpty
  split
  · next empty =>
      simp only [empty, List.findSome?_cons]
      cases found [] <;> rfl
  · rfl

/-- All eight scopes in order; those that coincide do no harm. -/
theorem fallbacks_findSome? {α : Type} (store : Scope → Option α)
    (network receiver sender : Text) :
    (Scope.fallbacks ⟨network, receiver, sender⟩).findSome? store =
      [⟨network, receiver, sender⟩, ⟨network, receiver, []⟩, ⟨network, [], sender⟩,
        ⟨network, [], []⟩, ⟨[], receiver, sender⟩, ⟨[], receiver, []⟩, ⟨[], [], sender⟩,
        ⟨[], [], []⟩].findSome? store := by
  have every : [⟨network, receiver, sender⟩, ⟨network, receiver, []⟩, ⟨network, [], sender⟩,
      ⟨network, [], []⟩, ⟨[], receiver, sender⟩, ⟨[], receiver, []⟩, ⟨[], [], sender⟩,
      ⟨[], [], []⟩] =
        [network, []].flatMap fun network => [receiver, []].flatMap fun receiver =>
          [sender, []].map fun sender => (⟨network, receiver, sender⟩ : Scope) := rfl
  rw [every, Scope.fallbacks]
  simp only [← List.head?_filterMap (f := store), List.filterMap_flatMap, List.head?_flatMap,
    List.filterMap_map]
  simp only [List.head?_filterMap, orEmpty_findSome?]

theorem mem_fallbacks {row : Scope} : row.covers scope = true ↔ row ∈ scope.fallbacks := by
  obtain ⟨network, receiver, sender⟩ := row
  simp only [Scope.covers, Scope.fallbacks, Bool.and_eq_true, Bool.or_eq_true, decide_eq_true_eq,
    List.mem_flatMap, List.mem_map, mem_orEmpty, Scope.mk.injEq]
  constructor
  · rintro ⟨⟨networks, receivers⟩, senders⟩
    exact ⟨network, networks, receiver, receivers, sender, senders, rfl, rfl, rfl⟩
  · rintro ⟨_, networks, _, receivers, _, senders, rfl, rfl, rfl⟩
    exact ⟨⟨networks, receivers⟩, senders⟩

/-- Of two scopes that cover the same one, the later one comes before only if they are one. -/
theorem fallbacks_sorted (scope : Scope) :
    scope.fallbacks.Pairwise fun earlier later =>
      collation.narrowestFirst later earlier = true → later = earlier := by
  obtain ⟨network, receiver, sender⟩ := scope
  by_cases noNetwork : network = [] <;> by_cases noReceiver : receiver = [] <;>
    by_cases noSender : sender = [] <;>
      simp [Scope.fallbacks, orEmpty, Collation.narrowestFirst, Table.byDescending, noNetwork,
        noReceiver, noSender, collation.empty_le, collation.le_refl]

/-- Rows that hold the entries of these scopes, given the narrowest first: sorting finds the
entry of the first populated one. -/
theorem first_populated {rows : Table Property} {scopes : List Scope}
    (sorted : scopes.Pairwise fun earlier later =>
      collation.narrowestFirst later earlier = true → later = earlier)
    (entries : ∀ row, row ∈ rows ↔
      row.key = key ∧ row.scope ∈ scopes ∧ store key row.scope = some row.value) :
    ((rows.orderBy fun first second =>
        collation.narrowestFirst first.scope second.scope).head?).map (·.value) =
      scopes.findSome? (store key) := by
  cases found : scopes.findSome? (store key) with
  | none =>
      rw [Table.head_orderBy_none]
      · rfl
      · intro row membership
        obtain ⟨rfl, inside, populated⟩ := (entries row).mp membership
        rw [List.findSome?_eq_none_iff.mp found _ inside] at populated
        cases populated
  | some value =>
      obtain ⟨narrower, best, wider, split, populated, unpopulated⟩ :=
        List.findSome?_eq_some_iff.mp found
      have inside : best ∈ scopes := by simp [split]
      rw [split] at sorted
      have stored : (⟨key, value, best⟩ : Property) ∈ rows :=
        (entries ⟨key, value, best⟩).mpr ⟨rfl, inside, populated⟩
      suffices first : (rows.orderBy fun first second =>
          collation.narrowestFirst first.scope second.scope).head? =
            some ⟨key, value, best⟩ by
        rw [first]
        rfl
      apply Table.head_orderBy_eq
      · exact fun first second => Table.byDescending_total collation.total _ _ _
      · exact fun earlier later => Collation.narrowestFirst_trans earlier later
      · exact stored
      · intro row membership earlier
        obtain ⟨rfl, covered, held⟩ := (entries row).mp membership
        -- a row of a narrower scope would have been found before
        rw [split] at covered
        have same : row.scope = best := by
          rcases List.mem_append.mp covered with narrow | wide
          · rw [unpopulated _ narrow] at held
            cases held
          · rcases List.mem_cons.mp wide with here | wide
            · exact here
            · exact (List.pairwise_cons.mp (List.pairwise_append.mp sorted).2.1).1 _ wide earlier
        rw [same, populated] at held
        cases held
        rw [← same]

variable (collation) in
/-- Sorting finds the entry of the first populated scope. -/
theorem findProperty_eq (holds : Holds table store) :
    (findProperty collation table key scope).map (·.value) =
      scope.fallbacks.findSome? (store key) := by
  apply first_populated (fallbacks_sorted scope)
  intro row
  simp only [Table.mem_select, Bool.and_eq_true, decide_eq_true_eq, holds row, mem_fallbacks]
  constructor
  · rintro ⟨populated, rfl, covers⟩
    exact ⟨rfl, covers, populated⟩
  · rintro ⟨rfl, covers, populated⟩
    exact ⟨populated, rfl, covers⟩

theorem startsWith_iff : startsWith start key = true ↔ start <+: key := by
  rw [startsWith, decide_eq_true_eq, List.prefix_iff_eq_take, eq_comm]

theorem mem_properties (holds : Holds table store) :
    key ∈ properties table start scope ↔
      (store key scope).isSome ∧ startsWith start key = true := by
  simp only [properties, List.mem_map, Table.mem_select, Bool.and_eq_true, decide_eq_true_eq]
  constructor
  · rintro ⟨row, ⟨stored, starts, rfl⟩, rfl⟩
    exact ⟨Option.isSome_of_mem ((holds row).mp stored), starts⟩
  · rintro ⟨populated, starts⟩
    obtain ⟨value, populated⟩ := Option.isSome_iff_exists.mp populated
    exact ⟨⟨key, value, scope⟩, ⟨(holds _).mpr populated, starts, rfl⟩, rfl⟩

/-- The compound key keeps the keys of one scope apart. -/
theorem properties_nodup (unique : table.Unique Property.entry) :
    (properties table start scope).Nodup := by
  unfold Table.Unique List.Nodup at unique
  rw [List.pairwise_map] at unique
  unfold properties List.Nodup
  rw [List.pairwise_map]
  apply List.Pairwise.imp_of_mem ?_ (unique.sublist List.filter_sublist)
  intro first second inFirst inSecond different same
  apply different
  simp only [List.mem_filter, Bool.and_eq_true, decide_eq_true_eq] at inFirst inSecond
  rw [Property.entry, Property.entry, same, inFirst.2.2, inSecond.2.2]

/-- The statement `remove_property` unsets the entry. -/
theorem Holds.delete (holds : Holds table store) :
    Holds (table.delete fun row => row.entry = (key, scope)) (store.set key [] scope) := by
  intro row
  simp only [Table.mem_delete, decide_eq_false_iff_not, Property.entry, Prod.mk.injEq,
    Properties.set]
  by_cases same : row.key = key ∧ row.scope = scope
  · simp [same]
  · simp [same, holds row]

/-- Any table in which the new row is the only one of its entry, and nothing else changed. -/
theorem Holds.set {changed : Table Property} (holds : Holds table store) (nonempty : value ≠ [])
    (rows : ∀ row, row ∈ changed ↔ row = ⟨key, value, scope⟩ ∨
      row ∈ table ∧ row.entry ≠ (key, scope)) :
    Holds changed (store.set key value scope) := by
  intro row
  rw [rows row, Properties.set]
  by_cases same : row.key = key ∧ row.scope = scope
  · obtain ⟨rfl, rfl⟩ := same
    rw [if_pos ⟨rfl, rfl⟩, if_neg nonempty]
    cases row
    simp [Property.entry, eq_comm]
  · have other : row ≠ ⟨key, value, scope⟩ := by
      rintro rfl
      exact same ⟨rfl, rfl⟩
    simp only [other, false_or, holds row, Property.entry, ne_eq, Prod.mk.injEq, same,
      not_false_eq_true, and_true, if_false]

end DaZeus.Database
