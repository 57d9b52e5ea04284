import DaZeus.PluginComm.Store

/-!
# One store for all plugins

What plugins are told about properties after any requests, and that they cannot
tell the SQL backends apart as long as PostgreSQL supports what they set.
-/

namespace DaZeus

open Library Database

namespace PluginComm

variable {lib : Libraries} {charset : Charset lib}

theorem sqlite_run (charset : Charset lib) (requests : List Request) :
    let db := Request.run lib (DatabaseMethods.sqlite charset) {} requests
    Holds db.properties
        (Properties.assign (fun _ _ => none) (requests.filterMap (assignmentOf charset))) ∧
      db.properties.Unique Property.entry := by
  apply (sqlite_implements charset).run
  · exact ⟨Simulates.empty.sqlite, List.nodup_nil⟩
  · exact fun _ _ => trivial

/-- In SQLite, whatever plugins asked before and in whatever order: a plugin is told the value of
the narrowest scope that somebody set and nobody unset, and the keys of a scope each once. -/
theorem properties_shared (charset : Charset lib) (requests : List Request) (request : Request) :
    let store := Properties.assign (fun _ _ => none) (requests.filterMap (assignmentOf charset))
    let reply := request.reply lib (DatabaseMethods.sqlite charset)
      (Request.run lib (DatabaseMethods.sqlite charset) {} requests)
    (∀ key more, asks request.input "property" = some (ascii "get" :: key :: more) →
      let value := charset.bytes (store.property (charset.text key) (scopeOf charset request))
      reply.member "success" = some (.bool true) ∧
        reply.member "value" = if value = [] then none else lib.jsonString value) ∧
    ∀ start more, asks request.input "property" = some (ascii "keys" :: start :: more) →
      ∃ keys : List Text, reply.member "keys" =
          some (lib.jsonStrings (keys.map charset.bytes)) ∧
        keys.Nodup ∧ ∀ key, key ∈ keys ↔ charset.text start <+: key ∧
          (store key (scopeOf charset request)).isSome = true :=
  ⟨fun _ _ => (sqlite_implements charset).get_reply (sqlite_run charset requests),
    fun _ _ => (sqlite_implements charset).keys_reply (sqlite_run charset requests)⟩

/-! ## The last value that was set -/

theorem assign_other {store : Properties} {calls : List Assignment} {key : Text} {scope : Scope}
    (others : ∀ call ∈ calls, ¬(key = call.key ∧ scope = call.scope)) :
    store.assign calls key scope = store key scope := by
  induction calls generalizing store with
  | nil => rfl
  | cons call calls inductionHypothesis =>
      obtain ⟨here, later⟩ := List.forall_mem_cons.mp others
      exact (inductionHypothesis later).trans (if_neg here)

/-- The scope itself comes before all that it falls back to. -/
theorem property_populated {store : Properties} {key value : Text} {scope : Scope}
    (populated : store key scope = some value) : store.property key scope = value := by
  have first : ∃ others, scope.fallbacks = scope :: others := by
    unfold Scope.fallbacks orEmpty
    obtain ⟨network, receiver, sender⟩ := scope
    by_cases noNetwork : network = [] <;> by_cases noReceiver : receiver = [] <;>
      by_cases noSender : sender = [] <;> simp [noNetwork, noReceiver, noSender]
  obtain ⟨others, same⟩ := first
  rw [Properties.property, same, List.findSome?_cons, populated, Option.getD_some]

/-- A plugin is told what the last request that set the property in this scope set it to, whichever
plugin that was from and whatever else was asked since. -/
theorem last_value_read (before after : List Request) {writer reader : Request}
    {key value : ByteString} {more others : List ByteString}
    (sets : asks writer.input "property" = some (ascii "set" :: key :: value :: more))
    (gets : asks reader.input "property" = some (ascii "get" :: key :: others))
    (scope : scopeOf charset reader = scopeOf charset writer)
    (last : ∀ request ∈ after, ∀ assignment, assignmentOf charset request = some assignment →
      ¬(assignment.key = charset.text key ∧ assignment.scope = scopeOf charset writer))
    (nonempty : value ≠ []) (whole : 0 ∉ value) (valid : lib.validUtf8 value = true) :
    (reader.reply lib (DatabaseMethods.sqlite charset) (Request.run lib
      (DatabaseMethods.sqlite charset) {} (before ++ writer :: after))).member "value" =
        some (.string value) := by
  have restored := charset.bytes_text value valid
  have text : charset.text value ≠ [] := by
    intro empty
    apply nonempty
    rw [← restored, empty, charset.bytes_nil]
  have written : assignmentOf charset writer =
      some ⟨charset.text key, charset.text value, scopeOf charset writer⟩ := by
    unfold assignmentOf
    rw [sets]
    rfl
  let store := Properties.assign (fun _ _ => none)
    ((before ++ writer :: after).filterMap (assignmentOf charset))
  have populated : store (charset.text key) (scopeOf charset reader) =
      some (charset.text value) := by
    have split : store = Properties.assign
        ((Properties.assign (fun _ _ => none) (before.filterMap (assignmentOf charset))).set
          (charset.text key) (charset.text value) (scopeOf charset writer))
        (after.filterMap (assignmentOf charset)) := by
      simp only [store, Properties.assign, List.filterMap_append, List.filterMap_cons_some written,
        List.foldl_append, List.foldl_cons]
    rw [split, scope, assign_other]
    · rw [Properties.set, if_pos ⟨rfl, rfl⟩, if_neg text]
    · intro assignment inside same
      obtain ⟨request, member, found⟩ := List.mem_filterMap.mp inside
      exact last request member assignment found ⟨same.1.symm, same.2.symm⟩
  obtain ⟨-, told⟩ := (sqlite_implements charset).get_reply
    (sqlite_run charset (before ++ writer :: after)) gets
  rw [told, property_populated populated, restored, if_neg nonempty, Libraries.jsonString,
    cStr_eq_self whole, if_pos valid]

/-- The bytes as the first characters of Unicode. -/
def latin (lib : Libraries) : Charset lib where
  text string := string.map fun byte => Char.ofNat byte.toNat
  bytes text := text.map fun character => UInt8.ofNat character.toNat
  text_nil := rfl
  bytes_nil := rfl
  bytes_text string _ := by
    have each : ∀ number : Fin 256,
        UInt8.ofNat (Char.ofNat number).toNat = UInt8.ofNat number := by decide +kernel
    rw [List.map_map]
    apply List.map_id''
    intro byte
    exact (each ⟨byte.toNat, byte.toNat_lt⟩).trans UInt8.ofNat_toNat

/-- A request for an operation on the properties of the network `n`. -/
def propertyRequest (operation : String) (params : List String) : Request where
  view := .online
  info := {}
  input := .object [(ascii "do", .string (ascii "property")),
    (ascii "params", .array (.string (ascii operation) :: params.map fun text =>
      .string (ascii text))),
    (ascii "scope", .array [.string (ascii "n")])]

/-- SQLite with such a character set. -/
def latinSqlite : DatabaseMethods SQLiteDatabase := .sqlite (latin (.knowing []))

/-- A plugin reads a value that was written before another property was unset. -/
theorem last_value_read_unset :
    ((propertyRequest "get" ["k"]).reply (.knowing []) latinSqlite
      (Request.run (.knowing []) latinSqlite {}
        ([] ++ propertyRequest "set" ["k", "v"] :: [propertyRequest "unset" ["l"]]))).member
          "value" = some (.string (ascii "v")) := by
  have sets : asks (propertyRequest "set" ["k", "v"]).input "property" =
      some [ascii "set", ascii "k", ascii "v"] := by decide +kernel
  have gets : asks (propertyRequest "get" ["k"]).input "property" =
      some [ascii "get", ascii "k"] := by decide +kernel
  have unset : assignmentOf (latin (.knowing [])) (propertyRequest "unset" ["l"]) =
      some ⟨['l'], [], ⟨['n'], [], []⟩⟩ := rfl
  have last : ∀ request ∈ [propertyRequest "unset" ["l"]], ∀ assignment,
      assignmentOf (latin (.knowing [])) request = some assignment →
      ¬(assignment.key = (latin (.knowing [])).text (ascii "k") ∧ assignment.scope =
        scopeOf (latin (.knowing [])) (propertyRequest "set" ["k", "v"])) := by
    intro request inside assignment found same
    rw [List.mem_singleton.mp inside, unset] at found
    cases found
    exact absurd same.1 (by decide)
  exact last_value_read [] _ sets gets rfl last (by decide) (by decide) (by decide)

/-! ## Two backends -/

/-- The same reply, but for the order of the keys of a scope. -/
inductive Alike (lib : Libraries) : Reply → Reply → Prop
  | same (reply : Reply) : Alike lib reply reply
  | keys (reply : Reply) {first second : List ByteString} (perm : first.Perm second) :
      Alike lib (reply.set "keys" (lib.jsonStrings first)).success
        (reply.set "keys" (lib.jsonStrings second)).success

theorem handleAction_database {view : View} {action : ByteString} {params scope : List ByteString}
    {reply : Reply} (first second : DatabaseView) (noProperty : action ≠ ascii "property")
    (noPermission : action ≠ ascii "permission") :
    handleAction lib { view with database := first } action params scope reply =
      handleAction lib { view with database := second } action params scope reply := by
  unfold handleAction
  simp only [if_neg noProperty, if_neg noPermission]
  rfl

theorem handle_database {view : View} {input : Json} {info : SocketInfo}
    (first second : DatabaseView) (noProperty : asks input "property" = none)
    (noPermission : asks input "permission" = none) :
    handle lib { view with database := first } input info =
      handle lib { view with database := second } input info := by
  unfold handle
  cases read : readParams input with
  | error what => rfl
  | ok params =>
      cases found : readAction input with
      | error what => rfl
      | ok action =>
          apply handleAction_database first second
          · rintro rfl
            simp [asks, read, found] at noProperty
          · rintro rfl
            simp [asks, read, found] at noPermission

section Alike

variable {Contents Other : Type} {methods : DatabaseMethods Contents}
  {others : DatabaseMethods Other} {represents : Contents → Properties → Prop}
  {otherRepresents : Other → Properties → Prop} {supported otherSupported : Assignment → Prop}
  {contents : Contents} {other : Other} {store : Properties}

/-- Two databases that represent the same store give the same reply. -/
theorem Implements.alike (implements : Implements charset methods represents supported)
    (otherImplements : Implements charset others otherRepresents otherSupported)
    (represented : represents contents store) (otherRepresented : otherRepresents other store)
    {request : Request} (noPermission : asks request.input "permission" = none)
    (allowed : ∀ assignment, assignmentOf charset request = some assignment →
      supported assignment ∧ otherSupported assignment) :
    Alike lib (request.reply lib methods contents) (request.reply lib others other) := by
  unfold Request.reply
  cases asked : asks request.input "property" with
  | none =>
      rw [handle_database (methods.view contents) (others.view other) asked noPermission]
      exact .same _
  | some params =>
      rw [handle_property asked, handle_property asked]
      unfold assignmentOf scopeOf at allowed
      rw [asked] at allowed
      unfold handleProperty
      obtain ⟨⟨network, receiver, sender⟩, place⟩ :
          ∃ place, propertyScope (readScope request.input) = place := ⟨_, rfl⟩
      simp only [place] at allowed ⊢
      have sets {key value : ByteString} {reply : Reply} {next : Reply → Unit → Reply}
          (fine : supported ⟨charset.text key, charset.text value,
              charset.scope network receiver sender⟩ ∧
            otherSupported ⟨charset.text key, charset.text value,
              charset.scope network receiver sender⟩) :
          Alike lib
            (reply.database ((methods.view contents).setProperty key value network receiver
              sender) next)
            (reply.database ((others.view other).setProperty key value network receiver
              sender) next) := by
        obtain ⟨_, completed, -⟩ := implements.setProperty represented _ _ _ _ _ fine.1
        obtain ⟨_, otherCompleted, -⟩ :=
          otherImplements.setProperty otherRepresented _ _ _ _ _ fine.2
        simp only [DatabaseMethods.view, completed, otherCompleted]
        exact .same _
      rcases params with _ | ⟨operation, _ | ⟨key, values⟩⟩
      · exact .same _
      · exact .same _
      · have few : ¬(operation :: key :: values).length < 2 := by simp
        have first : paramAt lib (operation :: key :: values) 0 = operation := rfl
        have second : paramAt lib (operation :: key :: values) 1 = key := rfl
        simp only [few, if_false, first, second]
        by_cases get : operation = ascii "get"
        · rw [if_pos get, if_pos get]
          simp only [DatabaseMethods.view, implements.property represented,
            otherImplements.property otherRepresented]
          exact .same _
        · rw [if_neg get, if_neg get]
          by_cases isSet : operation = ascii "set"
          · simp only [isSet, if_true] at allowed ⊢
            cases values with
            | nil => exact .same _
            | cons value more =>
                have enough : ¬(ascii "set" :: key :: value :: more).length < 3 := by simp
                rw [if_neg enough, if_neg enough]
                exact sets (allowed _ rfl)
          · simp only [if_neg isSet] at allowed ⊢
            by_cases unset : operation = ascii "unset"
            · simp only [unset, if_true] at allowed ⊢
              have fine := allowed _ rfl
              rw [← charset.text_nil] at fine
              exact sets fine
            · simp only [if_neg unset] at allowed ⊢
              by_cases list : operation = ascii "keys"
              · rw [if_pos list, if_pos list]
                obtain ⟨keys, answer, distinct, listed⟩ :=
                  implements.propertyKeys represented key network receiver sender
                obtain ⟨otherKeys, otherAnswer, otherDistinct, otherListed⟩ :=
                  otherImplements.propertyKeys otherRepresented key network receiver sender
                have perm : keys.Perm otherKeys :=
                  (List.perm_ext_iff_of_nodup distinct otherDistinct).mpr fun text =>
                    (listed text).trans (otherListed text).symm
                simp only [DatabaseMethods.view, answer, otherAnswer]
                exact .keys _ (perm.map charset.bytes)
              · rw [if_neg list, if_neg list]
                exact .same _

end Alike

end PluginComm

end DaZeus
