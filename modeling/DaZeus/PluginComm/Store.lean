import DaZeus.Database.Agreement
import DaZeus.PluginComm.Outcomes

/-!
# Properties as plugins see them

The requests of all plugins, in the order in which `handle` gets them, on a
database that keeps what they write.  Whatever the backend, a plugin is told
what was last set, by itself or by another: `Implements` says what that takes,
and SQLite and PostgreSQL are instances of it.
-/

namespace DaZeus

open Library Database

/-- The methods of the class `Database`, on what the database holds; an error is the text of the
exception. -/
structure DatabaseMethods (Contents : Type) where
  property : Contents → (name network receiver sender : ByteString) →
    Except ByteString ByteString
  setProperty : Contents → (name value network receiver sender : ByteString) →
    Except ByteString Contents
  propertyKeys : Contents → (start network receiver sender : ByteString) →
    Except ByteString (List ByteString)
  hasPermission : Contents → (name network channel sender : ByteString) → (default : Bool) →
    Except ByteString Bool
  unsetPermission : Contents → (name network receiver sender : ByteString) →
    Except ByteString Contents
  setPermission : Contents → (permission : Bool) → (name network receiver sender : ByteString) →
    Except ByteString Contents

namespace DatabaseMethods

variable {Contents : Type} (methods : DatabaseMethods Contents)

/-- What a request sees of the database. -/
def view (contents : Contents) : DatabaseView where
  property := methods.property contents
  setProperty name value network receiver sender :=
    (methods.setProperty contents name value network receiver sender).map fun _ => ()
  propertyKeys := methods.propertyKeys contents
  hasPermission := methods.hasPermission contents
  unsetPermission name network receiver sender :=
    (methods.unsetPermission contents name network receiver sender).map fun _ => ()
  setPermission permission name network receiver sender :=
    (methods.setPermission contents permission name network receiver sender).map fun _ => ()

/-- What is left of the contents by a call that returned. -/
def write (contents : Contents) : DatabaseWrite → Contents
  | .setProperty name value network receiver sender =>
      (methods.setProperty contents name value network receiver sender).toOption.getD contents
  | .unsetPermission name network receiver sender =>
      (methods.unsetPermission contents name network receiver sender).toOption.getD contents
  | .setPermission permission name network receiver sender =>
      (methods.setPermission contents permission name network receiver sender).toOption.getD
        contents

end DatabaseMethods

/-- The characters that a database takes bytes for.  The bytes of a valid text come back. -/
structure Charset (lib : Libraries) where
  text : ByteString → Text
  bytes : Text → ByteString
  text_nil : text [] = []
  bytes_nil : bytes [] = []
  bytes_text : ∀ string, lib.validUtf8 string = true → bytes (text string) = string

def Charset.scope {lib : Libraries} (charset : Charset lib) (network receiver sender : ByteString) :
    Scope :=
  ⟨charset.text network, charset.text receiver, charset.text sender⟩

/-- The write is about a permission. -/
def DatabaseWrite.isPermission : DatabaseWrite → Bool
  | .setProperty _ _ _ _ _ => false
  | .unsetPermission _ _ _ _ => true
  | .setPermission _ _ _ _ _ => true

namespace Reply

variable {lib : Libraries}

@[simp]
theorem set_writes (reply : Reply) (name : String) (value : Json) :
    (reply.set name value).writes = reply.writes := rfl

@[simp]
theorem setString_writes (reply : Reply) (name : String) (text : ByteString) :
    (reply.setString lib name text).writes = reply.writes :=
  congrArg Effects.writes setString_effects

@[simp]
theorem success_writes (reply : Reply) : reply.success.writes = reply.writes := rfl

@[simp]
theorem throw_writes (reply : Reply) (what : String) :
    (reply.throw what).writes = reply.writes := rfl

@[simp]
theorem throwText_writes (reply : Reply) (what : ByteString) :
    (reply.throwText what).writes = reply.writes := rfl

@[simp]
theorem callNetwork_writes (reply : Reply) (network : NetworkId) (call : NetworkCall) :
    (reply.callNetwork network call).writes = reply.writes := rfl

@[simp]
theorem wrote_writes (reply : Reply) (write : DatabaseWrite) :
    (reply.wrote write).writes = reply.writes ++ [write] := rfl

/-- A string that was put in is there if it is one. -/
theorem setString_member (reply : Reply) (name : String) (text : ByteString) :
    (reply.setString lib name text).member name =
      (lib.jsonString text).or (reply.member name) := by
  unfold setString
  cases lib.jsonString text with
  | none => rfl
  | some value =>
      rw [Option.some_or]
      exact Json.objectGet_setMember.trans (if_pos rfl)

end Reply

namespace PluginComm

/-- A request of some plugin, and what `handle` sees of the bot besides the database. -/
structure Request where
  view : View
  input : Json
  info : SocketInfo

/-- The parameters of a request for this action. -/
def asks (input : Json) (action : String) : Option (List ByteString) :=
  match readParams input, readAction input with
  | .ok params, .ok asked => if asked = ascii action then some params else none
  | _, _ => none

namespace Request

variable (lib : Libraries) {Contents : Type} (methods : DatabaseMethods Contents)

def reply (contents : Contents) (request : Request) : Reply :=
  handle lib { request.view with database := methods.view contents } request.input request.info

/-- The contents after the request. -/
def next (contents : Contents) (request : Request) : Contents :=
  (request.reply lib methods contents).writes.foldl methods.write contents

/-- The contents after all requests. -/
def run (contents : Contents) (requests : List Request) : Contents :=
  requests.foldl (next lib methods) contents

end Request

/-- The scope of a request about properties. -/
def scopeOf {lib : Libraries} (charset : Charset lib) (request : Request) : Scope :=
  let (network, receiver, sender) := propertyScope (readScope request.input)
  charset.scope network receiver sender

/-- What a request sets a property to; unsetting it sets it to the empty text. -/
def assignmentOf {lib : Libraries} (charset : Charset lib) (request : Request) :
    Option Assignment :=
  match asks request.input "property" with
  | some (operation :: key :: values) =>
      if operation = ascii "set" then
        values.head?.map fun value =>
          ⟨charset.text key, charset.text value, scopeOf charset request⟩
      else if operation = ascii "unset" then
        some ⟨charset.text key, [], scopeOf charset request⟩
      else
        none
  | _ => none

/-! ## What a request writes -/

variable {lib : Libraries} {view : View} {info : SocketInfo} {input : Json} {reply : Reply}
  {params scope : List ByteString}

theorem handle_asks {action : String} (asked : asks input action = some params) :
    handle lib view input info =
      handleAction lib view (ascii action) params (readScope input) { info } := by
  unfold asks at asked
  unfold handle
  cases read : readParams input with
  | error what =>
      rw [read] at asked
      cases asked
  | ok texts =>
      cases found : readAction input with
      | error what =>
          rw [read, found] at asked
          cases asked
      | ok name =>
          rw [read, found] at asked
          dsimp only at asked ⊢
          split at asked
          · next same =>
              cases asked
              rw [same]
          · cases asked

theorem handle_property (asked : asks input "property" = some params) :
    handle lib view input info = handleProperty lib view params (readScope input) { info } :=
  handle_asks asked

theorem handlePermission_writes (silent : reply.writes = []) :
    ∀ write ∈ (handlePermission lib view params scope reply).writes,
      write.isPermission = true := by
  have nothing {other : Reply} (same : other.writes = reply.writes) :
      ∀ write ∈ other.writes, write.isPermission = true := by
    rw [same, silent]
    simp
  have one {α : Type} {result : Except ByteString α} {write : DatabaseWrite} {other : Reply}
      (same : other.writes = reply.writes) (permission : write.isPermission = true) :
      ∀ written ∈ (other.database result fun reply _ => (reply.wrote write).success).writes,
        written.isPermission = true := by
    cases result with
    | error what => exact nothing same
    | ok value =>
        intro written inside
        simp only [Reply.database, Reply.success_writes, Reply.wrote_writes, same, silent,
          List.nil_append, List.mem_singleton] at inside
        rw [inside]
        exact permission
  unfold handlePermission
  dsimp only
  split
  · exact nothing (by simp)
  · split
    · exact nothing (by simp)
    · split
      · split
        · exact nothing (by simp)
        · exact one (by simp) rfl
      · split
        · exact one (by simp) rfl
        · split
          · split
            · exact nothing (by simp)
            · cases view.database.hasPermission _ _ _ _ _ <;>
                exact nothing (by simp [Reply.database])
          · exact nothing (by simp)

theorem handleHandshake_writes : (handleHandshake lib params reply).writes = reply.writes := by
  unfold handleHandshake
  dsimp only
  split
  · simp
  · split
    · simp
    · split <;> simp

theorem handleOnNetwork_writes {action : ByteString} :
    (handleOnNetwork lib view action params reply).writes = reply.writes := by
  unfold handleOnNetwork
  dsimp only
  split
  · simp [apply_ite Reply.writes]
  · split
    · simp [apply_ite Reply.writes]
    · split
      · simp [apply_ite Reply.writes]
      · split <;> simp [apply_ite Reply.writes]

theorem handleOnChannel_writes {action : ByteString} :
    (handleOnChannel lib view action params reply).writes = reply.writes := by
  unfold handleOnChannel
  dsimp only
  split
  · simp
  · split
    · simp [apply_ite Reply.writes]
    · split <;> simp [apply_ite Reply.writes]

theorem handleCommand_writes : (handleCommand lib view params reply).writes = reply.writes := by
  unfold handleCommand
  dsimp only
  split
  · simp
  · split
    · simp
    · split
      · split
        · simp
        · split <;> simp
      · simp

theorem handleConfig_writes : (handleConfig lib view params reply).writes = reply.writes := by
  unfold handleConfig
  dsimp only
  split
  · simp
  · split
    · split
      · simp
      · split <;> simp
    · split
      · split <;> simp
      · simp

/-- Only requests about properties write properties. -/
theorem handle_otherwise (other : asks input "property" = none) :
    ∀ write ∈ (handle lib view input info).writes, write.isPermission = true := by
  have nothing {reply : Reply} (same : reply.writes = []) :
      ∀ write ∈ reply.writes, write.isPermission = true := by
    rw [same]
    simp
  unfold handle
  cases read : readParams input with
  | error what => exact nothing rfl
  | ok params =>
      cases found : readAction input with
      | error what => exact nothing rfl
      | ok action =>
          have different : action ≠ ascii "property" := by
            rintro rfl
            simp [asks, read, found] at other
          refine handleAction_cases (motive := fun action reply => action ≠ ascii "property" →
            ∀ write ∈ reply.writes, write.isPermission = true) { info } ?_ ?_ ?_ ?_ ?_ ?_ ?_ ?_ ?_
            ?_ ?_ ?_ action different
          · exact fun _ => nothing (by simp [handleNetworks])
          · exact fun _ => nothing handleHandshake_writes
          · exact fun _ => nothing (by simp [handleReload])
          · exact fun _ _ _ => nothing handleOnNetwork_writes
          · exact fun _ _ _ => nothing handleOnChannel_writes
          · exact fun _ => nothing (by simp [handleSubscribe])
          · exact fun _ => nothing (by simp [handleUnsubscribe])
          · exact fun _ => nothing handleCommand_writes
          · exact fun same => absurd rfl same
          · exact fun _ => nothing handleConfig_writes
          · exact fun _ => handlePermission_writes rfl
          · exact fun _ _ _ => nothing rfl

/-! ## Databases that keep properties -/

/-- What it takes to serve property requests: the contents represent a store, the queries answer
from it, and the supported assignments change it. -/
structure Implements (charset : Charset lib) {Contents : Type}
    (methods : DatabaseMethods Contents) (represents : Contents → Properties → Prop)
    (supported : Assignment → Prop) : Prop where
  property : ∀ {contents store}, represents contents store → ∀ key network receiver sender,
    methods.property contents key network receiver sender =
      .ok (charset.bytes (store.property (charset.text key)
        (charset.scope network receiver sender)))
  setProperty : ∀ {contents store}, represents contents store →
    ∀ key value network receiver sender,
    supported ⟨charset.text key, charset.text value, charset.scope network receiver sender⟩ →
    ∃ next, methods.setProperty contents key value network receiver sender = .ok next ∧
      represents next (store.set (charset.text key) (charset.text value)
        (charset.scope network receiver sender))
  propertyKeys : ∀ {contents store}, represents contents store → ∀ start network receiver sender,
    ∃ keys : List Text, methods.propertyKeys contents start network receiver sender =
        .ok (keys.map charset.bytes) ∧ keys.Nodup ∧
      ∀ key, key ∈ keys ↔ charset.text start <+: key ∧
        (store key (charset.scope network receiver sender)).isSome = true
  permissions : ∀ {contents store}, represents contents store → ∀ write : DatabaseWrite,
    write.isPermission = true → represents (methods.write contents write) store

namespace Implements

variable {charset : Charset lib} {Contents : Type} {methods : DatabaseMethods Contents}
  {represents : Contents → Properties → Prop} {supported : Assignment → Prop}
  {contents : Contents} {store : Properties} {request : Request}

/-- A request about properties changes the store as it says. -/
theorem next_property (implements : Implements charset methods represents supported)
    (represented : represents contents store) {params : List ByteString}
    (asked : asks request.input "property" = some params)
    (allowed : ∀ assignment, assignmentOf charset request = some assignment →
      supported assignment) :
    represents (request.next lib methods contents)
      (store.assign (assignmentOf charset request).toList) := by
  unfold Request.next Request.reply
  rw [handle_property asked]
  unfold assignmentOf scopeOf at allowed ⊢
  rw [asked] at allowed ⊢
  unfold handleProperty
  obtain ⟨⟨network, receiver, sender⟩, place⟩ :
      ∃ place, propertyScope (readScope request.input) = place := ⟨_, rfl⟩
  simp only [place] at allowed ⊢
  -- a call of `setProperty` with its write
  have sets {key value : ByteString} {reply : Reply} (silent : reply.writes = [])
      (fine : supported
        ⟨charset.text key, charset.text value, charset.scope network receiver sender⟩) :
      represents ((reply.database ((methods.view contents).setProperty key value network receiver
          sender) fun reply _ =>
            (reply.wrote (.setProperty key value network receiver sender)).success).writes.foldl
              methods.write contents)
        (store.set (charset.text key) (charset.text value)
          (charset.scope network receiver sender)) := by
    obtain ⟨next, completed, kept⟩ :=
      implements.setProperty represented key value network receiver sender fine
    have written : methods.write contents (.setProperty key value network receiver sender) =
        next := by
      rw [DatabaseMethods.write, completed]
      rfl
    simp only [DatabaseMethods.view, completed, Except.map, Reply.database, Reply.success_writes,
      Reply.wrote_writes, silent, List.nil_append, List.foldl_cons, List.foldl_nil, written]
    exact kept
  have stays {reply : Reply} (silent : reply.writes = []) :
      represents (reply.writes.foldl methods.write contents) store := by
    rw [silent]
    exact represented
  rcases params with _ | ⟨operation, _ | ⟨key, values⟩⟩
  · exact stays (by simp)
  · exact stays (by simp)
  · have few : ¬(operation :: key :: values).length < 2 := by simp
    simp only [few, if_false]
    have first : paramAt lib (operation :: key :: values) 0 = operation := rfl
    have second : paramAt lib (operation :: key :: values) 1 = key := rfl
    simp only [first, second]
    by_cases get : operation = ascii "get"
    · subst get
      apply stays
      rw [if_pos rfl]
      cases (methods.view contents).property key network receiver sender with
      | error what => simp [Reply.database]
      | ok value => simp [Reply.database, apply_ite Reply.writes]
    · rw [if_neg get]
      by_cases isSet : operation = ascii "set"
      · subst isSet
        simp only [if_true] at allowed ⊢
        cases values with
        | nil => exact stays (by simp)
        | cons value more =>
            have enough : ¬(ascii "set" :: key :: value :: more).length < 3 := by simp
            rw [if_neg enough]
            exact sets (by simp) (allowed _ rfl)
      · simp only [if_neg isSet] at allowed ⊢
        by_cases unset : operation = ascii "unset"
        · subst unset
          simp only [if_true] at allowed ⊢
          have empty := @sets key [] (Reply.setString lib { info := request.info } "did"
            (ascii "property")) (by simp)
          rw [charset.text_nil] at empty
          exact empty (allowed _ rfl)
        · simp only [if_neg unset] at allowed ⊢
          apply stays
          split
          · cases (methods.view contents).propertyKeys key network receiver sender <;>
              simp [Reply.database]
          · simp

/-- Every request does. -/
theorem next (implements : Implements charset methods represents supported)
    (represented : represents contents store)
    (allowed : ∀ assignment, assignmentOf charset request = some assignment →
      supported assignment) :
    represents (request.next lib methods contents)
      (store.assign (assignmentOf charset request).toList) := by
  cases asked : asks request.input "property" with
  | some params => exact implements.next_property represented asked allowed
  | none =>
      have nothing : assignmentOf charset request = none := by
        unfold assignmentOf
        rw [asked]
      rw [nothing]
      unfold Request.next
      refine List.foldlRecOn (motive := fun contents => represents contents store) _ _ represented
        fun contents kept write inside => ?_
      exact implements.permissions kept write (handle_otherwise asked write inside)

/-- After any requests the contents represent what they set. -/
theorem run (implements : Implements charset methods represents supported)
    (represented : represents contents store) {requests : List Request}
    (allowed : ∀ assignment ∈ requests.filterMap (assignmentOf charset), supported assignment) :
    represents (Request.run lib methods contents requests)
      (store.assign (requests.filterMap (assignmentOf charset))) := by
  induction requests generalizing contents store with
  | nil => exact represented
  | cons request requests inductionHypothesis =>
      have first (assignment : Assignment)
          (found : assignmentOf charset request = some assignment) : supported assignment :=
        allowed assignment (List.mem_filterMap.mpr ⟨request, List.mem_cons_self, found⟩)
      have here := implements.next represented first
      have later := inductionHypothesis here fun assignment inside =>
        allowed assignment (List.mem_filterMap.mpr (by
          obtain ⟨other, member, found⟩ := List.mem_filterMap.mp inside
          exact ⟨other, List.mem_cons_of_mem _ member, found⟩))
      have split : (request :: requests).filterMap (assignmentOf charset) =
          (assignmentOf charset request).toList ++ requests.filterMap (assignmentOf charset) := by
        cases found : assignmentOf charset request <;> simp [found]
      rw [split, Properties.assign, List.foldl_append]
      exact later

/-- The value that a plugin is told. -/
theorem get_reply (implements : Implements charset methods represents supported)
    (represented : represents contents store) {key : ByteString} {more : List ByteString}
    (asked : asks request.input "property" = some (ascii "get" :: key :: more)) :
    let value := charset.bytes (store.property (charset.text key) (scopeOf charset request))
    let reply := request.reply lib methods contents
    reply.member "success" = some (.bool true) ∧
      reply.member "value" = if value = [] then none else lib.jsonString value := by
  intro value reply
  obtain ⟨⟨network, receiver, sender⟩, place⟩ :
      ∃ place, propertyScope (readScope request.input) = place := ⟨_, rfl⟩
  have answer : methods.property contents key network receiver sender = .ok value := by
    have found := implements.property represented key network receiver sender
    have same : value = charset.bytes (store.property (charset.text key)
        (charset.scope network receiver sender)) := by
      simp only [value, scopeOf, place]
    rw [same]
    exact found
  let told := ((Reply.setString lib { info := request.info } "did"
    (ascii "property")).success.setString lib "variable" key)
  have same : reply = if value.length > 0 then told.setString lib "value" value else told := by
    have unfolded : reply = handleProperty lib
        { request.view with database := methods.view contents } (ascii "get" :: key :: more)
        (readScope request.input) { info := request.info } := handle_property asked
    rw [unfolded]
    unfold handleProperty
    have few : ¬(ascii "get" :: key :: more).length < 2 := by simp
    have first : paramAt lib (ascii "get" :: key :: more) 0 = ascii "get" := rfl
    have second : paramAt lib (ascii "get" :: key :: more) 1 = key := rfl
    simp only [place, few, if_false, first, second, if_true, DatabaseMethods.view, answer,
      Reply.database]
    rfl
  have fresh : told.member "value" = none := by
    rw [member_setString_of_ne (by decide), Reply.success, Reply.set_member, if_neg (by decide),
      member_setString_of_ne (by decide)]
    rfl
  have succeeds : told.member "success" = some (.bool true) := by
    rw [member_setString_of_ne (by decide), Reply.success, Reply.set_member, if_pos rfl]
  rw [same]
  by_cases empty : value = []
  · rw [if_neg (by simp [empty]), if_pos empty]
    exact ⟨succeeds, fresh⟩
  · rw [if_pos (List.length_pos_iff.mpr empty), if_neg empty, member_setString_of_ne (by decide),
      Reply.setString_member, fresh, Option.or_none]
    exact ⟨succeeds, rfl⟩

/-- The keys that a plugin is told. -/
theorem keys_reply (implements : Implements charset methods represents supported)
    (represented : represents contents store) {start : ByteString} {more : List ByteString}
    (asked : asks request.input "property" = some (ascii "keys" :: start :: more)) :
    ∃ keys : List Text,
      (request.reply lib methods contents).member "keys" =
        some (lib.jsonStrings (keys.map charset.bytes)) ∧
      keys.Nodup ∧ ∀ key, key ∈ keys ↔ charset.text start <+: key ∧
        (store key (scopeOf charset request)).isSome = true := by
  obtain ⟨⟨network, receiver, sender⟩, place⟩ :
      ∃ place, propertyScope (readScope request.input) = place := ⟨_, rfl⟩
  have scope : scopeOf charset request = charset.scope network receiver sender := by
    simp only [scopeOf, place]
  obtain ⟨keys, answer, distinct, listed⟩ :=
    implements.propertyKeys represented start network receiver sender
  rw [scope]
  refine ⟨keys, ?_, distinct, listed⟩
  have unfolded : request.reply lib methods contents = handleProperty lib
      { request.view with database := methods.view contents } (ascii "keys" :: start :: more)
      (readScope request.input) { info := request.info } := handle_property asked
  rw [unfolded]
  unfold handleProperty
  have few : ¬(ascii "keys" :: start :: more).length < 2 := by simp
  have first : paramAt lib (ascii "keys" :: start :: more) 0 = ascii "keys" := rfl
  have second : paramAt lib (ascii "keys" :: start :: more) 1 = start := rfl
  have get : ¬ascii "keys" = ascii "get" := by decide
  have isSet : ¬ascii "keys" = ascii "set" := by decide
  have unset : ¬ascii "keys" = ascii "unset" := by decide
  simp only [place, few, if_false, first, second, get, isSet, unset, if_true, DatabaseMethods.view,
    answer, Reply.database]
  rw [Reply.success, Reply.set_member, if_neg (by decide), Reply.set_member, if_pos rfl]

end Implements

/-! ## The SQL backends -/

end PluginComm

namespace DatabaseMethods

variable {lib : Libraries}

/-- The methods of `SQLiteDatabase`. -/
def sqlite (charset : Charset lib) : DatabaseMethods SQLiteDatabase where
  property db name network receiver sender :=
    .ok (charset.bytes (db.property (charset.text name) (charset.scope network receiver sender)))
  setProperty db name value network receiver sender :=
    .ok (db.setProperty (charset.text name) (charset.text value)
      (charset.scope network receiver sender))
  propertyKeys db start network receiver sender :=
    .ok ((db.propertyKeys (charset.scope network receiver sender) (charset.text start)).map
      charset.bytes)
  hasPermission db name network channel sender default :=
    .ok (db.hasPermission (charset.scope network channel sender) (charset.text name) default)
  unsetPermission db name network receiver sender :=
    .ok (db.unsetPermission (charset.scope network receiver sender) (charset.text name))
  setPermission db permission name network receiver sender :=
    .ok (db.setPermission (charset.scope network receiver sender) permission (charset.text name))

/-- The methods of `PostgreSQLDatabase`; `what` is the text of an error. -/
def postgres (charset : Charset lib) (collation : Collation) (what : SqlError → ByteString) :
    DatabaseMethods PostgreSQLDatabase where
  property db name network receiver sender :=
    ((db.property collation (charset.text name) (charset.scope network receiver sender)).map
      charset.bytes).mapError what
  setProperty db name value network receiver sender :=
    (db.setProperty (charset.text name) (charset.text value)
      (charset.scope network receiver sender)).mapError what
  propertyKeys db start network receiver sender :=
    ((db.propertyKeys (charset.scope network receiver sender) (charset.text start)).map
      (·.map charset.bytes)).mapError what
  hasPermission db name network channel sender default :=
    (db.hasPermission (charset.scope network channel sender) (charset.text name)
      default).mapError what
  unsetPermission db name network receiver sender :=
    (db.unsetPermission (charset.scope network receiver sender) (charset.text name)).mapError what
  setPermission db permission name network receiver sender :=
    (db.setPermission (charset.scope network receiver sender) permission
      (charset.text name)).mapError what

end DatabaseMethods

namespace PluginComm

variable {charset : Charset lib} {collation : Collation} {what : SqlError → ByteString}

/-- SQLite takes every assignment. -/
theorem sqlite_implements (charset : Charset lib) :
    Implements charset (DatabaseMethods.sqlite charset)
      (fun db store => Holds db.properties store ∧ db.properties.Unique Property.entry)
      fun _ => True where
  property represented _ _ _ _ :=
    congrArg (Except.ok <| charset.bytes ·) (SQLiteDatabase.property_eq represented.1)
  setProperty represented _ _ _ _ _ _ :=
    ⟨_, rfl, SQLiteDatabase.setProperty_holds represented.1,
      SQLiteDatabase.setProperty_unique represented.2⟩
  propertyKeys represented start network receiver sender := by
    refine ⟨_, rfl, properties_nodup represented.2, fun key => ?_⟩
    exact (mem_properties represented.1).trans (by rw [startsWith_iff, and_comm])
  permissions represented write permission := by
    cases write with
    | setProperty => cases permission
    | unsetPermission => exact represented
    | setPermission => exact represented

end PluginComm

end DaZeus
