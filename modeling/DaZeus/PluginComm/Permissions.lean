import DaZeus.Database.MongoPermissions
import DaZeus.PluginComm.Backends

/-!
# Permissions as plugins see them

What a plugin is told about a permission after any requests of any plugins, on a
database that decides by the first populated scope, as MongoDB does.
-/

namespace DaZeus

open Library Database

namespace PluginComm

/-- The scope of a request about a permission, which is refused without a network. -/
def grantScope {lib : Libraries} (charset : Charset lib) (request : Request) : Option Scope :=
  match readScope request.input with
  | [] => none
  | network :: others => some (charset.scope network (others.getD 0 []) (others.getD 1 []))

/-- What a request does about a permission. -/
def grantOf {lib : Libraries} (charset : Charset lib) (request : Request) :
    Option PermissionCall :=
  match asks request.input "permission", grantScope charset request with
  | some (operation :: name :: values), some scope =>
      if operation = ascii "set" then
        values.head?.map fun value => .setPermission (isTrue value) (charset.text name) scope
      else if operation = ascii "unset" then
        some (.unsetPermission (charset.text name) scope)
      else
        none
  | _, _ => none

/-- `handle` does not read past the parameters of the request: a permission is set to a value. -/
def Request.Whole (request : Request) : Prop :=
  ∀ name, asks request.input "permission" = some [ascii "set", name] → readScope request.input = []

/-- What it takes to serve requests about permissions. -/
structure Permits {lib : Libraries} (charset : Charset lib) {Contents : Type}
    (methods : DatabaseMethods Contents) (represents : Contents → Grants → Prop) : Prop where
  hasPermission : ∀ {contents grants}, represents contents grants →
    ∀ name network channel sender default,
      methods.hasPermission contents name network channel sender default =
        .ok (grants.hasPermission (charset.scope network channel sender) (charset.text name)
          default)
  setPermission : ∀ {contents grants}, represents contents grants →
    ∀ permission name network channel sender,
      ∃ next, methods.setPermission contents permission name network channel sender = .ok next ∧
        represents next (grants.call (.setPermission permission (charset.text name)
          (charset.scope network channel sender)))
  unsetPermission : ∀ {contents grants}, represents contents grants →
    ∀ name network channel sender,
      ∃ next, methods.unsetPermission contents name network channel sender = .ok next ∧
        represents next (grants.call (.unsetPermission (charset.text name)
          (charset.scope network channel sender)))
  properties : ∀ {contents grants}, represents contents grants → ∀ write : DatabaseWrite,
    write.isPermission = false → represents (methods.write contents write) grants

variable {lib : Libraries} {charset : Charset lib} {view : View} {info : SocketInfo}
  {input : Json} {reply : Reply} {params scope : List ByteString}

/-! ## What a request writes -/

theorem handle_permission (asked : asks input "permission" = some params) :
    handle lib view input info = handlePermission lib view params (readScope input) { info } :=
  handle_asks asked

theorem handleProperty_writes (silent : reply.writes = []) :
    ∀ write ∈ (handleProperty lib view params scope reply).writes,
      write.isPermission = false := by
  have nothing {other : Reply} (same : other.writes = reply.writes) :
      ∀ write ∈ other.writes, write.isPermission = false := by
    rw [same, silent]
    simp
  have one {α : Type} {result : Except ByteString α} {write : DatabaseWrite} {other : Reply}
      (same : other.writes = reply.writes) (property : write.isPermission = false) :
      ∀ written ∈ (other.database result fun reply _ => (reply.wrote write).success).writes,
        written.isPermission = false := by
    cases result with
    | error what => exact nothing same
    | ok value =>
        intro written inside
        simp only [Reply.database, Reply.success_writes, Reply.wrote_writes, same, silent,
          List.nil_append, List.mem_singleton] at inside
        rw [inside]
        exact property
  unfold handleProperty
  dsimp only
  split
  · exact nothing (by simp)
  · split
    · cases view.database.property _ _ _ _ with
      | error what => exact nothing (by simp [Reply.database])
      | ok value => exact nothing (by simp [Reply.database, apply_ite Reply.writes])
    · split
      · split
        · exact nothing (by simp)
        · exact one (by simp) rfl
      · split
        · exact one (by simp) rfl
        · split
          · cases view.database.propertyKeys _ _ _ _ <;> exact nothing (by simp [Reply.database])
          · exact nothing (by simp)

/-- Only requests about permissions write permissions. -/
theorem handle_unpermitted (other : asks input "permission" = none) :
    ∀ write ∈ (handle lib view input info).writes, write.isPermission = false := by
  have nothing {reply : Reply} (same : reply.writes = []) :
      ∀ write ∈ reply.writes, write.isPermission = false := by
    rw [same]
    simp
  unfold handle
  cases read : readParams input with
  | error what => exact nothing rfl
  | ok params =>
      cases found : readAction input with
      | error what => exact nothing rfl
      | ok action =>
          have different : action ≠ ascii "permission" := by
            rintro rfl
            simp [asks, read, found] at other
          refine handleAction_cases (motive := fun action reply => action ≠ ascii "permission" →
            ∀ write ∈ reply.writes, write.isPermission = false) { info } ?_ ?_ ?_ ?_ ?_ ?_ ?_ ?_ ?_
            ?_ ?_ ?_ action different
          · exact fun _ => nothing (by simp [handleNetworks])
          · exact fun _ => nothing handleHandshake_writes
          · exact fun _ => nothing (by simp [handleReload])
          · exact fun _ _ _ => nothing handleOnNetwork_writes
          · exact fun _ _ _ => nothing handleOnChannel_writes
          · exact fun _ => nothing (by simp [handleSubscribe])
          · exact fun _ => nothing (by simp [handleUnsubscribe])
          · exact fun _ => nothing handleCommand_writes
          · exact fun _ => handleProperty_writes rfl
          · exact fun _ => nothing handleConfig_writes
          · exact fun same => absurd rfl same
          · exact fun _ _ _ => nothing rfl

/-! ## Databases that keep permissions -/

/-- The channel and the sender of a scope. -/
theorem paramAt_scope (lib : Libraries) (network : ByteString) (others : List ByteString) :
    (if (network :: others).length ≥ 2 then paramAt lib (network :: others) 1 else []) =
        others.getD 0 [] ∧
      (if (network :: others).length ≥ 3 then paramAt lib (network :: others) 2 else []) =
        others.getD 1 [] := by
  rcases others with _ | ⟨channel, _ | ⟨sender, rest⟩⟩ <;> simp [paramAt]

namespace Permits

variable {Contents : Type} {methods : DatabaseMethods Contents}
  {represents : Contents → Grants → Prop} {contents : Contents} {grants : Grants}
  {request : Request}

/-- A request about a permission changes it as it says. -/
theorem next_permission (permits : Permits charset methods represents)
    (represented : represents contents grants) (whole : request.Whole)
    (asked : asks request.input "permission" = some params) :
    represents (request.next lib methods contents)
      ((grantOf charset request).toList.foldl Grants.call grants) := by
  unfold Request.next Request.reply
  rw [handle_permission asked]
  unfold grantOf grantScope handlePermission
  rw [asked]
  have stays {reply : Reply} (silent : reply.writes = []) :
      represents (reply.writes.foldl methods.write contents) grants := by
    rw [silent]
    exact represented
  cases place : readScope request.input with
  | nil =>
      rcases params with _ | ⟨operation, _ | ⟨name, values⟩⟩ <;> exact stays (by simp)
  | cons network others =>
      obtain ⟨channel, sender⟩ := paramAt_scope lib network others
      have some : ¬(network :: others).length = 0 := by simp
      have first : paramAt lib (network :: others) 0 = network := rfl
      simp only [some, if_false, first, channel, sender]
      -- a call that writes
      have writes {write : DatabaseWrite} {call : PermissionCall} {next : Contents}
          {result : Except ByteString Contents} {reply : Reply} (silent : reply.writes = [])
          (completed : result = .ok next) (same : methods.write contents write = next)
          (kept : represents next (grants.call call)) :
          represents ((reply.database (result.map fun _ => ()) fun reply _ =>
            (reply.wrote write).success).writes.foldl methods.write contents)
              ([call].foldl Grants.call grants) := by
        simp only [completed, Except.map, Reply.database, Reply.success_writes,
          Reply.wrote_writes, silent, List.nil_append, List.foldl_cons, List.foldl_nil, same]
        exact kept
      rcases params with _ | ⟨operation, _ | ⟨name, values⟩⟩
      · exact stays (by simp)
      · exact stays (by simp)
      · have few : ¬(operation :: name :: values).length < 2 := by simp
        have operationAt : paramAt lib (operation :: name :: values) 0 = operation := rfl
        have nameAt : paramAt lib (operation :: name :: values) 1 = name := rfl
        simp only [few, if_false, operationAt, nameAt]
        by_cases isSet : operation = ascii "set"
        · subst isSet
          cases values with
          | nil =>
              have none := whole name asked
              rw [place] at none
              cases none
          | cons value more =>
              obtain ⟨next, completed, kept⟩ := permits.setPermission represented (isTrue value)
                name network (others.getD 0 []) (others.getD 1 [])
              have enough : ¬(ascii "set" :: name :: value :: more).length < 3 := by simp
              have valueAt : paramAt lib (ascii "set" :: name :: value :: more) 2 = value := rfl
              simp only [if_true, enough, if_false, valueAt]
              apply writes (by simp) completed ?_ kept
              rw [DatabaseMethods.write, completed]
              rfl
        · by_cases unset : operation = ascii "unset"
          · obtain ⟨next, completed, kept⟩ := permits.unsetPermission represented
              name network (others.getD 0 []) (others.getD 1 [])
            simp only [if_neg isSet, if_pos unset]
            apply writes (by simp) completed ?_ kept
            rw [DatabaseMethods.write, completed]
            rfl
          · simp only [if_neg isSet, if_neg unset]
            apply stays
            split
            · split
              · simp
              · cases (methods.view contents).hasPermission _ _ _ _ _ <;> simp [Reply.database]
            · simp

/-- After any requests the contents represent what they set. -/
theorem run (permits : Permits charset methods represents)
    (represented : represents contents grants) {requests : List Request}
    (whole : ∀ request ∈ requests, request.Whole) :
    represents (Request.run lib methods contents requests)
      ((requests.filterMap (grantOf charset)).foldl Grants.call grants) := by
  induction requests generalizing contents grants with
  | nil => exact represented
  | cons request requests inductionHypothesis =>
      have here : represents (request.next lib methods contents)
          ((grantOf charset request).toList.foldl Grants.call grants) := by
        cases asked : asks request.input "permission" with
        | some params =>
            exact permits.next_permission represented (whole request List.mem_cons_self) asked
        | none =>
            have nothing : grantOf charset request = none := by
              unfold grantOf
              rw [asked]
            rw [nothing]
            refine List.foldlRecOn (motive := fun contents => represents contents grants) _ _
              represented fun contents kept write inside => ?_
            exact permits.properties kept write (handle_unpermitted asked write inside)
      have later := inductionHypothesis here fun other inside =>
        whole other (List.mem_cons_of_mem _ inside)
      have split : (request :: requests).filterMap (grantOf charset) =
          (grantOf charset request).toList ++ requests.filterMap (grantOf charset) := by
        cases found : grantOf charset request <;> simp [found]
      rw [split, List.foldl_append]
      exact later

/-- What a plugin is told. -/
theorem has_reply (permits : Permits charset methods represents)
    (represented : represents contents grants) {name fallback : ByteString}
    {more : List ByteString} {scope : Scope}
    (asked : asks request.input "permission" = some (ascii "has" :: name :: fallback :: more))
    (place : grantScope charset request = some scope) :
    (request.reply lib methods contents).member "has_permission" =
      some (.bool (grants.hasPermission scope (charset.text name) (isTrue fallback))) := by
  have unfolded : request.reply lib methods contents = handlePermission lib
      { request.view with database := methods.view contents }
      (ascii "has" :: name :: fallback :: more) (readScope request.input)
      { info := request.info } := handle_permission asked
  rw [unfolded]
  unfold grantScope at place
  cases found : readScope request.input with
  | nil =>
      rw [found] at place
      cases place
  | cons network others =>
      rw [found] at place
      cases place
      obtain ⟨channel, sender⟩ := paramAt_scope lib network others
      have answer := permits.hasPermission represented name network (others.getD 0 [])
        (others.getD 1 []) (isTrue fallback)
      have some : ¬(network :: others).length = 0 := by simp
      have first : paramAt lib (network :: others) 0 = network := rfl
      have few : ¬(ascii "has" :: name :: fallback :: more).length < 2 := by simp
      have enough : ¬(ascii "has" :: name :: fallback :: more).length < 3 := by simp
      have operationAt :
          paramAt lib (ascii "has" :: name :: fallback :: more) 0 = ascii "has" := rfl
      have nameAt : paramAt lib (ascii "has" :: name :: fallback :: more) 1 = name := rfl
      have fallbackAt : paramAt lib (ascii "has" :: name :: fallback :: more) 2 = fallback := rfl
      have isSet : ¬ascii "has" = ascii "set" := by decide
      have unset : ¬ascii "has" = ascii "unset" := by decide
      unfold handlePermission
      simp only [some, if_false, first, channel, sender, few, operationAt, nameAt, fallbackAt,
        isSet, unset, enough, if_true, DatabaseMethods.view, answer, Reply.database]
      rw [Reply.set_member, if_pos rfl]

end Permits

end PluginComm

/-! ## MongoDB -/

/-- The methods of `MongoDatabase`, with those about properties given: they work on a collection
of their own. -/
def DatabaseMethods.mongo {lib : Libraries} (charset : Charset lib) {Contents : Type}
    (properties : DatabaseMethods Contents) : DatabaseMethods (Contents × MongoPermissions) where
  property contents := properties.property contents.1
  setProperty contents name value network receiver sender :=
    (properties.setProperty contents.1 name value network receiver sender).map (·, contents.2)
  propertyKeys contents := properties.propertyKeys contents.1
  hasPermission contents name network channel sender default :=
    .ok (contents.2.hasPermission (charset.scope network channel sender) (charset.text name)
      default)
  unsetPermission contents name network channel sender :=
    .ok (contents.1, contents.2.unsetPermission (charset.scope network channel sender)
      (charset.text name))
  setPermission contents permission name network channel sender :=
    .ok (contents.1, contents.2.setPermission (charset.scope network channel sender)
      (charset.text name) permission)

namespace PluginComm

variable {lib : Libraries} {Contents : Type}

theorem mongo_permits (charset : Charset lib) (properties : DatabaseMethods Contents) :
    Permits charset (.mongo charset properties) fun contents grants => Tells contents.2 grants where
  hasPermission tells _ _ _ _ default := congrArg Except.ok (tells.hasPermission default)
  setPermission tells _ _ _ _ _ := ⟨_, rfl, tells.call (.setPermission ..)⟩
  unsetPermission tells _ _ _ _ := ⟨_, rfl, tells.call (.unsetPermission ..)⟩
  properties {contents grants} tells write property := by
    cases write with
    | setProperty name value network receiver sender =>
        unfold DatabaseMethods.write DatabaseMethods.mongo
        dsimp only
        cases properties.setProperty contents.1 name value network receiver sender <;> exact tells
    | unsetPermission => cases property
    | setPermission => cases property

/-- In MongoDB, whatever plugins asked before and in whatever order: a plugin that asks whether a
permission is there is told what was last set by any of them, and not unset since, in the first
scope of the network that has it, and its own default if there is none. -/
theorem permissions_shared (charset : Charset lib) (properties : DatabaseMethods Contents)
    (start : Contents) {requests : List Request} (whole : ∀ request ∈ requests, request.Whole)
    {request : Request} {name fallback : ByteString} {more : List ByteString} {scope : Scope}
    (asked : asks request.input "permission" = some (ascii "has" :: name :: fallback :: more))
    (place : grantScope charset request = some scope) :
    let grants := (requests.filterMap (grantOf charset)).foldl Grants.call fun _ _ => none
    let methods := DatabaseMethods.mongo charset properties
    (request.reply lib methods (Request.run lib methods (start, {}) requests)).member
        "has_permission" =
      some (.bool (grants.hasPermission scope (charset.text name) (isTrue fallback))) := by
  intro grants methods
  have permits := mongo_permits charset properties
  -- the properties may be there already, the permissions start with none
  have kept : Tells (Request.run lib methods (start, {}) requests).2 grants :=
    permits.run Tells.empty whole
  exact permits.has_reply kept asked place

/-- A request about the permission `op` in the network `n`, for some sender or for all. -/
def permissionRequest (params : List String) (scope : List String) : Request where
  view := .online
  info := {}
  input := .object [(ascii "do", .string (ascii "permission")),
    (ascii "params", .array (params.map fun text => .string (ascii text))),
    (ascii "scope", .array (scope.map fun text => .string (ascii text)))]

/-- A permission that all have but one. -/
theorem permissions_shared_sender :
    let methods := DatabaseMethods.mongo (latin (.knowing [])) latinSqlite
    let contents := Request.run (.knowing []) methods ({}, {})
      [permissionRequest ["set", "op", "true"] ["n"],
        permissionRequest ["set", "op", "false"] ["n", "", "nick"]]
    ((permissionRequest ["has", "op", "true"] ["n", "", "nick"]).reply (.knowing []) methods
      contents).member "has_permission" = some (.bool false) := by
  intro methods contents
  have whole : ∀ request ∈ [permissionRequest ["set", "op", "true"] ["n"],
      permissionRequest ["set", "op", "false"] ["n", "", "nick"]], request.Whole := by
    intro request inside name asked
    simp only [List.mem_cons, List.not_mem_nil, or_false] at inside
    rcases inside with rfl | rfl
    · have full : asks (permissionRequest ["set", "op", "true"] ["n"]).input "permission" =
          some [ascii "set", ascii "op", ascii "true"] := by decide +kernel
      cases full.symm.trans asked
    · have full : asks (permissionRequest ["set", "op", "false"] ["n", "", "nick"]).input
          "permission" = some [ascii "set", ascii "op", ascii "false"] := by decide +kernel
      cases full.symm.trans asked
  have asked : asks (permissionRequest ["has", "op", "true"] ["n", "", "nick"]).input
      "permission" = some [ascii "has", ascii "op", ascii "true"] := by decide +kernel
  have place : grantScope (latin (.knowing []))
      (permissionRequest ["has", "op", "true"] ["n", "", "nick"]) =
        some ⟨['n'], [], ['n', 'i', 'c', 'k']⟩ := rfl
  rw [permissions_shared (latin (.knowing [])) latinSqlite {} whole asked place]
  exact congrArg (some <| Json.bool ·) (by decide +kernel)

end PluginComm

end DaZeus
