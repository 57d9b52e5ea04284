import DaZeus.PluginComm.Iteration

/-!
# How a request ends

A branch of `handle` names its action in `got` or `did` first and has its effect
last.  `Progress` is what holds of the response in between, and `Concludes` what
every branch comes to: it succeeds, or an exception leaves it before anything
was changed.
-/

namespace DaZeus

open Library
open Std (TreeMap)

/-- What a request does outside of its response. -/
structure Effects where
  info : SocketInfo
  call : Option (NetworkId × NetworkCall) := none
  writes : List DatabaseWrite := []
  reload : Bool := false

def isAscii (text : ByteString) : Bool := text.all (· < 128)

/-- jansson takes every text of ASCII characters for valid UTF-8. -/
def Libraries.AcceptsAscii (lib : Libraries) : Prop :=
  ∀ text : ByteString, isAscii text → lib.validUtf8 text

/-- The text of an exception that a database call lets out. -/
inductive DatabaseView.Raises (database : DatabaseView) (what : ByteString) : Prop
  | property {name network receiver sender : ByteString}
      (raised : database.property name network receiver sender = .error what)
  | setProperty {name value network receiver sender : ByteString}
      (raised : database.setProperty name value network receiver sender = .error what)
  | propertyKeys {start network receiver sender : ByteString}
      (raised : database.propertyKeys start network receiver sender = .error what)
  | hasPermission {name network channel sender : ByteString} {default : Bool}
      (raised : database.hasPermission name network channel sender default = .error what)
  | unsetPermission {name network receiver sender : ByteString}
      (raised : database.unsetPermission name network receiver sender = .error what)
  | setPermission {permission : Bool} {name network receiver sender : ByteString}
      (raised : database.setPermission permission name network receiver sender = .error what)

/-- The text of an exception that leaves `handle`. -/
inductive Raised (view : View) (what : ByteString) : Prop
  | own (plain : isAscii what)
  | database (raised : view.database.Raises what)

namespace Reply

def effects (reply : Reply) : Effects where
  info := reply.info
  call := reply.call
  writes := reply.writes
  reload := reply.reload

/-- A member of the response object. -/
def member (reply : Reply) (name : String) : Option Json :=
  (Json.object reply.response).objectGet (ascii name)

section Fields

variable {lib : Libraries} {reply : Reply} {name other : String} {value : Json}
  {text : ByteString}

@[simp]
theorem set_effects : (reply.set name value).effects = reply.effects := rfl

@[simp]
theorem set_thrown : (reply.set name value).thrown = reply.thrown := rfl

theorem set_member : (reply.set name value).member other =
    if ascii other = ascii name then some value else reply.member other :=
  Json.objectGet_setMember

theorem set_nodup (nodup : (reply.response.map Prod.fst).Nodup) :
    ((reply.set name value).response.map Prod.fst).Nodup :=
  Json.nodup_setMember nodup

/-- `json_string` makes a member or nothing. -/
theorem setString_cases (lib : Libraries) (reply : Reply) (name : String) (text : ByteString) :
    (∃ value, reply.setString lib name text = reply.set name value) ∨
      reply.setString lib name text = reply := by
  unfold setString
  split
  · exact .inl ⟨_, rfl⟩
  · exact .inr rfl

@[simp]
theorem setString_effects : (reply.setString lib name text).effects = reply.effects := by
  rcases setString_cases lib reply name text with ⟨value, same⟩ | same
  · rw [same, set_effects]
  · rw [same]

@[simp]
theorem start_effects {info : SocketInfo} : (Reply.effects { info }) = { info } := rfl

@[simp]
theorem success_effects : reply.success.effects = reply.effects := rfl

end Fields

/-- The member that names the action of a response. -/
inductive Kind where
  | got
  | did

namespace Kind

def name : Kind → String
  | got => "got"
  | did => "did"

def other : Kind → Kind
  | got => did
  | did => got

end Kind

/-- The members that say what became of a request. -/
def reserved : List ByteString := [ascii "got", ascii "did", ascii "success", ascii "error"]

/-- A response under way: it names the action in one member, there is no error in it,
and `success` may be there already. -/
structure Progress (lib : Libraries) (kind : Kind) (action : ByteString) (succeeded : Bool)
    (reply : Reply) : Prop where
  nodup : (reply.response.map Prod.fst).Nodup
  named : lib.AcceptsAscii → reply.member kind.name = some (.string action)
  once : reply.member kind.other.name = none
  noError : reply.member "error" = none
  success : reply.member "success" = if succeeded then some (.bool true) else none
  thrown : reply.thrown = none

/-- The end of a branch: success, or an exception or a stop before anything was changed. -/
inductive Outcome (view : View) (info : SocketInfo) (reply : Reply) : Prop
  | succeeded (returned : reply.thrown = none)
      (success : reply.member "success" = some (.bool true))
  | failed {what : ByteString} (thrown : reply.thrown = some what) (raised : Raised view what)
      (untouched : reply.effects = { info })
  | stopped (returned : reply.thrown = none) (overran : reply.overrun = true)
      (untouched : reply.effects = { info })

/-- What every branch for an action comes to. -/
structure Concludes (lib : Libraries) (view : View) (info : SocketInfo) (kind : Kind)
    (action : ByteString) (reply : Reply) : Prop where
  nodup : (reply.response.map Prod.fst).Nodup
  named : lib.AcceptsAscii → reply.member kind.name = some (.string action)
  once : reply.member kind.other.name = none
  noError : reply.member "error" = none
  outcome : Outcome view info reply

section Progress

variable {lib : Libraries} {view : View} {info : SocketInfo} {kind : Kind}
  {action text : ByteString} {succeeded : Bool} {reply : Reply} {name : String} {value : Json}

theorem ne_of_fresh (fresh : ascii name ∉ reserved) {other : String}
    (listed : ascii other ∈ reserved) : ascii other ≠ ascii name := by
  intro same
  exact fresh (same ▸ listed)

theorem mem_reserved (kind : Kind) : ascii kind.name ∈ reserved := by
  cases kind <;> decide

theorem Progress.set (progress : Progress lib kind action succeeded reply)
    (fresh : ascii name ∉ reserved := by decide) :
    Progress lib kind action succeeded (reply.set name value) where
  nodup := set_nodup progress.nodup
  named accepts := by
    rw [set_member, if_neg (ne_of_fresh fresh (mem_reserved kind))]
    exact progress.named accepts
  once := by
    rw [set_member, if_neg (ne_of_fresh fresh (mem_reserved kind.other))]
    exact progress.once
  noError := by
    rw [set_member, if_neg (ne_of_fresh fresh (by decide))]
    exact progress.noError
  success := by
    rw [set_member, if_neg (ne_of_fresh fresh (by decide))]
    exact progress.success
  thrown := progress.thrown

theorem Progress.setString (progress : Progress lib kind action succeeded reply)
    (fresh : ascii name ∉ reserved := by decide) :
    Progress lib kind action succeeded (reply.setString lib name text) := by
  rcases setString_cases lib reply name text with ⟨value, same⟩ | same
  · rw [same]
    exact progress.set fresh
  · rw [same]
    exact progress

theorem Progress.succeed (progress : Progress lib kind action succeeded reply) :
    Progress lib kind action true reply.success where
  nodup := set_nodup progress.nodup
  named accepts := by
    rw [Reply.success, set_member, if_neg (by cases kind <;> decide)]
    exact progress.named accepts
  once := by
    rw [Reply.success, set_member, if_neg (by cases kind <;> decide)]
    exact progress.once
  noError := by
    rw [Reply.success, set_member, if_neg (by decide)]
    exact progress.noError
  success := by
    rw [Reply.success, set_member]
    rfl
  thrown := progress.thrown

/-- Effects leave the response alone. -/
theorem Progress.along {after : Reply} (progress : Progress lib kind action succeeded reply)
    (response : after.response = reply.response) (thrown : after.thrown = reply.thrown) :
    Progress lib kind action succeeded after where
  nodup := response ▸ progress.nodup
  named accepts := by
    rw [member, response]
    exact progress.named accepts
  once := by
    rw [member, response]
    exact progress.once
  noError := by
    rw [member, response]
    exact progress.noError
  success := by
    rw [member, response]
    exact progress.success
  thrown := thrown.trans progress.thrown

theorem Progress.callNetwork {network : NetworkId} {call : NetworkCall}
    (progress : Progress lib kind action succeeded reply) :
    Progress lib kind action succeeded (reply.callNetwork network call) :=
  progress.along rfl rfl

theorem Progress.wrote {write : DatabaseWrite}
    (progress : Progress lib kind action succeeded reply) :
    Progress lib kind action succeeded (reply.wrote write) :=
  progress.along rfl rfl

theorem Progress.concludes (progress : Progress lib kind action true reply) :
    Concludes lib view info kind action reply where
  nodup := progress.nodup
  named := progress.named
  once := progress.once
  noError := progress.noError
  outcome := .succeeded progress.thrown progress.success

theorem Progress.throwText (progress : Progress lib kind action succeeded reply)
    (untouched : reply.effects = { info }) (raised : Raised view text) :
    Concludes lib view info kind action (reply.throwText text) where
  nodup := progress.nodup
  named := progress.named
  once := progress.once
  noError := progress.noError
  outcome := .failed rfl raised untouched

theorem Progress.throw {what : String} (progress : Progress lib kind action succeeded reply)
    (untouched : reply.effects = { info })
    (plain : isAscii (ascii what) := by decide) :
    Concludes lib view info kind action (reply.throw what) :=
  progress.throwText untouched (.own plain)

theorem Progress.overrun (progress : Progress lib kind action succeeded reply)
    (untouched : reply.effects = { info }) :
    Concludes lib view info kind action { reply with overrun := true } where
  nodup := progress.nodup
  named := progress.named
  once := progress.once
  noError := progress.noError
  outcome := .stopped progress.thrown rfl untouched

/-- A database call fails with its own exception, or the branch goes on. -/
theorem Progress.database {α : Type} {result : Except ByteString α} {next : Reply → α → Reply}
    (progress : Progress lib kind action succeeded reply) (untouched : reply.effects = { info })
    (raises : ∀ what, result = .error what → view.database.Raises what)
    (continued : ∀ value, Concludes lib view info kind action (next reply value)) :
    Concludes lib view info kind action (reply.database result next) := by
  cases found : result with
  | ok value => exact continued value
  | error what => exact progress.throwText untouched (.database (raises what found))

/-- A text that `json_string` takes as it is. -/
def isPlain (text : ByteString) : Bool := isAscii text && text.all (· != 0)

theorem cStr_of_isPlain {text : ByteString} (plain : isPlain text) : cStr text = text := by
  apply cStr_eq_self
  intro membership
  simp only [isPlain, Bool.and_eq_true, List.all_eq_true, bne_iff_ne] at plain
  exact plain.2 0 membership rfl

/-- A branch names its action first. -/
theorem Progress.start (kind : Kind) (plain : isPlain action) :
    Progress lib kind action false (Reply.setString lib { info } kind.name action) := by
  have fresh {name : String} (different : ascii name ≠ ascii kind.name) :
      (Reply.setString lib { info } kind.name action).member name = none := by
    rcases setString_cases lib { info } kind.name action with ⟨value, same⟩ | same
    · rw [same, set_member, if_neg different]
      rfl
    · rw [same]
      rfl
  refine ⟨?_, ?_, fresh ?_, fresh ?_, fresh ?_, ?_⟩
  · rcases setString_cases lib { info } kind.name action with ⟨value, same⟩ | same
    · rw [same]
      exact set_nodup List.nodup_nil
    · rw [same]
      exact List.nodup_nil
  · intro accepts
    have valid : lib.validUtf8 action := accepts action (Bool.and_eq_true_iff.mp plain).1
    simp only [Reply.setString, Libraries.jsonString, cStr_of_isPlain plain, valid, if_true,
      set_member]
  · cases kind <;> decide
  · cases kind <;> decide
  · cases kind <;> decide
  · unfold Reply.setString
    split <;> rfl

end Progress

end Reply

namespace PluginComm

open Reply

variable {lib : Libraries} {view : View} {info : SocketInfo} {params scope : List ByteString}
  {action : ByteString}

theorem handleNetworks_concludes :
    Concludes lib view info .got (ascii "networks") (handleNetworks lib view { info }) :=
  (Progress.start .got (by decide)).succeed.set.concludes

theorem handleHandshake_concludes :
    Concludes lib view info .did (ascii "handshake") (handleHandshake lib params { info }) := by
  have start : Progress lib .did (ascii "handshake") false
      (Reply.setString lib { info } "did" (ascii "handshake")) := .start .did (by decide)
  have untouched : (Reply.setString lib { info } "did" (ascii "handshake")).effects = { info } :=
    setString_effects
  unfold handleHandshake
  dsimp only
  split
  · exact start.throw untouched
  · split
    · exact start.throw untouched
    · split
      · exact start.throw untouched
      · apply Progress.concludes
        exact start.succeed.along rfl rfl

theorem handleReload_concludes :
    Concludes lib view info .did (ascii "reload") (handleReload lib { info }) := by
  have start : Progress lib .did (ascii "reload") false
      (Reply.setString lib { info } "did" (ascii "reload")) := .start .did (by decide)
  apply Progress.concludes
  exact start.succeed.along rfl rfl

/-- Whether a request on a network asks for something or does something. -/
def networkKind (action : ByteString) : Kind :=
  if action = ascii "channels" ∨ action = ascii "nick" then .got else .did

theorem handleOnNetwork_concludes (plain : isPlain action) :
    Concludes lib view info (networkKind action) action
      (handleOnNetwork lib view action params { info }) := by
  have named : (if action = ascii "channels" ∨ action = ascii "nick" then
        Reply.setString lib { info } "got" action
      else
        Reply.setString lib { info } "did" action) =
      Reply.setString lib { info } (networkKind action).name action := by
    unfold networkKind
    split <;> rfl
  unfold handleOnNetwork
  dsimp only
  rw [named]
  have start : Progress lib (networkKind action) action false
      (Reply.setString lib { info } (networkKind action).name action) :=
    .start (networkKind action) plain
  split
  · exact start.throw setString_effects
  · split
    · exact start.setString.succeed.set.concludes
    · split
      · exact start.setString.succeed.setString.concludes
      · split
        · exact start.setString.throw (by simp)
        · exact start.setString.succeed.callNetwork.concludes

theorem handleOnChannel_concludes (plain : isPlain action) :
    Concludes lib view info .did action (handleOnChannel lib view action params { info }) := by
  unfold handleOnChannel
  dsimp only
  have start : Progress lib .did action false (Reply.setString lib { info } "did" action) :=
    .start .did plain
  have untouched : (Reply.setString lib { info } "did" action).effects = { info } :=
    setString_effects
  split
  · exact start.throw untouched
  · have echoed : ∃ reply, Progress lib .did action false reply ∧ reply.effects = { info } ∧
        (if action = ascii "names" then
          (Reply.setString lib (.setString lib { info } "did" action) "network"
            (paramAt lib params 0)).setString lib "channel" (paramAt lib params 1)
        else
          ((Reply.setString lib (.setString lib { info } "did" action) "network"
            (paramAt lib params 0)).setString lib "receiver" (paramAt lib params 1)).setString lib
              "message" (if action ≠ ascii "names" then paramAt lib params 2 else [])) = reply := by
      refine ⟨_, ?_, ?_, rfl⟩
      · split
        · exact start.setString.setString
        · exact start.setString.setString.setString
      · split <;> simp [untouched]
    obtain ⟨reply, progress, unchanged, same⟩ := echoed
    rw [same]
    split
    · exact progress.throw unchanged
    · split
      · exact progress.succeed.callNetwork.concludes
      · exact progress.throw unchanged

theorem handleSubscribe_concludes :
    Concludes lib view info .did (ascii "subscribe") (handleSubscribe lib params { info }) := by
  have start : Progress lib .did (ascii "subscribe") false
      (Reply.setString lib { info } "did" (ascii "subscribe")) := .start .did (by decide)
  refine Progress.concludes (Progress.set ?_)
  exact start.succeed.along rfl rfl

theorem handleUnsubscribe_concludes :
    Concludes lib view info .did (ascii "unsubscribe") (handleUnsubscribe lib params { info }) := by
  have start : Progress lib .did (ascii "unsubscribe") false
      (Reply.setString lib { info } "did" (ascii "unsubscribe")) := .start .did (by decide)
  refine Progress.concludes (Progress.set ?_)
  exact start.succeed.along rfl rfl

theorem handleCommand_concludes :
    Concludes lib view info .did (ascii "command") (handleCommand lib view params { info }) := by
  have start : Progress lib .did (ascii "command") false
      (Reply.setString lib { info } "did" (ascii "command")) := .start .did (by decide)
  have untouched : (Reply.setString lib { info } "did" (ascii "command")).effects = { info } :=
    setString_effects
  have registered (commands : SocketInfo) : Concludes lib view info .did (ascii "command")
      { Reply.setString lib { info } "did" (ascii "command") with info := commands }.success := by
    apply Progress.concludes
    apply Progress.succeed
    exact start.along rfl rfl
  unfold handleCommand
  dsimp only
  split
  · exact start.throw untouched
  · split
    · exact registered _
    · split
      · split
        · exact start.throw untouched
        · split
          · exact registered _
          · exact registered _
      · exact start.throw untouched

theorem handleProperty_concludes :
    Concludes lib view info .did (ascii "property")
      (handleProperty lib view params scope { info }) := by
  have start : Progress lib .did (ascii "property") false
      (Reply.setString lib { info } "did" (ascii "property")) := .start .did (by decide)
  have untouched : (Reply.setString lib { info } "did" (ascii "property")).effects = { info } :=
    setString_effects
  unfold handleProperty
  dsimp only
  split
  · exact start.throw untouched
  · split
    · apply start.database untouched fun what raised => .property raised
      intro value
      split
      · exact start.succeed.setString.setString.concludes
      · exact start.succeed.setString.concludes
    · split
      · split
        · exact start.throw untouched
        · apply start.database untouched fun what raised => .setProperty raised
          intro _
          exact start.wrote.succeed.concludes
      · split
        · apply start.database untouched fun what raised => .setProperty raised
          intro _
          exact start.wrote.succeed.concludes
        · split
          · apply start.database untouched fun what raised => .propertyKeys raised
            intro keys
            exact start.set.succeed.concludes
          · exact start.throw untouched

theorem handleConfig_concludes :
    Concludes lib view info .got (ascii "config") (handleConfig lib view params { info }) := by
  have start : Progress lib .got (ascii "config") false
      (Reply.setString lib { info } "got" (ascii "config")) := .start .got (by decide)
  have untouched : (Reply.setString lib { info } "got" (ascii "config")).effects = { info } :=
    setString_effects
  unfold handleConfig
  dsimp only
  split
  · exact start.throw untouched
  · split
    · split
      · exact start.throw untouched
      · split
        · exact start.succeed.setString.setString.setString.concludes
        · exact start.succeed.setString.setString.concludes
    · split
      · split
        · exact start.succeed.setString.setString.setString.concludes
        · exact start.succeed.setString.setString.concludes
      · exact start.throw untouched

theorem handlePermission_concludes :
    Concludes lib view info .did (ascii "permission")
      (handlePermission lib view params scope { info }) := by
  have start : Progress lib .did (ascii "permission") false
      (Reply.setString lib { info } "did" (ascii "permission")) := .start .did (by decide)
  have untouched : (Reply.setString lib { info } "did" (ascii "permission")).effects = { info } :=
    setString_effects
  unfold handlePermission
  dsimp only
  split
  · exact start.throw untouched
  · split
    · exact start.throw untouched
    · split
      · split
        · exact start.overrun untouched
        · apply start.database untouched fun what raised => .setPermission raised
          intro _
          exact start.wrote.succeed.concludes
      · split
        · apply start.database untouched fun what raised => .unsetPermission raised
          intro _
          exact start.wrote.succeed.concludes
        · split
          · split
            · exact start.throw untouched
            · apply start.database untouched fun what raised => .hasPermission raised
              intro permission
              exact start.succeed.set.concludes
          · exact start.throw untouched

theorem plain_of_known : ∀ action ∈ knownActions, isPlain action := by decide +kernel

/-- What a dispatched request comes to: a branch's end, or an exception about the action. -/
inductive Dispatched (lib : Libraries) (view : View) (info : SocketInfo) (action : ByteString)
    (reply : Reply) : Prop
  | known (known : action ∈ knownActions) (kind : Kind)
      (ends : Concludes lib view info kind action reply)
  | unknown (unknown : action ∉ knownActions)
      (same : reply = Reply.throw { info } "Did not understand request")

theorem handleAction_dispatched (action : ByteString) :
    Dispatched lib view info action (handleAction lib view action params scope { info }) := by
  have onNetwork : ∀ action ∈ [ascii "channels", ascii "whois", ascii "join", ascii "part",
      ascii "nick"], action ∈ knownActions := by decide +kernel
  have onChannel : ∀ action ∈ [ascii "message", ascii "notice", ascii "action", ascii "ctcp",
      ascii "ctcp_rep", ascii "names"], action ∈ knownActions := by decide +kernel
  apply handleAction_cases (motive := Dispatched lib view info) { info }
  · exact .known (by decide) .got handleNetworks_concludes
  · exact .known (by decide) .did handleHandshake_concludes
  · exact .known (by decide) .did handleReload_concludes
  · intro action membership
    have known := onNetwork action membership
    exact .known known _ (handleOnNetwork_concludes (plain_of_known action known))
  · intro action membership
    have known := onChannel action membership
    exact .known known .did (handleOnChannel_concludes (plain_of_known action known))
  · exact .known (by decide) .did handleSubscribe_concludes
  · exact .known (by decide) .did handleUnsubscribe_concludes
  · exact .known (by decide) .did handleCommand_concludes
  · exact .known (by decide) .did handleProperty_concludes
  · exact .known (by decide) .got handleConfig_concludes
  · exact .known (by decide) .did handlePermission_concludes
  · intro action unknown
    exact .unknown unknown rfl

/-- The ways in which `handle` comes to its end. -/
inductive Handled (lib : Libraries) (view : View) (input : Json) (info : SocketInfo)
    (reply : Reply) : Prop
  | unreadable {what : ByteString} (plain : isAscii what)
      (unread : ∀ params action, readParams input = .ok params → readAction input ≠ .ok action)
      (same : reply = { info, thrown := some what })
  | dispatched {params : List ByteString} {action : ByteString}
      (read : readParams input = .ok params) (asked : readAction input = .ok action)
      (dispatched : Dispatched lib view info action reply)

theorem plain_of_readParams {input : Json} {what : ByteString}
    (refused : readParams input = .error what) : isAscii what := by
  unfold readParams at refused
  split at refused
  · cases refused
  · next items found =>
      cases texts : paramTexts 0 items with
      | ok params =>
          rw [texts] at refused
          cases refused
      | error index =>
          rw [texts] at refused
          cases refused
          have digits : isAscii (decimal index) := by
            apply List.all_eq_true.mpr
            intro byte digit
            have ranged := isDigit_of_mem_decimal digit
            simp only [isDigit, Bool.and_eq_true, decide_eq_true_eq] at ranged
            exact decide_eq_true (UInt8.lt_of_le_of_lt ranged.2 (by decide))
          have start : isAscii (ascii "Parameter ") := by decide
          have rest : isAscii (ascii " is of an unsupported type") := by decide
          simp only [isAscii, List.all_append, Bool.and_eq_true] at digits start rest ⊢
          exact ⟨⟨start, digits⟩, rest⟩
  · cases refused
    decide

theorem plain_of_readAction {input : Json} {what : ByteString}
    (refused : readAction input = .error what) : isAscii what := by
  unfold readAction at refused
  split at refused
  · cases refused
  · cases refused
  · cases refused
    decide

theorem handle_handled (lib : Libraries) (view : View) (input : Json) (info : SocketInfo) :
    Handled lib view input info (handle lib view input info) := by
  unfold handle
  cases read : readParams input with
  | error what =>
      refine .unreadable (plain_of_readParams read) ?_ rfl
      intro params _ other
      cases read.symm.trans other
  | ok params =>
      cases asked : readAction input with
      | error what =>
          refine .unreadable (plain_of_readAction asked) ?_ rfl
          intro _ action _ other
          cases asked.symm.trans other
      | ok action => exact .dispatched read asked (handleAction_dispatched action)

/-- Whatever is asked, a request succeeds, or fails before it has changed anything. -/
theorem handle_outcome (lib : Libraries) (view : View) (input : Json) (info : SocketInfo) :
    Outcome view info (handle lib view input info) := by
  cases handle_handled lib view input info with
  | unreadable plain _ same => exact same ▸ .failed rfl (.own plain) rfl
  | dispatched _ _ dispatched =>
      cases dispatched with
      | known _ kind ends => exact ends.outcome
      | unknown _ same => exact same ▸ .failed rfl (.own (by decide)) rfl

/-! ## Failed requests -/

theorem effects_of_thrown {input : Json} {what : ByteString}
    (thrown : (handle lib view input info).thrown = some what) :
    (handle lib view input info).effects = { info } := by
  cases handle_outcome lib view input info with
  | succeeded returned _ => cases returned.symm.trans thrown
  | failed _ _ untouched => exact untouched
  | stopped _ _ untouched => exact untouched

/-- A member of the response after the exception handler of `poll`. -/
def answered (lib : Libraries) (reply : Reply) (name : String) : Option Json :=
  (Json.object (responseMembers lib reply)).objectGet (ascii name)

theorem answered_of_returned {reply : Reply} {name : String} (returned : reply.thrown = none) :
    answered lib reply name = reply.member name := by
  simp only [answered, responseMembers, returned, Reply.member]

theorem answered_of_thrown {reply : Reply} {what : ByteString} (thrown : reply.thrown = some what)
    (name : String) : answered lib reply name =
      ((reply.set "success" (.bool false)).setString lib "error" what).member name := by
  simp only [answered, responseMembers, thrown, Reply.member]

/-- Another member than `error` does not depend on whether its text is a JSON string. -/
theorem member_setString_of_ne {reply : Reply} {name other : String} {text : ByteString}
    (different : ascii other ≠ ascii name) :
    (reply.setString lib name text).member other = reply.member other := by
  rcases setString_cases lib reply name text with ⟨value, same⟩ | same
  · rw [same, set_member, if_neg different]
  · rw [same]

theorem answered_success_of_thrown {reply : Reply} {what : ByteString}
    (thrown : reply.thrown = some what) :
    answered lib reply "success" = some (.bool false) := by
  rw [answered_of_thrown thrown, member_setString_of_ne (by decide), set_member]
  rfl

/-- A request that `handle` refuses is answered with `success` false and leaves the socket, the
database, the networks and the configuration as they were; all that `poll` does is to append
the response. -/
theorem failed_request_unchanged (lib : Libraries) (view : View) (fd : Nat) (packet : ByteString)
    (input : Json) (it : Iteration) {what : ByteString}
    (thrown : (handle lib view input it.info).thrown = some what) :
    (handle lib view input it.info).info = it.info ∧
      (handle lib view input it.info).writes = [] ∧
      (handle lib view input it.info).reload = false ∧
      (handle lib view input it.info).call = none ∧
      answered lib (handle lib view input it.info) "success" = some (.bool false) ∧
      (answer lib view fd packet input it).info =
        { it.info with
          writebuffer := it.info.writebuffer ++ responseFrame lib view input it.info
          waitingSize := 0 } ∧
      (answer lib view fd packet input it).pc =
        { it.pc with
          trace := .produced fd (responseFrame lib view input it.info) ::
            .handled fd packet :: it.pc.trace } := by
  have untouched := effects_of_thrown thrown
  have info : (handle lib view input it.info).info = it.info := congrArg Effects.info untouched
  have call : (handle lib view input it.info).call = none := congrArg Effects.call untouched
  have reload : (handle lib view input it.info).reload = false :=
    congrArg Effects.reload untouched
  refine ⟨info, congrArg Effects.writes untouched, reload, call,
    answered_success_of_thrown thrown, ?_, ?_⟩
  · rw [answer_info, info]
  · simp only [answer, reload, call, Bool.false_eq_true, if_false]
    rfl

/-- A request to join a channel on a network that the bot does not have. -/
def joinRequest : Json := .object [(ascii "do", .string (ascii "join")),
  (ascii "params", .array [.string (ascii "n"), .string (ascii "#c")])]

theorem failed_request_unchanged_join :
    (handle (.knowing []) .bare joinRequest {}).thrown = some (ascii "Not on that network") ∧
      (handle (.knowing []) .bare joinRequest {}).call = none :=
  ⟨by decide +kernel,
    (failed_request_unchanged (.knowing []) .bare 5 [] joinRequest { pc := {}, info := {} }
      (by decide +kernel : _ = some (ascii "Not on that network"))).2.2.2.1⟩

end PluginComm

end DaZeus
