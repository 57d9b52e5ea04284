import DaZeus.PluginComm.Session

/-!
# Who a plugin is

A plugin says who it is in a handshake, and is asked only once: its name and its
group of options are those of the first handshake that was in order, until it
connects again.  `own_configuration` says that the options of this group are the
only ones of a plugin that it gets to see.
-/

namespace DaZeus

open Library
open Std (TreeMap)

/-- What a plugin says in its handshake. -/
structure Identity where
  pluginName : ByteString := []
  pluginVersion : ByteString := []
  protocolVersion : Nat := 0
  configGroup : ByteString := []

def SocketInfo.identity (info : SocketInfo) : Identity where
  pluginName := info.pluginName
  pluginVersion := info.pluginVersion
  protocolVersion := info.protocolVersion
  configGroup := info.configGroup

namespace PluginComm

variable {lib : Libraries} {view : View} {info : SocketInfo} {input : Json}

/-- The identity in a handshake that is in order. -/
def offered (input : Json) : Option Identity :=
  match asks input "handshake" with
  | some (name :: version :: protocol :: group :: _) =>
      if protocol = ascii "1" then some ⟨name, version, 1, group⟩ else none
  | _ => none

/-- Who the plugin is after a request. -/
def introduce (identity : Identity) (input : Json) : Identity :=
  if identity.protocolVersion ≠ 0 then identity else (offered input).getD identity

theorem handleCommand_identity {params : List ByteString} (reply : Reply) :
    (handleCommand lib view params reply).info.identity = reply.info.identity := by
  have named : (reply.setString lib "did" (ascii "command")).info = reply.info := by simp
  unfold handleCommand
  dsimp only
  rw [named]
  split
  · exact congrArg SocketInfo.identity named
  · split
    · rfl
    · split
      · split
        · exact congrArg SocketInfo.identity named
        · split <;> rfl
      · exact congrArg SocketInfo.identity named

/-- The other requests leave the identity as it is. -/
theorem handle_otherwise_identity (other : asks input "handshake" = none) :
    (handle lib view input info).info.identity = info.identity := by
  unfold handle
  cases read : readParams input with
  | error what => rfl
  | ok params =>
      cases found : readAction input with
      | error what => rfl
      | ok action =>
          have different : action ≠ ascii "handshake" := by
            rintro rfl
            simp [asks, read, found] at other
          have counted (change : SocketInfo → ByteString → SocketInfo × Bool)
              (only : ∀ info name, ∃ names,
                (change info name).1 = { info with subscriptions := names }) :
              (countChanges change info params).1.identity = info.identity := by
            obtain ⟨names, changed⟩ := countChanges_subscriptions change only info params
            rw [changed]
            rfl
          refine handleAction_cases (motive := fun action reply => action ≠ ascii "handshake" →
            reply.info.identity = info.identity) { info } ?_ ?_ ?_ ?_ ?_ ?_ ?_ ?_ ?_ ?_ ?_ ?_
            action different
          · intro _
            simp [handleNetworks]
          · exact fun same => absurd rfl same
          · intro _
            simp [handleReload]
          · intro _ _ _
            rw [handleOnNetwork_info]
          · intro _ _ _
            rw [handleOnChannel_info]
          · intro _
            have same := counted (SocketInfo.subscribe lib) fun info name => by
              unfold SocketInfo.subscribe
              split
              · exact ⟨info.subscriptions, rfl⟩
              · exact ⟨_, rfl⟩
            simpa [handleSubscribe] using same
          · intro _
            have same := counted (SocketInfo.unsubscribe lib) fun info name => by
              unfold SocketInfo.unsubscribe
              split
              · exact ⟨info.subscriptions, rfl⟩
              · exact ⟨_, rfl⟩
            simpa [handleUnsubscribe] using same
          · intro _
            exact handleCommand_identity { info }
          · intro _
            rw [handleProperty_info]
          · intro _
            rw [handleConfig_info]
          · intro _
            rw [handlePermission_info]
          · intro _ _ _
            rfl

/-- A handshake with fewer than four parameters is none. -/
theorem offered_short {params : List ByteString} (asked : asks input "handshake" = some params)
    (short : params.length < 4) : offered input = none := by
  unfold offered
  rw [asked]
  match params, short with
  | [], _ => rfl
  | [_], _ => rfl
  | [_, _], _ => rfl
  | [_, _, _], _ => rfl
  | _ :: _ :: _ :: _ :: rest, short =>
      simp only [List.length_cons] at short
      omega

theorem offered_long {name version protocol group : ByteString} {rest : List ByteString}
    (asked : asks input "handshake" = some (name :: version :: protocol :: group :: rest)) :
    offered input =
      if protocol = ascii "1" then some ⟨name, version, 1, group⟩ else none := by
  unfold offered
  rw [asked]

/-- A handshake is taken if it is the first one and in order. -/
theorem handle_identity :
    (handle lib view input info).info.identity = introduce info.identity input := by
  unfold introduce
  cases asked : asks input "handshake" with
  | none =>
      have nothing : offered input = none := by
        unfold offered
        rw [asked]
      rw [handle_otherwise_identity asked, nothing]
      split <;> rfl
  | some params =>
      have handled : handle lib view input info = handleHandshake lib params { info } :=
        handle_asks asked
      have named : (Reply.setString lib { info } "did" (ascii "handshake")).info = info := by simp
      have refused (what : String) : ((Reply.setString lib { info } "did"
          (ascii "handshake")).throw what).info.identity = info.identity :=
        congrArg SocketInfo.identity named
      rw [handled]
      unfold handleHandshake
      dsimp only
      rw [named]
      by_cases did : info.identity.protocolVersion ≠ 0
      · have before : info.didHandshake = true := bne_iff_ne.mpr did
        rw [if_pos before, if_pos did]
        exact refused _
      · have before : ¬info.didHandshake = true := fun already => did (bne_iff_ne.mp already)
        rw [if_neg before, if_neg did]
        by_cases short : params.length < 4
        · rw [if_pos short, offered_short asked short]
          exact refused _
        · rw [if_neg short]
          match params, short, asked with
          | name :: version :: protocol :: group :: rest, _, asked =>
              rw [offered_long asked]
              by_cases first : protocol = ascii "1"
              · subst first
                rw [if_pos rfl, if_neg (by exact fun other => other rfl)]
                rfl
              · rw [if_neg first, if_pos (by exact first)]
                exact refused _
          | [], short, _ => exact absurd (by decide) short
          | [_], short, _ => exact absurd (by simp) short
          | [_, _], short, _ => exact absurd (by simp) short
          | [_, _, _], short, _ => exact absurd (by simp) short

theorem offered_protocol {found : Identity} (first : offered input = some found) :
    found.protocolVersion = 1 := by
  unfold offered at first
  split at first
  · split at first
    · cases first
      rfl
    · cases first
  · cases first

/-- The identity after some requests is the first one that was offered. -/
theorem foldl_introduce (inputs : List Json) (identity : Identity) :
    inputs.foldl introduce identity =
      if identity.protocolVersion ≠ 0 then identity
      else (inputs.findSome? offered).getD identity := by
  induction inputs generalizing identity with
  | nil => simp
  | cons input inputs inductionHypothesis =>
      rw [List.foldl_cons, inductionHypothesis, introduce]
      by_cases known : identity.protocolVersion ≠ 0
      · rw [if_pos known, if_pos known, if_pos known]
      · rw [if_neg known, if_neg known]
        cases first : offered input with
        | none =>
            rw [Option.getD_none, if_neg known, List.findSome?_cons, first]
        | some found =>
            have one := offered_protocol first
            rw [Option.getD_some, if_pos (by omega), List.findSome?_cons, first]
            rfl

theorem thrown_setString (reply : Reply) (name : String) (text : ByteString) :
    (reply.setString lib name text).thrown = reply.thrown := by
  rcases Reply.setString_cases lib reply name text with ⟨value, same⟩ | same <;> rw [same]
  rfl

/-- A request for an option of the plugin's own group. -/
theorem handleConfig_own {told : Reply} (name : ByteString)
    (same : told = Reply.setString lib { info } "got" (ascii "config")) :
    handleConfig lib view [ascii "plugin", name] { info } =
      if !told.info.didHandshake then
        told.throw "Need to do a handshake for retrieving plugin configuration"
      else
        let answer := (told.success.setString lib "group" (ascii "plugin")).setString lib
          "variable" name
        match pluginVariable view.config.plugins told.info.configGroup name with
        | some value => answer.setString lib "value" value
        | none => answer := by
  rw [same]
  rfl

/-- What a plugin is told about its own options. -/
theorem handle_ownOption {name : ByteString}
    (asked : asks input "config" = some [ascii "plugin", name]) :
    if info.identity.protocolVersion ≠ 0 then
      (handle lib view input info).thrown = none ∧
        (handle lib view input info).member "value" =
          (pluginVariable view.config.plugins info.identity.configGroup name).bind lib.jsonString
    else
      (handle lib view input info).thrown =
        some (ascii "Need to do a handshake for retrieving plugin configuration") := by
  have handled : handle lib view input info =
      handleConfig lib view [ascii "plugin", name] { info } := handle_asks asked
  let told := Reply.setString lib { info } "got" (ascii "config")
  have named : told.info = info := by simp [told]
  have same : told = Reply.setString lib { info } "got" (ascii "config") := rfl
  rw [handled, handleConfig_own name same, named]
  by_cases did : info.identity.protocolVersion ≠ 0
  · have before : info.didHandshake = true := bne_iff_ne.mpr did
    rw [if_pos did, before]
    let answer := (told.success.setString lib "group" (ascii "plugin")).setString lib
      "variable" name
    have returned : answer.thrown = none := by
      simp only [answer, told, thrown_setString]
      exact thrown_setString _ _ _
    have fresh : answer.member "value" = none := by
      rw [member_setString_of_ne (by decide), member_setString_of_ne (by decide), Reply.success,
        Reply.set_member, if_neg (by decide), member_setString_of_ne (by decide)]
      rfl
    have own : info.configGroup = info.identity.configGroup := rfl
    simp only [Bool.not_true, Bool.false_eq_true, if_false, own]
    cases pluginVariable view.config.plugins info.identity.configGroup name with
    | none => exact ⟨returned, fresh⟩
    | some value =>
        refine ⟨(thrown_setString _ _ _).trans returned, ?_⟩
        rw [Reply.setString_member]
        exact (congrArg (Option.or _) fresh).trans (Option.or_none)
  · have before : info.didHandshake = false := by
      simpa [SocketInfo.didHandshake, SocketInfo.identity] using did
    rw [if_neg did, before]
    rfl

/-- How a request for an option of the plugin's own group is answered after some requests: from
the group in the first handshake that was in order, and not at all if there was none. -/
def AnswersOwn (lib : Libraries) (view : View) (earlier : List Json) (input : Json)
    (name : ByteString) (info : SocketInfo) : Prop :=
  match earlier.findSome? offered with
  | none => (handle lib view input info).thrown =
      some (ascii "Need to do a handshake for retrieving plugin configuration")
  | some identity => (handle lib view input info).thrown = none ∧
      (handle lib view input info).member "value" =
        (pluginVariable view.config.plugins identity.configGroup name).bind lib.jsonString

theorem answersOwn_of_identity {earlier : List Json} {name : ByteString}
    (identity : info.identity = (earlier.findSome? offered).getD {})
    (asked : asks input "config" = some [ascii "plugin", name]) :
    AnswersOwn lib view earlier input name info := by
  have told := @handle_ownOption lib view info input name asked
  unfold AnswersOwn
  cases first : earlier.findSome? offered with
  | none =>
      rw [first] at identity
      rw [identity, if_neg (by decide)] at told
      exact told
  | some known =>
      obtain ⟨input, -, here⟩ := List.exists_of_findSome?_eq_some first
      have one := offered_protocol here
      rw [first, Option.getD_some] at identity
      rw [identity, if_pos (by omega)] at told
      exact told

/-- Who the plugin is after some requests. -/
theorem run_identity (type : ByteString) (requests : List (View × Json)) :
    ((server lib).run { type } requests).identity =
      ((requests.map Prod.snd).findSome? offered).getD {} := by
  have introduced : ((server lib).run { type } requests).identity =
      requests.foldl (fun identity request => introduce identity request.2) {} :=
    Machine.run_view SocketInfo.identity _ (fun _ _ => handle_identity) _ _
  have folded := foldl_introduce (requests.map Prod.snd) {}
  rw [if_neg (by decide), List.foldl_map] at folded
  rw [introduced]
  exact folded

variable {start pc : PluginComm}

/-- In every run, from its connection on a plugin gets to see the options of one group of plugins
only: of the one that it named in its first handshake that was in order, whatever it has asked for
before and after, and whatever other plugins do.  Before that handshake it gets to see none.  This
is how every request that was handled was answered, and how any other one would be now. -/
theorem own_configuration (initial : (system lib).initial start)
    {actions : List (View × Action)} (completed : performAll lib start actions = .ok pc)
    (fd : Nat) :
    ∃ (type : ByteString) (rounds : Rounds lib), rounds.map Prod.fst <:+ actions.map Prod.fst ∧
      handled fd pc.trace = rounds.packets ∧
      (∃ messages : List Message, produced fd pc.trace = messages.flatMap (Message.bytes lib) ∧
        messages.filter Message.isResponse = (server lib).answers { type } rounds.requests) ∧
      (∀ earlier view input later name, rounds.requests = earlier ++ (view, input) :: later →
        asks input "config" = some [ascii "plugin", name] →
          ∃ info, ((server lib).answers { type } rounds.requests)[earlier.length]? =
              some (.response view input info) ∧
            AnswersOwn lib view (earlier.map Prod.snd) input name info) ∧
      ∀ info, pc.sockets[fd]? = some info → ∀ view input name,
        asks input "config" = some [ascii "plugin", name] →
          AnswersOwn lib view (rounds.requests.map Prod.snd) input name info := by
  obtain ⟨type, rounds, recent, said, session⟩ := performAll_sequential initial completed fd
  refine ⟨type, rounds, recent, said.1, said.2, ?_, ?_⟩
  · intro earlier view input later name split asked
    refine ⟨(server lib).run { type } earlier, ?_, ?_⟩
    · rw [split, Machine.answers_at]
      rfl
    · exact answersOwn_of_identity (run_identity type earlier) asked
  · intro info found view input name asked
    have same : info.identity = info.session.identity := rfl
    apply answersOwn_of_identity _ asked
    rw [same, session info found, run_identity]

def handshakeRequest : Json := .object [(ascii "do", .string (ascii "handshake")),
  (ascii "params", .array [.string (ascii "karma"), .string (ascii "2"), .string (ascii "1"),
    .string (ascii "karma")])]

def configRequest : Json := .object [(ascii "get", .string (ascii "config")),
  (ascii "params", .array [.string (ascii "plugin"), .string (ascii "key")])]

/-- The plugin introduces itself and asks for an option in one go. -/
def introducedRun : List (View × Action) :=
  [(.online, .connect 5 (ascii "unix")), (.online, .poll fun _ =>
    { reads := [.data (frame handshakeRequest.print ++ frame configRequest.print),
        .wouldBlock] })]

/-- Its second request is answered from the group in its first. -/
theorem own_configuration_karma :
    ∃ pc, performAll (.knowing [handshakeRequest, configRequest]) {} introducedRun = .ok pc ∧
      (handled 5 pc.trace).length = 2 ∧
      ∃ rounds : Rounds (.knowing [handshakeRequest, configRequest]),
        handled 5 pc.trace = rounds.packets ∧
        ∀ earlier view input later name, rounds.requests = earlier ++ (view, input) :: later →
          asks input "config" = some [ascii "plugin", name] →
            ∃ info, AnswersOwn (.knowing [handshakeRequest, configRequest]) view
              (earlier.map Prod.snd) input name info := by
  have returns : ((performAll (.knowing [handshakeRequest, configRequest]) {} introducedRun).map
      fun pc => (handled 5 pc.trace).length) = .ok 2 := by decide +kernel
  cases completed :
      performAll (.knowing [handshakeRequest, configRequest]) {} introducedRun with
  | error fault =>
      rw [completed] at returns
      cases returns
  | ok pc =>
      rw [completed] at returns
      obtain ⟨type, rounds, -, packets, -, answered, -⟩ :=
        own_configuration ⟨rfl, rfl, rfl⟩ completed 5
      refine ⟨pc, rfl, Except.ok.inj returns, rounds, packets, ?_⟩
      intro earlier view input later name split asked
      obtain ⟨info, -, answers⟩ := answered earlier view input later name split asked
      exact ⟨info, answers⟩

end PluginComm

end DaZeus
