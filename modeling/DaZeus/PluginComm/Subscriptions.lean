import DaZeus.Library.Membership
import DaZeus.PluginComm.Session

/-!
# Subscriptions to events

The vector of subscriptions is a set of upper-case names.  Which events a
socket gets depends on the last request that names the event and on nothing
else, and the counts of the replies say how the set has grown or shrunk.
-/

namespace DaZeus

open Library
open Std (TreeMap)

variable {lib : Libraries} {puts : Bool} {info : SocketInfo}

/-! ## One request -/

namespace SocketInfo

/-- `subscribe`, or `unsubscribe`. -/
def changeSubscription (lib : Libraries) (puts : Bool) :
    SocketInfo → ByteString → SocketInfo × Bool :=
  if puts then subscribe lib else unsubscribe lib

/-- The change of the set. -/
def subscriptionChange (lib : Libraries) (puts : Bool) (name : ByteString) : Change ByteString :=
  ⟨puts, lib.strToUpper name⟩

theorem changeSubscription_spec (lib : Libraries) (puts : Bool) (info : SocketInfo)
    (name : ByteString) :
    (changeSubscription lib puts info name).1.subscriptions =
        (subscriptionChange lib puts name).apply info.subscriptions ∧
      (changeSubscription lib puts info name).2 =
        decide (puts ≠ decide (lib.strToUpper name ∈ info.subscriptions)) := by
  unfold changeSubscription subscriptionChange Change.apply
  cases puts with
  | true =>
      unfold subscribe isSubscribed
      by_cases present : lib.strToUpper name ∈ info.subscriptions <;> simp [present]
  | false =>
      unfold unsubscribe isSubscribed
      by_cases present : lib.strToUpper name ∈ info.subscriptions
      · simp only [present, List.contains_iff_mem.mpr, Bool.not_true, Bool.false_eq_true, if_false,
          decide_true, ne_eq, not_false_eq_true, and_true]
        exact List.filter_congr fun other _ => by
          rw [Bool.eq_iff_iff, bne_iff_ne, decide_eq_true_eq]
      · simp only [present, List.contains_iff_mem, Bool.not_eq_true', ← Bool.not_eq_true,
          not_false_eq_true, if_true, Bool.false_eq_true, if_false, decide_false, ne_eq,
          not_true_eq_false, and_true]
        refine (List.filter_eq_self.mpr fun other membership => ?_).symm
        exact decide_eq_true fun same => present (same ▸ membership)

end SocketInfo

namespace PluginComm

open DaZeus.SocketInfo

/-- The loop over the names puts them all in, or takes them all out, and counts the difference. -/
theorem countChanges_spec (lib : Libraries) (puts : Bool) (distinct : info.subscriptions.Nodup)
    (names : List ByteString) :
    (countChanges (changeSubscription lib puts) info names).1.subscriptions =
        (names.map (subscriptionChange lib puts)).foldl Change.apply info.subscriptions ∧
      ((countChanges (changeSubscription lib puts) info names).1.subscriptions.length : Int) =
        info.subscriptions.length +
          if puts then ((countChanges (changeSubscription lib puts) info names).2 : Int)
          else -(countChanges (changeSubscription lib puts) info names).2 := by
  induction names generalizing info with
  | nil => cases puts <;> exact ⟨rfl, rfl⟩
  | cons name names inductionHypothesis =>
      obtain ⟨changed, counts⟩ := changeSubscription_spec lib puts info name
      have size := Change.length_apply (subscriptionChange lib puts name) distinct
      have distinctNext : (changeSubscription lib puts info name).1.subscriptions.Nodup := by
        rw [changed]
        exact Change.nodup_apply distinct
      obtain ⟨others, total⟩ := inductionHypothesis distinctNext
      simp only [countChanges, counts]
      refine ⟨?_, ?_⟩
      · rw [others, changed]
        rfl
      · rw [total, changed, size]
        simp only [subscriptionChange]
        cases puts <;> by_cases present : lib.strToUpper name ∈ info.subscriptions <;>
          simp [present] <;> omega

end PluginComm

/-- A request to subscribe to some events, or to unsubscribe from them. -/
structure SubscriptionRequest where
  subscribes : Bool
  names : List ByteString

namespace SubscriptionRequest

def action (request : SubscriptionRequest) : ByteString :=
  if request.subscribes then ascii "subscribe" else ascii "unsubscribe"

/-- The member of the response with the count. -/
def counter (request : SubscriptionRequest) : String :=
  if request.subscribes then "added" else "removed"

/-- The packet asks for this. -/
def Asked (request : SubscriptionRequest) (input : Json) : Prop :=
  PluginComm.readParams input = .ok request.names ∧
    PluginComm.readAction input = .ok request.action

/-- The request in a packet, if it is about events. -/
def read (input : Json) : Option SubscriptionRequest :=
  match PluginComm.asks input "subscribe" with
  | some names => some ⟨true, names⟩
  | none => (PluginComm.asks input "unsubscribe").map fun names => ⟨false, names⟩

/-- The event is one of the names, letter case aside. -/
def mentions (lib : Libraries) (event : ByteString) (request : SubscriptionRequest) : Bool :=
  request.names.any fun name => lib.strToUpper name == lib.strToUpper event

end SubscriptionRequest

/-- The last request that names the event was to subscribe. -/
def lastSubscribes (lib : Libraries) (requests : List SubscriptionRequest) (event : ByteString) :
    Bool :=
  (requests.filter (·.mentions lib event)).getLast?.any (·.subscribes)

namespace PluginComm

open DaZeus.SocketInfo

variable {view : View} {request : SubscriptionRequest} {requests : List SubscriptionRequest}
  {input : Json} {event : ByteString}

theorem handle_request (asked : request.Asked input) (distinct : info.subscriptions.Nodup) :
    (handle lib view input info).info.subscriptions =
        (request.names.map (subscriptionChange lib request.subscribes)).foldl Change.apply
          info.subscriptions ∧
      (handle lib view input info).member request.counter = some (.integer
        (if request.subscribes then
          ((handle lib view input info).info.subscriptions.length : Int) - info.subscriptions.length
        else
          info.subscriptions.length - (handle lib view input info).info.subscriptions.length)) := by
  obtain ⟨subscribes, names⟩ := request
  obtain ⟨params, action⟩ := asked
  obtain ⟨changed, size⟩ := countChanges_spec lib subscribes distinct names
  unfold handle
  rw [params, action]
  dsimp only
  cases subscribes with
  | true =>
      have same : handleAction lib view (ascii "subscribe") names (readScope input) { info } =
          handleSubscribe lib names { info } := rfl
      have chosen : changeSubscription lib true = subscribe lib := rfl
      simp only [SubscriptionRequest.action, if_true, same, handleSubscribe, Reply.set_info,
        Reply.success_info, Reply.setString_info, ← chosen, changed, true_and,
        SubscriptionRequest.counter, Reply.set_member]
      rw [← changed, size]
      simp
  | false =>
      have same : handleAction lib view (ascii "unsubscribe") names (readScope input) { info } =
          handleUnsubscribe lib names { info } := rfl
      have chosen : changeSubscription lib false = unsubscribe lib := rfl
      simp only [SubscriptionRequest.action, Bool.false_eq_true, if_false, same,
        handleUnsubscribe, Reply.set_info, Reply.success_info, Reply.setString_info, ← chosen,
        changed, true_and, SubscriptionRequest.counter, Reply.set_member, if_true]
      rw [← changed, size]
      simp

/-- The set before and after one request. -/
theorem mem_request {name : ByteString} (subscriptions : List ByteString) :
    name ∈ (request.names.map (subscriptionChange lib request.subscribes)).foldl
        Change.apply subscriptions ↔
      name ∈ request.names.map lib.strToUpper ∧ request.subscribes = true ∨
        name ∉ request.names.map lib.strToUpper ∧ name ∈ subscriptions := by
  have changes : request.names.map (subscriptionChange lib request.subscribes) =
      (request.names.map lib.strToUpper).map (Change.mk request.subscribes) := by
    rw [List.map_map]
    rfl
  rw [changes, Change.mem_foldl_apply]

theorem mentions_iff :
    request.mentions lib event = true ↔
      lib.strToUpper event ∈ request.names.map lib.strToUpper := by
  simp [SubscriptionRequest.mentions]

theorem lastSubscribes_snoc :
    lastSubscribes lib (requests ++ [request]) event =
      if request.mentions lib event then request.subscribes
      else lastSubscribes lib requests event := by
  unfold lastSubscribes
  rw [List.filter_append, List.filter_singleton]
  cases request.mentions lib event with
  | true => simp
  | false => simp

/-- A socket that was connected without subscriptions has made these requests, in this order.
What else happens to it leaves the subscriptions as they are. -/
inductive Served (lib : Libraries) : List SubscriptionRequest → SocketInfo → Prop
  | connected {info : SocketInfo} (fresh : info.subscriptions = []) : Served lib [] info
  | request {requests : List SubscriptionRequest} {info : SocketInfo} {view : View} {input : Json}
      {request : SubscriptionRequest} (served : Served lib requests info)
      (asked : request.Asked input) :
      Served lib (requests ++ [request]) (handle lib view input info).info
  | elsewhere {requests : List SubscriptionRequest} {info later : SocketInfo}
      (served : Served lib requests info) (same : later.subscriptions = info.subscriptions) :
      Served lib requests later

theorem Served.spec (served : Served lib requests info) :
    info.subscriptions.Nodup ∧
      ∀ event, lib.strToUpper event ∈ info.subscriptions ↔
        lastSubscribes lib requests event = true := by
  induction served with
  | connected fresh =>
      rw [fresh]
      exact ⟨List.nodup_nil, fun event => by simp [lastSubscribes]⟩
  | request served asked inductionHypothesis =>
      obtain ⟨distinct, members⟩ := inductionHypothesis
      rw [(handle_request asked distinct).1]
      refine ⟨Change.nodup_foldl_apply distinct _, fun event => ?_⟩
      rw [mem_request, lastSubscribes_snoc, ← mentions_iff, members]
      split
      · next mentioned => simp [mentioned]
      · next unmentioned => simp [unmentioned]
  | elsewhere _ same inductionHypothesis =>
      rw [same]
      exact inductionHypothesis

theorem Served.upperCase (idempotent : ∀ text, lib.strToUpper (lib.strToUpper text) =
    lib.strToUpper text) (served : Served lib requests info) :
    ∀ name ∈ info.subscriptions, lib.strToUpper name = name := by
  induction served with
  | connected fresh =>
      rw [fresh]
      exact fun name none => absurd none List.not_mem_nil
  | request served asked inductionHypothesis =>
      intro name member
      rw [(handle_request asked served.spec.1).1, mem_request] at member
      obtain ⟨mentioned, -⟩ | ⟨-, before⟩ := member
      · obtain ⟨written, -, rfl⟩ := List.mem_map.mp mentioned
        exact idempotent written
      · exact inductionHypothesis name before
  | elsewhere _ same inductionHypothesis =>
      rw [same]
      exact inductionHypothesis

/-! ## Runs -/

theorem handleHandshake_subscriptions (params : List ByteString) (reply : Reply) :
    (handleHandshake lib params reply).info.subscriptions = reply.info.subscriptions := by
  unfold handleHandshake
  dsimp only
  split
  · simp
  · split
    · simp
    · split <;> simp

theorem handleCommand_subscriptions (params : List ByteString) (reply : Reply) :
    (handleCommand lib view params reply).info.subscriptions = reply.info.subscriptions := by
  unfold handleCommand
  dsimp only
  split
  · simp
  · split
    · simp [subscribeToCommand]
    · split
      · split
        · simp
        · split <;> simp [subscribeToCommand]
      · simp

/-- The other requests leave the subscriptions as they are. -/
theorem handleAction_subscriptions {action : ByteString} {params scope : List ByteString}
    (reply : Reply) (subscribe : action ≠ ascii "subscribe")
    (unsubscribe : action ≠ ascii "unsubscribe") :
    (handleAction lib view action params scope reply).info.subscriptions =
      reply.info.subscriptions := by
  unfold handleAction
  rw [if_neg subscribe, if_neg unsubscribe]
  split
  · simp [handleNetworks]
  split
  · exact handleHandshake_subscriptions params reply
  split
  · simp [handleReload]
  split
  · rw [handleOnNetwork_info]
  split
  · rw [handleOnChannel_info]
  split
  · exact handleCommand_subscriptions params reply
  split
  · rw [handleProperty_info]
  split
  · rw [handleConfig_info]
  split
  · rw [handlePermission_info]
  · rfl

theorem Served.handle (served : Served lib requests info) (view : View) (input : Json) :
    Served lib (requests ++ (SubscriptionRequest.read input).toList)
      (handle lib view input info).info := by
  have unchanged (none : SubscriptionRequest.read input = none)
      (same : (PluginComm.handle lib view input info).info.subscriptions = info.subscriptions) :
      Served lib (requests ++ (SubscriptionRequest.read input).toList)
        (PluginComm.handle lib view input info).info := by
    rw [none, Option.toList_none, List.append_nil]
    exact served.elsewhere same
  cases params : PluginComm.readParams input with
  | error what =>
      apply unchanged
      · simp [SubscriptionRequest.read, asks, params]
      · simp [PluginComm.handle, params]
  | ok names =>
      cases action : PluginComm.readAction input with
      | error what =>
          apply unchanged
          · simp [SubscriptionRequest.read, asks, params, action]
          · simp [PluginComm.handle, params, action]
      | ok name =>
          have changes (request : SubscriptionRequest)
              (read : SubscriptionRequest.read input = some request)
              (asked : request.Asked input) :
              Served lib (requests ++ (SubscriptionRequest.read input).toList)
                (PluginComm.handle lib view input info).info := by
            rw [read]
            exact served.request asked
          by_cases subscribe : name = ascii "subscribe"
          · subst subscribe
            apply changes ⟨true, names⟩ _ ⟨params, action⟩
            simp [SubscriptionRequest.read, asks, params, action]
          by_cases unsubscribe : name = ascii "unsubscribe"
          · subst unsubscribe
            apply changes ⟨false, names⟩ _ ⟨params, action⟩
            simp [SubscriptionRequest.read, asks, params, action, subscribe]
          · apply unchanged
            · simp [SubscriptionRequest.read, asks, params, action, subscribe, unsubscribe]
            · simp [PluginComm.handle, params, action,
                handleAction_subscriptions _ subscribe unsubscribe]

/-- The server of a connection makes the requests about events that are among its requests. -/
theorem Served.run (served : Served lib requests info) (inputs : List (View × Json)) :
    Served lib (requests ++ (inputs.map Prod.snd).filterMap SubscriptionRequest.read)
      ((server lib).run info inputs) := by
  induction inputs generalizing requests info with
  | nil =>
      rw [List.map_nil, List.filterMap_nil, List.append_nil]
      exact served
  | cons input inputs inductionHypothesis =>
      have later := inductionHypothesis (served.handle input.1 input.2)
      have split : (SubscriptionRequest.read input.2).toList ++
          (inputs.map Prod.snd).filterMap SubscriptionRequest.read =
          ((input :: inputs).map Prod.snd).filterMap SubscriptionRequest.read := by
        rw [List.map_cons, List.filterMap_cons]
        cases SubscriptionRequest.read input.2 <;> rfl
      rw [List.append_assoc, split] at later
      exact later

/-- In every state of the component, a socket has made the requests about events that are among
those handled on it since it was connected. -/
theorem served_of_reachable {pc : PluginComm} (reached : (system lib).Reachable pc) {fd : Nat}
    (found : pc.sockets[fd]? = some info) :
    ∃ inputs : List Json,
      (handled fd pc.trace).map (fun packet => lib.loads (cStr packet)) = inputs.map some ∧
        Served lib (inputs.filterMap SubscriptionRequest.read) info := by
  obtain ⟨type, rounds, said, session⟩ := sequential_of_reachable reached fd
  have fresh : Served lib [] { type } := .connected rfl
  refine ⟨rounds.requests.map Prod.snd, ?_, ?_⟩
  · rw [said.1, Rounds.loads_packets]
  · have made := fresh.run rounds.requests
    rw [← session info found] at made
    exact made.elsewhere rfl

/-! ## Events -/

/-- What an event is to one entry of the map. -/
def receive (lib : Libraries) (event : EventName) (parameters : List ByteString)
    (info : SocketInfo) : SocketInfo :=
  if info.isSubscribed lib event.text then info.dispatch lib event parameters else info

theorem dispatchStep_sockets (event : EventName) (parameters : List ByteString)
    (pc : PluginComm) (fd other : Nat) :
    (dispatchStep lib event parameters pc fd).sockets[other]? =
      if fd = other then pc.sockets[other]?.map (receive lib event parameters)
      else pc.sockets[other]? := by
  unfold dispatchStep receive
  split
  · next none => split <;> simp_all
  · next info found =>
      split
      · next subscribed =>
          rw [dispatchTo_sockets]
          split <;> simp_all
      · next unsubscribed => split <;> simp_all

/-- The loop comes to each socket once. -/
theorem dispatch_names (event : EventName) (parameters : List ByteString) {names : List Nat}
    (distinct : names.Nodup) (pc : PluginComm) (fd : Nat) :
    (names.foldl (dispatchStep lib event parameters) pc).sockets[fd]? =
      if fd ∈ names then pc.sockets[fd]?.map (receive lib event parameters)
      else pc.sockets[fd]? := by
  induction names generalizing pc with
  | nil => rfl
  | cons first names inductionHypothesis =>
      obtain ⟨fresh, distinct⟩ := List.nodup_cons.mp distinct
      rw [List.foldl_cons, inductionHypothesis distinct, dispatchStep_sockets]
      by_cases same : first = fd
      · subst same
        simp [fresh]
      · simp [same, Ne.symm same]

theorem dispatch_sockets (event : EventName) (parameters : List ByteString) (pc : PluginComm)
    (fd : Nat) :
    (pc.dispatch lib event parameters).sockets[fd]? =
      pc.sockets[fd]?.map (receive lib event parameters) := by
  unfold dispatch
  rw [dispatch_names event parameters TreeMap.nodup_keys]
  split
  · rfl
  · next absent =>
      rw [TreeMap.mem_keys] at absent
      simp [TreeMap.getElem?_eq_none absent]

/-- In every state a socket can be brought to by requests, its subscriptions are a set of
upper-case names; the next request reports how the set changes; and an event puts one frame into
its output if the last request that names it was to subscribe, and nothing otherwise.  The
sockets of the component are in such states at all times, brought there by the requests that were
handled on them. -/
theorem subscriptions_follow (idempotent : ∀ text, lib.strToUpper (lib.strToUpper text) =
    lib.strToUpper text) (served : Served lib requests info) :
    info.subscriptions.Nodup ∧ (∀ name ∈ info.subscriptions, lib.strToUpper name = name) ∧
      (∀ (view : View) (input : Json) (request : SubscriptionRequest), request.Asked input →
        let reply := handle lib view input info
        reply.member request.counter = some (.integer
          (if request.subscribes then
            (reply.info.subscriptions.length : Int) - info.subscriptions.length
          else
            info.subscriptions.length - reply.info.subscriptions.length))) ∧
      (∀ (pc : PluginComm) (fd : Nat) (event : EventName) (parameters : List ByteString),
        pc.sockets[fd]? = some info →
        (pc.dispatch lib event parameters).sockets[fd]? = some { info with
          writebuffer := info.writebuffer ++
            if lastSubscribes lib requests event.text then
              SocketInfo.eventFrame lib event parameters
            else [] }) ∧
      ∀ pc : PluginComm, (system lib).Reachable pc →
        ∀ (fd : Nat) (info : SocketInfo), pc.sockets[fd]? = some info → ∃ inputs : List Json,
          (handled fd pc.trace).map (fun packet => lib.loads (cStr packet)) = inputs.map some ∧
            Served lib (inputs.filterMap SubscriptionRequest.read) info := by
  obtain ⟨distinct, members⟩ := served.spec
  refine ⟨distinct, served.upperCase idempotent, ?_, ?_,
    fun pc reached fd info => served_of_reachable reached⟩
  · intro view input request asked
    exact (handle_request asked distinct).2
  · intro pc fd event parameters found
    have subscribed : info.isSubscribed lib event.text =
        lastSubscribes lib requests event.text := by
      rw [Bool.eq_iff_iff, ← members event.text]
      exact List.contains_iff_mem
    rw [dispatch_sockets, found, Option.map_some, receive, subscribed]
    cases lastSubscribes lib requests event.text with
    | true => rfl
    | false => simp

theorem raised_raised (byte : UInt8) : raised (raised byte) = raised byte := by
  unfold raised
  split
  · next letter =>
      rw [if_neg]
      simp only [UInt8.le_iff_toNat_le] at letter ⊢
      rw [UInt8.toNat_sub_of_le]
      · simp at letter ⊢
        omega
      · rw [UInt8.le_iff_toNat_le]
        simp at letter ⊢
        omega
  · rfl

def subscriptionPacket (action : String) (names : List String) : Json :=
  .object [(ascii "do", .string (ascii action)),
    (ascii "params", .array (names.map fun name => .string (ascii name)))]

/-- Two requests in mixed case, with a repetition: one of the names stays. -/
theorem subscriptions_follow_mixed :
    let lib := Libraries.knowing []
    let first := handle lib .bare (subscriptionPacket "subscribe" ["join", "JOIN", "Part"]) {}
    let info := (handle lib .bare (subscriptionPacket "unsubscribe" ["part"]) first.info).info
    info.subscriptions = [ascii "JOIN"] ∧
      ∀ (pc : PluginComm) (fd : Nat), pc.sockets[fd]? = some info →
        (pc.dispatch lib (.of "JOIN") []).sockets[fd]? = some { info with
          writebuffer := SocketInfo.eventFrame lib (.of "JOIN") [] } ∧
        (pc.dispatch lib (.of "PART") []).sockets[fd]? = some info := by
  intro lib first info
  have served : Served lib [⟨true, [ascii "join", ascii "JOIN", ascii "Part"]⟩,
      ⟨false, [ascii "part"]⟩] info :=
    .request (.request (.connected rfl) ⟨rfl, rfl⟩) ⟨rfl, rfl⟩
  have idempotent (text : ByteString) :
      lib.strToUpper (lib.strToUpper text) = lib.strToUpper text := by
    simp [lib, Libraries.knowing, raised_raised]
  obtain ⟨-, -, -, events, -⟩ := subscriptions_follow idempotent served
  refine ⟨by decide, fun pc fd found => ⟨?_, ?_⟩⟩
  · exact events pc fd (.of "JOIN") [] found
  · exact events pc fd (.of "PART") [] found

end PluginComm

end DaZeus
