import DaZeus.PluginComm.Iteration

/-!
# Commands for plugins that check the sender

A plugin may restrict a command to one sender, who then has to be identified.
The queue does not look at which network a WHOIS answer is from.
`deliveries_authorised_iff` says that this is all that is wrong: in a run, such
plugins get commands of identified senders only if and only if no answer comes
while another network's command waits for the same nick.
-/

namespace DaZeus

open Library
open Std (TreeMap)

/-- Every registration that accepts the command of an identified sender checks the sender. -/
def SocketInfo.OnlyBySender (info : SocketInfo) (cmd : Command) : Prop :=
  ∀ registration ∈ info.commands, registration.1 = cmd.command →
    registration.2.accepts cmd.channel cmd.origin true cmd.network →
    registration.2.needsSender

/-- The socket gets the command if the sender counts as identified. -/
def SocketInfo.wants (info : SocketInfo) (cmd : Command) (identified : Bool) : Bool :=
  info.isSubscribedToCommand cmd.command cmd.channel cmd.origin identified cmd.network

theorem RequirementInfo.accepts_true {requirement : RequirementInfo}
    {receiver sender : ByteString} {identified : Bool} {network : NetworkId}
    (accepts : requirement.accepts receiver sender identified network) :
    requirement.accepts receiver sender true network := by
  cases identified with
  | true => exact accepts
  | false =>
      unfold RequirementInfo.accepts at accepts ⊢
      split at accepts
      · cases accepts
      · next onNetwork =>
          split at accepts
          · cases accepts
          · next toReceiver =>
              rw [if_neg onNetwork, if_neg toReceiver]
              split at accepts
              · cases accepts
              · next anyone => rw [if_neg anyone]

theorem RequirementInfo.identified_of_needsSender {requirement : RequirementInfo}
    {receiver sender : ByteString} {identified : Bool} {network : NetworkId}
    (accepts : requirement.accepts receiver sender identified network)
    (needsSender : requirement.needsSender) : identified = true := by
  unfold RequirementInfo.accepts at accepts
  split at accepts
  · cases accepts
  · split at accepts
    · cases accepts
    · rw [Bool.and_eq_true] at accepts
      exact accepts.1

/-- Who gets a command by sender only gets it from an identified sender. -/
theorem SocketInfo.OnlyBySender.identified {info : SocketInfo} {cmd : Command}
    {identified : Bool} (only : info.OnlyBySender cmd) (wants : info.wants cmd identified) :
    identified = true ∧ info.commandMightNeedWhois cmd.command := by
  obtain ⟨registration, membership, accepted⟩ := List.any_eq_true.mp wants
  rw [Bool.and_eq_true, beq_iff_eq] at accepted
  have needsSender := only registration membership accepted.1
    (RequirementInfo.accepts_true accepted.2)
  refine ⟨RequirementInfo.identified_of_needsSender accepted.2 needsSender, ?_⟩
  refine List.any_eq_true.mpr ⟨registration, membership, ?_⟩
  simp [accepted.1, needsSender]

namespace PluginComm

variable {lib : Libraries} {memory : NetworkId → NetworkState} {before pc after : PluginComm}

theorem getElem?_paramAt {params : List ByteString} {index : Nat}
    (bound : index < params.length) : params[index]? = some (paramAt lib params index) := by
  simp [paramAt, bound]

/-- The events that were noted in between. -/
def since (before after : PluginComm) : List TraceEvent :=
  after.trace.take (after.trace.length - before.trace.length)

/-- The sender is identified on the network of the command: the network remembers it, or
the event is this network's own WHOIS answer about the sender. -/
def Authorised (cmd : Command) : View × Action → Prop
  | (view, .ircEvent network event _ params) =>
      (view.memory cmd.network).isIdentified cmd.origin ∨
        network = cmd.network ∧ event = ascii "WHOIS" ∧ params[0]? = some cmd.origin ∧
          params[1]? = some (ascii "true")
  | (view, _) => (view.memory cmd.network).isIdentified cmd.origin

/-- Whatever the step delivered to a socket that gets it by sender only was authorised. -/
def AuthorisedStep (before : PluginComm) (label : View × Action) (after : PluginComm) : Prop :=
  ∀ (fd : Nat) (info : SocketInfo) (cmd : Command), before.sockets[fd]? = some info →
    info.OnlyBySender cmd →
    .delivered fd cmd ∈ since before after → Authorised cmd label

/-- A positive WHOIS answer finds no command of the same nick on another network in the
queue, which that network does not know as identified and which some socket would get by
sender only. -/
def NoForeignAnswer (pc : PluginComm) : View × Action → Prop
  | (view, .ircEvent network event _ params) =>
      event = ascii "WHOIS" → params[1]? = some (ascii "true") →
        ∀ cmd ∈ pc.commandQueue, params[0]? = some cmd.origin →
          (view.memory cmd.network).isIdentified cmd.origin = false →
          (∃ (fd : Nat) (info : SocketInfo), pc.sockets[fd]? = some info ∧
            info.OnlyBySender cmd ∧ info.wants cmd true) →
          cmd.network = network
  | _ => True

/-- All deliveries noted since a state are good. -/
def Delivering.Noted (good : Nat → Command → Prop) (before pc : PluginComm) : Prop :=
  ∃ events, pc.trace = events ++ before.trace ∧
    ∀ fd cmd, .delivered fd cmd ∈ events → good fd cmd

/-- From `before`, all deliveries were good, and no registration changed. -/
structure Delivering (good : Nat → Command → Prop) (before pc : PluginComm) : Prop where
  commands : ∀ fd : Nat, pc.sockets[fd]?.map SocketInfo.commands =
    before.sockets[fd]?.map SocketInfo.commands
  events : Delivering.Noted good before pc

namespace Delivering

variable {good : Nat → Command → Prop}

theorem Noted.cons (noted : Noted good before pc) {event : TraceEvent}
    (allowed : ∀ fd cmd, event = .delivered fd cmd → good fd cmd) :
    Noted good before (pc.record event) := by
  obtain ⟨events, trace, all⟩ := noted
  refine ⟨event :: events, by rw [record_trace, trace]; rfl, fun fd cmd membership => ?_⟩
  rcases List.mem_cons.mp membership with now | earlier
  · exact allowed fd cmd now.symm
  · exact all fd cmd earlier

theorem refl (good : Nat → Command → Prop) (pc : PluginComm) : Delivering good pc pc :=
  ⟨fun _ => rfl, [], rfl, by simp⟩

theorem record (delivering : Delivering good before pc) {event : TraceEvent}
    (allowed : ∀ fd cmd, event = .delivered fd cmd → good fd cmd) :
    Delivering good before (pc.record event) :=
  ⟨delivering.commands, delivering.events.cons allowed⟩

theorem dispatchTo (lib : Libraries) (delivering : Delivering good before pc) (fd : Nat)
    (event : EventName) (parameters : List ByteString) :
    Delivering good before (pc.dispatchTo lib fd event parameters) := by
  have appended : Delivering good before
      { pc with sockets := pc.sockets.modify fd (·.dispatch lib event parameters) } := by
    refine ⟨fun other => ?_, delivering.events⟩
    rw [← delivering.commands other]
    simp only [TreeMap.getElem?_modify, Nat.compare_eq_eq]
    split
    · next same =>
        subst same
        rw [Option.map_map]
        rfl
    · rfl
  exact appended.record (by simp)

theorem dispatch (delivering : Delivering good before pc) (event : EventName)
    (parameters : List ByteString) :
    Delivering good before (pc.dispatch lib event parameters) :=
  dispatch_induction delivering fun delivering _ _ => delivering.dispatchTo _ _ _ _

theorem queue (delivering : Delivering good before pc) (commandQueue : List Command) :
    Delivering good before { pc with commandQueue } :=
  ⟨delivering.commands, delivering.events⟩

/-- The entry before had the same registrations. -/
theorem earlier (delivering : Delivering good before pc) {fd : Nat} {info : SocketInfo}
    (found : pc.sockets[fd]? = some info) :
    ∃ entry, before.sockets[fd]? = some entry ∧ entry.commands = info.commands := by
  have same := delivering.commands fd
  rw [found, Option.map_some] at same
  exact Option.map_eq_some_iff.mp same.symm

theorem now (delivering : Delivering good before pc) {fd : Nat} {entry : SocketInfo}
    (found : before.sockets[fd]? = some entry) :
    ∃ info, pc.sockets[fd]? = some info ∧ info.commands = entry.commands := by
  have same := delivering.commands fd
  rw [found, Option.map_some] at same
  exact Option.map_eq_some_iff.mp same

/-- A command goes to all that want it. -/
theorem deliver (delivering : Delivering good before pc) {identified : Bool} {cmd : Command}
    (allowed : ∀ fd entry, before.sockets[fd]? = some entry →
      entry.wants cmd ((memory cmd.network).isIdentified cmd.origin || identified) →
      good fd cmd) :
    Delivering good before (deliver lib memory identified pc cmd) := by
  apply List.foldlRecOn _ _ delivering
  intro pc delivering fd _
  unfold deliverStep
  split
  · exact delivering
  · next info found =>
      split
      · exact delivering
      · next wanted =>
          apply (delivering.dispatchTo _ fd _ _).record
          rintro fd' cmd' same
          cases same
          obtain ⟨entry, entryFound, commands⟩ := delivering.earlier found
          apply allowed fd entry entryFound
          simpa [SocketInfo.wants, SocketInfo.isSubscribedToCommand, commands] using wanted

/-- No WHOIS is required when the command of an unidentified sender has no socket that
checks it. -/
theorem whoisRequired_of_now (delivering : Delivering good before pc) {fd : Nat}
    {entry : SocketInfo} {cmd : Command} (found : before.sockets[fd]? = some entry)
    (mightNeed : entry.commandMightNeedWhois cmd.command)
    (unidentified : (memory cmd.network).isIdentified cmd.origin = false) :
    whoisRequired memory pc cmd := by
  obtain ⟨info, infoFound, commands⟩ := delivering.now found
  refine List.any_eq_true.mpr
    ⟨(fd, info), TreeMap.mem_toList_iff_getElem?_eq_some.mpr infoFound, ?_⟩
  rw [Bool.and_eq_true]
  refine ⟨?_, by rw [unidentified]; rfl⟩
  simpa only [SocketInfo.commandMightNeedWhois, commands] using mightNeed

/-- The loop delivers what waits for nothing or was asked about. -/
theorem flushLoop (delivering : Delivering good before pc) {nick : ByteString}
    {identified : Bool} {queue : List Command}
    (allowed : ∀ cmd ∈ queue, ∀ fd entry, before.sockets[fd]? = some entry →
      (entry.commandMightNeedWhois cmd.command →
        (memory cmd.network).isIdentified cmd.origin = false → nick = cmd.origin) →
      entry.wants cmd ((memory cmd.network).isIdentified cmd.origin || identified) →
      good fd cmd) :
    Delivering good before (flushLoop lib memory nick identified queue pc).2 := by
  induction queue generalizing pc with
  | nil => exact delivering
  | cons cmd rest inductionHypothesis =>
      have later := fun other membership => allowed other (List.mem_cons_of_mem cmd membership)
      unfold PluginComm.flushLoop
      split
      · refine inductionHypothesis ?_ later
        split
        · exact delivering
        · exact delivering.record (by simp)
      · next released =>
          refine inductionHypothesis (delivering.deliver fun fd entry found =>
            allowed cmd List.mem_cons_self fd entry found fun mightNeed unidentified => ?_) later
          by_contra other
          apply released
          rw [Bool.and_eq_true, bne_iff_ne]
          exact ⟨delivering.whoisRequired_of_now found mightNeed unidentified, other⟩

end Delivering

/-- A delivery from the state before the step that needs no excuse. -/
def GoodDelivery (before : PluginComm) (label : View × Action) (fd : Nat) (cmd : Command) :
    Prop :=
  ∀ info, before.sockets[fd]? = some info → info.OnlyBySender cmd → Authorised cmd label

variable {view : View} {network : NetworkId} {event origin : ByteString}
  {params : List ByteString}

/-- A socket that gets a command by sender only, from a sender it does not know, gets it
because of the answer. -/
theorem good_of_answer {nick : ByteString} {identified : Bool} {cmd : Command} {fd : Nat}
    {entry : SocketInfo} (found : before.sockets[fd]? = some entry)
    (asked : entry.commandMightNeedWhois cmd.command →
      (view.memory cmd.network).isIdentified cmd.origin = false → nick = cmd.origin)
    (wants : entry.wants cmd
      ((view.memory cmd.network).isIdentified cmd.origin || identified))
    (answer : identified = true → nick = cmd.origin →
      (view.memory cmd.network).isIdentified cmd.origin = false → entry.OnlyBySender cmd →
      entry.wants cmd true →
      Authorised cmd (view, .ircEvent network event origin params)) :
    GoodDelivery before (view, .ircEvent network event origin params) fd cmd := by
  intro info infoFound only
  cases found.symm.trans infoFound
  obtain ⟨flag, mightNeed⟩ := only.identified wants
  cases known : (view.memory cmd.network).isIdentified cmd.origin with
  | true => exact .inl known
  | false =>
      rw [known, Bool.false_or] at flag
      subst flag
      rw [Bool.or_true] at wants
      exact answer rfl (asked mightNeed known) known only wants

theorem ircEvent_delivering (lib : Libraries)
    (allowed : NoForeignAnswer before (view, .ircEvent network event origin params)) :
    Delivering (GoodDelivery before (view, .ircEvent network event origin params)) before
      (before.ircEvent lib view.memory view.config.globalConfig network event origin params) := by
  have start := Delivering.refl
    (GoodDelivery before (view, .ircEvent network event origin params)) before
  cases ircEvent_outcome lib view.memory view.config.globalConfig before network event origin
    params with
  | ignored same => exact same ▸ start
  | sent name args same => exact same ▸ start.dispatch name args
  | unknown args same => exact same ▸ (start.record (by simp)).dispatch _ args
  | message kind same =>
      refine same ▸ Delivering.dispatch ?_ _ _
      split
      · refine Delivering.queue (Delivering.flushLoop (start.queue _) ?_) _
        intro cmd _ fd entry found asked wants
        exact good_of_answer found asked wants fun unanswered => by cases unanswered
      · exact start
  | whois kind enough args same =>
      refine same ▸ Delivering.queue (Delivering.flushLoop (start.dispatch _ args) ?_) _
      intro cmd membership fd entry found asked wants
      apply good_of_answer found asked wants
      intro positive nick unidentified only wanted
      rw [dispatch_commandQueue] at membership
      have first : params[0]? = some cmd.origin :=
        (getElem?_paramAt (by omega)).trans (congrArg some nick)
      have second : params[1]? = some (ascii "true") :=
        (getElem?_paramAt (by omega)).trans (congrArg some (beq_iff_eq.mp positive))
      exact .inr ⟨(allowed kind second cmd membership first unidentified
        ⟨fd, entry, found, only, wanted⟩).symm, kind, first, second⟩

/-- Nothing is delivered in `poll`. -/
theorem poll_delivering {io : Nat → SocketInput}
    (completed : before.poll lib view io = .ok after) :
    Delivering.Noted (fun _ _ => False) before after := by
  refine poll_invariant (motive := Delivering.Noted (fun _ _ => False) before)
    (fun {pc result fd} polled holds => ?_) (fun _ holds => holds) completed ⟨[], rfl, by simp⟩
  have closed : PollClosed lib fd (Delivering.Noted (fun _ _ => False) before) := {
    dispatchTo := fun _ _ holds _ => holds.cons (by simp)
    record := fun own holds => holds.cons fun fd cmd same => by
      subst same
      cases own with
      | incidental incidental => cases incidental }
  exact closed.pollSocket (fun _ holds => holds) polled holds

theorem since_eq (events : List TraceEvent) (trace : after.trace = events ++ before.trace) :
    since before after = events := by
  unfold since
  rw [trace, List.length_append, Nat.add_sub_cancel, List.take_left]

/-- A step without foreign answers delivers to those who check the sender for a reason. -/
theorem authorised_of_noForeignAnswer {label : View × Action}
    (allowed : NoForeignAnswer before label)
    (completed : before.perform lib label.1 label.2 = .ok after) :
    AuthorisedStep before label after := by
  obtain ⟨view, action⟩ := label
  intro fd info cmd found only delivered
  cases action with
  | ircEvent network event origin params =>
      cases completed
      obtain ⟨-, events, trace, good⟩ := ircEvent_delivering lib allowed
      rw [since_eq events trace] at delivered
      exact good fd cmd delivered info found only
  | poll io =>
      obtain ⟨events, trace, none⟩ := poll_delivering completed
      rw [since_eq events trace] at delivered
      exact (none fd cmd delivered).elim
  | connect other type =>
      cases completed
      rw [since_eq [.connected other] rfl] at delivered
      simp at delivered

/-! ## The other direction: a foreign answer does deliver -/

/-- The event was noted after the state. -/
def NotedSince (before : PluginComm) (event : TraceEvent) (pc : PluginComm) : Prop :=
  ∃ events, pc.trace = events ++ before.trace ∧ event ∈ events

theorem notedSince_record {noted event : TraceEvent} (holds : NotedSince before noted pc) :
    NotedSince before noted (pc.record event) := by
  obtain ⟨events, trace, membership⟩ := holds
  exact ⟨event :: events, by rw [record_trace, trace]; rfl, List.mem_cons_of_mem _ membership⟩

/-- What was noted stays noted. -/
theorem notedSince_eventClosed (lib : Libraries) (before : PluginComm) (event : TraceEvent) :
    EventClosed lib (NotedSince before event) where
  dispatchTo _ _ holds _ := notedSince_record holds
  record _ holds := notedSince_record holds
  delivered _ _ holds := notedSince_record holds
  queue _ holds := holds

theorem deliver_noted {identified : Bool} {cmd : Command} {fd : Nat} {entry : SocketInfo}
    (delivering : Delivering (fun _ _ => True) before pc)
    (found : before.sockets[fd]? = some entry)
    (wants : entry.wants cmd ((memory cmd.network).isIdentified cmd.origin || identified)) :
    NotedSince before (.delivered fd cmd) (deliver lib memory identified pc cmd) := by
  obtain ⟨info, infoFound, commands⟩ := delivering.now found
  have membership : fd ∈ pc.sockets.keys := by
    rw [TreeMap.mem_keys, TreeMap.mem_iff_isSome_getElem?, infoFound]
    rfl
  have closed := notedSince_eventClosed lib before (.delivered fd cmd)
  obtain ⟨done, rest, split⟩ := List.append_of_mem membership
  unfold deliver
  rw [split, List.foldl_append, List.foldl_cons]
  -- the sockets before this one, this one, and those after it
  have reached : Delivering (fun _ _ => True) before
      (done.foldl (deliverStep lib memory identified cmd) pc) := by
    apply List.foldlRecOn _ _ delivering
    intro pc delivering fd _
    unfold deliverStep
    split
    · exact delivering
    · split
      · exact delivering
      · exact (delivering.dispatchTo _ fd _ _).record fun _ _ _ => trivial
  generalize done.foldl (deliverStep lib memory identified cmd) pc = middle at reached ⊢
  have here : NotedSince before (.delivered fd cmd)
      (deliverStep lib memory identified cmd middle fd) := by
    obtain ⟨current, currentFound, same⟩ := reached.now found
    have wanted : current.isSubscribedToCommand cmd.command cmd.channel cmd.origin
        ((memory cmd.network).isIdentified cmd.origin || identified) cmd.network := by
      simpa only [SocketInfo.wants, SocketInfo.isSubscribedToCommand, same] using wants
    obtain ⟨events, trace, -⟩ := (reached.dispatchTo lib fd commandEvent
      (commandParameters memory cmd)).events
    unfold deliverStep
    simp only [currentFound, wanted, Bool.not_true, Bool.false_eq_true, if_false]
    exact ⟨.delivered fd cmd :: events, by rw [record_trace, trace]; rfl, List.mem_cons_self⟩
  apply List.foldlRecOn _ _ here
  intro pc holds other _
  unfold deliverStep
  split
  · exact holds
  · next _ otherFound =>
      split
      · exact holds
      · exact closed.delivered _ _ (closed.dispatchTo _ _ holds otherFound)

/-- An answer about its sender releases a queued command. -/
theorem flushLoop_noted (lib : Libraries) {identified : Bool} {queue : List Command}
    {cmd : Command} {fd : Nat} {entry : SocketInfo}
    (delivering : Delivering (fun _ _ => True) before pc) (membership : cmd ∈ queue)
    (found : before.sockets[fd]? = some entry)
    (wants : entry.wants cmd ((memory cmd.network).isIdentified cmd.origin || identified)) :
    NotedSince before (.delivered fd cmd)
      (flushLoop lib memory cmd.origin identified queue pc).2 := by
  induction queue generalizing pc with
  | nil => cases membership
  | cons first rest inductionHypothesis =>
      have trivially {pc : PluginComm} (delivering : Delivering (fun _ _ => True) before pc) :
          Delivering (fun _ _ => True) before (deliver lib memory identified pc first) :=
        delivering.deliver fun _ _ _ _ => trivial
      unfold flushLoop
      split
      · next waiting =>
          rw [Bool.and_eq_true, bne_iff_ne] at waiting
          rcases List.mem_cons.mp membership with rfl | later
          · exact absurd rfl waiting.2
          · refine inductionHypothesis ?_ later
            split
            · exact delivering
            · exact delivering.record fun _ _ _ => trivial
      · rcases List.mem_cons.mp membership with rfl | later
        · exact (notedSince_eventClosed lib before _).flushLoop
            (deliver_noted delivering found wants)
        · exact inductionHypothesis (trivially delivering) later

theorem noForeignAnswer_of_authorised {label : View × Action}
    (authorised : ∀ after, before.perform lib label.1 label.2 = .ok after →
      AuthorisedStep before label after) : NoForeignAnswer before label := by
  obtain ⟨view, action⟩ := label
  cases action with
  | ircEvent network event origin params =>
      rintro rfl second cmd membership first unidentified ⟨fd, info, found, only, wants⟩
      have enough : ¬params.length < 2 := by
        have bound := (List.getElem?_eq_some_iff.mp second).1
        omega
      have nick : paramAt lib params 0 = cmd.origin :=
        Option.some.inj ((getElem?_paramAt (by omega)).symm.trans first)
      have answer : (paramAt lib params 1 == ascii "true") = true := by
        rw [beq_iff_eq]
        exact Option.some.inj ((getElem?_paramAt (by omega)).symm.trans second)
      -- the WHOIS branch: dispatch, then the flush with the answer
      have flushed : before.ircEvent lib view.memory view.config.globalConfig network
          (ascii "WHOIS") origin params =
          (before.dispatch lib (.of "WHOIS") [(view.memory network).networkName, origin,
            paramAt lib params 0, paramAt lib params 1]).flushCommandQueue lib view.memory
              (paramAt lib params 0) (paramAt lib params 1 == ascii "true") :=
        if_neg enough
      have delivering : Delivering (fun _ _ => True) before (before.dispatch lib (.of "WHOIS")
          [(view.memory network).networkName, origin, paramAt lib params 0,
            paramAt lib params 1]) := (Delivering.refl _ before).dispatch _ _
      have wanted : info.wants cmd ((view.memory cmd.network).isIdentified cmd.origin || true) := by
        rw [unidentified]
        exact wants
      obtain ⟨events, trace, delivered⟩ :=
        flushLoop_noted lib delivering membership found wanted
      have sent : .delivered fd cmd ∈ since before (before.ircEvent lib view.memory
          view.config.globalConfig network (ascii "WHOIS") origin params) := by
        rw [since_eq events]
        · exact delivered
        · rw [flushed, answer]
          simpa only [flushCommandQueue, dispatch_commandQueue, nick] using trace
      rcases authorised _ rfl fd info cmd found only sent with known | ⟨same, -⟩
      · rw [unidentified] at known
        cases known
      · exact same.symm
  | poll io => trivial
  | connect other type => trivial

/-- Over a whole run: every delivery to a socket that gets the command by sender only is
authorised, if and only if no step answers a WHOIS that another network's command waits
for. -/
theorem deliveries_authorised_iff (lib : Libraries) (start : PluginComm)
    (actions : List (View × Action)) :
    (∀ done label rest before after, actions = done ++ label :: rest →
      performAll lib start done = .ok before →
      before.perform lib label.1 label.2 = .ok after → AuthorisedStep before label after) ↔
    ∀ done label rest before, actions = done ++ label :: rest →
      performAll lib start done = .ok before → NoForeignAnswer before label := by
  constructor
  · intro authorised done label rest before split reached
    exact noForeignAnswer_of_authorised fun after =>
      authorised done label rest before after split reached
  · intro allowed done label rest before after split reached completed
    exact authorised_of_noForeignAnswer (allowed done label rest before split reached) completed

/-- A plugin wants the command `open` of alice on the network `n` only. -/
def commandRequest : Json := .object [(ascii "do", .string (ascii "command")),
  (ascii "params", .array [.string (ascii "open"), .string (ascii "n"), .string (ascii "true"),
    .string (ascii "alice")])]

def openCommand : Command where
  network := 1
  origin := ascii "alice"
  channel := ascii "#c"
  command := ascii "open"
  whoisSent := true

/-- The plugin registers, and alice of network `n`, whom nobody knows, gives the command. -/
def openRun : List (View × Action) :=
  [(.online, .connect 5 (ascii "unix")), (.online, .poll (requestInput commandRequest)),
    (.online, .ircEvent 1 (ascii "PRIVMSG") (ascii "alice") [ascii "#c", ascii "\x7dopen"])]

/-- The network `m` reports its own alice as identified. -/
def foreignAnswer : View × Action :=
  (.online, .ircEvent 2 (ascii "WHOIS") (ascii "services") [ascii "alice", ascii "true"])

theorem openRun_waiting :
    (performAll (.knowing [commandRequest]) {} openRun).map
        (fun pc => (pc.sockets[5]?.map SocketInfo.commands, pc.commandQueue)) =
      .ok (some [(ascii "open", .onNetworkFor 1 (ascii "alice") true)], [openCommand]) := by
  decide +kernel

/-- The command of the alice on `n` is delivered on the word of `m`. -/
theorem foreign_answer_delivers :
    ¬∀ done label rest before after, openRun ++ [foreignAnswer] = done ++ label :: rest →
      performAll (.knowing [commandRequest]) {} done = .ok before →
      before.perform (.knowing [commandRequest]) label.1 label.2 = .ok after →
      AuthorisedStep before label after := by
  intro authorised
  have waiting := openRun_waiting
  cases completed : performAll (.knowing [commandRequest]) {} openRun with
  | error fault =>
      rw [completed] at waiting
      cases waiting
  | ok before =>
      rw [completed] at waiting
      obtain ⟨entry, queue⟩ := Prod.mk.inj (Except.ok.inj waiting)
      obtain ⟨info, found, commands⟩ := Option.map_eq_some_iff.mp entry
      have allowed := noForeignAnswer_of_authorised fun after =>
        authorised openRun foreignAnswer [] before after rfl completed
      have same := allowed rfl rfl openCommand (by rw [queue]; exact List.mem_cons_self) rfl rfl
        ⟨5, info, found, fun registration membership _ _ => by
          rw [commands] at membership
          rw [List.mem_singleton.mp membership]
          rfl, by
          rw [SocketInfo.wants, SocketInfo.isSubscribedToCommand, commands]
          decide⟩
      exact absurd same (by decide)

end PluginComm

end DaZeus
