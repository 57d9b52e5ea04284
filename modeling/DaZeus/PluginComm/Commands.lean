import DaZeus.Library.WaitingQueue
import DaZeus.PluginComm.Authorisation
import DaZeus.PluginComm.Queue

/-!
# Commands from the message to the plugin

Over a whole run: every command that somebody gives the bot is still queued or
has left the queue, once and in its turn among the sender's commands of the same
name.  When it leaves it is sent to the sockets that receive it at that moment,
so that all plugins get commands in one order.
-/

namespace DaZeus

open Library
open Std (TreeMap)

/-- A command as it was given. -/
def Command.given (cmd : Command) : Command := { cmd with whoisSent := false }

/-- What decides about a WHOIS: who asks for what on which network. -/
def Command.kind (cmd : Command) : NetworkId × ByteString × ByteString :=
  (cmd.network, cmd.origin, cmd.command)

/-- A command leaves the queue, in a state and with what was known about its sender. -/
structure Departure where
  command : Command
  memory : NetworkId → NetworkState
  identified : Bool
  state : PluginComm

/-- The socket receives the command. -/
def Departure.reaches (fd : Nat) (departure : Departure) : Bool :=
  PluginComm.receives departure.memory departure.identified departure.state departure.command fd

namespace PluginComm

variable {lib : Libraries} {memory : NetworkId → NetworkState} {nick : ByteString}
  {identified : Bool} {pc before after start : PluginComm}

/-- The command that a message gives. -/
def givenBy (lib : Libraries) : View × Action → Option Command
  | (view, .ircEvent network event origin params) =>
      if event = ascii "PRIVMSG" ∧ 2 ≤ params.length then
        commandOf lib origin (paramAt lib params 0) network
          (payloadOf lib view.config.globalConfig (view.memory network).nick
            (paramAt lib params 1))
      else
        none
  | _ => none

/-- The commands that leave in a flush. -/
def departures (memory : NetworkId → NetworkState) (nick : ByteString) (identified : Bool)
    (pc : PluginComm) : List Departure :=
  ((pc.commandQueue.map Command.given).filter fun cmd => ¬Waits memory pc nick cmd).map
    (⟨·, memory, identified, pc⟩)

/-- The commands that leave in an action: a new command flushes the queue, and so does an answer
about a nick. -/
def leaving (lib : Libraries) (pc : PluginComm) : View × Action → List Departure
  | (view, .ircEvent network event origin params) =>
      if event = ascii "WHOIS" ∧ 2 ≤ params.length then
        departures view.memory (paramAt lib params 0) (paramAt lib params 1 == ascii "true") pc
      else
        match givenBy lib (view, .ircEvent network event origin params) with
        | some cmd =>
            departures view.memory [] false { pc with commandQueue := pc.commandQueue ++ [cmd] }
        | none => []
  | _ => []

/-- The commands that leave in a run. -/
def allLeaving (lib : Libraries) : PluginComm → List (View × Action) → List Departure
  | _, [] => []
  | pc, label :: rest => leaving lib pc label ++
      match pc.perform lib label.1 label.2 with
      | .ok after => allLeaving lib after rest
      | .error _ => []

/-- The commands that were sent to a descriptor, in their order. -/
def deliveredTo (fd : Nat) (trace : List TraceEvent) : List Command :=
  trace.reverse.filterMap fun
    | .delivered other cmd => if other = fd then some cmd.given else none
    | _ => none

theorem deliveredTo_append (fd : Nat) (noted : List TraceEvent) (trace : List TraceEvent) :
    deliveredTo fd (noted ++ trace) = deliveredTo fd trace ++ deliveredTo fd noted := by
  rw [deliveredTo, List.reverse_append, List.filterMap_append]
  rfl

theorem deliveredTo_eq_nil {noted : List TraceEvent}
    (elsewhere : ∀ fd cmd, .delivered fd cmd ∉ noted) (fd : Nat) : deliveredTo fd noted = [] := by
  apply List.filterMap_eq_nil_iff.mpr
  intro event inside
  cases event with
  | delivered other cmd => exact absurd (List.mem_reverse.mp inside) (elsewhere other cmd)
  | _ => rfl

/-! ## A flush -/

/-- A command that is sent goes to a socket once, or not at all. -/
theorem deliveredTo_deliveries (pc : PluginComm) (cmd : Command) (fd : Nat) :
    deliveredTo fd (deliveries lib memory identified pc cmd).reverse =
      if receives memory identified pc cmd fd then [cmd.given] else [] := by
  have each {names : List Nat} (distinct : names.Nodup) :
      deliveredTo fd (names.flatMap fun fd =>
        [.produced fd (commandFrame lib memory cmd), .delivered fd cmd]).reverse =
      if fd ∈ names then [cmd.given] else [] := by
    induction names with
    | nil => rfl
    | cons name names inductionHypothesis =>
        obtain ⟨fresh, distinct⟩ := List.nodup_cons.mp distinct
        rw [List.flatMap_cons, List.reverse_append, deliveredTo_append,
          inductionHypothesis distinct]
        by_cases same : name = fd
        · subst same
          rw [if_neg fresh, if_pos List.mem_cons_self]
          simp [deliveredTo]
        · have other : fd ∈ name :: names ↔ fd ∈ names := by simp [Ne.symm same]
          simp only [other]
          simp [deliveredTo, same]
  have member : fd ∈ pc.sockets.keys.filter (receives memory identified pc cmd) ↔
      receives memory identified pc cmd fd = true := by
    rw [List.mem_filter, and_iff_right_iff_imp]
    intro received
    obtain ⟨info, found, -⟩ := Option.any_eq_true _ _ |>.mp received
    rw [TreeMap.mem_keys, TreeMap.mem_iff_isSome_getElem?, found, Option.isSome_some]
  unfold deliveries
  rw [each (TreeMap.nodup_keys.filter _)]
  simp only [member]

theorem deliveredTo_whoisRequests (cmd : Command) (fd : Nat) :
    deliveredTo fd (whoisRequests cmd).reverse = [] := by
  unfold whoisRequests
  cases cmd.whoisSent <;> rfl

/-- A flush sends a socket those of its commands that do not wait. -/
theorem Flushed.noted (flushed : Flushed lib memory nick identified before after) :
    ∃ noted, after.trace = noted ++ before.trace ∧ ∀ fd, deliveredTo fd noted =
      (before.commandQueue.map Command.given).filter fun cmd =>
        decide ¬Waits memory before nick cmd && receives memory identified before cmd fd := by
  refine ⟨_, flushed.trace, fun fd => ?_⟩
  induction before.commandQueue with
  | nil => rfl
  | cons cmd queue inductionHypothesis =>
      have same : (Waits memory before nick cmd.given ↔ Waits memory before nick cmd) ∧
          receives memory identified before cmd.given fd =
            receives memory identified before cmd fd := ⟨Iff.rfl, rfl⟩
      rw [List.flatMap_cons, List.reverse_append, deliveredTo_append, inductionHypothesis,
        List.map_cons, List.filter_cons, same.2, commandOutcome]
      simp only [same.1]
      by_cases waits : Waits memory before nick cmd
      · simp only [waits, if_true, deliveredTo_whoisRequests]
        rfl
      · simp only [waits, if_false, deliveredTo_deliveries, not_false_eq_true, decide_true,
          Bool.true_and]
        split <;> rfl

theorem Flushed.queue (flushed : Flushed lib memory nick identified before after) :
    after.commandQueue.map Command.given =
      (before.commandQueue.map Command.given).filter (Waits memory before nick ·) := by
  rw [flushed.commandQueue, List.filter_map, List.map_map]
  rfl

theorem departures_command (pc : PluginComm) :
    (departures memory nick identified pc).map Departure.command =
      (pc.commandQueue.map Command.given).filter fun cmd => ¬Waits memory pc nick cmd := by
  unfold departures
  rw [List.map_map]
  exact List.map_id _

theorem departures_reaches (pc : PluginComm) (fd : Nat) :
    ((departures memory nick identified pc).filter (·.reaches fd)).map Departure.command =
      (pc.commandQueue.map Command.given).filter fun cmd =>
        decide ¬Waits memory pc nick cmd && receives memory identified pc cmd fd := by
  unfold departures
  rw [List.filter_map, List.map_map, List.filter_filter]
  simp only [Bool.and_comm]
  exact List.map_id _

/-- The commands that waited at the start or were given since, the queue, what has left it, and
what was sent since agree. -/
def Accounted (start : PluginComm) (given : List Command) (left : List Departure)
    (pc : PluginComm) : Prop :=
  ∃ noted, pc.trace = noted ++ start.trace ∧
    InOrder Command.kind given (pc.commandQueue.map Command.given)
      (left.map Departure.command) ∧
    ∀ fd, deliveredTo fd noted = (left.filter (·.reaches fd)).map Departure.command

variable {given : List Command} {left : List Departure}

theorem Accounted.refl (start : PluginComm) :
    Accounted start (start.commandQueue.map Command.given) [] start :=
  ⟨[], rfl, InOrder.empty.put _, fun _ => rfl⟩

/-- The registrations and the queue were the same in an earlier state. -/
theorem Accounted.flush {earlier : PluginComm} (accounted : Accounted start given left before)
    (flushed : Flushed lib memory nick identified before after)
    (same : SameRegistrations earlier before) (queue : before.commandQueue = earlier.commandQueue) :
    Accounted start given (left ++ departures memory nick identified earlier) after := by
  obtain ⟨noted, trace, inOrder, sent⟩ := accounted
  obtain ⟨deliveries, later, delivered⟩ := flushed.noted
  have waits : Waits memory before nick = Waits memory earlier nick :=
    funext fun cmd => propext (same.waits cmd)
  refine ⟨deliveries ++ noted, by rw [later, trace, List.append_assoc], ?_, fun fd => ?_⟩
  · rw [flushed.queue, List.map_append, departures_command]
    simp only [waits, queue] at inOrder ⊢
    apply inOrder.serve (Waits memory earlier nick)
    intro first second alike
    obtain ⟨network, origin, command⟩ : first.network = second.network ∧
        first.origin = second.origin ∧ first.command = second.command := by
      simpa [Command.kind] using alike
    rw [Waits, Waits, network, origin, command]
  · rw [deliveredTo_append, sent, delivered, List.filter_append, List.map_append,
      departures_reaches, queue]
    simp only [waits, same.receives]

/-- What neither touches the queue nor sends a command. -/
theorem Accounted.elsewhere (accounted : Accounted start given left before)
    (same : after.commandQueue = before.commandQueue)
    (later : Delivering.Noted (fun _ _ => False) before after) :
    Accounted start given left after := by
  obtain ⟨noted, trace, inOrder, sent⟩ := accounted
  obtain ⟨events, extended, nothing⟩ := later
  refine ⟨events ++ noted, by rw [extended, trace, List.append_assoc], ?_, fun fd => ?_⟩
  · rw [same]
    exact inOrder
  · rw [deliveredTo_append, deliveredTo_eq_nil nothing, List.append_nil]
    exact sent fd

theorem dispatch_noted (event : EventName) (parameters : List ByteString) (pc : PluginComm) :
    Delivering.Noted (fun _ _ => False) pc (pc.dispatch lib event parameters) :=
  ((Delivering.refl (fun _ _ => False) pc).dispatch event parameters).events

theorem dispatch_registrations (event : EventName) (parameters : List ByteString)
    (pc : PluginComm) : SameRegistrations pc (pc.dispatch lib event parameters) :=
  ((Delivering.refl (fun _ _ => True) pc).dispatch event parameters).commands

/-! ## A run -/

section Event

variable {view : View} {network : NetworkId} {event origin : ByteString}
  {params : List ByteString}

theorem Accounted.dispatch (accounted : Accounted start given left pc) (event : EventName)
    (parameters : List ByteString) :
    Accounted start given left (pc.dispatch lib event parameters) :=
  accounted.elsewhere (dispatch_commandQueue pc event parameters)
    (dispatch_noted event parameters pc)

/-- A message may give a command, and then the queue is flushed. -/
theorem message_accounted (accounted : Accounted start given left pc) :
    Accounted start
      (given ++ (givenBy lib (view, .ircEvent network (ascii "PRIVMSG") origin params)).toList)
      (left ++ leaving lib pc (view, .ircEvent network (ascii "PRIVMSG") origin params))
      (pc.ircEvent lib view.memory view.config.globalConfig network (ascii "PRIVMSG") origin
        params) := by
  have branch : pc.ircEvent lib view.memory view.config.globalConfig network (ascii "PRIVMSG")
      origin params = if params.length < 2 then pc else
        pc.messageReceived lib view.memory view.config.globalConfig origin
          (paramAt lib params 1) (paramAt lib params 0) network := rfl
  have other : ¬(ascii "PRIVMSG" = ascii "WHOIS" ∧ 2 ≤ params.length) := by
    rintro ⟨same, -⟩
    exact absurd same (by decide)
  rw [branch, leaving, if_neg other, givenBy]
  by_cases few : params.length < 2
  · rw [if_pos few, if_neg fun both => absurd both.2 (Nat.not_le.mpr few), Option.toList_none,
      List.append_nil, List.append_nil]
    exact accounted
  · rw [if_neg few, if_pos ⟨rfl, Nat.not_lt.mp few⟩, messageReceived]
    apply Accounted.dispatch
    cases asked : commandOf lib origin (paramAt lib params 0) network
        (payloadOf lib view.config.globalConfig (view.memory network).nick
          (paramAt lib params 1)) with
    | none =>
        rw [Option.toList_none, List.append_nil, List.append_nil]
        exact accounted
    | some cmd =>
        obtain ⟨command, args, -, unsent⟩ := commandOf_eq_some asked
        have same : cmd.given = cmd := by
          rw [unsent]
          rfl
        obtain ⟨noted, trace, inOrder, sent⟩ := accounted
        let queued := { pc with commandQueue := pc.commandQueue ++ [cmd] }
        have waiting : Accounted start (given ++ [cmd]) left queued := by
          refine ⟨noted, trace, ?_, sent⟩
          rw [List.map_append, List.map_singleton, same]
          exact inOrder.put [cmd]
        have flushed := flushCommandQueue_flushed lib view.memory queued [] false
        exact waiting.flush flushed (fun _ => rfl) rfl

/-- An answer about a nick flushes the queue. -/
theorem whois_accounted (accounted : Accounted start given left pc) :
    Accounted start
      (given ++ (givenBy lib (view, .ircEvent network (ascii "WHOIS") origin params)).toList)
      (left ++ leaving lib pc (view, .ircEvent network (ascii "WHOIS") origin params))
      (pc.ircEvent lib view.memory view.config.globalConfig network (ascii "WHOIS") origin
        params) := by
  have branch : pc.ircEvent lib view.memory view.config.globalConfig network (ascii "WHOIS")
      origin params = if params.length < 2 then pc else
        flushCommandQueue lib view.memory
          (pc.dispatch lib (.of "WHOIS") [(view.memory network).networkName, origin,
            paramAt lib params 0, paramAt lib params 1])
          (paramAt lib params 0) (paramAt lib params 1 == ascii "true") := rfl
  have nothing : givenBy lib (view, .ircEvent network (ascii "WHOIS") origin params) = none := by
    rw [givenBy, if_neg]
    rintro ⟨same, -⟩
    exact absurd same (by decide)
  rw [branch, nothing, Option.toList_none, List.append_nil, leaving]
  by_cases few : params.length < 2
  · rw [if_pos few, if_neg fun both => absurd both.2 (Nat.not_le.mpr few), nothing, List.append_nil]
    exact accounted
  · rw [if_neg few, if_pos ⟨rfl, Nat.not_lt.mp few⟩]
    exact (accounted.dispatch _ _).flush (flushCommandQueue_flushed lib _ _ _ _)
      (dispatch_registrations _ _ pc) (dispatch_commandQueue pc _ _)

/-- What an event from a network does: commands are given by messages, and leave with messages and
answers. -/
theorem ircEvent_accounted (accounted : Accounted start given left pc) :
    Accounted start (given ++ (givenBy lib (view, .ircEvent network event origin params)).toList)
      (left ++ leaving lib pc (view, .ircEvent network event origin params))
      (pc.ircEvent lib view.memory view.config.globalConfig network event origin params) := by
  by_cases message : event = ascii "PRIVMSG"
  · subst message
    exact message_accounted accounted
  · by_cases answer : event = ascii "WHOIS"
    · subst answer
      exact whois_accounted accounted
    · have nothing : givenBy lib (view, .ircEvent network event origin params) = none :=
        if_neg fun both => message both.1
      have none : leaving lib pc (view, .ircEvent network event origin params) = [] := by
        rw [leaving, if_neg (mt And.left answer), nothing]
      rw [nothing, none, Option.toList_none, List.append_nil, List.append_nil]
      cases ircEvent_outcome lib view.memory view.config.globalConfig pc network event origin
        params with
      | ignored same => exact same ▸ accounted
      | sent name args same => exact same ▸ accounted.dispatch name args
      | message kind _ => exact absurd kind message
      | whois kind _ _ _ => exact absurd kind answer
      | unknown args same =>
          have overrun : Accounted start given left (pc.record .overrun) :=
            accounted.elsewhere rfl ⟨[.overrun], rfl, by simp⟩
          exact same ▸ overrun.dispatch _ args

end Event

theorem perform_accounted {label : View × Action} (accounted : Accounted start given left before)
    (step : before.perform lib label.1 label.2 = .ok after) :
    Accounted start (given ++ (givenBy lib label).toList) (left ++ leaving lib before label)
      after := by
  obtain ⟨view, action⟩ := label
  cases action with
  | ircEvent network event origin params =>
      cases step
      exact ircEvent_accounted accounted
  | poll io =>
      have same : Accounted start given left after :=
        accounted.elsewhere (commandQueue_poll step) (poll_delivering step)
      simpa [givenBy, leaving] using same
  | connect fd type =>
      cases step
      have same : Accounted start given left (before.connect fd type) :=
        accounted.elsewhere rfl ⟨[.connected fd], rfl, by simp⟩
      simpa [givenBy, leaving] using same

theorem performAll_accounted {actions : List (View × Action)}
    (completed : performAll lib start actions = .ok pc) :
    Accounted start (start.commandQueue.map Command.given ++ actions.filterMap (givenBy lib))
      (allLeaving lib start actions) pc := by
  obtain ⟨given, left, accounted, asked, departed⟩ := foldlM_remaining
    (motive := fun rest pc => ∃ given left, Accounted start given left pc ∧
      given ++ rest.filterMap (givenBy lib) =
        start.commandQueue.map Command.given ++ actions.filterMap (givenBy lib) ∧
      left ++ allLeaving lib pc rest = allLeaving lib start actions)
    (by
      rintro label rest before after ⟨given, left, accounted, asked, departed⟩ step
      refine ⟨given ++ (givenBy lib label).toList, left ++ leaving lib before label,
        perform_accounted accounted step, ?_, ?_⟩
      · rw [← asked, List.append_assoc]
        cases command : givenBy lib label <;> simp [command]
      · rw [← departed, List.append_assoc, allLeaving, step])
    ⟨_, _, .refl start, rfl, rfl⟩ completed
  rw [List.filterMap_nil, List.append_nil] at asked
  rw [allLeaving, List.append_nil] at departed
  rw [← asked, ← departed]
  exact accounted

/-- In every run, from whatever state, commands leave the queue in one order.  Of the commands that
waited or were given, those that have left and then those in the queue are all, each once, and in
their order for each sender and name.  What a socket was sent are the commands that it receives at
the moment when they leave, in this order. -/
theorem commands_in_order {actions : List (View × Action)}
    (completed : performAll lib start actions = .ok pc) :
    ∃ noted, pc.trace = noted ++ start.trace ∧
      let given := start.commandQueue.map Command.given ++ actions.filterMap (givenBy lib)
      let left := allLeaving lib start actions
      InOrder Command.kind given (pc.commandQueue.map Command.given)
          (left.map Departure.command) ∧
        ∀ fd, deliveredTo fd noted = (left.filter (·.reaches fd)).map Departure.command :=
  performAll_accounted completed

/-- The plugin has registered the command `open`, and alice's is sent to it after an answer. -/
theorem commands_in_order_open :
    ∃ pc, performAll (.knowing [commandRequest]) {} (openRun ++ [foreignAnswer]) = .ok pc ∧
      ∀ fd, deliveredTo fd pc.trace =
        ((allLeaving (.knowing [commandRequest]) {} (openRun ++ [foreignAnswer])).filter
          (·.reaches fd)).map Departure.command := by
  have returns : (performAll (.knowing [commandRequest]) {} (openRun ++ [foreignAnswer])).isOk =
      true := by decide +kernel
  cases completed : performAll (.knowing [commandRequest]) {} (openRun ++ [foreignAnswer]) with
  | error fault =>
      rw [completed] at returns
      cases returns
  | ok pc =>
      obtain ⟨noted, trace, -, sent⟩ := commands_in_order completed
      refine ⟨pc, rfl, ?_⟩
      rw [trace, List.append_nil]
      exact sent

/-- What a sender asked for before an answer about the nick, from whatever network, has left the
queue for good: what is queued was given after it. -/
theorem answered_commands_leave {done rest : List (View × Action)} {view : View}
    {network : NetworkId} {origin answer : ByteString} {more : List ByteString}
    (completed : performAll lib start (done ++
      (view, .ircEvent network (ascii "WHOIS") origin (nick :: answer :: more)) :: rest) = .ok pc)
    {cmd : Command} (sender : cmd.origin = nick) :
    (pc.commandQueue.map Command.given).count cmd.given ≤
      (rest.filterMap (givenBy lib)).count cmd.given := by
  obtain ⟨before, after, -, step, later⟩ := completed_round completed
  obtain ⟨noted, -, inOrder, -⟩ := performAll_accounted later
  have gone : cmd.given ∉ after.commandQueue.map Command.given := by
    cases step
    have flushed := flushCommandQueue_flushed lib view.memory
      (before.dispatch lib (.of "WHOIS") [(view.memory network).networkName, origin, nick, answer])
      nick (answer == ascii "true")
    have same : before.ircEvent lib view.memory view.config.globalConfig network (ascii "WHOIS")
        origin (nick :: answer :: more) = flushCommandQueue lib view.memory
          (before.dispatch lib (.of "WHOIS")
            [(view.memory network).networkName, origin, nick, answer])
          nick (answer == ascii "true") := rfl
    rw [← same] at flushed
    rw [flushed.queue]
    intro inside
    have waits := of_decide_eq_true (List.mem_filter.mp inside).2
    exact waits.2.2 sender.symm
  have counted := inOrder.count_eq cmd.given
  rw [List.count_append, List.count_eq_zero.mpr gone, Nat.zero_add] at counted
  exact (Nat.le_add_left _ _).trans counted.le

/-- After an answer about alice her command does not wait any more. -/
theorem answered_commands_leave_open :
    ∃ pc, performAll (.knowing [commandRequest]) {} (openRun ++ [foreignAnswer]) = .ok pc ∧
      (pc.commandQueue.map Command.given).count openCommand.given ≤ 0 := by
  have returns : (performAll (.knowing [commandRequest]) {} (openRun ++ [foreignAnswer])).isOk =
      true := by decide +kernel
  cases completed : performAll (.knowing [commandRequest]) {} (openRun ++ [foreignAnswer]) with
  | error fault =>
      rw [completed] at returns
      cases returns
  | ok pc => exact ⟨pc, rfl, answered_commands_leave completed rfl⟩

end PluginComm

end DaZeus
