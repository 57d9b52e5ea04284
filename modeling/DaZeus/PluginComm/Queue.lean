import DaZeus.PluginComm.References

/-!
# The command queue

What `flushCommandQueue` does to the queue, to the sockets and to the outside
world is the sum of what becomes of each command: it waits for a WHOIS answer,
which is asked for once, or it goes to every socket that is subscribed to it.
-/

namespace DaZeus

open Library
open Std (TreeMap)

namespace PluginComm

variable {lib : Libraries} {memory : NetworkId → NetworkState} {nick : ByteString}
  {identified : Bool}

/-- Some socket has a registration of the command that checks the sender, the network does not
know the sender, and this is not the answer about the sender. -/
def Waits (memory : NetworkId → NetworkState) (pc : PluginComm) (nick : ByteString)
    (cmd : Command) : Prop :=
  (∃ (fd : Nat) (info : SocketInfo), pc.sockets[fd]? = some info ∧
      ∃ registration ∈ info.commands,
        registration.1 = cmd.command ∧ registration.2.needsSender = true) ∧
    (memory cmd.network).isIdentified cmd.origin = false ∧ nick ≠ cmd.origin

theorem waits_iff {pc : PluginComm} {cmd : Command} :
    Waits memory pc nick cmd ↔ (whoisRequired memory pc cmd && nick != cmd.origin) = true := by
  have entries : whoisRequired memory pc cmd = true ↔
      (∃ (fd : Nat) (info : SocketInfo), pc.sockets[fd]? = some info ∧
        ∃ registration ∈ info.commands,
          registration.1 = cmd.command ∧ registration.2.needsSender = true) ∧
      (memory cmd.network).isIdentified cmd.origin = false := by
    simp only [whoisRequired, List.any_eq_true, Prod.exists,
      TreeMap.mem_toList_iff_getElem?_eq_some, SocketInfo.commandMightNeedWhois,
      Bool.and_eq_true, Bool.not_eq_true', beq_iff_eq]
    constructor
    · rintro ⟨fd, info, found, registration, unknown⟩
      exact ⟨⟨fd, info, found, registration⟩, unknown⟩
    · rintro ⟨⟨fd, info, found, registration⟩, unknown⟩
      exact ⟨fd, info, found, registration, unknown⟩
  rw [Bool.and_eq_true, entries, bne_iff_ne, and_assoc, Waits]

instance (memory : NetworkId → NetworkState) (pc : PluginComm) (nick : ByteString)
    (cmd : Command) : Decidable (Waits memory pc nick cmd) :=
  decidable_of_iff _ waits_iff.symm

/-- The socket is subscribed to the command, through however many registrations. -/
def receives (memory : NetworkId → NetworkState) (identified : Bool) (pc : PluginComm)
    (cmd : Command) (fd : Nat) : Bool :=
  pc.sockets[fd]?.any fun info =>
    info.isSubscribedToCommand cmd.command cmd.channel cmd.origin
      ((memory cmd.network).isIdentified cmd.origin || identified) cmd.network

/-- The frame that a command is sent as. -/
def commandFrame (lib : Libraries) (memory : NetworkId → NetworkState) (cmd : Command) :
    ByteString :=
  SocketInfo.eventFrame lib commandEvent (commandParameters memory cmd)

/-- What is noted of a command that is sent to the sockets that receive it, in their order. -/
def deliveries (lib : Libraries) (memory : NetworkId → NetworkState) (identified : Bool)
    (pc : PluginComm) (cmd : Command) : List TraceEvent :=
  (pc.sockets.keys.filter (receives memory identified pc cmd)).flatMap fun fd =>
    [.produced fd (commandFrame lib memory cmd), .delivered fd cmd]

/-- What is noted of a command that waits: the request, unless it was sent before. -/
def whoisRequests (cmd : Command) : List TraceEvent :=
  if cmd.whoisSent then [] else [.called cmd.network (.sendWhois cmd.origin)]

/-- What a flush does about one command. -/
def commandOutcome (lib : Libraries) (memory : NetworkId → NetworkState) (nick : ByteString)
    (identified : Bool) (pc : PluginComm) (cmd : Command) : List TraceEvent :=
  if Waits memory pc nick cmd then whoisRequests cmd else deliveries lib memory identified pc cmd

/-- What one command adds to the output of one socket. -/
def outputFor (lib : Libraries) (memory : NetworkId → NetworkState) (nick : ByteString)
    (identified : Bool) (pc : PluginComm) (fd : Nat) (cmd : Command) : ByteString :=
  if ¬Waits memory pc nick cmd ∧ receives memory identified pc cmd fd then
    commandFrame lib memory cmd
  else
    []

def SocketInfo.appendOutput (info : SocketInfo) (bytes : ByteString) : SocketInfo :=
  { info with writebuffer := info.writebuffer ++ bytes }

/-! ## The sockets of a loop -/

/-- The same sockets with the same registrations. -/
def SameRegistrations (before after : PluginComm) : Prop :=
  ∀ fd : Nat, after.sockets[fd]?.map SocketInfo.commands =
    before.sockets[fd]?.map SocketInfo.commands

variable {before after : PluginComm}

theorem SameRegistrations.mem (same : SameRegistrations before after) (fd : Nat) :
    fd ∈ after.sockets ↔ fd ∈ before.sockets := by
  have found := congrArg Option.isSome (same fd)
  rw [Option.isSome_map, Option.isSome_map] at found
  rw [TreeMap.mem_iff_isSome_getElem?, TreeMap.mem_iff_isSome_getElem?, found]

theorem SameRegistrations.keys (same : SameRegistrations before after) :
    after.sockets.keys = before.sockets.keys := by
  apply List.Perm.eq_of_pairwise ?_ TreeMap.ordered_keys TreeMap.ordered_keys
  · apply (List.perm_ext_iff_of_nodup TreeMap.nodup_keys TreeMap.nodup_keys).mpr
    intro fd
    rw [TreeMap.mem_keys, TreeMap.mem_keys]
    exact same.mem fd
  · intro first second _ _ less more
    rw [Nat.compare_eq_lt] at less more
    omega

theorem SameRegistrations.any (same : SameRegistrations before after) (fd : Nat)
    (asked : List (ByteString × RequirementInfo) → Bool) :
    (after.sockets[fd]?.any fun info => asked info.commands) =
      before.sockets[fd]?.any fun info => asked info.commands := by
  have mapped := congrArg (Option.any asked) (same fd)
  rw [Option.any_map, Option.any_map] at mapped
  exact mapped

theorem SameRegistrations.receives (same : SameRegistrations before after) (cmd : Command) :
    receives memory identified after cmd = receives memory identified before cmd :=
  funext fun fd => same.any fd fun commands => commands.any fun registration =>
    registration.1 == cmd.command && registration.2.accepts cmd.channel cmd.origin
      ((memory cmd.network).isIdentified cmd.origin || identified) cmd.network

theorem SameRegistrations.waits (same : SameRegistrations before after) (cmd : Command) :
    Waits memory after nick cmd ↔ Waits memory before nick cmd := by
  have exists_iff (pc : PluginComm) : (∃ (fd : Nat) (info : SocketInfo),
      pc.sockets[fd]? = some info ∧ ∃ registration ∈ info.commands,
        registration.1 = cmd.command ∧ registration.2.needsSender = true) ↔
      ∃ fd : Nat, (pc.sockets[fd]?.any fun info => info.commands.any fun registration =>
        registration.1 == cmd.command && registration.2.needsSender) = true := by
    simp [Option.any_eq_true]
  unfold Waits
  rw [exists_iff, exists_iff]
  simp only [same.any _ fun commands => commands.any fun registration =>
    registration.1 == cmd.command && registration.2.needsSender]

/-! ## One command -/

/-- One round of the loop over the sockets. -/
theorem deliverStep_eq (pc : PluginComm) (cmd : Command) (fd : Nat) :
    deliverStep lib memory identified cmd pc fd =
      if receives memory identified pc cmd fd then
        (pc.dispatchTo lib fd commandEvent (commandParameters memory cmd)).record
          (.delivered fd cmd)
      else
        pc := by
  unfold deliverStep receives
  cases pc.sockets[fd]? with
  | none => rfl
  | some info =>
      cases subscribed : info.isSubscribedToCommand cmd.command cmd.channel cmd.origin
        ((memory cmd.network).isIdentified cmd.origin || identified) cmd.network <;>
          simp [subscribed]

/-- The effect of a number of steps on the component: what was noted, and what was appended to
the output of each socket. -/
structure Appended (before : PluginComm) (noted : List TraceEvent) (output : Nat → ByteString)
    (after : PluginComm) : Prop where
  commandQueue : after.commandQueue = before.commandQueue
  trace : after.trace = noted.reverse ++ before.trace
  sockets : ∀ fd : Nat, after.sockets[fd]? =
    before.sockets[fd]?.map (SocketInfo.appendOutput · (output fd))

theorem Appended.refl (pc : PluginComm) : Appended pc [] (fun _ => []) pc := by
  refine ⟨rfl, rfl, fun fd => ?_⟩
  simp [SocketInfo.appendOutput]

theorem Appended.trans {middle : PluginComm} {noted others : List TraceEvent}
    {output more : Nat → ByteString} (earlier : Appended before noted output middle)
    (later : Appended middle others more after) :
    Appended before (noted ++ others) (fun fd => output fd ++ more fd) after where
  commandQueue := later.commandQueue.trans earlier.commandQueue
  trace := by rw [later.trace, earlier.trace, List.reverse_append, List.append_assoc]
  sockets fd := by
    rw [later.sockets, earlier.sockets, Option.map_map]
    simp [SocketInfo.appendOutput, Function.comp_def]

theorem Appended.congr {noted others : List TraceEvent} {output more : Nat → ByteString}
    (appended : Appended before noted output after) (noted_eq : noted = others)
    (output_eq : ∀ fd, output fd = more fd) : Appended before others more after := by
  subst noted_eq
  rw [← funext output_eq]
  exact appended

theorem Appended.sameRegistrations {noted : List TraceEvent} {output : Nat → ByteString}
    (appended : Appended before noted output after) : SameRegistrations before after := by
  intro fd
  rw [appended.sockets, Option.map_map]
  rfl

/-- A command that a socket receives is appended to its output and noted. -/
theorem deliverStep_appended (cmd : Command) (fd : Nat) (pc : PluginComm) :
    Appended pc
      (if receives memory identified pc cmd fd then
        [.produced fd (commandFrame lib memory cmd), .delivered fd cmd] else [])
      (fun other => if other = fd ∧ receives memory identified pc cmd fd then
        commandFrame lib memory cmd else [])
      (deliverStep lib memory identified cmd pc fd) := by
  rw [deliverStep_eq]
  by_cases received : receives memory identified pc cmd fd = true
  · simp only [received, if_true, and_true]
    refine ⟨rfl, rfl, fun other => ?_⟩
    apply (dispatchTo_sockets pc fd other _ _).trans
    by_cases same : fd = other
    · subst same
      simp only [if_true]
      rfl
    · rw [if_neg same]
      simp [SocketInfo.appendOutput, Ne.symm same]
  · simp only [received, Bool.false_eq_true, if_false, and_false]
    exact .refl pc

theorem deliver_names (cmd : Command) {names : List Nat} (distinct : names.Nodup)
    (pc : PluginComm) :
    Appended pc
      ((names.filter (receives memory identified pc cmd)).flatMap fun fd =>
        [.produced fd (commandFrame lib memory cmd), .delivered fd cmd])
      (fun fd => if fd ∈ names ∧ receives memory identified pc cmd fd then
        commandFrame lib memory cmd else [])
      (names.foldl (deliverStep lib memory identified cmd) pc) := by
  induction names generalizing pc with
  | nil => simpa using Appended.refl pc
  | cons fd rest inductionHypothesis =>
      obtain ⟨fresh, rest⟩ := List.nodup_cons.mp distinct
      have first : Appended pc _ _ (deliverStep lib memory identified cmd pc fd) :=
        deliverStep_appended cmd fd pc
      have later := first.trans (inductionHypothesis rest _)
      rw [first.sameRegistrations.receives cmd] at later
      apply later.congr
      · rw [List.filter_cons]
        split
        · rw [List.flatMap_cons]
        · rfl
      · intro other
        by_cases same : other = fd
        · subst same
          simp [fresh]
        · simp [same]

theorem deliver_appended (cmd : Command) (pc : PluginComm) :
    Appended pc (deliveries lib memory identified pc cmd)
      (fun fd => if receives memory identified pc cmd fd then commandFrame lib memory cmd else [])
      (deliver lib memory identified pc cmd) := by
  have appended : Appended pc _ _
      (pc.sockets.keys.foldl (deliverStep lib memory identified cmd) pc) :=
    deliver_names cmd TreeMap.nodup_keys pc
  apply appended.congr rfl
  intro fd
  -- a descriptor without a socket receives nothing
  have present (received : receives memory identified pc cmd fd = true) :
      fd ∈ pc.sockets.keys := by
    rw [TreeMap.mem_keys, TreeMap.mem_iff_isSome_getElem?]
    obtain ⟨info, found, -⟩ := (Option.any_eq_true _ _).mp received
    rw [found]
    rfl
  by_cases received : receives memory identified pc cmd fd = true
  · rw [if_pos ⟨present received, received⟩, if_pos received]
  · rw [if_neg (mt And.right received), if_neg received]

/-! ## The queue -/

/-- What a flush does: the commands that wait stay in their order, and what is noted and sent is
what is done about each command, in their order. -/
structure Flushed (lib : Libraries) (memory : NetworkId → NetworkState) (nick : ByteString)
    (identified : Bool) (before after : PluginComm) : Prop where
  commandQueue : after.commandQueue =
    (before.commandQueue.filter (Waits memory before nick)).map ({ · with whoisSent := true })
  trace : after.trace =
    (before.commandQueue.flatMap (commandOutcome lib memory nick identified before)).reverse ++
      before.trace
  sockets : ∀ fd : Nat, after.sockets[fd]? = before.sockets[fd]?.map
    (SocketInfo.appendOutput ·
      (before.commandQueue.flatMap (outputFor lib memory nick identified before fd)))

theorem SameRegistrations.commandOutcome (same : SameRegistrations before after) (cmd : Command) :
    commandOutcome lib memory nick identified after cmd =
      commandOutcome lib memory nick identified before cmd := by
  unfold PluginComm.commandOutcome deliveries
  simp only [same.waits, same.receives, same.keys]

theorem SameRegistrations.outputFor (same : SameRegistrations before after) (fd : Nat)
    (cmd : Command) :
    outputFor lib memory nick identified after fd cmd =
      outputFor lib memory nick identified before fd cmd := by
  unfold PluginComm.outputFor
  simp only [same.waits, same.receives]

/-- A round of the loop, which leaves the command in the queue if it waits. -/
theorem flushLoop_appended (queue : List Command) (pc : PluginComm) :
    (flushLoop lib memory nick identified queue pc).1 =
        (queue.filter (Waits memory pc nick)).map ({ · with whoisSent := true }) ∧
      Appended pc (queue.flatMap (commandOutcome lib memory nick identified pc))
        (fun fd => queue.flatMap (outputFor lib memory nick identified pc fd))
        (flushLoop lib memory nick identified queue pc).2 := by
  induction queue generalizing pc with
  | nil => exact ⟨rfl, .refl pc⟩
  | cons cmd rest inductionHypothesis =>
      -- the rest of the queue is judged by the same registrations
      have further {middle : PluginComm} (same : SameRegistrations pc middle) :
          (flushLoop lib memory nick identified rest middle).1 =
              (rest.filter (Waits memory pc nick)).map ({ · with whoisSent := true }) ∧
            Appended middle (rest.flatMap (commandOutcome lib memory nick identified pc))
              (fun fd => rest.flatMap (outputFor lib memory nick identified pc fd))
              (flushLoop lib memory nick identified rest middle).2 := by
        have later := inductionHypothesis middle
        simp only [same.waits, funext same.commandOutcome, funext (same.outputFor _)] at later
        exact later
      simp only [List.flatMap_cons]
      by_cases waits : Waits memory pc nick cmd
      · have asked : Appended pc (commandOutcome lib memory nick identified pc cmd)
            (fun fd => outputFor lib memory nick identified pc fd cmd)
            (if cmd.whoisSent then pc
              else pc.record (.called cmd.network (.sendWhois cmd.origin))) := by
          simp only [commandOutcome, outputFor, whoisRequests, waits, not_true, false_and, if_true,
            if_false]
          cases cmd.whoisSent with
          | true => exact .refl pc
          | false => exact ⟨rfl, rfl, (Appended.refl pc).sockets⟩
        obtain ⟨kept, appended⟩ := further asked.sameRegistrations
        rw [flushLoop, if_pos (waits_iff.mp waits)]
        refine ⟨?_, asked.trans appended⟩
        rw [List.filter_cons, if_pos (decide_eq_true waits), List.map_cons, ← kept]
      · have sent : Appended pc (commandOutcome lib memory nick identified pc cmd)
            (fun fd => outputFor lib memory nick identified pc fd cmd)
            (deliver lib memory identified pc cmd) := by
          apply (deliver_appended cmd pc).congr
          · exact (if_neg waits).symm
          · intro fd
            simp only [outputFor, waits, not_false_eq_true, true_and]
        obtain ⟨kept, appended⟩ := further sent.sameRegistrations
        rw [flushLoop, if_neg (mt waits_iff.mpr waits)]
        refine ⟨?_, sent.trans appended⟩
        rw [List.filter_cons, if_neg (mt of_decide_eq_true waits), ← kept]

theorem flushCommandQueue_flushed (lib : Libraries) (memory : NetworkId → NetworkState)
    (pc : PluginComm) (nick : ByteString) (identified : Bool) :
    Flushed lib memory nick identified pc
      (flushCommandQueue lib memory pc nick identified) := by
  have loop : _ ∧ Appended pc _ _ (flushLoop lib memory nick identified pc.commandQueue pc).2 :=
    flushLoop_appended pc.commandQueue pc
  exact ⟨loop.1, loop.2.trace, loop.2.sockets⟩

end PluginComm

end DaZeus
