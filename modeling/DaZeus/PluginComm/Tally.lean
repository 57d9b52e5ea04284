import DaZeus.PluginComm.Calls

/-!
# What becomes of the commands in the queue

A flush decides about each command in the queue, and `queue_flushed` says how.
A run is followed by a tally, which counts for every command in the queue how
often `sendWhois` was called for it, and accounts for all calls in the trace: a
request asked for them, or a flush made them for a command.
-/

namespace DaZeus

open Library

namespace PluginComm

variable {lib : Libraries} {view : View} {memory : NetworkId → NetworkState} {nick : ByteString}
  {identified : Bool} {pc after : PluginComm} {tally : List (Command × Nat)}
  {calls : List (NetworkId × NetworkCall)}

/-- The queue with the calls of `sendWhois` for each command, after a flush. -/
def flushTally (memory : NetworkId → NetworkState) (nick : ByteString) (pc : PluginComm)
    (tally : List (Command × Nat)) : List (Command × Nat) :=
  (tally.filter (Waits memory pc nick ·.1)).map fun entry =>
    ({ entry.1 with whoisSent := true }, entry.2 + (question memory nick pc entry.1).length)

/-- A run, with the calls of `sendWhois` for each command in the queue since it was queued, and
with all calls on networks. -/
inductive Tally (lib : Libraries) :
    PluginComm → List (Command × Nat) → List (NetworkId × NetworkCall) → Prop
  | start {pc : PluginComm} (empty : pc.commandQueue = []) : Tally lib pc [] (callsIn pc.trace)
  | elsewhere {pc after : PluginComm} {tally : List (Command × Nat)}
      {calls : List (NetworkId × NetworkCall)} {noted : List TraceEvent} {view : View}
      (run : Tally lib pc tally calls) (same : after.commandQueue = pc.commandQueue)
      (trace : after.trace = noted ++ pc.trace)
      (obeyed : callsIn noted = (requestsIn lib noted).filterMap (callOf lib view)) :
      Tally lib after tally (calls ++ callsIn noted)
  | queued {pc : PluginComm} {tally : List (Command × Nat)}
      {calls : List (NetworkId × NetworkCall)} {cmd : Command} (run : Tally lib pc tally calls)
      (unsent : cmd.whoisSent = false) :
      Tally lib { pc with commandQueue := pc.commandQueue ++ [cmd] } (tally ++ [(cmd, 0)]) calls
  | flushed {pc : PluginComm} {tally : List (Command × Nat)}
      {calls : List (NetworkId × NetworkCall)} (run : Tally lib pc tally calls)
      (memory : NetworkId → NetworkState) (nick : ByteString) (identified : Bool) :
      Tally lib (flushCommandQueue lib memory pc nick identified) (flushTally memory nick pc tally)
        (calls ++ pc.commandQueue.flatMap (question memory nick pc))

/-- The flag of a command tells whether the call was made. -/
def Told (entry : Command × Nat) : Prop := entry.2 = if entry.1.whoisSent then 1 else 0

theorem mem_flushTally {entry : Command × Nat} (told : ∀ entry ∈ tally, Told entry)
    (inside : entry ∈ flushTally memory nick pc tally) :
    entry.1.whoisSent = true ∧ entry.2 = 1 := by
  obtain ⟨⟨cmd, count⟩, member, rfl⟩ := List.mem_map.mp inside
  obtain ⟨stored, waits⟩ := List.mem_filter.mp member
  have waits : Waits memory pc nick cmd := of_decide_eq_true waits
  have before := told _ stored
  refine ⟨rfl, ?_⟩
  simp only [question, waits, true_and]
  simp only [Told] at before
  rw [before]
  cases cmd.whoisSent <;> rfl

namespace Tally

theorem told (run : Tally lib pc tally calls) :
    tally.map Prod.fst = pc.commandQueue ∧ ∀ entry ∈ tally, Told entry := by
  induction run with
  | start empty => exact ⟨empty.symm, by simp⟩
  | elsewhere _ same _ _ inductionHypothesis =>
      exact ⟨inductionHypothesis.1.trans same.symm, inductionHypothesis.2⟩
  | queued _ unsent inductionHypothesis =>
      refine ⟨by simp [inductionHypothesis.1], fun entry inside => ?_⟩
      rcases List.mem_append.mp inside with before | here
      · exact inductionHypothesis.2 entry before
      · rw [List.mem_singleton.mp here, Told, unsent]
        rfl
  | @flushed pc tally calls _ memory nick identified inductionHypothesis =>
      refine ⟨?_, fun entry inside => ?_⟩
      · rw [(flushCommandQueue_flushed lib memory pc nick identified).commandQueue,
          ← inductionHypothesis.1, List.filter_map, List.map_map, flushTally, List.map_map]
        rfl
      · obtain ⟨sent, once⟩ := mem_flushTally inductionHypothesis.2 inside
        rw [Told, sent, once]
        rfl

/-- The calls are those in the trace. -/
theorem traced (run : Tally lib pc tally calls) : callsIn pc.trace = calls := by
  induction run with
  | start _ => rfl
  | elsewhere _ _ trace _ inductionHypothesis =>
      rw [trace, callsIn_append, inductionHypothesis]
  | queued _ _ inductionHypothesis => exact inductionHypothesis
  | @flushed pc _ _ _ memory nick identified inductionHypothesis =>
      obtain ⟨noted, trace, same⟩ :=
        (flushCommandQueue_flushed lib memory pc nick identified).calls
      rw [trace, callsIn_append, inductionHypothesis, same]

/-- An event changes neither the queue nor the calls. -/
theorem dispatch (name : EventName) (parameters : List ByteString)
    (run : Tally lib pc tally calls) :
    ∃ calls, Tally lib (pc.dispatch lib name parameters) tally calls := by
  have obeyed : Obeyed lib .bare pc [] (pc.dispatch lib name parameters) :=
    dispatch_induction (.refl pc) fun obeyed _ _ => obeyed.dispatchTo _ _ _
  obtain ⟨noted, trace, same⟩ := obeyed
  rw [List.append_nil] at same
  exact ⟨_, run.elsewhere (dispatch_commandQueue _ _ _) trace same⟩

theorem record {event : TraceEvent} (quiet : event.Aside) (run : Tally lib pc tally calls) :
    ∃ calls, Tally lib (pc.record event) tally calls := by
  have silent : callsIn [event] = (requestsIn lib [event]).filterMap (callOf lib .bare) := by
    rw [quiet.1, quiet.2]
    rfl
  exact ⟨_, run.elsewhere rfl rfl silent⟩

end Tally

/-- Every state that the component reaches comes with such a tally. -/
theorem reachable_tally (reached : (system lib).Reachable pc) :
    ∃ tally calls, Tally lib pc tally calls := by
  apply reached.invariant (motive := fun pc => ∃ tally calls, Tally lib pc tally calls)
  · intro pc initial
    exact ⟨[], _, .start initial.2.1⟩
  · rintro before ⟨view, action⟩ after ⟨tally, calls, run⟩ step
    cases action with
    | poll io =>
        obtain ⟨noted, trace, same⟩ := poll_obeyed step
        rw [List.append_nil] at same
        exact ⟨tally, _, run.elsewhere (commandQueue_poll step) trace same⟩
    | connect fd type =>
        cases step
        have silent : callsIn [.connected fd] =
            (requestsIn lib [.connected fd]).filterMap (callOf lib view) := rfl
        have later : Tally lib (before.connect fd type) tally (calls ++ callsIn [.connected fd]) :=
          run.elsewhere rfl rfl silent
        exact ⟨tally, _, later⟩
    | ircEvent network event origin params =>
        cases step
        cases ircEvent_outcome lib view.memory view.config.globalConfig before network event origin
          params with
        | ignored same => exact same ▸ ⟨tally, calls, run⟩
        | sent name args same => exact same ▸ ⟨tally, run.dispatch name args⟩
        | unknown args same =>
            have quiet : TraceEvent.overrun.Aside := ⟨rfl, fun _ => rfl⟩
            obtain ⟨calls, noted⟩ := run.record quiet
            exact same ▸ ⟨tally, noted.dispatch _ args⟩
        | whois _ _ args same =>
            obtain ⟨calls, sent⟩ := run.dispatch (.of "WHOIS") args
            exact same ▸ ⟨_, _, sent.flushed _ _ _⟩
        | message _ same =>
            rw [← same]
            unfold messageReceived
            dsimp only
            split
            · next cmd asked =>
                obtain ⟨command, args, -, rfl⟩ := commandOf_eq_some asked
                exact ⟨_, ((run.queued rfl).flushed view.memory [] false).dispatch _ _⟩
            · exact ⟨tally, run.dispatch _ _⟩

/-- What a flush does to any queue, and to the calls of `sendWhois` in any run: it calls once for
each command that has to wait and was not asked about, in their order, and every command that is
left in the queue was asked about once since it was queued. -/
theorem queue_flushed (lib : Libraries) (memory : NetworkId → NetworkState) (pc : PluginComm)
    (nick : ByteString) (identified : Bool) :
    let after := flushCommandQueue lib memory pc nick identified
    Flushed lib memory nick identified pc after ∧
      (∀ tally calls, Tally lib pc tally calls →
        let later := flushTally memory nick pc tally
        let asked := pc.commandQueue.flatMap (question memory nick pc)
        callsIn pc.trace = calls ∧ callsIn after.trace = calls ++ asked ∧
          Tally lib after later (calls ++ asked) ∧ later.map Prod.fst = after.commandQueue ∧
          ∀ entry ∈ later, entry.1.whoisSent = true ∧ entry.2 = 1) ∧
      ((system lib).Reachable pc → ∃ tally calls, Tally lib pc tally calls) := by
  refine ⟨flushCommandQueue_flushed lib memory pc nick identified, fun tally calls run => ?_,
    reachable_tally⟩
  have flushed := run.flushed memory nick identified
  exact ⟨run.traced, flushed.traced, flushed, flushed.told.1,
    fun entry => mem_flushTally run.told.2⟩

end PluginComm

end DaZeus
