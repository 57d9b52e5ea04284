import DaZeus.ConfigFile.Nesting
import DaZeus.Library.TransitionSystem

/-!
# Callbacks in any order

The callbacks rely on the values in progress being there for the sections that
are open.  That holds whatever dotconf calls, and whether or not it goes on
after an error: a callback that reports one has changed nothing before.
-/

namespace DaZeus.ConfigFile

open Library

/-- dotconf does not open a Network or a Plugin without an argument. -/
def Callback.Named : Callback → Prop
  | .sectOpen (.network argument) => argument ≠ []
  | .sectOpen (.plugin argument) => argument ≠ []
  | _ => True

namespace ConfigReaderState

/-- dotconf without its rules: it calls back as it likes, and may go on after an error, with or
without a word to the error handler. -/
def callbacks (lib : Libraries) (irc : IrcStructs) :
    TransitionSystem ConfigReaderState Callback where
  initial state := state = { globalProgress := some {} }
  step before callback after := callback.Named ∧
    ∃ reported next, before.invoke lib irc callback = .ok (reported, next) ∧
      (after = next ∨ ∃ message, reported = some message ∧ after = next.errorHandler message)

variable {lib : Libraries} {irc : IrcStructs} {state after : ConfigReaderState}

/-- An error is all that is left of it. -/
def Complains (state : ConfigReaderState) (result : CallbackResult) : Prop :=
  ∀ message after, result = .ok (some message, after) → ∃ error, after = { state with error }

theorem Complains.stops (stop : ReadStop) : Complains state (.error stop) := by
  intro message after complained
  cases complained

theorem Complains.goes (next : ConfigReaderState) : Complains state (.ok (none, next)) := by
  intro message after complained
  cases complained

theorem Complains.unchanged (message : ByteString) :
    Complains state (.ok (some message, state)) := by
  intro message after complained
  cases complained
  exact ⟨state.error, rfl⟩

theorem edit_complains {Value : Type} {stop : ReadStop} {progress : Option Value}
    {change : Value → Except Complaint Value} {put : Value → ConfigReaderState} :
    Complains state (state.edit stop progress change put) := by
  unfold edit
  split
  · exact .stops stop
  · split
    · exact .goes _
    · intro message after complained
      cases complained
      exact ⟨_, rfl⟩

theorem sectOpen_complains (tag : SectionOpen) : Complains state (state.sectOpen irc tag) := by
  unfold sectOpen
  cases state.currentSection with
  | root =>
      dsimp only
      split
      · exact .stops _
      · split
        · exact .stops _
        · cases tag with
          | socket => exact .goes _
          | database =>
              dsimp only
              split
              · exact .unchanged _
              · exact .goes _
          | network argument =>
              dsimp only
              split
              · exact .stops _
              · exact .goes _
          | server => exact .unchanged _
          | plugin argument =>
              dsimp only
              split
              · exact .stops _
              · split
                · exact .unchanged _
                · exact .goes _
  | network =>
      dsimp only
      split
      · exact .stops _
      · cases tag <;> exact .goes _
  | socket | database | server | plugin => exact .unchanged _

theorem sectClose_complains (tag : SectionClose) : Complains state (state.sectClose tag) := by
  unfold sectClose
  split
  · split
    · exact .stops _
    · exact .goes _
  · exact .goes _
  · split
    · exact .stops _
    · exact .goes _
  · split
    · exact .goes _
    · exact .stops _
  · split
    · exact .stops _
    · exact .goes _
  · exact .unchanged _

theorem invoke_complains (callback : Callback) :
    Complains state (state.invoke lib irc callback) := by
  cases callback with
  | sectOpen tag => exact sectOpen_complains tag
  | sectClose tag => exact sectClose_complains tag
  | option line =>
      unfold invoke option
      cases state.currentSection <;> exact edit_complains
  | report report => exact .goes _

/-- No callback breaks it, with an error or without. -/
theorem Consistent.invoke (consistent : state.Consistent) {callback : Callback}
    {reported : Option ByteString}
    (done : state.invoke lib irc callback = .ok (reported, after)) : after.Consistent := by
  cases reported with
  | some message =>
      obtain ⟨error, rfl⟩ := invoke_complains callback message after done
      exact { consistent with }
  | none =>
      have answers : Answers lib state callback (state.invoke lib irc callback) :=
        invoke_answers consistent callback
      rw [done] at answers
      cases answers with
      | goes named allowed kept => exact kept

theorem verdict_named {callback : Callback} (named : callback.Named) (lib : Libraries)
    (position : Position) : position.verdict lib callback ≠ .unnamed := by
  cases callback with
  | sectOpen tag =>
      unfold Position.verdict
      dsimp only
      split
      · exact Verdict.noConfusion
      · split <;> exact Verdict.noConfusion
      · next argument _ =>
          rw [if_neg (show argument ≠ [] from named)]
          exact Verdict.noConfusion
      · next argument _ =>
          rw [if_neg (show argument ≠ [] from named)]
          split <;> exact Verdict.noConfusion
      · exact Verdict.noConfusion
      · exact Verdict.noConfusion
      · exact Verdict.noConfusion
  | sectClose tag =>
      unfold Position.verdict
      dsimp only
      split <;> exact Verdict.noConfusion
  | option line => exact (option_verdict_ne lib line position).1
  | report report => exact Verdict.noConfusion

/-- In every state that callbacks lead to, the values in progress are those of the section, and no
callback stops on them. -/
theorem reachable_consistent (reached : (callbacks lib irc).Reachable state) :
    state.Consistent ∧ ∀ callback : Callback, callback.Named →
      ∃ reported after, state.invoke lib irc callback = .ok (reported, after) := by
  have consistent : state.Consistent := by
    apply reached.invariant
    · intro start initial
      rw [initial]
      exact start_consistent
    · intro before callback after consistent step
      obtain ⟨-, reported, next, done, same⟩ := step
      have kept := consistent.invoke done
      rcases same with rfl | ⟨message, -, rfl⟩
      · exact kept
      · exact { kept with }
  refine ⟨consistent, fun callback named => ?_⟩
  have answers : Answers lib state callback (state.invoke lib irc callback) :=
    invoke_answers consistent callback
  generalize state.invoke lib irc callback = result at answers
  cases answers with
  | unnamed judged => exact absurd judged (verdict_named named lib state.position)
  | refused judged said => exact ⟨_, _, rfl⟩
  | goes named allowed consistent position error => exact ⟨_, _, rfl⟩

/-- A socket that is closed before it is opened, with an error for that. -/
theorem reachable_consistent_socket :
    let state : ConfigReaderState :=
      { globalProgress := some {}, currentSection := .socket, socketProgress := some {}
        error := ascii "Logic error" }
    state.Consistent := by
  intro state
  have refused : (callbacks (.knowing []) .plain).Reachable
      { globalProgress := some {}, error := ascii "Logic error" } :=
    (TransitionSystem.Reachable.start rfl).snoc (.sectClose .socket)
      ⟨trivial, _, _, rfl, .inr ⟨_, rfl, rfl⟩⟩
  have opened : (callbacks (.knowing []) .plain).Reachable state :=
    refused.snoc (.sectOpen .socket) ⟨trivial, _, _, rfl, .inl rfl⟩
  exact (reachable_consistent opened).1

end ConfigReaderState

end DaZeus.ConfigFile
