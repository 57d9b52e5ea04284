import Mathlib.Data.List.Basic

/-!
# Loops that may stop with an error

Induction rules for `List.foldlM` in `Except`: what every completed round
preserves holds after the loop, and a loop that failed did so in one round,
after the rounds before it were completed.
-/

namespace DaZeus.Library

universe u v w

variable {Item : Type u} {State : Type v} {Error : Type v}
  {round : State → Item → Except Error State}

/-- A pure continuation does not decide whether a computation completes. -/
theorem bind_ok_completes {outcome : Except Error State} {Result : Type v}
    {next : State → Result} :
    (∃ result, (outcome >>= fun value => .ok (next value) : Except Error Result) = .ok result) ↔
      ∃ value, outcome = .ok value := by
  cases outcome <;> simp [bind, Except.bind]

/-- An invariant that may speak of the items still to come. -/
theorem foldlM_remaining {motive : List Item → State → Prop} {items : List Item}
    {start finish : State}
    (preserved : ∀ {item rest before after}, motive (item :: rest) before →
      round before item = .ok after → motive rest after)
    (holds : motive items start) (completed : items.foldlM round start = .ok finish) :
    motive [] finish := by
  induction items generalizing start with
  | nil =>
      cases completed
      exact holds
  | cons item rest inductionHypothesis =>
      rw [List.foldlM_cons] at completed
      cases first : round start item with
      | error _ =>
          rw [first] at completed
          cases completed
      | ok middle =>
          rw [first] at completed
          exact inductionHypothesis (preserved holds first) completed

/-- What each completed round preserves, a completed loop preserves. -/
theorem foldlM_invariant {motive : State → Prop} {items : List Item}
    {start finish : State}
    (preserved : ∀ {before item after}, item ∈ items → motive before →
      round before item = .ok after → motive after)
    (holds : motive start) (completed : items.foldlM round start = .ok finish) :
    motive finish :=
  (foldlM_remaining (motive := fun remaining state => remaining ⊆ items ∧ motive state)
    (fun holds first => ⟨fun _ membership => holds.1 (List.mem_cons_of_mem _ membership),
      preserved (holds.1 List.mem_cons_self) holds.2 first⟩)
    ⟨List.Subset.refl _, holds⟩ completed).2

/-- A failed loop completed some rounds and then failed in the next one. -/
theorem exists_failed_round {items : List Item} {start : State} {error : Error}
    (failed : items.foldlM round start = .error error) :
    ∃ done item rest middle, items = done ++ item :: rest ∧
      done.foldlM round start = .ok middle ∧ round middle item = .error error := by
  induction items generalizing start with
  | nil => cases failed
  | cons item rest inductionHypothesis =>
      rw [List.foldlM_cons] at failed
      cases first : round start item with
      | error _ =>
          rw [first] at failed
          cases failed
          exact ⟨[], item, rest, start, rfl, rfl, first⟩
      | ok middle =>
          rw [first] at failed
          obtain ⟨done, last, others, reached, split, completed, stopped⟩ :=
            inductionHypothesis failed
          refine ⟨item :: done, last, others, reached, by rw [split, List.cons_append], ?_,
            stopped⟩
          rw [List.foldlM_cons, first]
          exact completed

/-- A completed loop completed each of its rounds. -/
theorem completed_round {done rest : List Item} {item : Item} {start finish : State}
    (completed : (done ++ item :: rest).foldlM round start = .ok finish) :
    ∃ middle after, done.foldlM round start = .ok middle ∧ round middle item = .ok after ∧
      rest.foldlM round after = .ok finish := by
  rw [List.foldlM_append] at completed
  cases first : done.foldlM round start with
  | error _ =>
      rw [first] at completed
      cases completed
  | ok middle =>
      rw [first] at completed
      simp only [bind, Except.bind, List.foldlM_cons] at completed
      cases next : round middle item with
      | error _ =>
          rw [next] at completed
          cases completed
      | ok after =>
          rw [next] at completed
          exact ⟨middle, after, rfl, next, completed⟩

/-- Where the state does not decide whether a round completes, the loop completes if and only if
each of its rounds can. -/
theorem foldlM_completes_iff {completes : Item → Prop}
    (each : ∀ before item, (∃ after, round before item = .ok after) ↔ completes item)
    (items : List Item) (start : State) :
    (∃ finish, items.foldlM round start = .ok finish) ↔ ∀ item ∈ items, completes item := by
  induction items generalizing start with
  | nil => exact iff_of_true ⟨start, rfl⟩ (by simp)
  | cons item rest inductionHypothesis =>
      rw [List.foldlM_cons, List.forall_mem_cons, ← each start item]
      cases first : round start item with
      | error error => simp [bind, Except.bind]
      | ok middle => simp [bind, Except.bind, inductionHypothesis]

end DaZeus.Library
