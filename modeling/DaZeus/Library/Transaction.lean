import Mathlib.Logic.Basic

/-!
# Transactions over a connection that may break

The statements of a transaction work on a copy of what is committed.  The
connection may be lost at any of them, and at the commit it may be lost before or
after the commit has arrived.  However it goes, everything is committed or
nothing, and what a body does that is not interrupted does not depend on the
connection.
-/

namespace DaZeus.Library

universe u

/-- What becomes of a commit. -/
inductive Commitment where
  | confirmed
  /-- The connection is lost, and the client does not hear whether it arrived. -/
  | unheard (arrived : Bool)
  deriving DecidableEq

/-- The connection: where it is lost, and what becomes of the commit. -/
structure Link where
  lost : Nat → Bool := fun _ => false
  commitment : Commitment := .confirmed

/-- The copy that a transaction works on, and how many statements were sent to it. -/
structure Work (State : Type) where
  copy : State
  sent : Nat := 0

/-- The statements of a transaction; after an error nothing more is sent. -/
abbrev Statements (State : Type) (Error : Type u) := StateT (Work State) (Except Error)

variable {State Value Other : Type} {Error : Type u} {broken : Error}

/-- Send a statement. -/
def send (link : Link) (broken : Error) (statement : State → Except Error (Value × State)) :
    Statements State Error Value := fun work =>
  if link.lost work.sent then
    .error broken
  else
    match statement work.copy with
    | .error error => .error error
    | .ok (value, copy) => .ok (value, { copy, sent := work.sent + 1 })

/-- The body says whether to commit; without a commit the copy is thrown away. -/
def transact (link : Link) (broken : Error) (body : Statements State Error Bool)
    (committed : State) : Except Error Unit × State :=
  match body { copy := committed } with
  | .error error => (.error error, committed)
  | .ok (false, _) => (.ok (), committed)
  | .ok (true, work) =>
      match link.commitment with
      | .confirmed => (.ok (), work.copy)
      | .unheard arrived => (.error broken, if arrived then work.copy else committed)

/-- What the body does to its end, it does over a connection that is not lost as well. -/
def Steadfast (body : Link → Statements State Error Value) : Prop :=
  ∀ link work result, body link work = .ok result → body {} work = .ok result

namespace Steadfast

theorem pure (value : Value) :
    Steadfast fun _ => (Pure.pure value : Statements State Error Value) :=
  fun _ _ _ => id

theorem throw (error : Error) :
    Steadfast fun _ => (MonadExcept.throw error : Statements State Error Value) :=
  fun _ _ _ => id

theorem send (broken : Error) (statement : State → Except Error (Value × State)) :
    Steadfast fun link => Library.send link broken statement := by
  intro link work result sent
  unfold Library.send at sent ⊢
  dsimp only at sent ⊢
  split at sent
  · cases sent
  · exact sent

theorem bind {first : Link → Statements State Error Value}
    {second : Value → Link → Statements State Error Other} (steadfast : Steadfast first)
    (later : ∀ value, Steadfast (second value)) :
    Steadfast fun link => first link >>= fun value => second value link := by
  intro link work result completed
  cases begun : first link work with
  | error error =>
      have stopped : (first link >>= fun value => second value link) work = .error error := by
        simp only [Bind.bind, StateT.bind, begun, Except.bind]
      cases stopped.symm.trans completed
  | ok middle =>
      have undisturbed := steadfast link work middle begun
      simp only [Bind.bind, StateT.bind, begun, Except.bind] at completed
      simp only [Bind.bind, StateT.bind, undisturbed, Except.bind]
      exact later middle.1 link middle.2 result completed

end Steadfast

/-- The state that is committed is the one before, or the one that the transaction would have
left undisturbed; and it is that one if the client is told so. -/
theorem transact_atomic {body : Link → Statements State Error Bool} (steadfast : Steadfast body)
    (link : Link) {committed after : State} {result : Except Error Unit}
    (ended : transact link broken (body link) committed = (result, after)) :
    (after = committed ∨ transact {} broken (body {}) committed = (.ok (), after)) ∧
      (result = .ok () → transact {} broken (body {}) committed = (.ok (), after)) := by
  unfold transact at ended
  split at ended
  · cases ended
    exact ⟨.inl rfl, nofun⟩
  · next work outcome =>
      cases ended
      have same := steadfast link _ _ outcome
      exact ⟨.inl rfl, fun _ => by rw [transact, same]⟩
  · next work outcome =>
      have same := steadfast link _ _ outcome
      have whole : transact {} broken (body {}) committed = (.ok (), work.copy) := by
        rw [transact, same]
      split at ended
      · cases ended
        exact ⟨.inr whole, fun _ => whole⟩
      · next arrived _ =>
          cases ended
          cases arrived with
          | true => exact ⟨.inr whole, nofun⟩
          | false => exact ⟨.inl rfl, nofun⟩

end DaZeus.Library
