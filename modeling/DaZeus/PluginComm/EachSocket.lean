import DaZeus.PluginComm.Iteration

/-!
# A property of each socket

A socket is changed by requests, on a copy that is written back, and by frames
and bytes that go into its buffers or come out of them.  A property that both
preserve is one of every socket in every state.
-/

namespace DaZeus

open Library
open Std (TreeMap)

namespace PluginComm

/-- All sockets have the property. -/
def EachSocket (property : SocketInfo → Prop) (pc : PluginComm) : Prop :=
  ∀ (fd : Nat) (info : SocketInfo), pc.sockets[fd]? = some info → property info

/-- The property is not about the buffers of a socket. -/
def IgnoresBuffers (property : SocketInfo → Prop) : Prop :=
  ∀ (info : SocketInfo) (waitingSize : Nat) (readahead writebuffer : ByteString),
    property info → property { info with waitingSize, readahead, writebuffer }

variable {lib : Libraries} {view : View} {io : Nat → SocketInput} {pc after : PluginComm}
  {property : SocketInfo → Prop}

theorem EachSocket.dispatchTo (ignores : IgnoresBuffers property) {fd : Nat} {event : EventName}
    {parameters : List ByteString} (holds : EachSocket property pc) :
    EachSocket property (pc.dispatchTo lib fd event parameters) := by
  intro other info found
  rw [dispatchTo_sockets] at found
  split at found
  · obtain ⟨entry, entryFound, rfl⟩ := Option.map_eq_some_iff.mp found
    exact ignores _ _ _ _ (holds fd entry entryFound)
  · exact holds other info found

theorem EachSocket.insert {fd : Nat} {info : SocketInfo}
    (holds : EachSocket property pc) (new : property info)
    (inserted : after.sockets = pc.sockets.insert fd info) : EachSocket property after := by
  intro other entry found
  simp only [inserted, TreeMap.getElem?_insert, compare_eq_iff_eq] at found
  split at found
  · cases found
    exact new
  · exact holds other entry found

theorem EachSocket.erase {fd : Nat} (holds : EachSocket property pc) :
    EachSocket property { pc with sockets := pc.sockets.erase fd } := by
  intro other info found
  simp only [TreeMap.getElem?_erase] at found
  split at found
  · cases found
  · exact holds other info found

theorem eachSocket_eventClosed (ignores : IgnoresBuffers property) :
    EventClosed lib (EachSocket property) where
  dispatchTo _ _ holds _ := holds.dispatchTo ignores
  record _ holds := holds
  delivered _ _ holds := holds
  queue _ holds := holds

theorem eachSocket_pollClosed (lib : Libraries) (ignores : IgnoresBuffers property) (fd : Nat) :
    PollClosed lib fd (EachSocket property) where
  dispatchTo _ _ holds _ := holds.dispatchTo ignores
  record _ holds := holds

/-! ## Requests -/

/-- While a socket is served, the copy has the property as well. -/
structure Copied (property : SocketInfo → Prop) (it : Iteration) : Prop where
  entries : EachSocket property it.pc
  copy : property it.info

section Poll

variable (ignores : IgnoresBuffers property)
  (requests : ∀ (info : SocketInfo) (input : Json), property info →
    property (handle lib view input info).info)

include ignores requests

theorem Copied.answer {fd : Nat} {packet : ByteString} {input : Json} {it : Iteration}
    (copied : Copied property it) :
    Copied property (answer lib view fd packet input it) := by
  refine ⟨(eachSocket_pollClosed lib ignores fd).answer copied.entries, ?_⟩
  rw [answer_info]
  exact ignores _ _ _ _ (requests _ input copied.copy)

theorem Copied.parseSocket {fd : Nat} {it result : Iteration} (copied : Copied property it)
    (parsed : parseSocket lib view fd it = .ok result) : Copied property result :=
  parseSocket_invariant (motive := Copied property)
    (fun _ _ copied => ⟨copied.entries, ignores _ _ _ _ copied.copy⟩)
    (fun copied => copied.answer ignores requests) parsed copied

theorem EachSocket.polled {fd : Nat} (polled : Polled lib view io pc fd after)
    (holds : EachSocket property pc) : EachSocket property after := by
  have closed := eachSocket_pollClosed lib ignores fd
  cases polled with
  | absent _ => exact holds
  | failed => exact holds
  | @served info toRemove it found ready parsed =>
      have read : Copied property (readSocket fd (io fd).reads
          { pc, info, toRemove, callbacks := (io fd).callbacks }) := by
        refine ⟨closed.readSocket _ _ holds, ?_⟩
        obtain ⟨noted, removed, same, -, -⟩ := readSocket_spec fd (io fd).reads
          { pc, info, toRemove, callbacks := (io fd).callbacks }
        rw [same]
        exact ignores _ _ _ _ (holds fd info found)
      have served := read.parseSocket ignores requests parsed
      obtain ⟨noted, removed, writebuffer, same, -, -⟩ := writeSocket_spec fd (io fd).writes it
      have written : property (writeSocket fd (io fd).writes it).info := by
        rw [same]
        exact ignores _ _ _ _ served.copy
      exact (closed.writeSocket served.entries).insert written rfl

theorem EachSocket.poll (completed : pc.poll lib view io = .ok after)
    (holds : EachSocket property pc) : EachSocket property after :=
  poll_invariant (motive := EachSocket property) (fun polled holds =>
    holds.polled ignores requests polled) (fun _ holds => holds.erase) completed holds

end Poll

end PluginComm

end DaZeus
