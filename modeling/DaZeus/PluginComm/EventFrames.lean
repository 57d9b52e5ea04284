import DaZeus.PluginComm.Conversation

/-!
# What a plugin decodes from an event

`json_string` refuses a text that is not UTF-8, and `json_array_append_new`
then leaves the text out.  A plugin decodes the parameters that are left, and
those are the parameters only if none was refused.
-/

namespace DaZeus

open Library

namespace PluginComm

variable {lib : Libraries} {event : EventName} {parameters : List ByteString}

/-- The value in a frame: after the size, which stops at the first brace, comes a text of
that size. -/
def decodeFrame (lib : Libraries) (bytes : ByteString) : Option Json :=
  let header := bytes.takeWhile (· != openBrace)
  let size := ofDecimal (header.filter isDigit)
  lib.loads (cStr ((bytes.drop header.length).take size))

/-- The texts of an array of strings. -/
def decodeTexts : List Json → Option (List ByteString)
  | [] => some []
  | .string text :: items => (decodeTexts items).map (text :: ·)
  | _ => none

/-- What a plugin takes from a frame with an event: its name and its parameters. -/
def decodeEvent (lib : Libraries) (bytes : ByteString) :
    Option (ByteString × List ByteString) :=
  match decodeFrame lib bytes with
  | none => none
  | some value =>
      match value.objectGet (ascii "event"), value.objectGet (ascii "params") with
      | some (.string name), some (.array items) => (decodeTexts items).map (name, ·)
      | _, _ => none

/-- A printed object is read back from its frame, whatever follows it. -/
theorem decodeFrame_frame {value : Json} (encodes : Encodes lib value) (rest : ByteString) :
    decodeFrame lib (frame (lib.dumps value) ++ rest) = some value := by
  have digits : (decimal (lib.dumps value).length).takeWhile (· != openBrace) =
      decimal (lib.dumps value).length := by
    apply List.takeWhile_eq_self_iff.mpr
    intro byte membership
    simp only [bne_iff_ne, ne_eq]
    rintro rfl
    exact absurd (isDigit_of_mem_decimal membership) (by decide)
  have opened : ((lib.dumps value) ++ ([newline] ++ rest)).takeWhile (· != openBrace) = [] := by
    cases printed : lib.dumps value with
    | nil =>
        have opens := encodes.opens
        rw [printed] at opens
        cases opens
    | cons byte text =>
        have opens := encodes.opens
        rw [printed] at opens
        cases opens
        rfl
  have header : (frame (lib.dumps value) ++ rest).takeWhile (· != openBrace) =
      decimal (lib.dumps value).length := by
    rw [frame, List.append_assoc, List.append_assoc, List.takeWhile_append, digits, opened]
    simp
  unfold decodeFrame
  dsimp only
  rw [header, List.filter_eq_self.mpr fun byte membership => isDigit_of_mem_decimal membership,
    ofDecimal_decimal, frame, List.append_assoc, List.append_assoc, List.drop_left,
    List.take_left]
  exact encodes.loads_cStr

theorem decodeTexts_strings (texts : List ByteString) :
    decodeTexts (texts.map Json.string) = some texts := by
  induction texts with
  | nil => rfl
  | cons text texts inductionHypothesis =>
      rw [List.map_cons, decodeTexts, inductionHypothesis]
      rfl

/-- What `json_string` and `json_array_append_new` make of texts without a NUL. -/
theorem jsonStrings_eq (noNul : ∀ text ∈ parameters, 0 ∉ text) :
    lib.jsonStrings parameters =
      .array ((parameters.filter fun text => lib.validUtf8 text).map Json.string) := by
  unfold Libraries.jsonStrings
  congr 1
  induction parameters with
  | nil => rfl
  | cons text texts inductionHypothesis =>
      have rest := inductionHypothesis fun other membership =>
        noNul other (List.mem_cons_of_mem _ membership)
      have whole := cStr_eq_self (noNul text List.mem_cons_self)
      by_cases valid : lib.validUtf8 text = true
      · have taken : lib.jsonString text = some (.string text) := by
          rw [Libraries.jsonString, whole, if_pos valid]
        rw [List.filterMap_cons_some taken, List.filter_cons_of_pos valid, List.map_cons, rest]
      · have refused : lib.jsonString text = none := by
          rw [Libraries.jsonString, whole, if_neg valid]
        rw [List.filterMap_cons_none refused, List.filter_cons_of_neg valid, rest]

/-- A plugin decodes the name and the parameters that are UTF-8, and nothing if the name
is not. -/
theorem decodeEvent_eventFrame (noNulName : 0 ∉ event.text)
    (noNul : ∀ text ∈ parameters, 0 ∉ text)
    (encodes : Encodes lib (SocketInfo.eventJson lib event parameters)) :
    decodeEvent lib (SocketInfo.eventFrame lib event parameters) =
      if lib.validUtf8 event.text then
        some (event.text, parameters.filter fun text => lib.validUtf8 text)
      else none := by
  have decoded : decodeFrame lib (SocketInfo.eventFrame lib event parameters) =
      some (SocketInfo.eventJson lib event parameters) := by
    have framed := decodeFrame_frame encodes []
    rwa [List.append_nil] at framed
  have params : (SocketInfo.eventJson lib event parameters).objectGet (ascii "params") =
      some (.array ((parameters.filter fun text => lib.validUtf8 text).map Json.string)) := by
    rw [SocketInfo.eventJson, Json.objectGet_setMember, if_pos rfl, jsonStrings_eq noNul]
  have whole := cStr_eq_self noNulName
  unfold decodeEvent
  rw [decoded]
  dsimp only
  rw [params]
  by_cases valid : lib.validUtf8 event.text = true
  · have name : (SocketInfo.eventJson lib event parameters).objectGet (ascii "event") =
        some (.string event.text) := by
      rw [SocketInfo.eventJson, Json.objectGet_setMember, if_neg (by decide),
        Libraries.jsonString, whole, if_pos valid]
      exact Json.objectGet_setMember
    rw [name, if_pos valid]
    dsimp only
    rw [decodeTexts_strings]
    rfl
  · have name : (SocketInfo.eventJson lib event parameters).objectGet (ascii "event") = none := by
      rw [SocketInfo.eventJson, Json.objectGet_setMember, if_neg (by decide),
        Libraries.jsonString, whole, if_neg valid]
      rfl
    rw [name, if_neg valid]

/-- The frame that `dispatch` appends decodes to the event and all of its parameters if and only
if the name and every parameter are valid UTF-8. -/
theorem event_decoded_iff (lib : Libraries) (info : SocketInfo) (event : EventName)
    (parameters : List ByteString) (noNulName : 0 ∉ event.text)
    (noNul : ∀ text ∈ parameters, 0 ∉ text)
    (encodes : Encodes lib (SocketInfo.eventJson lib event parameters)) :
    decodeEvent lib ((info.dispatch lib event parameters).writebuffer.drop
        info.writebuffer.length) = some (event.text, parameters) ↔
      lib.validUtf8 event.text = true ∧ ∀ text ∈ parameters, lib.validUtf8 text = true := by
  have appended : (info.dispatch lib event parameters).writebuffer.drop
      info.writebuffer.length = SocketInfo.eventFrame lib event parameters :=
    List.drop_left
  rw [appended, decodeEvent_eventFrame noNulName noNul encodes]
  by_cases valid : lib.validUtf8 event.text = true
  · rw [if_pos valid]
    simp [valid, List.filter_eq_self]
  · rw [if_neg valid]
    simp [valid]

/-- What a plugin is sent for a command. -/
def sentCommand (sender : ByteString) : List ByteString :=
  commandParameters View.online.memory
    { network := 1, origin := sender, channel := ascii "#c", command := ascii "seen",
      fullArgs := ascii "bob", args := [ascii "bob"] }

/-- The libraries that can read a `COMMAND` event from the sender. -/
def reading (sender : ByteString) : Libraries :=
  .knowing [SocketInfo.eventJson (.knowing []) commandEvent (sentCommand sender)]

theorem loads_knowing (value : Json) :
    (Libraries.knowing [value]).loads value.print = some value := by
  simp [Libraries.knowing]

theorem event_decoded_alice :
    decodeEvent (reading (ascii "alice")) ((SocketInfo.dispatch (reading (ascii "alice")) {}
      commandEvent (sentCommand (ascii "alice"))).writebuffer.drop 0) =
      some (ascii "COMMAND", sentCommand (ascii "alice")) := by
  refine (event_decoded_iff (reading (ascii "alice")) {} commandEvent
    (sentCommand (ascii "alice")) (by decide) (by decide +kernel) ⟨rfl, by decide +kernel, ?_⟩).mpr
    (by decide +kernel)
  exact loads_knowing (SocketInfo.eventJson (.knowing []) commandEvent
    (sentCommand (ascii "alice")))

/-- The sender is `é` in Latin-1: it is dropped, and the channel stands in its place. -/
theorem sender_dropped :
    decodeEvent (reading [233]) ((SocketInfo.dispatch (reading [233]) {} commandEvent
        (sentCommand [233])).writebuffer.drop 0) =
      some (ascii "COMMAND", [ascii "n", ascii "#c", ascii "seen", ascii "bob", ascii "bob"]) ∧
    decodeEvent (reading [233]) ((SocketInfo.dispatch (reading [233]) {} commandEvent
        (sentCommand [233])).writebuffer.drop 0) ≠
      some (commandEvent.text, sentCommand [233]) := by
  decide +kernel

end PluginComm

end DaZeus
