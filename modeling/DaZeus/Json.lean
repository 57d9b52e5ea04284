import DaZeus.Library.Numeral
import Mathlib.Data.List.TakeWhile

/-!
# Byte strings, JSON values and the libraries the core links against

A `std::string` is its list of bytes.  jansson and the string helpers of
libdazeus-irc are submodules, so they enter as `Libraries`; the data that
crosses the boundary (JSON values, response objects, frames) is defined here.
-/

namespace DaZeus

open Library

abbrev ByteString := List UInt8

instance : LawfulBEq ByteString := inferInstanceAs (LawfulBEq (List UInt8))

/-- The bytes of an ASCII literal. -/
def ascii (text : String) : ByteString := text.toList.map digitByte

/-- What a callee that takes `s.c_str()` sees. -/
def cStr (text : ByteString) : ByteString := text.takeWhile (· != 0)

theorem cStr_eq_self {text : ByteString} (noNul : 0 ∉ text) : cStr text = text := by
  apply List.takeWhile_eq_self_iff.mpr
  intro byte membership
  simp only [bne_iff_ne, ne_eq]
  rintro rfl
  exact noNul membership

def newline : UInt8 := 10
def space : UInt8 := 32
def quote : UInt8 := 34
def apostrophe : UInt8 := 39
def percent : UInt8 := 37
def backslash : UInt8 := 92
def openBrace : UInt8 := 123

/-- `isspace` in the C locale. -/
def isSpace (byte : UInt8) : Bool := byte == 32 || (9 ≤ byte && byte ≤ 13)

/-- A `json_t`.  A real is represented by the text that `operator<<` prints for
it, the only thing the core asks of one. -/
inductive Json where
  | null
  | bool (value : Bool)
  | integer (value : Int)
  | real (printed : ByteString)
  | string (text : ByteString)
  | array (items : List Json)
  | object (members : List (ByteString × Json))

namespace Json

/-- `json_object_get`, which yields NULL on everything but an object. -/
def objectGet (name : ByteString) : Json → Option Json
  | .object members => (members.find? fun member => member.1 == name).map Prod.snd
  | _ => none

/-- `json_object_set_new`: an existing member is replaced in place. -/
def setMember (members : List (ByteString × Json)) (name : ByteString) (value : Json) :
    List (ByteString × Json) :=
  if members.any fun member => member.1 == name then
    members.map fun member => if member.1 == name then (name, value) else member
  else
    members ++ [(name, value)]

section Members

variable {members : List (ByteString × Json)} {name other : ByteString} {value : Json}

/-- Replacing a member is seen under its own name only. -/
theorem objectGet_replaced :
    (Json.object (members.map fun member =>
        if member.1 == name then (name, value) else member)).objectGet other =
      if other = name ∧ (members.any fun member => member.1 == name) then some value
      else (Json.object members).objectGet other := by
  induction members with
  | nil => simp [objectGet]
  | cons member members inductionHypothesis =>
      simp only [objectGet] at inductionHypothesis
      by_cases own : member.1 = name
      · by_cases asked : other = name
        · simp [objectGet, own, asked]
        · have different : ¬ name = other := fun same => asked same.symm
          simpa [objectGet, own, asked, different] using inductionHypothesis
      · by_cases asked : member.1 = other
        · have different : ¬ other = name := fun same => own (asked.trans same)
          simp [objectGet, asked, different]
        · have passed : (member.1 == name) = false := by simpa using own
          simp only [objectGet, List.map_cons, passed, Bool.false_eq_true, if_false,
            List.any_cons, Bool.false_or]
          rw [List.find?_cons_of_neg (by simpa using asked),
            List.find?_cons_of_neg (by simpa using asked)]
          exact inductionHypothesis

theorem objectGet_setMember :
    (Json.object (setMember members name value)).objectGet other =
      if other = name then some value else (Json.object members).objectGet other := by
  unfold setMember
  split
  · next present =>
      rw [objectGet_replaced]
      simp only [present, and_true]
  · next missing =>
      by_cases asked : other = name
      · subst asked
        have absent : members.find? (fun member => member.1 == other) = none := by
          apply List.find?_eq_none.mpr
          intro member membership same
          exact missing (List.any_eq_true.mpr ⟨member, membership, same⟩)
        simp [objectGet, List.find?_append, absent]
      · have different : ¬ name = other := fun same => asked same.symm
        simp [objectGet, List.find?_append, asked, different]

theorem nodup_setMember (nodup : (members.map Prod.fst).Nodup) :
    ((setMember members name value).map Prod.fst).Nodup := by
  unfold setMember
  split
  · have same : (members.map fun member =>
        if member.1 == name then (name, value) else member).map Prod.fst =
          members.map Prod.fst := by
      simp only [List.map_map]
      apply List.map_congr_left
      intro member _
      by_cases own : member.1 = name <;> simp [own]
    rw [same]
    exact nodup
  · next missing =>
      rw [List.map_append, List.nodup_append]
      refine ⟨nodup, by simp, ?_⟩
      intro used membership fresh new same
      obtain ⟨member, present, rfl⟩ := List.mem_map.mp membership
      simp only [List.map_cons, List.map_nil, List.mem_singleton] at new
      apply missing
      simpa using ⟨member.2, by rw [← new, ← same]; exact present⟩

end Members

end Json

/-- The third-party functions the core calls. -/
structure Libraries where
  /-- `json_loads(text, 0, &error)`, with `none` for NULL. -/
  loads : ByteString → Option Json
  /-- `json_dumps(value, 0)`. -/
  dumps : Json → ByteString
  /-- The text check of `json_string`. -/
  validUtf8 : ByteString → Bool
  startsWith : (text start : ByteString) → (caseInsensitive : Bool) → Bool
  trim : ByteString → ByteString
  strToLower : ByteString → ByteString
  strToUpper : ByteString → ByteString
  containsCi : List ByteString → ByteString → Bool
  /-- Whatever an access past the end of a vector happens to read. -/
  unspecified : ByteString

namespace Libraries

/-- `json_string(text.c_str())`, with `none` for NULL. -/
def jsonString (lib : Libraries) (text : ByteString) : Option Json :=
  if lib.validUtf8 (cStr text) then some (.string (cStr text)) else none

/-- `json_array_append_new` of one `json_string` per text; a NULL is refused and
leaves the array as it was. -/
def jsonStrings (lib : Libraries) (texts : List ByteString) : Json :=
  .array (texts.filterMap lib.jsonString)

end Libraries

def decimalInt (value : Int) : ByteString :=
  if value < 0 then ascii "-" ++ decimal value.natAbs else decimal value.natAbs

/-- One message on the wire: its size in ASCII, the JSON text and a newline. -/
def frame (text : ByteString) : ByteString := decimal text.length ++ text ++ [newline]

/-! ## Libraries to run the model with, for printable ASCII texts -/

namespace Json

def printText (text : ByteString) : ByteString :=
  quote :: text.flatMap (fun byte =>
    if byte = quote ∨ byte = backslash then [backslash, byte] else [byte]) ++ [quote]

mutual

/-- The text that `json_dumps(value, 0)` makes. -/
def print : Json → ByteString
  | .null => ascii "null"
  | .bool value => if value then ascii "true" else ascii "false"
  | .integer value => decimalInt value
  | .real printed => printed
  | .string text => printText text
  | .array items => ascii "[" ++ printItems items ++ ascii "]"
  | .object members => ascii "\x7b" ++ printMembers members ++ ascii "\x7d"

def printItems : List Json → ByteString
  | [] => []
  | [item] => print item
  | item :: items => print item ++ ascii ", " ++ printItems items

def printMembers : List (ByteString × Json) → ByteString
  | [] => []
  | [(name, value)] => printText name ++ ascii ": " ++ print value
  | (name, value) :: members =>
      printText name ++ ascii ": " ++ print value ++ ascii ", " ++ printMembers members

end

end Json

def lowered (byte : UInt8) : UInt8 := if 65 ≤ byte ∧ byte ≤ 90 then byte + 32 else byte

def raised (byte : UInt8) : UInt8 := if 97 ≤ byte ∧ byte ≤ 122 then byte - 32 else byte

/-- The parser knows the printed form of the given values; no other text loads. -/
def Libraries.knowing (known : List Json) : Libraries where
  loads text := known.find? fun value => value.print == text
  dumps := Json.print
  validUtf8 text := text.all (· < 128)
  startsWith text start caseInsensitive :=
    if caseInsensitive then (start.map lowered).isPrefixOf (text.map lowered)
    else start.isPrefixOf text
  trim text := ((text.dropWhile (· == space)).reverse.dropWhile (· == space)).reverse
  strToLower := List.map lowered
  strToUpper := List.map raised
  containsCi texts text := texts.any fun other => other.map lowered == text.map lowered
  unspecified := []

end DaZeus
