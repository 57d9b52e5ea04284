import DaZeus.PluginComm.Events
import Mathlib.Data.List.DropRight

/-!
# The arguments of a command

The tokenizer of `messageReceived` reads back a list of texts that was written
with quotes and escapes.  The rest of the line that goes along with it
describes the same arguments: it starts where the tokenizer starts over, and
trimming it takes no space that means anything.
-/

namespace DaZeus

open Library

namespace PluginComm

/-! ## Words -/

/-- No character of the text has a meaning for the tokenizer. -/
def Plain (text : ByteString) : Prop :=
  ∀ byte ∈ text, isSpace byte = false ∧ byte ≠ quote ∧ byte ≠ backslash

instance (text : ByteString) : Decidable (Plain text) :=
  List.decidableBAll (fun byte => isSpace byte = false ∧ byte ≠ quote ∧ byte ≠ backslash) text

/-- A text, with or without quotes around it. -/
structure Word where
  text : ByteString
  quoted : Bool
  valid : quoted = false → text ≠ [] ∧ Plain text

namespace Word

/-- A backslash goes before each quote and each backslash. -/
def escape (text : ByteString) : ByteString :=
  text.flatMap fun byte => if byte = quote ∨ byte = backslash then [backslash, byte] else [byte]

def rendering (word : Word) : ByteString :=
  if word.quoted then quote :: escape word.text ++ [quote] else word.text

end Word

/-- A command and its arguments, each with one space or more before it. -/
structure Line where
  command : Word
  args : List (Nat × Word)

def Line.text (line : Line) : ByteString :=
  line.command.rendering ++
    line.args.flatMap fun (more, word) => List.replicate (more + 1) space ++ word.rendering

/-! ## The steps of the tokenizer -/

namespace Tokenizer

variable {state : Tokenizer}

theorem next_inEscape (escaped : state.inEscape = true) (byte : UInt8) :
    state.next byte = { state with
      fullArgs := if state.hasCommand then state.fullArgs ++ [byte] else state.fullArgs
      inEscape := false
      stringBuilder := state.stringBuilder ++ [byte] } := by
  cases command : state.hasCommand <;> simp [next, escaped, command]

theorem next_backslash (unescaped : state.inEscape = false) :
    state.next backslash = { state with
      fullArgs := if state.hasCommand then state.fullArgs ++ [backslash] else state.fullArgs
      inEscape := true } := by
  cases command : state.hasCommand <;> simp [next, unescaped, command]

theorem next_space (unescaped : state.inEscape = false) (outside : state.inQuoteArg = false) :
    state.next space = { state with
      fullArgs := if state.hasCommand then state.fullArgs ++ [space] else state.fullArgs
      args := state.finish
      stringBuilder := []
      hasCommand := true
      hadQuotesThisArg := false } := by
  cases command : state.hasCommand <;>
    simp [next, finish, unescaped, outside, command, show space ≠ backslash by decide]

theorem next_quote (unescaped : state.inEscape = false) :
    state.next quote = { state with
      fullArgs := if state.hasCommand then state.fullArgs ++ [quote] else state.fullArgs
      inQuoteArg := !state.inQuoteArg
      hadQuotesThisArg := true } := by
  cases command : state.hasCommand <;>
    simp [next, unescaped, command, show quote ≠ backslash by decide,
      show quote ≠ space by decide]

theorem next_other (unescaped : state.inEscape = false) {byte : UInt8}
    (plain : byte ≠ backslash) (unquoted : byte ≠ quote)
    (joined : state.inQuoteArg = true ∨ byte ≠ space) :
    state.next byte = { state with
      fullArgs := if state.hasCommand then state.fullArgs ++ [byte] else state.fullArgs
      stringBuilder := state.stringBuilder ++ [byte] } := by
  have within : (!state.inQuoteArg && byte == space) = false := by
    cases joined with
    | inl inside => simp [inside]
    | inr other => simp [other]
  cases command : state.hasCommand <;> simp [next, unescaped, command, plain, unquoted, within]

/-- What a character is for the tokenizer, which decides what it does with it. -/
inductive Reading (state : Tokenizer) (byte : UInt8) : Prop where
  | escaped (escaped : state.inEscape = true)
  | backslash (unescaped : state.inEscape = false) (same : byte = backslash)
  | space (unescaped : state.inEscape = false) (outside : state.inQuoteArg = false)
      (same : byte = space)
  | quote (unescaped : state.inEscape = false) (same : byte = quote)
  | other (unescaped : state.inEscape = false) (plain : byte ≠ backslash)
      (unquoted : byte ≠ quote) (joined : state.inQuoteArg = true ∨ byte ≠ space)

theorem reading (state : Tokenizer) (byte : UInt8) : Reading state byte := by
  cases escaped : state.inEscape with
  | true => exact .escaped escaped
  | false =>
    by_cases isBackslash : byte = backslash
    · exact .backslash escaped isBackslash
    · by_cases isQuote : byte = quote
      · exact .quote escaped isQuote
      · by_cases joined : state.inQuoteArg = true ∨ byte ≠ space
        · exact .other escaped isBackslash isQuote joined
        · obtain ⟨outside, isSpace⟩ := not_or.mp joined
          exact .space escaped (Bool.eq_false_iff.mpr outside) (not_not.mp isSpace)

/-- The tokenizer is after these arguments, in a word that has begun like this. -/
structure At (args : List ByteString) (word : ByteString) (quoted inside : Bool)
    (state : Tokenizer) : Prop where
  args : state.args = args
  word : state.stringBuilder = word
  quoted : state.hadQuotesThisArg = quoted
  inside : state.inQuoteArg = inside
  escape : state.inEscape = false

variable {args : List ByteString} {word : ByteString} {quoted inside : Bool}

namespace At

theorem start : At [] [] false false {} := ⟨rfl, rfl, rfl, rfl, rfl⟩

theorem plain (here : At args word quoted inside state) {byte : UInt8}
    (unescaped : byte ≠ backslash) (unquoted : byte ≠ quote)
    (joined : inside = true ∨ byte ≠ space) :
    At args (word ++ [byte]) quoted inside (state.next byte) := by
  rw [next_other here.escape unescaped unquoted (by rw [here.inside]; exact joined)]
  exact { here with word := by rw [here.word] }

theorem escaped (here : At args word quoted inside state) (byte : UInt8) :
    At args (word ++ [byte]) quoted inside ((state.next backslash).next byte) := by
  rw [next_backslash here.escape, next_inEscape rfl]
  exact { here with word := by rw [here.word], escape := rfl }

theorem mark (here : At args word quoted inside state) :
    At args word true (!inside) (state.next quote) := by
  rw [next_quote here.escape]
  exact { here with quoted := rfl, inside := by rw [here.inside] }

theorem finish (here : At args word quoted inside state) (begun : word ≠ [] ∨ quoted = true) :
    state.finish = args ++ [word] := by
  rw [Tokenizer.finish, here.word, here.quoted, here.args]
  cases begun with
  | inl nonempty => simp [nonempty]
  | inr marked => simp [marked]

theorem gap (here : At args word quoted false state) (begun : word ≠ [] ∨ quoted = true) :
    At (args ++ [word]) [] false false (state.next space) := by
  rw [next_space here.escape here.inside, here.finish begun]
  exact ⟨rfl, rfl, rfl, here.inside, here.escape⟩

/-- A space after a space adds no argument. -/
theorem another (here : At args [] false false state) :
    At args [] false false (state.next space) := by
  have nothing : state.finish = args := by
    rw [Tokenizer.finish, here.word, here.quoted, here.args]
    rfl
  rw [next_space here.escape here.inside, nothing]
  exact ⟨rfl, rfl, rfl, here.inside, here.escape⟩

theorem others (here : At args [] false false state) (more : Nat) :
    At args [] false false ((List.replicate more space).foldl next state) := by
  induction more generalizing state with
  | zero => exact here
  | succ more ih => exact ih here.another

theorem bare (here : At args word quoted false state) {text : ByteString}
    (valid : Plain text) :
    At args (word ++ text) quoted false (text.foldl next state) := by
  induction text generalizing word state with
  | nil => simpa using here
  | cons byte text ih =>
    obtain ⟨visible, unquoted, unescaped⟩ := valid byte List.mem_cons_self
    have joined : byte ≠ space := by
      intro same
      rw [same] at visible
      exact absurd visible (by decide)
    have after := ih (here.plain unescaped unquoted (.inr joined))
      fun byte member => valid byte (List.mem_cons_of_mem _ member)
    simpa using after

theorem quotation (here : At args word quoted true state) (text : ByteString) :
    At args (word ++ text) quoted true ((Word.escape text).foldl next state) := by
  induction text generalizing word state with
  | nil => simpa [Word.escape] using here
  | cons byte text ih =>
    rw [Word.escape, List.flatMap_cons, List.foldl_append]
    have after : At args (word ++ [byte]) quoted true ((if byte = quote ∨ byte = backslash then
        [backslash, byte] else [byte]).foldl next state) := by
      by_cases special : byte = quote ∨ byte = backslash
      · rw [if_pos special]
        exact here.escaped byte
      · rw [if_neg special]
        obtain ⟨unquoted, unescaped⟩ := not_or.mp special
        exact here.plain unescaped unquoted (.inl rfl)
    simpa [Word.escape] using ih after

theorem rendering (here : At args [] false false state) (word : Word) :
    At args word.text word.quoted false (word.rendering.foldl next state) := by
  cases quoted : word.quoted with
  | false =>
    rw [Word.rendering, quoted]
    exact here.bare (word.valid quoted).2
  | true =>
    rw [Word.rendering, quoted]
    have inside := here.mark.quotation word.text
    simpa using inside.mark

end At

end Tokenizer

/-- The tokenizer starts a word for each rendering, also for that of an empty text. -/
theorem Word.begun (word : Word) : word.text ≠ [] ∨ word.quoted = true := by
  cases quoted : word.quoted with
  | false => exact .inl (word.valid quoted).1
  | true => exact .inr rfl

/-- The renderings that are still to come add their texts, in order. -/
theorem Tokenizer.At.line {state : Tokenizer} {before : List ByteString} {word : ByteString}
    {quoted : Bool} (here : At before word quoted false state)
    (begun : word ≠ [] ∨ quoted = true) (rest : List (Nat × Word)) :
    ((rest.flatMap fun (more, word) => List.replicate (more + 1) space ++ word.rendering).foldl
      next state).finish = before ++ word :: rest.map (·.2.text) := by
  induction rest generalizing before word quoted state with
  | nil => exact here.finish begun
  | cons arg rest ih =>
    obtain ⟨more, arg⟩ := arg
    rw [List.flatMap_cons, List.foldl_append, List.foldl_append]
    have apart : At (before ++ [word]) [] false false
        ((List.replicate (more + 1) space).foldl next state) := (here.gap begun).others more
    rw [ih (apart.rendering arg) arg.begun]
    simp

theorem tokenize_line (line : Line) :
    (tokenize line.text).finish = line.command.text :: line.args.map (·.2.text) := by
  rw [tokenize, Line.text, List.foldl_append]
  exact (Tokenizer.At.start.rendering line.command).line line.command.begun line.args

theorem Word.rendering_nonempty (word : Word) : word.rendering ≠ [] := by
  cases quoted : word.quoted with
  | false => simpa [Word.rendering, quoted] using (word.valid quoted).1
  | true => simp [Word.rendering, quoted]

section

variable (lib : Libraries) (memory : NetworkId → NetworkState) (global : GlobalConfig)
  (pc : PluginComm) (origin message receiver : ByteString) (network : NetworkId)

theorem commandOf_line (line : Line) :
    commandOf lib origin receiver network line.text = some
      { network, origin, channel := receiver, command := line.command.text
        fullArgs := lib.trim (tokenize line.text).fullArgs, args := line.args.map (·.2.text) } := by
  have asked : line.text.length ≠ 0 := by
    simp [Line.text, line.command.rendering_nonempty]
  rw [commandOf, if_pos asked, tokenize_line]

/-- A line addressed to the bot queues one command, with the texts that were rendered. -/
theorem rendered_line_queued (line : Line)
    (addressed : payloadOf lib global (memory network).nick message = line.text) :
    ∃ cmd : Command, cmd.network = network ∧ cmd.origin = origin ∧ cmd.channel = receiver ∧
      cmd.command = line.command.text ∧ cmd.args = line.args.map (·.2.text) ∧
      pc.messageReceived lib memory global origin message receiver network =
        (flushCommandQueue lib memory
          { pc with commandQueue := pc.commandQueue ++ [cmd] }).dispatch lib (.of "PRIVMSG")
          [(memory network).networkName, origin, receiver, message,
            boolText ((memory network).isIdentified origin)] := by
  refine ⟨{ network, origin, channel := receiver, command := line.command.text
            fullArgs := lib.trim (tokenize line.text).fullArgs
            args := line.args.map (·.2.text) }, rfl, rfl, rfl, rfl, rfl, ?_⟩
  simp only [messageReceived, addressed, commandOf_line]

/-- `say  it "" "a \"b"`: two spaces, an empty argument and one with a space and a quote. -/
def spoken : Line :=
  ⟨⟨ascii "say", false, by decide⟩,
    [(1, ⟨ascii "it", false, by decide⟩), (0, ⟨[], true, by decide⟩),
      (0, ⟨ascii "a \"b", true, by decide⟩)]⟩

theorem rendered_line_queued_spoken :
    let memory : NetworkId → NetworkState :=
      fun _ => ⟨ascii "net", ascii "bot", [], fun _ => false⟩
    let message := ascii "bot: say  it \"\" \"a \\\"b\""
    payloadOf (.knowing []) {} (ascii "bot") message = spoken.text ∧
      ∃ cmd : Command, cmd.network = 0 ∧ cmd.origin = ascii "alice" ∧
        cmd.channel = ascii "#lobby" ∧ cmd.command = ascii "say" ∧
        cmd.args = [ascii "it", [], ascii "a \"b"] ∧
        messageReceived (.knowing []) memory {} {} (ascii "alice") message (ascii "#lobby") 0 =
          (flushCommandQueue (.knowing []) memory { commandQueue := [cmd] }).dispatch
            (.knowing []) (.of "PRIVMSG")
            [ascii "net", ascii "alice", ascii "#lobby", message, ascii "false"] := by
  intro memory message
  have addressed : payloadOf (.knowing []) {} (memory 0).nick message = spoken.text := by
    decide
  exact ⟨addressed, rendered_line_queued (.knowing []) memory {} {} (ascii "alice") message
    (ascii "#lobby") 0 spoken addressed⟩

end

/-! ## The raw arguments -/

namespace Tokenizer

/-- Both are at the same place in a word; the first one has these arguments more. -/
structure Alike (first : List ByteString) (state other : Tokenizer) : Prop where
  args : state.args = first ++ other.args
  word : state.stringBuilder = other.stringBuilder
  quoted : state.hadQuotesThisArg = other.hadQuotesThisArg
  inside : state.inQuoteArg = other.inQuoteArg
  escape : state.inEscape = other.inEscape

namespace Alike

variable {first : List ByteString} {state other : Tokenizer}

theorem finish (alike : Alike first state other) : state.finish = first ++ other.finish := by
  rw [Tokenizer.finish, Tokenizer.finish, alike.word, alike.quoted, alike.args]
  split
  · exact List.append_assoc first other.args [other.stringBuilder]
  · rfl

theorem next (alike : Alike first state other) (byte : UInt8) :
    Alike first (state.next byte) (other.next byte) := by
  cases reading other byte with
  | escaped escaped =>
    rw [next_inEscape (alike.escape.trans escaped), next_inEscape escaped]
    exact { alike with word := by rw [alike.word], escape := rfl }
  | backslash unescaped same =>
    rw [same, next_backslash (alike.escape.trans unescaped), next_backslash unescaped]
    exact { alike with escape := rfl }
  | space unescaped outside same =>
    rw [same, next_space (alike.escape.trans unescaped) (alike.inside.trans outside),
      next_space unescaped outside]
    exact { alike with args := alike.finish, word := rfl, quoted := rfl }
  | quote unescaped same =>
    rw [same, next_quote (alike.escape.trans unescaped), next_quote unescaped]
    exact { alike with quoted := rfl, inside := by rw [alike.inside] }
  | other unescaped plain unquoted joined =>
    have joined' : state.inQuoteArg = true ∨ byte ≠ DaZeus.space := alike.inside ▸ joined
    rw [next_other (alike.escape.trans unescaped) plain unquoted joined',
      next_other unescaped plain unquoted joined]
    exact { alike with word := by rw [alike.word] }

theorem foldl (alike : Alike first state other) (bytes : ByteString) :
    Alike first (bytes.foldl Tokenizer.next state) (bytes.foldl Tokenizer.next other) := by
  induction bytes generalizing state other with
  | nil => exact alike
  | cons byte bytes ih => exact ih (alike.next byte)

/-- At the start a space is skipped. -/
theorem spaces (alike : Alike first state {}) (count : Nat) :
    Alike first ((List.replicate count space).foldl Tokenizer.next state) {} := by
  induction count generalizing state with
  | zero => exact alike
  | succ count ih =>
    have skipped : Alike first (state.next space) {} := by
      have step := alike.next space
      exact ⟨step.args, step.word, step.quoted, step.inside, step.escape⟩
    exact ih skipped

end Alike

/-- The command is not complete yet. -/
structure Waiting (state : Tokenizer) : Prop where
  hasCommand : state.hasCommand = false
  args : state.args = []
  fullArgs : state.fullArgs = []

/-- A space would complete the word. -/
structure Between (state : Tokenizer) : Prop where
  outside : state.inQuoteArg = false
  unescaped : state.inEscape = false

/-- Something was read of the word. -/
def Begun (state : Tokenizer) : Prop :=
  state.stringBuilder ≠ [] ∨ state.hadQuotesThisArg = true ∨ state.inEscape = true

theorem Waiting.next {state : Tokenizer} (waiting : state.Waiting) {byte : UInt8}
    (stays : ¬(state.Between ∧ byte = space)) :
    (state.next byte).Waiting ∧ (state.next byte).Begun := by
  have kept : ∀ byte, (if state.hasCommand then state.fullArgs ++ [byte] else state.fullArgs) =
      [] := by
    intro byte
    rw [waiting.hasCommand]
    exact waiting.fullArgs
  cases reading state byte with
  | escaped escaped =>
    rw [next_inEscape escaped]
    exact ⟨{ waiting with fullArgs := kept byte }, .inl (by simp)⟩
  | backslash unescaped same =>
    rw [same, next_backslash unescaped]
    exact ⟨{ waiting with fullArgs := kept _ }, .inr (.inr rfl)⟩
  | space unescaped outside same => exact absurd ⟨⟨outside, unescaped⟩, same⟩ stays
  | quote unescaped same =>
    rw [same, next_quote unescaped]
    exact ⟨{ waiting with fullArgs := kept _ }, .inr (.inl rfl)⟩
  | other unescaped plain unquoted joined =>
    rw [next_other unescaped plain unquoted joined]
    exact ⟨{ waiting with fullArgs := kept byte }, .inl (by simp)⟩

/-- The command is complete at the first space that is not part of a word. -/
theorem Waiting.foldl {state : Tokenizer} (waiting : state.Waiting) (bytes : ByteString) :
    (bytes.foldl Tokenizer.next state).Waiting ∨
      ∃ head tail, bytes = head ++ space :: tail ∧
        (head.foldl Tokenizer.next state).Waiting ∧ (head.foldl Tokenizer.next state).Between ∧
        (head ≠ [] → (head.foldl Tokenizer.next state).Begun) := by
  induction bytes generalizing state with
  | nil => exact .inl waiting
  | cons byte bytes ih =>
    by_cases complete : state.Between ∧ byte = space
    · obtain ⟨between, same⟩ := complete
      refine .inr ⟨[], bytes, by rw [same]; rfl, waiting, between, ?_⟩
      exact fun nonempty => absurd rfl nonempty
    · obtain ⟨next, begun⟩ := waiting.next complete
      obtain still | ⟨head, tail, parts, after, between, more⟩ := ih next
      · exact .inl still
      · refine .inr ⟨byte :: head, tail, by rw [parts]; rfl, after, between, fun _ => ?_⟩
        cases head with
        | nil => exact begun
        | cons first head => exact more (List.cons_ne_nil first head)

theorem Begun.finish {state : Tokenizer} (begun : state.Begun) (waiting : state.Waiting)
    (between : state.Between) : state.finish = [state.stringBuilder] := by
  rw [Tokenizer.finish, waiting.args]
  obtain nonempty | marked | escaped := begun
  · simp [nonempty]
  · simp [marked]
  · exact absurd escaped (by simp [between.unescaped])

theorem next_hasCommand {state : Tokenizer} (started : state.hasCommand = true) (byte : UInt8) :
    (state.next byte).hasCommand = true ∧
      (state.next byte).fullArgs = state.fullArgs ++ [byte] := by
  cases reading state byte with
  | escaped escaped => simp [next_inEscape escaped, started]
  | backslash unescaped same => simp [same, next_backslash unescaped, started]
  | space unescaped outside same => simp [same, next_space unescaped outside, started]
  | quote unescaped same => simp [same, next_quote unescaped, started]
  | other unescaped plain unquoted joined =>
    simp [next_other unescaped plain unquoted joined, started]

theorem fullArgs_foldl {state : Tokenizer} (started : state.hasCommand = true)
    (bytes : ByteString) :
    (bytes.foldl next state).fullArgs = state.fullArgs ++ bytes := by
  induction bytes generalizing state with
  | nil => exact (List.append_nil state.fullArgs).symm
  | cons byte bytes ih =>
    obtain ⟨still, noted⟩ := next_hasCommand started byte
    rw [List.foldl_cons, ih still, noted, List.append_assoc]
    rfl

end Tokenizer

/-- The text without its leading and trailing whitespace. -/
def trimmed (text : ByteString) : ByteString := (text.dropWhile isSpace).rdropWhile isSpace

theorem trimmed_head {text : ByteString} (nonempty : trimmed text ≠ []) :
    isSpace ((trimmed text).head nonempty) = false := by
  have before : trimmed text <+: text.dropWhile isSpace := List.rdropWhile_prefix isSpace _
  rw [before.head nonempty]
  exact List.head_dropWhile_not isSpace _

theorem trimmed_getLast {text : ByteString} (nonempty : trimmed text ≠ []) :
    isSpace ((trimmed text).getLast nonempty) = false :=
  Bool.eq_false_iff.mpr (List.rdropWhile_last_not isSpace _ nonempty)

theorem trimmed_of_getLast {text : ByteString}
    (last : ∀ nonempty, isSpace (text.getLast nonempty) = false) :
    trimmed text = text.dropWhile isSpace := by
  apply List.rdropWhile_eq_self_iff.mpr
  intro nonempty
  rw [(List.dropWhile_suffix isSpace).getLast nonempty, last]
  decide

/-- The text has no whitespace but spaces. -/
def OnlySpaces (text : ByteString) : Prop := ∀ byte ∈ text, isSpace byte = true → byte = space

instance (text : ByteString) : Decidable (OnlySpaces text) :=
  List.decidableBAll (fun byte => isSpace byte = true → byte = space) text

/-- Where a text ends with something else, trimming it takes no space of an argument. -/
theorem tokenize_trimmed {text : ByteString}
    (last : ∀ nonempty, isSpace (text.getLast nonempty) = false)
    (spaces : OnlySpaces text) :
    (tokenize (trimmed text)).finish = (tokenize text).finish := by
  have leading : text.takeWhile isSpace =
      List.replicate (text.takeWhile isSpace).length space :=
    List.eq_replicate_of_mem fun byte member =>
      spaces byte ((List.takeWhile_prefix isSpace).subset member)
        (List.mem_takeWhile_imp member)
  have skipped : Tokenizer.Alike [] ((text.takeWhile isSpace).foldl Tokenizer.next {}) {} := by
    rw [leading]
    exact Tokenizer.Alike.spaces ⟨rfl, rfl, rfl, rfl, rfl⟩ _
  calc (tokenize (trimmed text)).finish
      = (tokenize (text.dropWhile isSpace)).finish := by rw [trimmed_of_getLast last]
    _ = (tokenize (text.takeWhile isSpace ++ text.dropWhile isSpace)).finish := by
      rw [tokenize, tokenize, List.foldl_append]
      exact (skipped.foldl (text.dropWhile isSpace)).finish.symm
    _ = (tokenize text).finish := by rw [List.takeWhile_append_dropWhile]

/-- The first argument is the command; the rest of the line describes the others. -/
theorem tokenize_fullArgs {payload : ByteString}
    (first : ∀ nonempty, isSpace (payload.head nonempty) = false)
    (last : ∀ nonempty, isSpace (payload.getLast nonempty) = false)
    (spaces : OnlySpaces payload) :
    (tokenize (trimmed (tokenize payload).fullArgs)).finish =
      (tokenize payload).finish.tail := by
  have start : Tokenizer.Waiting {} := ⟨rfl, rfl, rfl⟩
  obtain waiting | ⟨head, tail, parts, waiting, between, begun⟩ := start.foldl payload
  · have none : (tokenize payload).fullArgs = [] := waiting.fullArgs
    rw [none, Tokenizer.finish.eq_def (tokenize payload), show (tokenize payload).args = [] from
      waiting.args]
    split <;> rfl
  · have started : head ≠ [] := by
      intro empty
      have blank : isSpace (payload.head (by simp [parts])) = true := by
        simp only [parts, empty]
        exact show isSpace space = true by decide
      rw [first] at blank
      exact absurd blank (by decide)
    have state : tokenize payload = tail.foldl Tokenizer.next ((tokenize head).next space) := by
      rw [parts]
      simp only [tokenize, List.foldl_append, List.foldl_cons]
    have command : (tokenize head).finish = [(tokenize head).stringBuilder] :=
      (begun started).finish waiting between
    have step : (tokenize head).next space = _ := Tokenizer.next_space between.unescaped
      between.outside
    have after : Tokenizer.Alike [(tokenize head).stringBuilder] ((tokenize head).next space)
        {} := by
      rw [step, command]
      exact ⟨rfl, rfl, rfl, between.outside, between.unescaped⟩
    have noted : (tokenize payload).fullArgs = tail := by
      rw [state, Tokenizer.fullArgs_foldl (by rw [step]), step]
      simp [show (tokenize head).hasCommand = false from waiting.hasCommand,
        show (tokenize head).fullArgs = [] from waiting.fullArgs]
    have within : tail <:+ payload := ⟨head ++ [space], by simp [parts]⟩
    have rest : (tokenize payload).finish =
        [(tokenize head).stringBuilder] ++ (tokenize tail).finish := by
      rw [state]
      exact (after.foldl tail).finish
    rw [noted, rest, tokenize_trimmed _ fun byte member => spaces byte (within.subset member)]
    · rfl
    · intro nonempty
      rw [within.getLast nonempty]
      exact last _

section

variable {lib : Libraries} {memory : NetworkId → NetworkState} {global : GlobalConfig}
  {pc : PluginComm} {origin message receiver nick : ByteString} {network : NetworkId}

theorem payloadOf_cases (lib : Libraries) (global : GlobalConfig) (nick message : ByteString) :
    payloadOf lib global nick message = [] ∨
      ∃ text, payloadOf lib global nick message = lib.trim text := by
  rw [payloadOf]
  split
  · exact .inr ⟨_, rfl⟩
  · split
    · exact .inr ⟨_, rfl⟩
    · exact .inl rfl

/-- The two views of a COMMAND event agree where the payload has no whitespace but spaces. -/
theorem fullArgs_agrees (trims : ∀ text, lib.trim text = trimmed text)
    (spaces : OnlySpaces (payloadOf lib global (memory network).nick message))
    {cmd : Command} (asked : commandOf lib origin receiver network
      (payloadOf lib global (memory network).nick message) = some cmd) :
    (tokenize cmd.fullArgs).finish = cmd.args ∧
      pc.messageReceived lib memory global origin message receiver network =
        (flushCommandQueue lib memory
          { pc with commandQueue := pc.commandQueue ++ [cmd] }).dispatch lib (.of "PRIVMSG")
          [(memory network).networkName, origin, receiver, message,
            boolText ((memory network).isIdentified origin)] := by
  refine ⟨?_, by simp only [messageReceived, asked]⟩
  obtain empty | ⟨text, payload⟩ := payloadOf_cases lib global (memory network).nick message
  · rw [empty] at asked
    cases asked
  · obtain ⟨command, args, parsed, rfl⟩ := commandOf_eq_some asked
    rw [payload, trims] at parsed spaces ⊢
    rw [trims, tokenize_fullArgs trimmed_head trimmed_getLast spaces, parsed]
    rfl

/-- An escaped space, an empty argument and a quotation without an end. -/
theorem fullArgs_agrees_unterminated :
    let lib : Libraries := { Libraries.knowing [] with trim := trimmed }
    let memory : NetworkId → NetworkState :=
      fun _ => ⟨ascii "net", ascii "bot", [], fun _ => false⟩
    let message := ascii "bot,  say  \\  \"\" \"a b "
    let cmd : Command :=
      { network := 0, origin := ascii "alice", channel := ascii "#lobby", command := ascii "say"
        fullArgs := ascii "\\  \"\" \"a b", args := [ascii " ", [], ascii "a b"] }
    (tokenize cmd.fullArgs).finish = cmd.args ∧
      messageReceived lib memory {} {} (ascii "alice") message (ascii "#lobby") 0 =
        (flushCommandQueue lib memory { commandQueue := [cmd] }).dispatch lib (.of "PRIVMSG")
          [ascii "net", ascii "alice", ascii "#lobby", message, ascii "false"] := by
  intro lib memory message cmd
  have payload : payloadOf lib {} (memory 0).nick message =
      ascii "say  \\  \"\" \"a b" := by
    decide
  have spaces : OnlySpaces (payloadOf lib {} (memory 0).nick message) := by
    rw [payload]
    decide
  have asked : commandOf lib (ascii "alice") (ascii "#lobby") 0
      (payloadOf lib {} (memory 0).nick message) = some cmd := by
    rw [payload]
    decide
  exact fullArgs_agrees (fun _ => rfl) spaces asked

end

end PluginComm

end DaZeus
