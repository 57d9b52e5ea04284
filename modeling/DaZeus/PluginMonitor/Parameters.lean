import DaZeus.PluginMonitor.Start

/-!
# The parameters of a plugin

The sample configuration says how a list of arguments is written as the
Parameters of a plugin.  The loop that takes them apart knows the quotes, but
neither the backslash nor the percent sign that is written twice: what is
written without them is read as it was meant, and nothing else is.
-/

namespace DaZeus

open Library

/-! ## How arguments are written -/

inductive Quoting where
  | bare
  | single
  | double
  deriving DecidableEq

inductive Writing where
  | plain
  /-- `\` and the character. -/
  | escaped
  /-- `%%` -/
  | doubled
  deriving DecidableEq

def isMeta (byte : UInt8) : Bool :=
  byte == quote || byte == apostrophe || byte == backslash || byte == percent || isSpace byte

/-- The characters that stand for themselves. -/
def Quoting.Plain (quoting : Quoting) (byte : UInt8) : Prop :=
  byte ≠ backslash ∧ byte ≠ percent ∧
    match quoting with
    | .bare => byte ≠ quote ∧ byte ≠ apostrophe ∧ isSpace byte = false
    | .single => byte ≠ apostrophe
    | .double => byte ≠ quote

instance (quoting : Quoting) (byte : UInt8) : Decidable (quoting.Plain byte) :=
  match quoting with
  | .bare => inferInstanceAs (Decidable (_ ∧ _ ∧ _ ∧ _ ∧ _))
  | .single => inferInstanceAs (Decidable (_ ∧ _ ∧ _ ≠ _))
  | .double => inferInstanceAs (Decidable (_ ∧ _ ∧ _ ≠ _))

/-- What is put around the argument. -/
def Quoting.marks : Quoting → ByteString
  | .bare => []
  | .single => [apostrophe]
  | .double => [quote]

structure WrittenByte where
  byte : UInt8
  writing : Writing

namespace WrittenByte

def Valid (quoting : Quoting) (written : WrittenByte) : Prop :=
  match written.writing with
  | .plain => quoting.Plain written.byte
  | .escaped => isMeta written.byte = true
  | .doubled => written.byte = percent

instance (quoting : Quoting) (written : WrittenByte) : Decidable (written.Valid quoting) :=
  match written with
  | ⟨_, .plain⟩ => inferInstanceAs (Decidable (quoting.Plain _))
  | ⟨_, .escaped⟩ => inferInstanceAs (Decidable (isMeta _ = true))
  | ⟨_, .doubled⟩ => inferInstanceAs (Decidable (_ = percent))

def text (written : WrittenByte) : ByteString :=
  match written.writing with
  | .plain => [written.byte]
  | .escaped => [backslash, written.byte]
  | .doubled => [percent, percent]

end WrittenByte

/-- An argument in quotes, or one without quotes, which is not empty. -/
structure WrittenArgument where
  quoting : Quoting
  bytes : List WrittenByte
  valid : ∀ written ∈ bytes, written.Valid quoting
  nonempty : quoting = .bare → bytes ≠ []

namespace WrittenArgument

def argument (written : WrittenArgument) : ByteString := written.bytes.map (·.byte)

def text (written : WrittenArgument) : ByteString :=
  written.quoting.marks ++ written.bytes.flatMap (·.text) ++ written.quoting.marks

end WrittenArgument

theorem isSpace_other {byte : UInt8} (blank : isSpace byte = true) :
    byte ≠ quote ∧ byte ≠ apostrophe ∧ byte ≠ percent ∧ byte ≠ backslash := by
  refine ⟨?_, ?_, ?_, ?_⟩
  all_goals
    rintro rfl
    exact absurd blank (by decide)

theorem count_first (marker first : UInt8) (rest : ByteString) :
    (first :: rest).count marker = [first].count marker + rest.count marker := by
  rw [← List.singleton_append, List.count_append]

def Blank (bytes : ByteString) : Prop := ∀ byte ∈ bytes, isSpace byte = true

instance (bytes : ByteString) : Decidable (Blank bytes) :=
  List.decidableBAll (fun byte => isSpace byte = true) bytes

/-- An argument and the blanks before it. -/
structure WrittenItem where
  blanks : ByteString
  written : WrittenArgument
  blank : Blank blanks

/-- Arguments with blanks between them. -/
structure WrittenParameters where
  items : List WrittenItem
  trailing : ByteString
  blank : Blank trailing
  apart : ∀ item ∈ items.tail, item.blanks ≠ []

namespace WrittenParameters

def arguments (parameters : WrittenParameters) : List ByteString :=
  parameters.items.map (·.written.argument)

def text (parameters : WrittenParameters) : ByteString :=
  parameters.items.flatMap (fun item => item.blanks ++ item.written.text) ++ parameters.trailing

/-- Nothing is escaped or doubled. -/
def Plain (parameters : WrittenParameters) : Prop :=
  ∀ item ∈ parameters.items, ∀ written ∈ item.written.bytes, written.writing = .plain

end WrittenParameters

/-! ## Steps of the loop -/

/-- The characters that the loop takes over as they are. -/
def Quoting.Passes (byte : UInt8) : Quoting → Prop
  | .bare => byte ≠ quote ∧ byte ≠ apostrophe ∧ isSpace byte = false ∧ byte ≠ percent
  | .single => byte ≠ apostrophe
  | .double => byte ≠ quote

theorem Quoting.Plain.passes {quoting : Quoting} {byte : UInt8} (plain : quoting.Plain byte) :
    quoting.Passes byte := by
  obtain ⟨-, percent, others⟩ := plain
  cases quoting with
  | bare => exact ⟨others.1, others.2.1, others.2.2, percent⟩
  | single => exact others
  | double => exact others

namespace ArgumentParser

variable {config : ConfigReader} {network rest : ByteString} {parser : ArgumentParser}

/-- The flags say where the loop is. -/
structure Within (quoting : Quoting) (parser : ArgumentParser) : Prop where
  single : parser.inQuotes = decide (quoting = .single)
  double : parser.inDoublequotes = decide (quoting = .double)
  escape : parser.inEscape = false

/-- What a blank and the end of the text do. -/
def flush (parser : ArgumentParser) : ArgumentParser :=
  if parser.currentArg.length > 0 then parser.push else parser

theorem append_append (first second : ByteString) :
    (parser.append first).append second = parser.append (first ++ second) := by
  simp [append]

theorem flush_currentArg : parser.flush.currentArg = [] := by
  unfold flush
  split
  · rfl
  · next empty => exact List.eq_nil_of_length_eq_zero (Nat.eq_zero_of_not_pos empty)

theorem flush_flush : parser.flush.flush = parser.flush :=
  if_neg (by simp [flush_currentArg])

theorem Within.append {quoting : Quoting} (within : parser.Within quoting) (text : ByteString) :
    (parser.append text).Within quoting :=
  ⟨within.single, within.double, within.escape⟩

theorem Within.push {quoting : Quoting} (within : parser.Within quoting) :
    parser.push.Within quoting :=
  ⟨within.single, within.double, within.escape⟩

theorem Within.flush {quoting : Quoting} (within : parser.Within quoting) :
    parser.flush.Within quoting := by
  unfold ArgumentParser.flush
  split
  · exact within.push
  · exact within

theorem parse_blank {byte : UInt8} (within : parser.Within .bare) (blank : isSpace byte = true) :
    parse config network (byte :: rest) parser = parse config network rest parser.flush := by
  obtain ⟨double, single, -⟩ := isSpace_other blank
  rw [parse.eq_def]
  simp [within.escape, within.single, within.double, single, double, blank, flush]

theorem parse_passes {quoting : Quoting} {byte : UInt8} (within : parser.Within quoting)
    (passes : quoting.Passes byte) :
    parse config network (byte :: rest) parser =
      parse config network rest (parser.append [byte]) := by
  rw [parse.eq_def]
  cases quoting with
  | bare =>
      obtain ⟨double, single, blank, percent⟩ := passes
      simp [within.escape, within.single, within.double, single, double, blank, percent]
  | single =>
      simp [within.escape, within.single, within.double, show byte ≠ apostrophe from passes]
  | double =>
      simp [within.escape, within.single, within.double, show byte ≠ quote from passes]

theorem parse_plains {quoting : Quoting} {bytes : ByteString} (within : parser.Within quoting)
    (plain : ∀ byte ∈ bytes, quoting.Plain byte) :
    parse config network (bytes ++ rest) parser =
      parse config network rest (parser.append bytes) := by
  induction bytes generalizing parser with
  | nil => simp [append]
  | cons byte bytes inductionHypothesis =>
      obtain ⟨first, others⟩ := List.forall_mem_cons.mp plain
      rw [List.cons_append, parse_passes within first.passes,
        inductionHypothesis (within.append _) others, append_append, List.singleton_append]

/-- Blanks end the current argument, if there is one. -/
theorem parse_blanks {blanks : ByteString} (within : parser.Within .bare) (blank : Blank blanks)
    (ends : blanks ≠ [] ∨ parser.currentArg = []) :
    parse config network (blanks ++ rest) parser = parse config network rest parser.flush := by
  induction blanks generalizing parser with
  | nil =>
      have empty : parser.currentArg = [] := ends.resolve_left (absurd rfl)
      rw [flush, if_neg (by simp [empty]), List.nil_append]
  | cons byte blanks inductionHypothesis =>
      obtain ⟨first, others⟩ := List.forall_mem_cons.mp blank
      rw [List.cons_append, parse_blank within first,
        inductionHypothesis within.flush others (.inr flush_currentArg), flush_flush]

/-- The quotes before an argument. -/
def enter (quoting : Quoting) (parser : ArgumentParser) : ArgumentParser :=
  { parser with
    inQuotes := decide (quoting = .single)
    inDoublequotes := decide (quoting = .double) }

/-- The quotes after it, which end an argument even if it is empty. -/
def leave (quoting : Quoting) (parser : ArgumentParser) : ArgumentParser :=
  if quoting = .bare then parser else parser.push.enter .bare

theorem Within.enter {old : Quoting} (within : parser.Within old) (quoting : Quoting) :
    (parser.enter quoting).Within quoting :=
  ⟨rfl, rfl, within.escape⟩

theorem Within.leave {quoting : Quoting} (within : parser.Within quoting) :
    (parser.leave quoting).Within .bare := by
  unfold ArgumentParser.leave
  split
  · next bare => exact bare ▸ within
  · exact within.push.enter .bare

theorem parse_enter {quoting : Quoting} (within : parser.Within .bare) :
    parse config network (quoting.marks ++ rest) parser =
      parse config network rest (parser.enter quoting) := by
  cases quoting with
  | bare =>
      have same : parser.enter .bare = parser := by
        unfold enter
        rw [← within.single, ← within.double]
      rw [same]
      rfl
  | single =>
      rw [Quoting.marks, List.singleton_append, parse.eq_def]
      simp [within.escape, within.single, within.double, enter]
  | double =>
      rw [Quoting.marks, List.singleton_append, parse.eq_def]
      simp [within.escape, within.single, within.double, enter, apostrophe, quote]

theorem parse_leave {quoting : Quoting} (within : parser.Within quoting) :
    parse config network (quoting.marks ++ rest) parser =
      parse config network rest (parser.leave quoting) := by
  cases quoting with
  | bare => rfl
  | single =>
      rw [Quoting.marks, List.singleton_append, parse.eq_def]
      simp [within.escape, within.single, within.double, enter, leave]
  | double =>
      rw [Quoting.marks, List.singleton_append, parse.eq_def]
      simp [within.escape, within.single, within.double, enter, leave]

/-- An argument without anything escaped or doubled. -/
theorem parse_argument {written : WrittenArgument}
    (plain : ∀ byte ∈ written.bytes, byte.writing = .plain) (within : parser.Within .bare)
    (fresh : parser.currentArg = []) :
    ∃ after, after.Within .bare ∧
      parse config network (written.text ++ rest) parser = parse config network rest after ∧
      after.flush.arguments = parser.arguments ++ [written.argument] := by
  have inside : written.bytes.flatMap (·.text) = written.argument := by
    rw [WrittenArgument.argument, List.map_eq_flatMap]
    apply List.flatMap_congr
    intro byte membership
    rw [WrittenByte.text, plain byte membership]
  have stands : ∀ byte ∈ written.argument, written.quoting.Plain byte := by
    rw [WrittenArgument.argument, List.forall_mem_map]
    intro byte membership
    have valid := written.valid byte membership
    rwa [WrittenByte.Valid, plain byte membership] at valid
  have entered := within.enter written.quoting
  refine ⟨((parser.enter written.quoting).append written.argument).leave written.quoting,
    (entered.append _).leave, ?_, ?_⟩
  · rw [WrittenArgument.text, inside, List.append_assoc, List.append_assoc, parse_enter within,
      parse_plains entered stands, parse_leave (entered.append _)]
  · by_cases bare : written.quoting = .bare
    · have filled : written.argument.length > 0 := by
        rw [WrittenArgument.argument, List.length_map]
        exact List.length_pos_of_ne_nil (written.nonempty bare)
      simp [leave, bare, flush, enter, append, push, fresh, filled]
    · simp [leave, bare, flush, enter, append, push, fresh]

theorem parse_items {items : List WrittenItem} {trailing : ByteString}
    (plain : ∀ item ∈ items, ∀ byte ∈ item.written.bytes, byte.writing = .plain)
    (blank : Blank trailing) (within : parser.Within .bare)
    (first : ∀ item, items.head? = some item → item.blanks ≠ [] ∨ parser.currentArg = [])
    (apart : ∀ item ∈ items.tail, item.blanks ≠ []) :
    ∃ after, parse config network
        (items.flatMap (fun item => item.blanks ++ item.written.text) ++ trailing) parser =
          .ok after ∧
      after.flush.arguments = parser.flush.arguments ++ items.map (·.written.argument) := by
  induction items generalizing parser with
  | nil =>
      rw [List.map_nil, List.append_nil, List.flatMap_nil, List.nil_append]
      by_cases none : trailing = []
      · rw [none]
        exact ⟨parser, rfl, rfl⟩
      · have ended : parse config network (trailing ++ []) parser = .ok parser.flush :=
          parse_blanks within blank (.inl none)
        rw [List.append_nil] at ended
        exact ⟨parser.flush, ended, by rw [flush_flush]⟩
  | cons item items inductionHypothesis =>
      obtain ⟨here, others⟩ := List.forall_mem_cons.mp plain
      obtain ⟨middle, inside, parsed, read⟩ := parse_argument here within.flush flush_currentArg
      obtain ⟨after, finished, all⟩ := inductionHypothesis others inside
        (fun next head => .inl (apart next (List.mem_of_head? head)))
        (fun next membership => apart next (List.mem_of_mem_tail membership))
      refine ⟨after, ?_, ?_⟩
      · rw [List.flatMap_cons, List.append_assoc, List.append_assoc,
          parse_blanks within item.blank (first item rfl), parsed, finished]
      · rw [all, read, List.map_cons, List.append_assoc, List.singleton_append]

/-! ## What is lost -/

/-- How often a character is in what has been read. -/
def count (marker : UInt8) (parser : ArgumentParser) : Nat :=
  parser.arguments.flatten.count marker + parser.currentArg.count marker

theorem count_append (marker : UInt8) (text : ByteString) :
    (parser.append text).count marker = parser.count marker + text.count marker := by
  simp [count, append, Nat.add_assoc]

theorem count_push (marker : UInt8) : parser.push.count marker = parser.count marker := by
  simp [count, push]

theorem count_flush (marker : UInt8) : parser.flush.count marker = parser.count marker := by
  unfold flush
  split
  · exact count_push marker
  · rfl

/-- A step that makes up for the characters it takes. -/
theorem count_step {marker : UInt8} {next after : ArgumentParser} (taken : ByteString)
    {later : ByteString} (kept : parser.count marker + taken.count marker ≤ next.count marker)
    (others : next.count marker + later.count marker ≤ after.count marker) :
    parser.count marker + (taken ++ later).count marker ≤ after.count marker := by
  rw [List.count_append]
  omega

/-- The loop drops no backslash, and no percent sign that the values of the placeholders make up
for. -/
theorem parse_count {marker : UInt8} (kept : marker = backslash ∨ marker = percent)
    {text : ByteString} {after : ArgumentParser}
    (socket : config.pluginSocketText = .ok text) (inText : 0 < text.count marker)
    (inNetwork : 0 < network.count marker)
    (parsed : parse config network rest parser = .ok after) :
    parser.count marker + rest.count marker ≤ after.count marker := by
  have uncounted {byte : UInt8} (other : byte ≠ backslash ∧ byte ≠ percent) :
      [byte].count marker = 0 := by
    apply List.count_eq_zero.mpr
    intro membership
    cases List.mem_singleton.mp membership
    exact kept.elim other.1 other.2
  have placeholder {letter : UInt8} (other : letter ≠ backslash ∧ letter ≠ percent) :
      [percent, letter].count marker ≤ 1 := by
    rw [count_first, uncounted other]
    exact List.count_le_length
  fun_induction parse config network rest parser with
  | case1 =>
      cases parsed
      exact Nat.le_refl _
  | case2 byte _ parser _ inductionHypothesis =>
      refine count_step [byte] ?_ (inductionHypothesis parsed)
      exact Nat.le_of_eq (count_append marker [byte]).symm
  | case3 => cases parsed
  | case4 byte _ parser _ _ _ closes inductionHypothesis =>
      refine count_step [byte] ?_ (inductionHypothesis parsed)
      have other : byte ≠ backslash ∧ byte ≠ percent := by
        simp only [Bool.or_eq_true, Bool.and_eq_true, beq_iff_eq] at closes
        rcases closes with ⟨-, rfl⟩ | ⟨-, rfl⟩ <;> decide
      rw [uncounted other]
      exact Nat.le_of_eq (count_push marker).symm
  | case5 byte _ parser _ _ _ _ inductionHypothesis =>
      refine count_step [byte] ?_ (inductionHypothesis parsed)
      exact Nat.le_of_eq (count_append marker [byte]).symm
  | case6 _ _ _ _ inductionHypothesis =>
      refine count_step [apostrophe] ?_ (inductionHypothesis parsed)
      rw [uncounted (by decide)]
      exact Nat.le_refl _
  | case7 _ _ _ _ _ inductionHypothesis =>
      refine count_step [quote] ?_ (inductionHypothesis parsed)
      rw [uncounted (by decide)]
      exact Nat.le_refl _
  | case8 byte _ parser _ _ _ _ blank inductionHypothesis =>
      refine count_step [byte] ?_ (inductionHypothesis parsed)
      obtain ⟨-, -, percent, backslash⟩ := isSpace_other blank
      rw [uncounted ⟨backslash, percent⟩]
      exact Nat.le_of_eq (count_flush marker).symm
  | case9 =>
      cases parsed
      exact Nat.le_of_eq (count_append marker [percent]).symm
  | case10 => cases parsed
  | case11 =>
      rename_i found _ _ _ inductionHypothesis
      cases socket.symm.trans found
      refine count_step [percent, 115] ?_ (inductionHypothesis parsed)
      have once := placeholder (show (115 : UInt8) ≠ backslash ∧ (115 : UInt8) ≠ percent by decide)
      rw [count_append]
      omega
  | case12 =>
      rename_i inductionHypothesis
      refine count_step [percent, 110] ?_ (inductionHypothesis parsed)
      have once := placeholder (show (110 : UInt8) ≠ backslash ∧ (110 : UInt8) ≠ percent by decide)
      rw [count_append]
      omega
  | case13 =>
      rename_i inductionHypothesis
      refine count_step [percent] ?_ (inductionHypothesis parsed)
      exact Nat.le_of_eq (count_append marker [percent]).symm
  | case14 =>
      rename_i byte _ _ _ _ _ _ _ _ inductionHypothesis
      refine count_step [byte] ?_ (inductionHypothesis parsed)
      exact Nat.le_of_eq (count_append marker [byte]).symm

end ArgumentParser

/-- The backslashes and percent signs that are written beside the characters of the argument. -/
def WrittenByte.marks (marker : UInt8) (written : WrittenByte) : Nat :=
  match written.writing with
  | .plain => 0
  | .escaped => [backslash].count marker
  | .doubled => [percent].count marker

def WrittenParameters.marks (marker : UInt8) (parameters : WrittenParameters) : Nat :=
  (parameters.items.map fun item => (item.written.bytes.map (·.marks marker)).sum).sum

theorem WrittenByte.count_text {marker : UInt8} {quoting : Quoting} {written : WrittenByte}
    (valid : written.Valid quoting) :
    written.text.count marker = [written.byte].count marker + written.marks marker := by
  unfold text marks
  unfold Valid at valid
  split
  · rfl
  · exact (count_first ..).trans (Nat.add_comm ..)
  · next doubled =>
      simp only [doubled] at valid
      rw [valid]
      exact count_first ..

section Counts

variable {marker : UInt8} (kept : marker = backslash ∨ marker = percent)

include kept

theorem Blank.count {blanks : ByteString} (blank : Blank blanks) : blanks.count marker = 0 := by
  apply List.count_eq_zero.mpr
  intro membership
  obtain ⟨-, -, percent, backslash⟩ := isSpace_other (blank marker membership)
  exact kept.elim backslash percent

theorem Quoting.count_marks (quoting : Quoting) : quoting.marks.count marker = 0 := by
  rcases kept with rfl | rfl <;> cases quoting <;> decide

theorem WrittenArgument.count_text (written : WrittenArgument) :
    written.text.count marker =
      written.argument.count marker + (written.bytes.map (·.marks marker)).sum := by
  have inside {bytes : List WrittenByte} (valid : ∀ byte ∈ bytes, byte.Valid written.quoting) :
      (bytes.flatMap (·.text)).count marker =
        (bytes.map (·.byte)).count marker + (bytes.map (·.marks marker)).sum := by
    induction bytes with
    | nil => rfl
    | cons byte bytes inductionHypothesis =>
        obtain ⟨first, others⟩ := List.forall_mem_cons.mp valid
        rw [List.flatMap_cons, List.count_append, byte.count_text first,
          inductionHypothesis others, List.map_cons, List.map_cons, List.sum_cons,
          count_first marker byte.byte (bytes.map (·.byte))]
        omega
  rw [text, List.count_append, List.count_append, written.quoting.count_marks kept,
    inside written.valid, argument]
  omega

theorem WrittenParameters.count_text (parameters : WrittenParameters) :
    parameters.text.count marker =
      parameters.arguments.flatten.count marker + parameters.marks marker := by
  have spread (items : List WrittenItem) :
      (items.flatMap fun item => item.blanks ++ item.written.text).count marker =
        (items.map (·.written.argument)).flatten.count marker +
          (items.map fun item => (item.written.bytes.map (·.marks marker)).sum).sum := by
    induction items with
    | nil => rfl
    | cons item items inductionHypothesis =>
        rw [List.flatMap_cons, List.count_append, List.count_append, item.blank.count kept,
          item.written.count_text kept, inductionHypothesis, List.map_cons, List.flatten_cons,
          List.count_append, List.map_cons, List.sum_cons]
        omega
  rw [text, List.count_append, spread, parameters.blank.count kept]
  rfl

end Counts

theorem WrittenParameters.plain_of_marks {parameters : WrittenParameters}
    (unescaped : parameters.marks backslash = 0) (undoubled : parameters.marks percent = 0) :
    parameters.Plain := by
  have absent {marker : UInt8} (none : parameters.marks marker = 0) (item : WrittenItem)
      (inside : item ∈ parameters.items) (byte : WrittenByte)
      (membership : byte ∈ item.written.bytes) : byte.marks marker = 0 := by
    have items := List.sum_eq_zero_iff_forall_eq_nat.mp none _ (List.mem_map_of_mem inside)
    exact List.sum_eq_zero_iff_forall_eq_nat.mp items _ (List.mem_map_of_mem membership)
  intro item inside byte membership
  have escaped := absent unescaped item inside byte membership
  have doubled := absent undoubled item inside byte membership
  cases way : byte.writing with
  | plain => rfl
  | escaped =>
      rw [WrittenByte.marks, way] at escaped
      exact absurd escaped (by decide)
  | doubled =>
      rw [WrittenByte.marks, way] at doubled
      exact absurd doubled (by decide)

theorem PluginState.arguments_eq (config : ConfigReader) (state : PluginState) :
    state.arguments config =
      (ArgumentParser.parse config state.network state.config.parameters {}).map
        (·.flush.arguments) := by
  unfold arguments
  cases ArgumentParser.parse config state.network state.config.parameters {} <;> rfl

/-- Arguments that are written by the rules are read as they were meant, with any configuration
and network, if and only if nothing is escaped or doubled. -/
theorem parameters_iff (parameters : WrittenParameters) :
    (∀ (config : ConfigReader) (state : PluginState), state.config.parameters = parameters.text →
      state.arguments config = .ok parameters.arguments) ↔ parameters.Plain := by
  constructor
  · intro meant
    -- values for the placeholders that hold both of the characters
    let config : ConfigReader :=
      { sockets := [{ type := ascii "unix", path := [backslash, percent] }] }
    let state : PluginState :=
      { config := { name := [], parameters := parameters.text }, network := [backslash, percent] }
    have read := meant config state rfl
    rw [PluginState.arguments_eq] at read
    have none {marker : UInt8} (kept : marker = backslash ∨ marker = percent) :
        parameters.marks marker = 0 := by
      obtain ⟨text, socket, inText⟩ : ∃ text, config.pluginSocketText = .ok text ∧
          0 < text.count marker := by
        refine ⟨_, rfl, ?_⟩
        rcases kept with rfl | rfl <;> decide
      have inNetwork : 0 < ([backslash, percent] : ByteString).count marker := by
        rcases kept with rfl | rfl <;> decide
      cases parsed : ArgumentParser.parse config state.network parameters.text {} with
      | error stop =>
          rw [parsed] at read
          cases read
      | ok after =>
          rw [parsed] at read
          have counted := ArgumentParser.parse_count kept socket inText inNetwork parsed
          have arguments : after.flush.arguments = parameters.arguments := Except.ok.inj read
          have all : after.count marker = parameters.arguments.flatten.count marker := by
            rw [← ArgumentParser.count_flush, ArgumentParser.count, arguments,
              ArgumentParser.flush_currentArg]
            rfl
          rw [all, parameters.count_text kept] at counted
          omega
    exact WrittenParameters.plain_of_marks (none (.inl rfl)) (none (.inr rfl))
  · intro plain config state written
    have start : ArgumentParser.Within .bare {} := ⟨rfl, rfl, rfl⟩
    obtain ⟨after, parsed, read⟩ := ArgumentParser.parse_items plain parameters.blank start
      (fun _ _ => .inr rfl) parameters.apart
    rw [PluginState.arguments_eq, written, WrittenParameters.text, parsed]
    exact congrArg Except.ok read

/-- A blank that is escaped ends the argument, and a percent sign that is doubled is read twice. -/
theorem escapes_misread :
    let blank : WrittenArgument :=
      { quoting := .bare, bytes := [⟨97, .plain⟩, ⟨32, .escaped⟩, ⟨98, .plain⟩]
        valid := by decide, nonempty := by decide }
    let sign : WrittenArgument :=
      { quoting := .double, bytes := [⟨percent, .doubled⟩]
        valid := by decide, nonempty := by decide }
    let parameters : WrittenParameters :=
      { items := [⟨[], blank, by decide⟩, ⟨[32], sign, by decide⟩], trailing := []
        blank := by decide, apart := by decide }
    let plugin : PluginConfig := { name := [], parameters := parameters.text }
    let state : PluginState := { config := plugin, network := [] }
    parameters.text = ascii "a\\ b \"%%\"" ∧
      parameters.arguments = [ascii "a b", ascii "%"] ∧
      state.arguments {} = .ok [ascii "a\\", ascii "b", ascii "%%"] ∧
      ¬∀ (config : ConfigReader) (state : PluginState), state.config.parameters = parameters.text →
        state.arguments config = .ok parameters.arguments := by
  intro blank sign parameters plugin state
  have misread : state.arguments {} = .ok [ascii "a\\", ascii "b", ascii "%%"] := by
    decide +kernel
  refine ⟨by decide +kernel, by decide +kernel, misread, fun meant => ?_⟩
  have read := (meant {} state rfl).symm.trans misread
  exact absurd (Except.ok.inj read) (by decide +kernel)

end DaZeus
