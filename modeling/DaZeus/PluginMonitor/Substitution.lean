import DaZeus.PluginMonitor.Parameters

/-!
# The values of placeholders

Where arguments begin and end is decided by the Parameters alone.  The same
loop with placeholders that stay closed gives templates, and `start_plugin`
gives these with the values filled in, as long as no value is empty.
-/

namespace DaZeus

open Library

/-- A character of an argument, or a placeholder in it. -/
inductive Piece where
  | byte (character : UInt8)
  | socket
  | network
  deriving DecidableEq

abbrev Template := List Piece

def Piece.value (socket network : ByteString) : Piece → ByteString
  | .byte character => [character]
  | .socket => socket
  | .network => network

def Template.substitute (socket network : ByteString) (template : Template) : ByteString :=
  template.flatMap (Piece.value socket network)

structure TemplateParser where
  quoting : Quoting := .bare
  templates : List Template := []
  current : Template := []
  deriving DecidableEq

namespace TemplateParser

def add (parser : TemplateParser) (piece : Piece) : TemplateParser :=
  { parser with current := parser.current ++ [piece] }

def push (parser : TemplateParser) : TemplateParser :=
  { parser with templates := parser.templates ++ [parser.current], current := [] }

def flush (parser : TemplateParser) : TemplateParser :=
  if parser.current = [] then parser else parser.push

def parse : ByteString → TemplateParser → TemplateParser
  | [], parser => parser
  | byte :: rest, parser =>
      match parser.quoting with
      | .bare =>
          if byte = apostrophe then
            parse rest { parser with quoting := .single }
          else if byte = quote then
            parse rest { parser with quoting := .double }
          else if isSpace byte then
            parse rest parser.flush
          else if byte = percent then
            match rest with
            | [] => parser.add (.byte percent)
            | next :: later =>
                if next = 115 then
                  parse later (parser.add .socket)
                else if next = 110 then
                  parse later (parser.add .network)
                else
                  parse (next :: later) (parser.add (.byte percent))
          else
            parse rest (parser.add (.byte byte))
      | .single =>
          if byte = apostrophe then
            parse rest { parser.push with quoting := .bare }
          else
            parse rest (parser.add (.byte byte))
      | .double =>
          if byte = quote then
            parse rest { parser.push with quoting := .bare }
          else
            parse rest (parser.add (.byte byte))

end TemplateParser

/-- The arguments before the placeholders have values. -/
def templates (parameters : ByteString) : List Template :=
  (TemplateParser.parse parameters {}).flush.templates

/-! ## The loop with values -/

namespace ArgumentParser

variable {config : ConfigReader} {network rest : ByteString} {parser : ArgumentParser}

theorem parse_percent (within : parser.Within .bare) :
    parse config network (percent :: rest) parser =
      match rest with
      | [] => .ok (parser.append [percent])
      | next :: later =>
          if next = 115 then
            match config.pluginSocketText with
            | .error stop => .error stop
            | .ok text => parse config network later (parser.append text)
          else if next = 110 then
            parse config network later (parser.append network)
          else
            parse config network (next :: later) (parser.append [percent]) := by
  have single : percent ≠ apostrophe := by decide
  have double : percent ≠ quote := by decide
  have blank : isSpace percent = false := by decide
  rw [parse.eq_def]
  simp only [within.escape, within.single, within.double, single, double, blank, reduceCtorEq,
    decide_false, Bool.or_self, Bool.false_eq_true, if_false, if_true]
  cases rest <;> rfl

end ArgumentParser

variable {socket network : ByteString}

/-- The loop with values is where the loop without them is. -/
structure Filled (socket network : ByteString) (template : TemplateParser)
    (parser : ArgumentParser) : Prop where
  within : parser.Within template.quoting
  arguments : parser.arguments = template.templates.map (Template.substitute socket network)
  current : parser.currentArg = template.current.substitute socket network

variable {template : TemplateParser} {parser : ArgumentParser}

theorem Filled.add (filled : Filled socket network template parser) (piece : Piece) :
    Filled socket network (template.add piece) (parser.append (piece.value socket network)) where
  within := filled.within.append _
  arguments := filled.arguments
  current := by
    simp [ArgumentParser.append, TemplateParser.add, Template.substitute, filled.current]

theorem Filled.push (filled : Filled socket network template parser) :
    Filled socket network template.push parser.push where
  within := filled.within.push
  arguments := by
    simp [ArgumentParser.push, TemplateParser.push, filled.arguments, filled.current]
  current := rfl

theorem Filled.enter (filled : Filled socket network template parser) (quoting : Quoting) :
    Filled socket network { template with quoting } (parser.enter quoting) where
  within := filled.within.enter quoting
  arguments := filled.arguments
  current := filled.current

theorem substitute_eq_nil (address : socket ≠ []) (name : network ≠ []) {template : Template} :
    template.substitute socket network = [] ↔ template = [] := by
  cases template with
  | nil => simp [Template.substitute]
  | cons piece rest =>
      have filled : piece.value socket network ≠ [] := by
        cases piece with
        | byte character => exact List.cons_ne_nil character []
        | socket => exact address
        | network => exact name
      simp [Template.substitute, filled]

theorem Filled.flush (address : socket ≠ []) (name : network ≠ [])
    (filled : Filled socket network template parser) :
    Filled socket network template.flush parser.flush := by
  have empty : template.current.substitute socket network = [] ↔ template.current = [] :=
    substitute_eq_nil address name
  rw [← filled.current] at empty
  unfold TemplateParser.flush ArgumentParser.flush
  by_cases fresh : template.current = []
  · rw [if_pos fresh, if_neg (by simp [empty.mpr fresh])]
    exact filled
  · rw [if_neg fresh, if_pos (List.length_pos_of_ne_nil (mt empty.mp fresh))]
    exact filled.push

theorem Filled.parse {config : ConfigReader} (printable : config.pluginSocketText = .ok socket)
    (address : socket ≠ []) (name : network ≠ []) (text : ByteString)
    (filled : Filled socket network template parser) :
    ∃ after, ArgumentParser.parse config network text parser = .ok after ∧
      Filled socket network (template.parse text) after := by
  fun_induction TemplateParser.parse text template generalizing parser with
  | case1 => exact ⟨parser, rfl, filled⟩
  | case2 rest _ bare inductionHypothesis =>
      change ∃ after, ArgumentParser.parse config network (Quoting.single.marks ++ rest) parser =
        .ok after ∧ _
      rw [ArgumentParser.parse_enter (bare ▸ filled.within)]
      exact inductionHypothesis (filled.enter .single)
  | case3 rest _ bare _ inductionHypothesis =>
      change ∃ after, ArgumentParser.parse config network (Quoting.double.marks ++ rest) parser =
        .ok after ∧ _
      rw [ArgumentParser.parse_enter (bare ▸ filled.within)]
      exact inductionHypothesis (filled.enter .double)
  | case4 _ _ _ bare _ _ blank inductionHypothesis =>
      rw [ArgumentParser.parse_blank (bare ▸ filled.within) blank]
      exact inductionHypothesis (filled.flush address name)
  | case5 _ bare =>
      rw [ArgumentParser.parse_percent (bare ▸ filled.within)]
      exact ⟨_, rfl, filled.add (.byte percent)⟩
  | case6 _ bare _ _ _ _ inductionHypothesis =>
      rw [ArgumentParser.parse_percent (bare ▸ filled.within)]
      simp only [if_true, printable]
      exact inductionHypothesis (filled.add .socket)
  | case7 _ bare _ _ _ _ _ inductionHypothesis =>
      rw [ArgumentParser.parse_percent (bare ▸ filled.within)]
      simp only [show (110 : UInt8) ≠ 115 by decide, if_false, if_true]
      exact inductionHypothesis (filled.add .network)
  | case8 _ bare _ _ other another _ _ _ inductionHypothesis =>
      rw [ArgumentParser.parse_percent (bare ▸ filled.within)]
      simp only [other, another, if_false]
      exact inductionHypothesis (filled.add (.byte percent))
  | case9 byte _ _ bare single double blank sign inductionHypothesis =>
      have passes : Quoting.bare.Passes byte := ⟨double, single, by simpa using blank, sign⟩
      rw [ArgumentParser.parse_passes (bare ▸ filled.within) passes]
      exact inductionHypothesis (filled.add (.byte byte))
  | case10 rest _ quoted inductionHypothesis =>
      have step : ArgumentParser.parse config network (apostrophe :: rest) parser =
          ArgumentParser.parse config network rest (parser.push.enter .bare) :=
        ArgumentParser.parse_leave (quoted ▸ filled.within)
      rw [step]
      exact inductionHypothesis (filled.push.enter .bare)
  | case11 byte _ _ quoted other inductionHypothesis =>
      have passes : Quoting.single.Passes byte := other
      rw [ArgumentParser.parse_passes (quoted ▸ filled.within) passes]
      exact inductionHypothesis (filled.add (.byte byte))
  | case12 rest _ quoted inductionHypothesis =>
      have step : ArgumentParser.parse config network (quote :: rest) parser =
          ArgumentParser.parse config network rest (parser.push.enter .bare) :=
        ArgumentParser.parse_leave (quoted ▸ filled.within)
      rw [step]
      exact inductionHypothesis (filled.push.enter .bare)
  | case13 byte _ _ quoted other inductionHypothesis =>
      have passes : Quoting.double.Passes byte := other
      rw [ArgumentParser.parse_passes (quoted ▸ filled.within) passes]
      exact inductionHypothesis (filled.add (.byte byte))

theorem ConfigReader.pluginSocketText_ne {config : ConfigReader}
    (printable : config.pluginSocketText = .ok socket) : socket ≠ [] := by
  unfold pluginSocketText at printable
  split at printable
  · cases printable
  · split at printable
    · next text printed =>
        cases printable
        unfold SocketConfig.toString at printed
        split at printed
        · cases printed
          simp [ascii]
        · split at printed <;> cases printed
          simp [ascii]
    · cases printable

theorem PluginState.arguments_templates {config : ConfigReader} {state : PluginState}
    (printable : config.pluginSocketText = .ok socket) (name : state.network ≠ []) :
    state.arguments config =
      .ok ((templates state.config.parameters).map (·.substitute socket state.network)) := by
  have address := ConfigReader.pluginSocketText_ne printable
  have start : Filled socket state.network {} {} := ⟨⟨rfl, rfl, rfl⟩, rfl, rfl⟩
  obtain ⟨after, parsed, filled⟩ := start.parse printable address name state.config.parameters
  rw [PluginState.arguments_eq, parsed]
  exact congrArg Except.ok (filled.flush address name).arguments

/-- Two plugins with the same Parameters get the same arguments, but for the values that stand in
the places of the placeholders. -/
theorem placeholders_opaque (first second : ConfigReader) (one other : PluginState)
    {address another : ByteString}
    (same : other.config.parameters = one.config.parameters)
    (printable : first.pluginSocketText = .ok address)
    (alsoPrintable : second.pluginSocketText = .ok another)
    (named : one.network ≠ []) (alsoNamed : other.network ≠ []) :
    let opened := templates one.config.parameters
    one.arguments first = .ok (opened.map (·.substitute address one.network)) ∧
      other.arguments second = .ok (opened.map (·.substitute another other.network)) := by
  refine ⟨PluginState.arguments_templates printable named, ?_⟩
  rw [← same]
  exact PluginState.arguments_templates alsoPrintable alsoNamed

/-- A network whose name has a blank, a quote and a placeholder in it. -/
theorem placeholders_opaque_blank :
    let config : ConfigReader := { sockets := [{ type := ascii "unix", path := ascii "/s" }] }
    let plugin : PluginConfig := { name := [], parameters := ascii "-n%n %s" }
    let one : PluginState := { config := plugin, network := ascii "net" }
    let other : PluginState := { config := plugin, network := ascii "a '%s" }
    one.arguments config = .ok [ascii "-nnet", ascii "unix:/s"] ∧
      other.arguments config = .ok [ascii "-na '%s", ascii "unix:/s"] := by
  intro config plugin one other
  have filled := placeholders_opaque config config one other rfl rfl rfl (by decide) (by decide)
  obtain ⟨first, second⟩ := filled
  refine ⟨first.trans ?_, second.trans ?_⟩ <;> decide +kernel

end DaZeus
