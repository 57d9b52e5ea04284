import DaZeus.ConfigFile.Grammar

/-!
# What `ConfigReader::read` makes of a file

Each callback is judged by the section that is open and by whether there was a
Database block.  The state of the reader follows these positions, which gives
the outcome of `read`, and the files on which all is in order are the callbacks
of a configuration.
-/

namespace DaZeus.ConfigFile

@[ext]
structure Position where
  current : Section := .root
  database : Bool := false
  deriving DecidableEq

def SectionOpen.opens : SectionOpen → Section
  | socket => .socket
  | database => .database
  | network _ => .network
  | server => .server
  | plugin _ => .plugin

def SectionClose.closes : SectionClose → Section
  | socket => .socket
  | database => .database
  | network => .network
  | server => .server
  | plugin => .plugin

/-- What `read` makes of a callback. -/
inductive Verdict where
  /-- The grammar has it here. -/
  | follows
  /-- The grammar does not have it here, and nobody says so. -/
  | overlooked
  | refused
  /-- dotconf itself complains. -/
  | reported
  /-- A Network or Plugin tag with an empty argument. -/
  | unnamed
  deriving DecidableEq

namespace Position

/-- The position after a callback that is not refused. -/
def after (position : Position) : Callback → Position
  | .sectOpen tag =>
      match position.current, tag with
      | .root, tag => ⟨tag.opens, position.database || tag.opens == .database⟩
      | .network, .server => { position with current := .server }
      | _, _ => position
  | .sectClose _ =>
      match position.current with
      | .server => { position with current := .network }
      | _ => { position with current := .root }
  | .option _ => position
  | .report _ => position

/-- The sections whose Port option is not checked. -/
def unchecked (position : Position) : Bool :=
  position.current == .database || position.current == .server

def verdict (lib : Libraries) (position : Position) : Callback → Verdict
  | .sectOpen tag =>
      match position.current, tag with
      | .root, .socket => .follows
      | .root, .database => if position.database then .refused else .follows
      | .root, .network argument => if argument = [] then .unnamed else .follows
      | .root, .plugin argument =>
          if argument = [] then .unnamed
          else if argument.dropLast = [] then .refused
          else .follows
      | .network, .server => .follows
      | .network, _ => .overlooked
      | _, _ => .refused
  | .sectClose tag => if tag.closes = position.current then .follows else .refused
  | .option line =>
      if line.Allowed lib position.current then .follows
      else if line.name = .port ∧ position.unchecked then .overlooked
      else .refused
  | .report _ => .reported

/-- The verdicts on the callbacks that are reached. -/
def verdicts (lib : Libraries) : Position → List Callback → List Verdict
  | _, [] => []
  | position, callback :: rest =>
      match position.verdict lib callback with
      | .refused => [.refused]
      | .unnamed => [.unnamed]
      | verdict => verdict :: verdicts lib (position.after callback) rest

end Position

/-! ## The options of a section -/

/-- An option is accepted, or the callback complains about it. -/
def Judged {Value : Type} (accepted : Prop) : Except Complaint Value → Prop
  | .ok _ => accepted
  | .error complaint => ¬accepted ∧ complaint.returned ≠ []

section Options

variable {Value : Type} {accepted : Prop}

@[simp]
theorem judged_ok {value : Value} : Judged accepted (.ok value) ↔ accepted := Iff.rfl

@[simp]
theorem judged_complaint {error : ByteString} :
    Judged accepted (.error (complaint error) : Except Complaint Value) ↔ ¬accepted := by
  have returned : (complaint error).returned ≠ [] := by simp [complaint, ascii]
  simp only [Judged, returned, ne_eq, not_false_eq_true, and_true]

@[simp]
theorem judged_invalidOption {context : String} {line : OptionLine} :
    Judged accepted (.error (invalidOption context line) : Except Complaint Value) ↔ ¬accepted :=
  judged_complaint

variable (lib : Libraries) (irc : IrcStructs) (line : OptionLine)

theorem globalOption_judged (g : GlobalConfig) :
    Judged (line.Allowed lib .root) (globalOption lib line g) := by
  obtain ⟨name, str, value, list⟩ := line
  cases name <;>
    simp [globalOption, OptionLine.Allowed, Section.options, OptionLine.validValue]

theorem socketOption_judged (sc : SocketConfig) :
    Judged (line.Allowed lib .socket) (socketOption lib line sc) := by
  obtain ⟨name, str, value, list⟩ := line
  cases name
  case port =>
    simp only [socketOption, OptionLine.Allowed, OptionLine.validValue, decide_eq_true_eq]
    split
    · next outside => exact ⟨fun allowed => by omega, by decide⟩
    · next inside => exact ⟨by decide, by omega⟩
  all_goals
    simp [socketOption, OptionLine.Allowed, Section.options, OptionLine.validValue]

/-- The one value that is not checked is that of Port. -/
theorem databaseOption_judged (dc : DatabaseConfig) :
    Judged (line.Allowed lib .database ∨ line.name = .port) (databaseOption lib line dc) := by
  obtain ⟨name, str, value, list⟩ := line
  cases name <;>
    simp [databaseOption, OptionLine.Allowed, Section.options, OptionLine.validValue]

theorem networkOption_judged (nc : NetworkConfig) :
    Judged (line.Allowed lib .network) (networkOption lib line nc) := by
  obtain ⟨name, str, value, list⟩ := line
  cases name <;>
    simp [networkOption, OptionLine.Allowed, Section.options, OptionLine.validValue]

theorem serverOption_judged (sc : ServerConfig) :
    Judged (line.Allowed lib .server ∨ line.name = .port) (serverOption lib irc line sc) := by
  obtain ⟨name, str, value, list⟩ := line
  cases name <;>
    simp [serverOption, OptionLine.Allowed, Section.options, OptionLine.validValue]

theorem pluginOption_judged (pc : PluginConfig) :
    Judged (line.Allowed lib .plugin) (pluginOption lib line pc) := by
  obtain ⟨name, str, value, list⟩ := line
  have known (value : Bool) : (value = true) ↔
      OptionName.scope ∈ Section.plugin.options ∧ value = true := by simp [Section.options]
  cases name
  case scope =>
    simp only [pluginOption, OptionLine.Allowed, OptionLine.validValue, OptionLine.perNetwork,
      ← known]
    generalize lib.strToLower (lib.trim str) = scope
    by_cases network : scope = ascii "network"
    · simp only [if_pos network, judged_ok, Option.isSome_some]
    · by_cases global : scope = ascii "global"
      · simp only [if_neg network, if_neg (not_not.mpr global), if_pos global, judged_ok,
          Option.isSome_some]
      · simp only [if_neg network, if_pos global, if_neg global, judged_complaint,
          Option.isSome_none, Bool.false_eq_true, not_false_eq_true]
  case var =>
    rcases list with _ | ⟨key, _ | ⟨value, _ | ⟨third, rest⟩⟩⟩ <;>
      simp [pluginOption, OptionLine.Allowed, Section.options, OptionLine.validValue]
  all_goals
    simp [pluginOption, OptionLine.Allowed, Section.options, OptionLine.validValue]

end Options

/-! ## The state follows the positions -/

namespace ConfigReaderState

def position (state : ConfigReaderState) : Position :=
  ⟨state.currentSection, state.databaseProgress.isSome⟩

/-- There is a value in progress for exactly the sections that are open. -/
structure Consistent (state : ConfigReaderState) : Prop where
  global : state.globalProgress.isSome = true
  socket : state.socketProgress.isSome = true ↔ state.currentSection = .socket
  database : state.currentSection = .database → state.databaseProgress.isSome = true
  network : state.networkProgress.isSome = true ↔
    state.currentSection = .network ∨ state.currentSection = .server
  server : state.serverProgress.isSome = true ↔ state.currentSection = .server
  plugin : state.pluginProgress.isSome = true ↔ state.currentSection = .plugin

/-- What a callback answers is as it is judged. -/
inductive Answers (lib : Libraries) (state : ConfigReaderState) (callback : Callback) :
    CallbackResult → Prop where
  | unnamed (judged : state.position.verdict lib callback = .unnamed) :
      Answers lib state callback (.error .lengthError)
  | refused {message : ByteString} {after : ConfigReaderState}
      (judged : state.position.verdict lib callback = .refused) (said : message ≠ []) :
      Answers lib state callback (.ok (some message, after))
  | goes {after : ConfigReaderState}
      (named : state.position.verdict lib callback ≠ .unnamed)
      (allowed : state.position.verdict lib callback ≠ .refused)
      (consistent : after.Consistent)
      (position : after.position = state.position.after callback)
      (error : after.error = [] ↔
        state.error = [] ∧ state.position.verdict lib callback ≠ .reported) :
      Answers lib state callback (.ok (none, after))

section Steps

variable {lib : Libraries} {irc : IrcStructs} {state : ConfigReaderState}

theorem option_refused_iff (lib : Libraries) (line : OptionLine) (position : Position) :
    position.verdict lib (.option line) = .refused ↔
      ¬(line.Allowed lib position.current ∨ line.name = .port ∧ position.unchecked) := by
  simp only [Position.verdict]
  split
  · next allowed => simp only [allowed, true_or, not_true, reduceCtorEq]
  · next refused => split <;> simp_all

/-- Options have names, and are not what dotconf complains about. -/
theorem option_verdict_ne (lib : Libraries) (line : OptionLine) (position : Position) :
    position.verdict lib (.option line) ≠ .unnamed ∧
      position.verdict lib (.option line) ≠ .reported := by
  simp only [Position.verdict]
  split
  · exact ⟨by decide, by decide⟩
  · split <;> exact ⟨by decide, by decide⟩

theorem edit_answers {Value : Type} {line : OptionLine} {stop : ReadStop}
    {progress : Option Value} {change : Value → Except Complaint Value}
    {put : Value → ConfigReaderState} {accepted : Prop}
    (present : progress.isSome = true) (judged : ∀ value, Judged accepted (change value))
    (verdict : accepted ↔ line.Allowed lib state.currentSection ∨
      line.name = .port ∧ state.position.unchecked)
    (consistent : ∀ value, (put value).Consistent)
    (position : ∀ value, (put value).position = state.position)
    (error : ∀ value, (put value).error = state.error) :
    Answers lib state (.option line) (state.edit stop progress change put) := by
  obtain ⟨value, rfl⟩ := Option.isSome_iff_exists.mp present
  have outcome := judged value
  rw [verdict] at outcome
  have refused := option_refused_iff lib line state.position
  have named := option_verdict_ne lib line state.position
  simp only [edit]
  generalize change value = changed at outcome
  cases changed with
  | ok value =>
      apply Answers.goes named.1
      · intro judged
        exact refused.mp judged outcome
      · exact consistent value
      · exact position value
      · simp only [error, ne_eq, named.2, not_false_eq_true, and_true]
  | error complaint => exact Answers.refused (refused.mpr outcome.1) outcome.2

theorem option_answers (consistent : state.Consistent) (line : OptionLine) :
    Answers lib state (.option line) (state.option lib irc line) := by
  have unchecked {here : Section} (current : state.currentSection = here) :
      state.position.unchecked = (here == .database || here == .server) := by
    simp only [Position.unchecked, position, current]
  unfold option
  split
  · next current =>
      apply edit_answers consistent.global (globalOption_judged lib line)
      · simp [unchecked current, current]
      · exact fun value => { consistent with global := rfl }
      · exact fun value => rfl
      · exact fun value => rfl
  · next current =>
      apply edit_answers (consistent.socket.mpr current) (socketOption_judged lib line)
      · simp [unchecked current, current]
      · exact fun value => { consistent with socket := by simp [current] }
      · exact fun value => rfl
      · exact fun value => rfl
  · next current =>
      apply edit_answers (consistent.database current) (databaseOption_judged lib line)
      · simp [unchecked current, current]
      · exact fun value => { consistent with database := fun _ => rfl }
      · exact fun value => by simp [position, consistent.database current]
      · exact fun value => rfl
  · next current =>
      apply edit_answers (consistent.network.mpr (.inl current)) (networkOption_judged lib line)
      · simp [unchecked current, current]
      · exact fun value => { consistent with network := by simp [current] }
      · exact fun value => rfl
      · exact fun value => rfl
  · next current =>
      apply edit_answers (consistent.server.mpr current) (serverOption_judged lib irc line)
      · simp [unchecked current, current]
      · exact fun value => { consistent with server := by simp [current] }
      · exact fun value => rfl
      · exact fun value => rfl
  · next current =>
      apply edit_answers (consistent.plugin.mpr current) (pluginOption_judged lib line)
      · simp [unchecked current, current]
      · exact fun value => { consistent with plugin := by simp [current] }
      · exact fun value => rfl
      · exact fun value => rfl

/-- A tag that the grammar has at the place where it is answered without an error. -/
theorem answers_follows {callback : Callback} {after : ConfigReaderState}
    (judged : state.position.verdict lib callback = .follows) (consistent : after.Consistent)
    (position : after.position = state.position.after callback)
    (error : after.error = state.error) :
    Answers lib state callback (.ok (none, after)) := by
  apply Answers.goes
  · simp only [judged, ne_eq, reduceCtorEq, not_false_eq_true]
  · simp only [judged, ne_eq, reduceCtorEq, not_false_eq_true]
  · exact consistent
  · exact position
  · simp only [error, judged, ne_eq, reduceCtorEq, not_false_eq_true, and_true]

theorem logicError_answers {callback : Callback}
    (judged : state.position.verdict lib callback = .refused) :
    Answers lib state callback state.logicError :=
  Answers.refused judged (by decide)

theorem closes_answers {tag : SectionClose} {after : ConfigReaderState}
    (closes : tag.closes = state.currentSection) (consistent : after.Consistent)
    (position : after.position = state.position.after (.sectClose tag))
    (error : after.error = state.error) :
    Answers lib state (.sectClose tag) (.ok (none, after)) :=
  answers_follows (if_pos closes) consistent position error

theorem sectClose_answers (consistent : state.Consistent) (tag : SectionClose) :
    Answers lib state (.sectClose tag) (state.sectClose tag) := by
  unfold sectClose
  split
  · next current =>
      obtain ⟨sc, progress⟩ := Option.isSome_iff_exists.mp (consistent.socket.mpr current)
      rw [progress]
      apply closes_answers
      · exact current.symm
      · exact { consistent with
          socket := by simp
          database := by simp
          network := by simpa [current] using consistent.network
          server := by simpa [current] using consistent.server
          plugin := by simpa [current] using consistent.plugin }
      · simp only [position, Position.after, current]
      · rfl
  · next current =>
      apply closes_answers
      · exact current.symm
      · exact { consistent with
          socket := by simpa [current] using consistent.socket
          database := by simp
          network := by simpa [current] using consistent.network
          server := by simpa [current] using consistent.server
          plugin := by simpa [current] using consistent.plugin }
      · simp only [position, Position.after, current]
      · rfl
  · next current =>
      obtain ⟨nc, progress⟩ := Option.isSome_iff_exists.mp (consistent.network.mpr (.inl current))
      rw [progress]
      apply closes_answers
      · exact current.symm
      · exact { consistent with
          socket := by simpa [current] using consistent.socket
          database := by simp
          network := by simp
          server := by simpa [current] using consistent.server
          plugin := by simpa [current] using consistent.plugin }
      · simp only [position, Position.after, current]
      · rfl
  · next current =>
      obtain ⟨nc, network⟩ := Option.isSome_iff_exists.mp (consistent.network.mpr (.inr current))
      obtain ⟨sc, server⟩ := Option.isSome_iff_exists.mp (consistent.server.mpr current)
      rw [network, server]
      apply closes_answers
      · exact current.symm
      · exact { consistent with
          socket := by simpa [current] using consistent.socket
          database := by simp
          network := by simp
          server := by simp
          plugin := by simpa [current] using consistent.plugin }
      · simp only [position, Position.after, current]
      · rfl
  · next current =>
      obtain ⟨pc, progress⟩ := Option.isSome_iff_exists.mp (consistent.plugin.mpr current)
      rw [progress]
      apply closes_answers
      · exact current.symm
      · exact { consistent with
          socket := by simpa [current] using consistent.socket
          database := by simp
          network := by simpa [current] using consistent.network
          server := by simpa [current] using consistent.server
          plugin := by simp }
      · simp only [position, Position.after, current]
      · rfl
  · next tag _ _ socket database network server plugin =>
      apply logicError_answers
      apply if_neg
      intro closes
      cases tag
      · exact socket closes.symm rfl
      · exact database closes.symm rfl
      · exact network closes.symm rfl
      · exact server closes.symm rfl
      · exact plugin closes.symm rfl

/-- At the root nothing is in progress but the global options, and perhaps the database. -/
theorem Consistent.idle (consistent : state.Consistent) (current : state.currentSection = .root) :
    state.socketProgress = none ∧ state.networkProgress = none ∧
      state.serverProgress = none ∧ state.pluginProgress = none := by
  refine ⟨?_, ?_, ?_, ?_⟩
  · simpa [current] using consistent.socket
  · simpa [current] using consistent.network
  · simpa [current] using consistent.server
  · simpa [current] using consistent.plugin

theorem rootOpen_answers (consistent : state.Consistent)
    (current : state.currentSection = .root) (tag : SectionOpen) :
    Answers lib state (.sectOpen tag) (state.sectOpen irc tag) := by
  obtain ⟨global, defined⟩ := Option.isSome_iff_exists.mp consistent.global
  obtain ⟨socket, network, server, plugin⟩ := consistent.idle current
  simp only [sectOpen, current, defined, socket, network, server, Option.isSome_none,
    Bool.or_self, Bool.false_eq_true, if_false]
  cases tag with
  | socket =>
      apply answers_follows
      · simp only [Position.verdict, position, current]
      · constructor <;> simp [plugin]
      · simp [position, Position.after, current, SectionOpen.opens]
      · rfl
  | database =>
      cases found : state.databaseProgress.isSome with
      | true =>
          apply Answers.refused
          · simp only [Position.verdict, position, current, found, if_true]
          · decide
      | false =>
          apply answers_follows
          · simp [Position.verdict, position, current, found]
          · constructor <;> simp [plugin]
          · simp [position, Position.after, current, SectionOpen.opens]
          · rfl
  | network argument =>
      by_cases empty : argument = []
      · simp only [if_pos empty]
        apply Answers.unnamed
        simp only [Position.verdict, position, current, empty, if_true]
      · simp only [if_neg empty]
        apply answers_follows
        · simp only [Position.verdict, position, current, empty, if_false]
        · constructor <;> simp [plugin]
        · simp [position, Position.after, current, SectionOpen.opens]
        · rfl
  | server =>
      apply logicError_answers
      simp only [Position.verdict, position, current]
  | plugin argument =>
      by_cases empty : argument = []
      · simp only [if_pos empty]
        apply Answers.unnamed
        simp only [Position.verdict, position, current, empty, if_true]
      · simp only [if_neg empty]
        by_cases nameless : argument.dropLast = []
        · simp only [if_pos nameless]
          apply Answers.refused
          · simp only [Position.verdict, position, current, empty, nameless, if_false, if_true]
          · decide
        · simp only [if_neg nameless]
          apply answers_follows
          · simp only [Position.verdict, position, current, empty, nameless, if_false]
          · constructor <;> simp
          · simp [position, Position.after, current, SectionOpen.opens]
          · rfl

theorem networkOpen_answers (consistent : state.Consistent)
    (current : state.currentSection = .network) (tag : SectionOpen) :
    Answers lib state (.sectOpen tag) (state.sectOpen irc tag) := by
  have network : state.networkProgress.isNone = false := by
    simpa [current] using consistent.network
  have server : state.serverProgress.isSome = false := by
    simpa [current] using consistent.server
  simp only [sectOpen, current, network, server, Bool.or_self, Bool.false_eq_true, if_false]
  split
  · apply answers_follows
    · simp only [Position.verdict, position, current]
    · exact { consistent with
        socket := by simpa [current] using consistent.socket
        database := by simp
        network := by simpa [current] using consistent.network
        server := by simp
        plugin := by simpa [current] using consistent.plugin }
    · simp only [position, Position.after, current]
    · rfl
  · next other =>
      have judged : state.position.verdict lib (.sectOpen tag) = .overlooked := by
        simp only [Position.verdict, position, current]
      apply Answers.goes
      · simp only [judged, ne_eq, reduceCtorEq, not_false_eq_true]
      · simp only [judged, ne_eq, reduceCtorEq, not_false_eq_true]
      · exact consistent
      · simp only [position, Position.after, current]
        split <;> simp_all
      · simp only [judged, ne_eq, reduceCtorEq, not_false_eq_true, and_true]

theorem sectOpen_answers (consistent : state.Consistent) (tag : SectionOpen) :
    Answers lib state (.sectOpen tag) (state.sectOpen irc tag) := by
  cases current : state.currentSection with
  | root => exact rootOpen_answers consistent current tag
  | network => exact networkOpen_answers consistent current tag
  | socket | database | server | plugin =>
      simp only [sectOpen, current]
      apply logicError_answers
      simp only [Position.verdict, position, current]

theorem invoke_answers (consistent : state.Consistent) (callback : Callback) :
    Answers lib state callback (state.invoke lib irc callback) := by
  cases callback with
  | sectOpen tag => exact sectOpen_answers consistent tag
  | sectClose tag => exact sectClose_answers consistent tag
  | option line => exact option_answers consistent line
  | report report =>
      apply Answers.goes
      · exact Verdict.noConfusion
      · exact Verdict.noConfusion
      · exact { consistent with }
      · rfl
      · simp only [errorHandler, Position.verdict, ne_eq, not_true, and_false, iff_false]
        split
        · exact report.nonempty
        · simp

/-- The command loop ends as the verdicts say. -/
inductive Looped (lib : Libraries) (state : ConfigReaderState) (callbacks : List Callback) :
    Except ReadStop (Bool × ConfigReaderState) → Prop where
  | unnamed (reached : .unnamed ∈ state.position.verdicts lib callbacks) :
      Looped lib state callbacks (.error .lengthError)
  | refused {finish : ConfigReaderState}
      (named : .unnamed ∉ state.position.verdicts lib callbacks)
      (reached : .refused ∈ state.position.verdicts lib callbacks)
      (error : finish.error ≠ []) :
      Looped lib state callbacks (.ok (false, finish))
  | through {finish : ConfigReaderState}
      (named : .unnamed ∉ state.position.verdicts lib callbacks)
      (allowed : .refused ∉ state.position.verdicts lib callbacks)
      (consistent : finish.Consistent)
      (position : finish.position = callbacks.foldl Position.after state.position)
      (error : finish.error = [] ↔
        state.error = [] ∧ .reported ∉ state.position.verdicts lib callbacks) :
      Looped lib state callbacks (.ok (true, finish))

theorem errorHandler_error_ne_nil {message : ByteString} (said : message ≠ []) :
    (state.errorHandler message).error ≠ [] := by
  simp only [errorHandler]
  split
  · exact said
  · simp

theorem verdicts_cons {position : Position} {callback : Callback} (rest : List Callback)
    (named : position.verdict lib callback ≠ .unnamed)
    (allowed : position.verdict lib callback ≠ .refused) :
    position.verdicts lib (callback :: rest) =
      position.verdict lib callback :: (position.after callback).verdicts lib rest := by
  rw [Position.verdicts]
  split
  · next judged => exact absurd judged allowed
  · next judged => exact absurd judged named
  · rfl

/-- By induction on the callbacks: each is answered as it is judged. -/
theorem commandLoop_looped (consistent : state.Consistent) (callbacks : List Callback) :
    Looped lib state callbacks (commandLoop lib irc state callbacks) := by
  induction callbacks generalizing state with
  | nil =>
      apply Looped.through
      · simp [Position.verdicts]
      · simp [Position.verdicts]
      · exact consistent
      · rfl
      · simp [Position.verdicts]
  | cons callback rest inductionHypothesis =>
      have answered : Answers lib state callback (state.invoke lib irc callback) :=
        invoke_answers consistent callback
      rw [commandLoop]
      generalize state.invoke lib irc callback = outcome at answered
      cases answered with
      | unnamed judged =>
          apply Looped.unnamed
          simp [Position.verdicts, judged]
      | refused judged said =>
          apply Looped.refused
          · simp [Position.verdicts, judged]
          · simp [Position.verdicts, judged]
          · exact errorHandler_error_ne_nil said
      | goes named allowed consistent position error =>
          have later := inductionHypothesis consistent
          have unfolded := verdicts_cons rest named allowed
          simp only
          generalize commandLoop lib irc _ rest = ending at later
          rw [← position] at unfolded
          cases later with
          | unnamed reached =>
              apply Looped.unnamed
              rw [unfolded]
              exact List.mem_cons_of_mem _ reached
          | refused unharmed reached noted =>
              apply Looped.refused
              · rw [unfolded]
                exact List.not_mem_cons_of_ne_of_not_mem named.symm unharmed
              · rw [unfolded]
                exact List.mem_cons_of_mem _ reached
              · exact noted
          | through unharmed passed kept arrived noted =>
              apply Looped.through
              · rw [unfolded]
                exact List.not_mem_cons_of_ne_of_not_mem named.symm unharmed
              · rw [unfolded]
                exact List.not_mem_cons_of_ne_of_not_mem allowed.symm passed
              · exact kept
              · rw [arrived, position, List.foldl_cons]
              · rw [noted, error, unfolded, List.mem_cons, not_or, and_assoc, ne_comm]

end Steps

end ConfigReaderState

end DaZeus.ConfigFile
