import DaZeus.ConfigFile.Verdicts

/-!
# Files that are read

`ConfigReader::read` should return on the files that are well formed and throw
its own exception on all others.  `read_exactly_iff` says on which files it does
so: an unclosed section, an unchecked port and a section that is passed over
inside a Network go wrong unless something else in the file is reported, and an
empty argument of a Network or Plugin tag always does.
-/

namespace DaZeus.ConfigFile

/-! ## Files on which all is in order -/

/-- The grammar has each callback at its place. -/
inductive Follows (lib : Libraries) : Position → List Callback → Position → Prop where
  | nil {position} : Follows lib position [] position
  | cons {position callback rest finish} :
      position.verdict lib callback = .follows →
      Follows lib (position.after callback) rest finish →
      Follows lib position (callback :: rest) finish

namespace Follows

variable {lib : Libraries} {start middle finish : Position}

theorem iff_verdicts {callbacks : List Callback} :
    Follows lib start callbacks finish ↔
      (∀ verdict ∈ start.verdicts lib callbacks, verdict = .follows) ∧
        callbacks.foldl Position.after start = finish := by
  constructor
  · intro follows
    induction follows with
    | nil => simp [Position.verdicts]
    | cons judged _ inductionHypothesis =>
        simpa [Position.verdicts, judged] using inductionHypothesis
  · rintro ⟨all, arrived⟩
    induction callbacks generalizing start with
    | nil =>
        cases arrived
        exact .nil
    | cons callback rest inductionHypothesis =>
        have judged : start.verdict lib callback = .follows := by
          rw [Position.verdicts] at all
          split at all <;> simp_all
        apply Follows.cons judged
        apply inductionHypothesis
        · simpa [Position.verdicts, judged] using all
        · exact arrived

theorem append {first second : List Callback} (done : Follows lib start first middle)
    (next : Follows lib middle second finish) : Follows lib start (first ++ second) finish := by
  induction done with
  | nil => exact next
  | cons judged _ inductionHypothesis => exact .cons judged (inductionHypothesis next)

theorem flatMap {Node : Type} {callbacks : Node → List Callback} {nodes : List Node}
    (each : ∀ node ∈ nodes, Follows lib start (callbacks node) start) :
    Follows lib start (nodes.flatMap callbacks) start := by
  induction nodes with
  | nil => exact .nil
  | cons node nodes inductionHypothesis =>
      rw [List.flatMap_cons]
      apply append (each node List.mem_cons_self)
      exact inductionHypothesis fun node membership => each node (List.mem_cons_of_mem _ membership)

theorem lines {lines : List OptionLine}
    (allowed : ∀ line ∈ lines, line.Allowed lib start.current) :
    Follows lib start (lines.map .option) start := by
  induction lines with
  | nil => exact .nil
  | cons line lines inductionHypothesis =>
      apply Follows.cons
      · exact if_pos (allowed line List.mem_cons_self)
      · exact inductionHypothesis fun line membership =>
          allowed line (List.mem_cons_of_mem _ membership)

/-- A section with its tags. -/
theorem block {tag : SectionOpen} {closing : SectionClose} {body : List Callback}
    (opened : start.verdict lib (.sectOpen tag) = .follows)
    (inside : Follows lib (start.after (.sectOpen tag)) body (start.after (.sectOpen tag)))
    (closes : closing.closes = (start.after (.sectOpen tag)).current)
    (arrived : (start.after (.sectOpen tag)).after (.sectClose closing) = finish) :
    Follows lib start (.sectOpen tag :: (body ++ [.sectClose closing])) finish := by
  apply Follows.cons opened
  apply inside.append
  apply Follows.cons
  · exact if_pos closes
  · rw [arrived]
    exact .nil

end Follows

section Trees

variable {lib : Libraries}

theorem networkItem_follows {item : NetworkItem} (valid : item.Valid lib) (seen : Bool) :
    Follows lib ⟨.network, seen⟩ item.callbacks ⟨.network, seen⟩ := by
  cases item with
  | option line => exact .cons (if_pos valid) .nil
  | server lines => exact Follows.block rfl (Follows.lines valid) rfl rfl

theorem item_follows {item : Item} (valid : item.Valid lib) {seen : Bool}
    (first : item.isDatabase = true → seen = false) :
    Follows lib ⟨.root, seen⟩ item.callbacks ⟨.root, seen || item.isDatabase⟩ := by
  cases item with
  | option line =>
      simp only [Item.isDatabase, Bool.or_false]
      exact .cons (if_pos valid) .nil
  | socket lines =>
      apply Follows.block
      · rfl
      · exact Follows.lines valid
      · rfl
      · simp [Position.after, SectionOpen.opens, Item.isDatabase]
  | database lines =>
      apply Follows.block
      · exact if_neg (by simp [first rfl])
      · exact Follows.lines valid
      · rfl
      · simp [Position.after, SectionOpen.opens, Item.isDatabase]
  | network argument body =>
      apply Follows.block
      · exact if_neg valid.1
      · exact Follows.flatMap fun item membership =>
          networkItem_follows (valid.2 item membership) _
      · rfl
      · simp [Position.after, SectionOpen.opens, Item.isDatabase]
  | plugin argument lines =>
      have named : argument ≠ [] := by
        intro empty
        exact valid.1 (by rw [empty, List.dropLast_nil])
      apply Follows.block
      · simp only [Position.verdict, if_neg named, if_neg valid.1]
      · exact Follows.lines valid.2
      · rfl
      · simp [Position.after, SectionOpen.opens, Item.isDatabase]

theorem items_follow {items : List Item} (valid : ∀ item ∈ items, item.Valid lib) {seen : Bool}
    (once : seen.toNat + items.countP Item.isDatabase ≤ 1) :
    Follows lib ⟨.root, seen⟩ (items.flatMap Item.callbacks)
      ⟨.root, seen || items.any Item.isDatabase⟩ := by
  induction items generalizing seen with
  | nil =>
      rw [List.any_nil, Bool.or_false]
      exact .nil
  | cons item items inductionHypothesis =>
      rw [List.countP_cons] at once
      rw [List.flatMap_cons, List.any_cons, ← Bool.or_assoc]
      apply Follows.append
      · apply item_follows (valid item List.mem_cons_self)
        intro database
        cases seen with
        | false => rfl
        | true =>
            simp only [database, if_true, Bool.toNat_true] at once
            omega
      · apply inductionHypothesis
        · exact fun item membership => valid item (List.mem_cons_of_mem _ membership)
        · have counted : (seen || item.isDatabase).toNat ≤
              seen.toNat + if item.isDatabase then 1 else 0 := by
            cases seen <;> cases item.isDatabase <;> decide
          omega

theorem configuration_follows (configuration : Configuration lib) :
    Follows lib {} configuration.callbacks ⟨.root, true⟩ := by
  have found : configuration.items.any Item.isDatabase = true := by
    have positive : 0 < configuration.items.countP Item.isDatabase := by
      rw [configuration.oneDatabase]
      exact Nat.one_pos
    exact List.any_eq_true.mpr (List.countP_pos_iff.mp positive)
  have once : false.toNat + configuration.items.countP Item.isDatabase ≤ 1 := by
    rw [configuration.oneDatabase]
    decide
  have follows := items_follow configuration.valid once
  rw [found] at follows
  exact follows

/-! ## The tree of a file -/

/-- What is still to come at the root. -/
def Blocks (lib : Libraries) (seen : Bool) (callbacks : List Callback) : Prop :=
  ∃ items : List Item, items.flatMap Item.callbacks = callbacks ∧
    (∀ item ∈ items, item.Valid lib) ∧ seen.toNat + items.countP Item.isDatabase = 1

/-- What is still to come inside a section that holds options only. -/
def Options (lib : Libraries) (within : Section) (closing : SectionClose)
    (next : List Callback → Prop) (callbacks : List Callback) : Prop :=
  ∃ (lines : List OptionLine) (rest : List Callback),
    callbacks = lines.map .option ++ .sectClose closing :: rest ∧
      (∀ line ∈ lines, line.Allowed lib within) ∧ next rest

/-- What is still to come inside a Network. -/
def Body (lib : Libraries) (seen : Bool) (callbacks : List Callback) : Prop :=
  ∃ (items : List NetworkItem) (rest : List Callback),
    callbacks = items.flatMap NetworkItem.callbacks ++ .sectClose .network :: rest ∧
      (∀ item ∈ items, item.Valid lib) ∧ Blocks lib seen rest

def Remaining (lib : Libraries) (position : Position) : List Callback → Prop :=
  match position.current with
  | .root => Blocks lib position.database
  | .socket => Options lib .socket .socket (Blocks lib position.database)
  | .database => Options lib .database .database (Blocks lib position.database)
  | .network => Body lib position.database
  | .server => Options lib .server .server (Body lib position.database)
  | .plugin => Options lib .plugin .plugin (Blocks lib position.database)

theorem Options.close {within : Section} {closing : SectionClose} {next : List Callback → Prop}
    {rest : List Callback} (after : next rest) :
    Options lib within closing next (.sectClose closing :: rest) :=
  ⟨[], rest, rfl, by simp, after⟩

theorem Options.option {within : Section} {closing : SectionClose}
    {next : List Callback → Prop} {line : OptionLine} {callbacks : List Callback}
    (allowed : line.Allowed lib within) (more : Options lib within closing next callbacks) :
    Options lib within closing next (.option line :: callbacks) := by
  obtain ⟨lines, rest, rfl, valid, after⟩ := more
  refine ⟨line :: lines, rest, rfl, ?_, after⟩
  exact List.forall_mem_cons.mpr ⟨allowed, valid⟩

theorem Body.item {item : NetworkItem} {seen : Bool} {callbacks : List Callback}
    (allowed : item.Valid lib) (more : Body lib seen callbacks) :
    Body lib seen (item.callbacks ++ callbacks) := by
  obtain ⟨items, rest, rfl, valid, after⟩ := more
  refine ⟨item :: items, rest, ?_, List.forall_mem_cons.mpr ⟨allowed, valid⟩, after⟩
  rw [List.flatMap_cons, List.append_assoc]

theorem Body.server {seen : Bool} {callbacks : List Callback}
    (more : Options lib .server .server (Body lib seen) callbacks) :
    Body lib seen (.sectOpen .server :: callbacks) := by
  obtain ⟨lines, rest, rfl, valid, after⟩ := more
  have body : Body lib seen ((NetworkItem.server lines).callbacks ++ rest) := after.item valid
  simpa [NetworkItem.callbacks] using body

theorem Blocks.item {item : Item} {before after : Bool} {callbacks : List Callback}
    (allowed : item.Valid lib)
    (counted : after.toNat = before.toNat + if item.isDatabase then 1 else 0)
    (more : Blocks lib after callbacks) : Blocks lib before (item.callbacks ++ callbacks) := by
  obtain ⟨items, rfl, valid, once⟩ := more
  refine ⟨item :: items, by rw [List.flatMap_cons], List.forall_mem_cons.mpr ⟨allowed, valid⟩, ?_⟩
  rw [List.countP_cons]
  omega

/-- A block that holds options only. -/
theorem Blocks.options {tag : SectionOpen} {closing : SectionClose} {within : Section}
    {before after : Bool} {callbacks : List Callback} (item : List OptionLine → Item)
    (same : ∀ lines, (item lines).callbacks =
      .sectOpen tag :: (lines.map .option ++ [.sectClose closing]))
    (valid : ∀ lines, (∀ line ∈ lines, line.Allowed lib within) → (item lines).Valid lib)
    (counted : ∀ lines,
      after.toNat = before.toNat + if (item lines).isDatabase then 1 else 0)
    (more : Options lib within closing (Blocks lib after) callbacks) :
    Blocks lib before (.sectOpen tag :: callbacks) := by
  obtain ⟨lines, rest, rfl, allowed, blocks⟩ := more
  have all := blocks.item (valid lines allowed) (counted lines)
  simpa [same] using all

theorem Blocks.network {argument : ByteString} {seen : Bool} {callbacks : List Callback}
    (named : argument ≠ []) (more : Body lib seen callbacks) :
    Blocks lib seen (.sectOpen (.network argument) :: callbacks) := by
  obtain ⟨body, rest, rfl, allowed, blocks⟩ := more
  have all : Blocks lib seen ((Item.network argument body).callbacks ++ rest) :=
    blocks.item ⟨named, allowed⟩ rfl
  simpa [Item.callbacks] using all

theorem allowed_of_follows {position : Position} {line : OptionLine}
    (judged : position.verdict lib (.option line) = .follows) :
    line.Allowed lib position.current := by
  simp only [Position.verdict] at judged
  split at judged
  · next allowed => exact allowed
  · split at judged <;> cases judged

theorem closes_of_follows {position : Position} {tag : SectionClose}
    (judged : position.verdict lib (.sectClose tag) = .follows) :
    tag.closes = position.current := by
  simp only [Position.verdict] at judged
  split at judged
  · next closes => exact closes
  · cases judged

theorem closes_injective : Function.Injective SectionClose.closes := by
  intro first second same
  cases first <;> cases second <;> first | rfl | cases same

/-- Inside a section that holds options only, there is an option or the end of the section. -/
theorem Options.step {position : Position} {closing : SectionClose}
    {next : List Callback → Prop} {callback : Callback} {rest : List Callback}
    (judged : position.verdict lib callback = .follows)
    (refuses : ∀ tag, position.verdict lib (.sectOpen tag) ≠ .follows)
    (closes : closing.closes = position.current)
    (option : position.after callback = position → Options lib position.current closing next rest)
    (closed : callback = .sectClose closing → next rest) :
    Options lib position.current closing next (callback :: rest) := by
  cases callback with
  | sectOpen tag => exact absurd judged (refuses tag)
  | sectClose tag =>
      cases closes_injective ((closes_of_follows judged).trans closes.symm)
      exact Options.close (closed rfl)
  | option line => exact Options.option (allowed_of_follows judged) (option rfl)
  | report report => cases judged

theorem Blocks.opened {seen : Bool} {tag : SectionOpen} {rest : List Callback}
    (judged : Position.verdict lib ⟨.root, seen⟩ (.sectOpen tag) = .follows)
    (more : Remaining lib (Position.after ⟨.root, seen⟩ (.sectOpen tag)) rest) :
    Blocks lib seen (.sectOpen tag :: rest) := by
  have arrived : Position.after ⟨.root, seen⟩ (.sectOpen tag) =
      ⟨tag.opens, seen || tag.opens == .database⟩ := rfl
  rw [arrived] at more
  cases tag with
  | socket =>
      rw [SectionOpen.opens, beq_false_of_ne (by decide), Bool.or_false] at more
      exact Blocks.options Item.socket (fun _ => rfl) (fun _ => id) (fun _ => rfl) more
  | database =>
      cases seen with
      | false =>
          exact Blocks.options Item.database (fun _ => rfl) (fun _ => id) (fun _ => rfl) more
      | true => cases judged
  | network argument =>
      have named : argument ≠ [] := by
        rintro rfl
        cases judged
      rw [SectionOpen.opens, beq_false_of_ne (by decide), Bool.or_false] at more
      exact Blocks.network named more
  | server => cases judged
  | plugin argument =>
      have named : argument.dropLast ≠ [] := by
        intro nameless
        simp only [Position.verdict, nameless, if_true] at judged
        split at judged <;> cases judged
      rw [SectionOpen.opens, beq_false_of_ne (by decide), Bool.or_false] at more
      exact Blocks.options (Item.plugin argument) (fun _ => rfl)
        (fun _ allowed => ⟨named, allowed⟩) (fun _ => rfl) more

theorem Body.opened {seen : Bool} {tag : SectionOpen} {rest : List Callback}
    (judged : Position.verdict lib ⟨.network, seen⟩ (.sectOpen tag) = .follows)
    (more : Remaining lib (Position.after ⟨.network, seen⟩ (.sectOpen tag)) rest) :
    Body lib seen (.sectOpen tag :: rest) := by
  cases tag with
  | server => exact Body.server more
  | socket | database | network | plugin => cases judged

/-- By induction on the callbacks, which give the tree from its end. -/
theorem Follows.remaining {start finish : Position} {callbacks : List Callback}
    (follows : Follows lib start callbacks finish) (arrived : finish = ⟨.root, true⟩) :
    Remaining lib start callbacks := by
  induction follows with
  | nil =>
      rw [arrived]
      exact ⟨[], rfl, by simp, rfl⟩
  | @cons position callback rest finish judged follows inductionHypothesis =>
      have more := inductionHypothesis arrived
      obtain ⟨current, seen⟩ := position
      cases current with
      | root =>
          cases callback with
          | sectOpen tag => exact Blocks.opened judged more
          | sectClose tag =>
              have closes := closes_of_follows judged
              cases tag <;> cases closes
          | option line =>
              have allowed : (Item.option line).Valid lib := allowed_of_follows judged
              exact Blocks.item allowed rfl more
          | report report => cases judged
      | network =>
          cases callback with
          | sectOpen tag => exact Body.opened judged more
          | sectClose tag =>
              have closing : tag = .network := closes_injective (closes_of_follows judged)
              cases closing
              exact ⟨[], rest, rfl, by simp, more⟩
          | option line =>
              have allowed : (NetworkItem.option line).Valid lib := allowed_of_follows judged
              exact Body.item allowed more
          | report report => cases judged
      | socket | database | server | plugin =>
          apply Options.step judged
          · exact fun tag judged => by cases judged
          · rfl
          · intro same
            rw [same] at more
            exact more
          · rintro rfl
            exact more

/-- The well-formed files are those on which all is in order. -/
theorem wellFormed_iff {callbacks : List Callback} :
    WellFormed lib callbacks ↔ Follows lib {} callbacks ⟨.root, true⟩ := by
  constructor
  · rintro ⟨configuration, rfl⟩
    exact configuration_follows configuration
  · intro follows
    obtain ⟨items, same, valid, once⟩ := follows.remaining rfl
    rw [Bool.toNat_false, Nat.zero_add] at once
    exact ⟨⟨items, valid, once⟩, same⟩

end Trees

/-! ## The outcome of `read` -/

/-- `read` returns exactly on a well-formed file, and stops in no other way than with its own
exception. -/
def ReadsExactly (lib : Libraries) (irc : IrcStructs) (reader : ConfigReader)
    (callbacks : List Callback) : Prop :=
  ((reader.read lib irc (some callbacks)).1 = .ok () ↔ WellFormed lib callbacks) ∧
    ((reader.read lib irc (some callbacks)).1 = .ok () ∨
      ∃ what, (reader.read lib irc (some callbacks)).1 = .error (.exception what))

/-- No Network or Plugin tag with an empty argument is reached; and if a file has a Database
block and nothing in it is refused or reported, then all its sections are closed, no port of a
Database or Server is out of range and no other section than a Server is opened in a Network. -/
structure Noticed (lib : Libraries) (callbacks : List Callback) : Prop where
  named : .unnamed ∉ Position.verdicts lib {} callbacks
  rest : .refused ∉ Position.verdicts lib {} callbacks →
    .reported ∉ Position.verdicts lib {} callbacks →
    (callbacks.foldl Position.after {}).database = true →
    (callbacks.foldl Position.after {}).current = .root ∧
      .overlooked ∉ Position.verdicts lib {} callbacks

/-- How `read` ends, by what is reached in the file. -/
inductive ReadEnds (lib : Libraries) (callbacks : List Callback) : Except ReadStop Unit → Prop where
  | unnamed (reached : .unnamed ∈ Position.verdicts lib {} callbacks) :
      ReadEnds lib callbacks (.error .lengthError)
  | thrown {what : ByteString} (named : .unnamed ∉ Position.verdicts lib {} callbacks)
      (broken : .refused ∈ Position.verdicts lib {} callbacks ∨
        .reported ∈ Position.verdicts lib {} callbacks ∨
        (callbacks.foldl Position.after {}).database = false) :
      ReadEnds lib callbacks (.error (.exception what))
  | returned (named : .unnamed ∉ Position.verdicts lib {} callbacks)
      (allowed : .refused ∉ Position.verdicts lib {} callbacks)
      (silent : .reported ∉ Position.verdicts lib {} callbacks)
      (database : (callbacks.foldl Position.after {}).database = true)
      (closed : (callbacks.foldl Position.after {}).current = .root ∨
        (callbacks.foldl Position.after {}).current = .database) :
      ReadEnds lib callbacks (.ok ())
  | asserted (named : .unnamed ∉ Position.verdicts lib {} callbacks)
      (allowed : .refused ∉ Position.verdicts lib {} callbacks)
      (silent : .reported ∉ Position.verdicts lib {} callbacks)
      (database : (callbacks.foldl Position.after {}).database = true)
      (left : (callbacks.foldl Position.after {}).current ≠ .root) :
      ReadEnds lib callbacks (.error .assertion)

section Outcome

variable {lib : Libraries} {irc : IrcStructs} {reader : ConfigReader}
  {callbacks : List Callback}

theorem start_consistent :
    ConfigReaderState.Consistent { globalProgress := some {} } := by
  constructor <;> simp

/-- An error that was reported is thrown. -/
theorem finish_thrown (reader : ConfigReader) (completed : Bool) {state : ConfigReaderState}
    (error : completed = false ∨ state.error ≠ []) :
    ∃ what, (reader.finish completed state).1 = .error (.exception what) := by
  have failed : (!completed || decide (state.error ≠ [])) = true := by simpa using error
  rw [ConfigReader.finish, if_pos failed]
  exact ⟨_, rfl⟩

/-- Without an error it is the open section that counts.  A Database block is not missed when
its end is missing. -/
theorem finish_silent (reader : ConfigReader) {state : ConfigReaderState}
    (silent : state.error = []) (consistent : state.Consistent) :
    (state.position.database = false →
        ∃ what, (reader.finish true state).1 = .error (.exception what)) ∧
      (state.position.database = true →
        state.currentSection = .root ∨ state.currentSection = .database →
        (reader.finish true state).1 = .ok ()) ∧
      (state.position.database = true →
        ¬(state.currentSection = .root ∨ state.currentSection = .database) →
        (reader.finish true state).1 = .error .assertion) := by
  have completed : (!true || decide (state.error ≠ [])) ≠ true := by simp [silent]
  have unclosed : (state.socketProgress.isSome || state.networkProgress.isSome ||
      state.serverProgress.isSome || state.pluginProgress.isSome) = true ↔
      ¬(state.currentSection = .root ∨ state.currentSection = .database) := by
    simp only [Bool.or_eq_true, consistent.socket, consistent.network, consistent.server,
      consistent.plugin]
    cases state.currentSection <;> decide
  rw [ConfigReader.finish, if_neg completed]
  simp only [ConfigReaderState.position]
  refine ⟨?_, ?_, ?_⟩
  · intro missing
    rw [if_pos (by simpa using missing)]
    exact ⟨_, rfl⟩
  · intro present closed
    rw [if_neg (by simpa [Option.isSome_iff_ne_none] using present),
      if_neg (mt unclosed.mp (not_not.mpr closed))]
  · intro present left
    rw [if_neg (by simpa [Option.isSome_iff_ne_none] using present), if_pos (unclosed.mpr left)]

/-- For every file, `read` ends in one of these ways. -/
theorem read_ends :
    ReadEnds lib callbacks (reader.read lib irc (some callbacks)).1 := by
  have looped : ConfigReaderState.Looped lib { globalProgress := some {} } callbacks
      (ConfigReaderState.commandLoop lib irc { globalProgress := some {} } callbacks) :=
    ConfigReaderState.commandLoop_looped start_consistent callbacks
  simp only [ConfigReader.read]
  generalize ConfigReaderState.commandLoop lib irc _ callbacks = ended at looped
  cases looped with
  | unnamed reached => exact .unnamed reached
  | @refused finish named reached error =>
      obtain ⟨what, thrown⟩ := finish_thrown { reader with isRead := false } false (.inr error)
      simp only [thrown]
      exact .thrown named (.inl reached)
  | @through finish named allowed consistent position error =>
      by_cases reported : .reported ∈ Position.verdicts lib {} callbacks
      · have failed : finish.error ≠ [] := fun silent => (error.mp silent).2 reported
        obtain ⟨what, thrown⟩ := finish_thrown { reader with isRead := false } true (.inr failed)
        simp only [thrown]
        exact .thrown named (.inr (.inl reported))
      · have silent : finish.error = [] := error.mpr ⟨rfl, reported⟩
        obtain ⟨missing, closed, left⟩ :=
          finish_silent { reader with isRead := false } silent consistent
        have arrived : finish.position = callbacks.foldl Position.after {} := position
        cases database : finish.position.database with
        | false =>
            obtain ⟨what, thrown⟩ := missing database
            simp only [thrown]
            exact .thrown named (.inr (.inr (arrived ▸ database)))
        | true =>
            by_cases home : finish.currentSection = .root ∨ finish.currentSection = .database
            · simp only [closed database home]
              exact .returned named allowed reported (arrived ▸ database) (arrived ▸ home)
            · simp only [left database home]
              exact .asserted named allowed reported (arrived ▸ database)
                (arrived ▸ fun root => home (.inl root))

/-- On which files `read` keeps to the grammar. -/
theorem read_exactly_iff : ReadsExactly lib irc reader callbacks ↔ Noticed lib callbacks := by
  have wellFormed : WellFormed lib callbacks ↔
      (∀ verdict ∈ Position.verdicts lib {} callbacks, verdict = .follows) ∧
        callbacks.foldl Position.after {} = ⟨.root, true⟩ :=
    wellFormed_iff.trans Follows.iff_verdicts
  have ends : ReadEnds lib callbacks (reader.read lib irc (some callbacks)).1 := read_ends
  unfold ReadsExactly
  generalize (reader.read lib irc (some callbacks)).1 = outcome at ends ⊢
  cases ends with
  | unnamed reached =>
      constructor
      · rintro ⟨_, returned | ⟨what, thrown⟩⟩
        · cases returned
        · cases thrown
      · exact fun noticed => absurd reached noticed.named
  | @thrown what named broken =>
      constructor
      · intro _
        refine ⟨named, fun allowed silent database => ?_⟩
        rcases broken with reached | reached | missing
        · exact absurd reached allowed
        · exact absurd reached silent
        · rw [missing] at database
          cases database
      · intro _
        refine ⟨⟨fun returned => (by cases returned), fun formed => ?_⟩, .inr ⟨what, rfl⟩⟩
        obtain ⟨follows, arrived⟩ := wellFormed.mp formed
        rcases broken with reached | reached | missing
        · cases follows _ reached
        · cases follows _ reached
        · rw [arrived] at missing
          cases missing
  | returned named allowed silent database closed =>
      constructor
      · rintro ⟨exactly, _⟩
        obtain ⟨follows, arrived⟩ := wellFormed.mp (exactly.mp rfl)
        refine ⟨named, fun _ _ _ => ⟨by rw [arrived], fun reached => ?_⟩⟩
        cases follows _ reached
      · intro noticed
        obtain ⟨home, checked⟩ := noticed.rest allowed silent database
        have formed : WellFormed lib callbacks := by
          apply wellFormed.mpr
          refine ⟨fun verdict reached => ?_, Position.ext home database⟩
          cases verdict with
          | follows => rfl
          | overlooked => exact absurd reached checked
          | refused => exact absurd reached allowed
          | reported => exact absurd reached silent
          | unnamed => exact absurd reached named
        exact ⟨⟨fun _ => formed, fun _ => rfl⟩, .inl rfl⟩
  | asserted named allowed silent database left =>
      constructor
      · rintro ⟨_, returned | ⟨what, thrown⟩⟩
        · cases returned
        · cases thrown
      · exact fun noticed => absurd (noticed.rest allowed silent database).1 left

/-- A Database block, and a Network that is not closed. -/
def unclosedNetwork : List Callback :=
  [.sectOpen .database, .sectClose .database, .sectOpen (.network (ascii "irc>"))]

theorem unclosedNetwork_asserts :
    ¬ReadsExactly (.knowing []) .plain {} unclosedNetwork := by
  have outcome : (ConfigReader.read (.knowing []) .plain {} (some unclosedNetwork)).1 =
      .error .assertion := rfl
  intro exactly
  rcases exactly.2 with returned | ⟨what, thrown⟩
  · cases outcome.symm.trans returned
  · cases outcome.symm.trans thrown

end Outcome

end DaZeus.ConfigFile
