import DaZeus.ConfigFile.Read

/-!
# The grammar of a configuration file

What the sample configurations call a configuration, as a tree: options and
blocks, with the callbacks that dotconf makes for it.
-/

namespace DaZeus.ConfigFile

/-- The options that a section knows. -/
def Section.options : Section → List OptionName
  | root => [.nickname, .username, .fullname, .plugindirectory, .highlight]
  | socket => [.type, .path, .host, .port]
  | database => [.type, .host, .port, .username, .password, .filename, .database, .options]
  | network => [.autoconnect, .nickname, .username, .fullname, .password]
  | server => [.host, .port, .priority, .ssl, .sslverify]
  | plugin => [.path, .executable, .scope, .parameters, .var]

namespace OptionLine

/-- Whether a Scope option says Network, if it says one of the two scopes. -/
def perNetwork (lib : Libraries) (line : OptionLine) : Option Bool :=
  if lib.strToLower (lib.trim line.str) = ascii "network" then some true
  else if lib.strToLower (lib.trim line.str) = ascii "global" then some false
  else none

def validValue (lib : Libraries) (line : OptionLine) : Bool :=
  match line.name with
  | .port => decide (0 ≤ line.value ∧ line.value ≤ 65535)
  | .scope => (line.perNetwork lib).isSome
  | .var => line.list.length == 2
  | _ => true

/-- An option of the section, with a value that it can have. -/
def Allowed (lib : Libraries) (within : Section) (line : OptionLine) : Prop :=
  line.name ∈ within.options ∧ line.validValue lib

instance (lib : Libraries) (within : Section) (line : OptionLine) :
    Decidable (line.Allowed lib within) :=
  inferInstanceAs (Decidable (_ ∧ _))

end OptionLine

inductive NetworkItem where
  | option (line : OptionLine)
  | server (lines : List OptionLine)
  deriving DecidableEq

inductive Item where
  | option (line : OptionLine)
  | socket (lines : List OptionLine)
  | database (lines : List OptionLine)
  | network (argument : ByteString) (body : List NetworkItem)
  | plugin (argument : ByteString) (lines : List OptionLine)
  deriving DecidableEq

namespace NetworkItem

def callbacks : NetworkItem → List Callback
  | option line => [.option line]
  | server lines => .sectOpen .server :: (lines.map .option ++ [.sectClose .server])

def Valid (lib : Libraries) : NetworkItem → Prop
  | option line => line.Allowed lib .network
  | server lines => ∀ line ∈ lines, line.Allowed lib .server

instance (lib : Libraries) : (item : NetworkItem) → Decidable (item.Valid lib)
  | option line => inferInstanceAs (Decidable (line.Allowed lib .network))
  | server lines => inferInstanceAs (Decidable (∀ line ∈ lines, line.Allowed lib .server))

end NetworkItem

namespace Item

def callbacks : Item → List Callback
  | option line => [.option line]
  | socket lines => .sectOpen .socket :: (lines.map .option ++ [.sectClose .socket])
  | database lines => .sectOpen .database :: (lines.map .option ++ [.sectClose .database])
  | network argument body =>
      .sectOpen (.network argument) ::
        (body.flatMap NetworkItem.callbacks ++ [.sectClose .network])
  | plugin argument lines =>
      .sectOpen (.plugin argument) :: (lines.map .option ++ [.sectClose .plugin])

/-- The name is the argument of the tag up to its `>`. -/
def Valid (lib : Libraries) : Item → Prop
  | option line => line.Allowed lib .root
  | socket lines => ∀ line ∈ lines, line.Allowed lib .socket
  | database lines => ∀ line ∈ lines, line.Allowed lib .database
  | network argument body => argument ≠ [] ∧ ∀ item ∈ body, item.Valid lib
  | plugin argument lines =>
      argument.dropLast ≠ [] ∧ ∀ line ∈ lines, line.Allowed lib .plugin

instance (lib : Libraries) : (item : Item) → Decidable (item.Valid lib)
  | option line => inferInstanceAs (Decidable (line.Allowed lib .root))
  | socket lines => inferInstanceAs (Decidable (∀ line ∈ lines, line.Allowed lib .socket))
  | database lines => inferInstanceAs (Decidable (∀ line ∈ lines, line.Allowed lib .database))
  | network argument body =>
      inferInstanceAs (Decidable (argument ≠ [] ∧ ∀ item ∈ body, item.Valid lib))
  | plugin argument lines =>
      inferInstanceAs (Decidable (argument.dropLast ≠ [] ∧
        ∀ line ∈ lines, line.Allowed lib .plugin))

def isDatabase : Item → Bool
  | database _ => true
  | _ => false

end Item

/-- A configuration as it should be, with one Database block. -/
structure Configuration (lib : Libraries) where
  items : List Item
  valid : ∀ item ∈ items, item.Valid lib
  oneDatabase : items.countP Item.isDatabase = 1

def Configuration.callbacks {lib : Libraries} (configuration : Configuration lib) :
    List Callback :=
  configuration.items.flatMap Item.callbacks

/-- The callbacks are those of some configuration. -/
def WellFormed (lib : Libraries) (callbacks : List Callback) : Prop :=
  ∃ configuration : Configuration lib, configuration.callbacks = callbacks

end DaZeus.ConfigFile
