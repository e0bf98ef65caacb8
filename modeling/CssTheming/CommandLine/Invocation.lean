import CssTheming.CommandLine.Options

/-!
# Invocations

What a command line asks for: a description, the version, or one of the three commands with its
options and arguments.
-/

namespace CssTheming

/-- What is asked of the command that declares a property. -/
structure PropCommand where
  /-- The property. -/
  property : Text
  /-- The value. -/
  value : Text
  /-- The selectors of the rule, as a selector list. -/
  selector : Text
  /-- The feature query. -/
  query : Text
  /-- Whether the declaration is important. -/
  important : Bool
  /-- Whether only literal colours and theme roles are accepted. -/
  legacy : Bool
deriving DecidableEq, Repr

/-- A command with its options and arguments. -/
inductive Command where
  /-- Corrects the host selectors of selector lists, also with each suffix appended. -/
  | fixHost (lists suffixes : List Text)
  /-- Declares a property. -/
  | prop (command : PropCommand)
  /-- Lists the theme roles. -/
  | palette
deriving DecidableEq, Repr

/-- A command, with the options that bear on how it is carried out. -/
structure Invocation where
  /-- The command. -/
  command : Command
  /-- The path of the configuration file, if one was named. -/
  configPath? : Option Text := none
  /-- Whether log lines are wanted. -/
  verbose : Bool := false
deriving DecidableEq, Repr

/-- What a command line asks for. -/
inductive Request where
  /-- A description of the program or of a command. -/
  | help
  /-- The version of the program. -/
  | version
  /-- A command. -/
  | invoke (invocation : Invocation)
deriving DecidableEq, Repr

namespace Request

/-- The first request for a description or the version among options. Such a request is met before
    anything else is looked at. -/
def eager? (words : CommandWords) : Option Request :=
  words.options.findSome? fun (name, _) =>
    match name with
    | .help => some help
    | .version => some version
    | _ => none

/-- The options before a command. -/
def readGlobal? (words : List Text) : Option CommandWords :=
  CommandWords.read? [.help, .version, .verbose] false words

/-- Reads the words behind a command name, given the options of the command and what to make of
    them. -/
def readCommand? (known : List OptionName) (words : List Text)
    (make? : CommandWords → Option Invocation) : Option Request := do
  let words ← CommandWords.read? (.help :: known) true words
  (eager? words).or ((make? words).map invoke)

/-- The invocation of the command that corrects host selectors, which takes at least one
    argument. -/
def fixHost? (verbose : Bool) (words : CommandWords) : Option Invocation :=
  if words.arguments.isEmpty then none
  else some { command := .fixHost words.arguments (words.values .append), verbose }

/-- The invocation of the command that declares a property, which takes two arguments. Without a
    selector the rule is for the host element, and without a query all features are included. -/
def prop? (verbose : Bool) (words : CommandWords) : Option Invocation :=
  match words.arguments with
  | [property, value] =>
    some {
      command := .prop {
        property
        value
        selector := (words.lastValue? .selector).getD ":host"
        query := (words.lastValue? .query).getD []
        important := words.has .important
        legacy := words.has .legacy }
      configPath? := words.lastValue? .config
      verbose }
  | _ => none

/-- The invocation of the command that lists the theme roles, which takes no arguments. -/
def palette? (verbose : Bool) (words : CommandWords) : Option Invocation :=
  if words.arguments.isEmpty then
    some { command := .palette, configPath? := words.lastValue? .config, verbose }
  else none

/-- What the words of a command line ask for, unless they are not put together as they should be. A
    word in the place of a command that is none is read as an option, as far as it is one. -/
def ofWords? (words : List Text) : Option Request := do
  let globals ← readGlobal? words
  match eager? globals with
  | some request => return request
  | none =>
    match globals.arguments with
    | [] => none
    | name :: rest =>
      let verbose := globals.has .verbose
      if name == "fix-host" then readCommand? [.append] rest (fixHost? verbose)
      else if name == "prop" then
        readCommand? [.selector, .important, .legacy, .query, .config] rest (prop? verbose)
      else if name == "palette" then readCommand? [.config] rest (palette? verbose)
      -- two dashes have made an argument of what may have been meant as an option
      else (readGlobal? (name :: rest)).bind eager?

end Request

end CssTheming
