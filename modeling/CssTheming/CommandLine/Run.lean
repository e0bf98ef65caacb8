import CssTheming.CommandLine.Console
import CssTheming.CommandLine.Invocation
import CssTheming.Theme.ConfigFile
import CssTheming.Theme.Step

/-!
# Carrying out commands

A command is carried out without touching files: the content of the configuration file, if one is
named, is handed in. What a command leaves is its exit code and what arrives at the two streams. It
prints its messages through the console; log lines are written by the log, and not through the
console.

## Main definitions

* `CommandLine.fixHost`, `CommandLine.prop`, `CommandLine.palette`: what the commands leave to be
  printed.
* `CommandLine.answer`: how the program ends for a command line. -/

namespace CssTheming

/-- How the program ends. -/
inductive Ending where
  /-- With an exit code, and what was written to standard output and standard error. -/
  | finished (exitCode : Nat) (output diagnostics : Text)
  /-- With a complaint about how the command line is put together. -/
  | misused
  /-- At a configuration file that is not a text. -/
  | undecodable
  /-- At a configuration file with an escape for half of a character. No text holds that, so nothing
      is said about what comes of such a file. -/
  | halfCharacter
  /-- At a message that cannot be printed, after what was written before. -/
  | unprintable (output diagnostics : Text)
deriving DecidableEq, Repr

/-- What a command leaves: the messages that it prints or the message of an error, and log
    records. -/
structure CommandResult where
  /-- The messages to print, or the message of the error that stopped the command. -/
  result : Except Text (List Text)
  /-- The log records, oldest first. -/
  log : List LogRecord := []

namespace CommandLine

/-- The version of the program. -/
def version : Text := "0.1.0"

/-- The line that states the version. -/
def versionLine : Text :=
  "themecss, version " ++ version ++ "\n"

/-- How the program is used. -/
def usage : Text :=
  "Usage: themecss [-v] fix-host SELECTORS... [--append SUFFIX]...\n" ++
  "       themecss [-v] prop PROPERTY VALUE [--selector LIST] [--important] [--legacy]\n" ++
  "                     [--query QUERY] [--config FILE]\n" ++
  "       themecss [-v] palette [--config FILE]\n" ++
  "       themecss --version\n"

/-- The selectors of all lists, and again with each suffix, with host selectors corrected. -/
def fixHost (lists suffixes : List Text) : CommandResult :=
  let base := SelectorList.items (lists.flatMap SelectorList.split)
  let variants := base :: suffixes.map fun suffix => .items (base.append suffix)
  { result := .ok ((SelectorList.hostAware variants).map (· ++ ['\n']))
    log := SelectorList.hostAwareLog variants }

/-- The stylesheet with a rule that makes one declaration. -/
def prop (config : ThemeConfig) (command : PropCommand) : CommandResult :=
  let resolver : Resolver := { config }
  let builder : Builder := { query := .parse command.query }
  -- the rule stays open: what was built so far is all there is to print
  let opened := builder.openHostAware [.text command.selector]
  let outcome := opened.step <|
    if command.legacy then .prop resolver command.property command.value command.important
    else .apply resolver command.property (.text command.value) none command.important []
  { result :=
      match outcome.error? with
      | some e => .error ("Error: " ++ e.message)
      | none => .ok [outcome.builder.render]
    log := outcome.builder.log }

/-- The roles with their values and the names of their custom properties, in columns. -/
def palette (config : ThemeConfig) : CommandResult :=
  let width := (config.palette.keys.map List.length).foldl max 0
  { result := .ok <| config.palette.map fun (role, value) =>
      role.rightpad width ' ' ++ "  " ++ value ++ "  " ++ config.propertyName role ++ "\n" }

/-- Carries out a command with a configuration. -/
def carryOut (config : ThemeConfig) : Command → CommandResult
  | .fixHost lists suffixes => fixHost lists suffixes
  | .prop command => prop config command
  | .palette => palette config

/-- The lines for log records, if they are wanted. -/
def logLines (verbose : Bool) (log : List LogRecord) : Text :=
  if verbose then log.flatMap (·.line ++ ['\n']) else []

/-- The ending that a result leads to. Log lines come before all messages. -/
def conclude (console : Console) (verbose : Bool) (result : CommandResult) : Ending :=
  let log := logLines verbose result.log
  match result.result with
  | .ok messages =>
    match console.printAll .output messages with
    | (output, true) => .finished 0 output log
    | (output, false) => .unprintable output log
  | .error message =>
    match console.print? .diagnostics (message ++ ['\n']) with
    | some printed => .finished 1 [] (log ++ printed)
    | none => .unprintable [] log

/-- The configuration of an invocation, where `content` holds the content of the file that it
    names. -/
def readConfig (invocation : Invocation) (content : Option ByteArray) :
    Except ConfigFileError ThemeConfig :=
  match invocation.configPath? with
  | none => .ok {}
  | some path => ConfigFile.load path content

/-- Carries out an invocation, where `content` holds the content of the configuration file that it
    names. -/
def invoke (console : Console) (invocation : Invocation) (content : Option ByteArray) : Ending :=
  match readConfig invocation content with
  | .ok config => conclude console invocation.verbose (carryOut config invocation.command)
  | .error .missing => .misused
  | .error .notText => .undecodable
  | .error .halfCharacter => .halfCharacter
  | .error e =>
    conclude console invocation.verbose
      { result := .error ("Config error: " ++ e.message?.getD []) }

/-- The path of the file whose content a request needs. -/
def neededPath? : Option Request → Option Text
  | some (.invoke invocation) => invocation.configPath?
  | _ => none

/-- Answers a request, where `content` holds the content of the file that it needs. -/
def answer (console : Console) (request : Option Request) (content : Option ByteArray) : Ending :=
  match request with
  | none => .misused
  | some .help => conclude console false { result := .ok [usage] }
  | some .version => conclude console false { result := .ok [versionLine] }
  | some (.invoke invocation) => invoke console invocation content

end CommandLine

end CssTheming
