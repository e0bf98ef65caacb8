import CssTheming.Text.Basic

/-!
# Options on a command line

The words of a command line are options and arguments. An option starts with a dash and has more
than one character; its value is attached with an equals sign or is the next word, whatever that
word is. Options that consist of one letter and take no value may share a dash. Behind two dashes
all words are arguments.
-/

namespace CssTheming

/-- The options of all commands. -/
inductive OptionName where
  /-- Asks for a description of the command. -/
  | help
  /-- Asks for the version of the program. -/
  | version
  /-- Asks for log lines. -/
  | verbose
  /-- Names a suffix to append. -/
  | append
  /-- Gives the selectors of a rule. -/
  | selector
  /-- Makes a declaration important. -/
  | important
  /-- Restricts values to literal colours and theme roles. -/
  | legacy
  /-- Gives a feature query. -/
  | query
  /-- Names a configuration file. -/
  | config
deriving DecidableEq, Repr

namespace OptionName

/-- The words for an option. -/
def forms : OptionName → List Text
  | help => ["--help"]
  | version => ["--version"]
  | verbose => ["-v", "--verbose"]
  | append => ["--append"]
  | selector => ["--selector"]
  | important => ["--important"]
  | legacy => ["--legacy"]
  | query => ["--query"]
  | config => ["--config"]

/-- Whether an option takes a value. -/
def takesValue : OptionName → Bool
  | append | selector | query | config => true
  | help | version | verbose | important | legacy => false

end OptionName

/-- The options and arguments among the words of a command line. -/
structure CommandWords where
  /-- The options in order, each with its value; those that take none have the empty one. -/
  options : List (OptionName × Text) := []
  /-- The arguments, in order. -/
  arguments : List Text := []
deriving DecidableEq, Repr

namespace CommandWords

/-- Whether an option was given. -/
def has (words : CommandWords) (name : OptionName) : Bool :=
  words.options.any (·.1 == name)

/-- The values of an option, in order. -/
def values (words : CommandWords) (name : OptionName) : List Text :=
  (words.options.filter (·.1 == name)).map (·.2)

/-- The last value of an option, if it was given. -/
def lastValue? (words : CommandWords) (name : OptionName) : Option Text :=
  (words.values name).getLast?

/-- Puts options before the others. -/
def addOptions (options : List (OptionName × Text)) (words : CommandWords) : CommandWords :=
  { words with options := options ++ words.options }

/-- Puts an argument before the others. -/
def addArgument (argument : Text) (words : CommandWords) : CommandWords :=
  { words with arguments := argument :: words.arguments }

/-- Whether a word is read as an option. -/
def isOption (word : Text) : Bool :=
  word.head? == some '-' && 1 < word.length

/-- What a word that is read as an option says. -/
inductive OptionWord where
  /-- Options with their values. -/
  | complete (options : List (OptionName × Text))
  /-- An option whose value is the next word. -/
  | awaiting (name : OptionName)
deriving DecidableEq, Repr

/-- The option that `form` stands for, among those that are known. -/
def named? (known : List OptionName) (form : Text) : Option OptionName :=
  known.find? fun name => name.forms.contains form

/-- Reads letters that share a dash, each of which has to be an option without a value. -/
def readLetters? (known : List OptionName) (letters : Text) : Option OptionWord :=
  (letters.mapM fun letter =>
    ((named? known ['-', letter]).filter fun name => !name.takesValue).map fun name =>
      (name, ([] : Text))).map OptionWord.complete

/-- Reads a word as an option, if it is one that is known. -/
def readOption? (known : List OptionName) (word : Text) : Option OptionWord :=
  let form := word.takeWhile (· != '=')
  let attached? := (word.drop form.length).tail?
  match (named? known form).filter fun _ => List.isPrefixOf "--" form with
  | some name =>
    match name.takesValue, attached? with
    | true, some value => some (.complete [(name, value)])
    | true, none => some (.awaiting name)
    | false, some _ => none
    | false, none => some (.complete [(name, [])])
  | none => if List.isPrefixOf "--" word then none else readLetters? known word.tail

/-- Reads the words of a command line with the options that are known; there is no result if an
    option is unknown or lacks its value. If `interspersed` is false, the first argument ends the
    options. -/
def read? (known : List OptionName) (interspersed : Bool) : List Text → Option CommandWords
  | [] => some {}
  | word :: rest =>
    if word == "--" then some { arguments := rest }
    else if isOption word then
      match readOption? known word with
      | none => none
      | some (.complete options) => (read? known interspersed rest).map (·.addOptions options)
      | some (.awaiting name) =>
        match rest with
        | [] => none
        | value :: rest => (read? known interspersed rest).map (·.addOptions [(name, value)])
    else if interspersed then (read? known interspersed rest).map (·.addArgument word)
    else some { arguments := word :: rest }

end CommandWords

end CssTheming
