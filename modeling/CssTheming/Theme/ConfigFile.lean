import CssTheming.Json.Reader
import CssTheming.Theme.Config

/-!
# Configuration files

A configuration file is a JSON text in UTF-8. Its lines may end in a line feed, in a carriage
return, or in both. Errors name the file by its path in a tidy form.
-/

namespace CssTheming

/-- Why a file does not give a configuration. -/
inductive ConfigFileError where
  /-- There is no such file. -/
  | missing
  /-- The file is not a text in UTF-8. -/
  | notText
  /-- The file has an escape for half of a character, which no text of a configuration can hold. -/
  | halfCharacter
  /-- The file is not a JSON text. -/
  | notJson (path : Text) (error : Json.SyntaxError)
  /-- The file holds a JSON value that is not an object. -/
  | notObject (path : Text)
  /-- The file holds an object that is not a configuration. -/
  | invalid (error : ConfigError)
deriving DecidableEq, Repr

/-- The message for an error that a configuration file itself is to blame for. -/
def ConfigFileError.message? : ConfigFileError → Option Text
  | missing => none
  | notText => none
  | halfCharacter => none
  | notJson path error => some ("Invalid JSON in " ++ path ++ ": " ++ error.message)
  | notObject path => some ("Config in " ++ path ++ " must be a JSON object")
  | invalid error => some error.message

namespace ConfigFile

/-- The slashes that a tidy path starts with. Exactly two of them have a meaning of their own. -/
def leadingSlashes (path : Text) : Text :=
  let slashes := path.takeWhile (· == '/')
  if slashes.length = 2 then slashes else slashes.take 1

/-- The path without empty parts and without parts that stand for the same directory. -/
def tidyPath (path : Text) : Text :=
  let parts := (List.splitOn '/' path).filter fun part => !part.isEmpty && part != ['.']
  let tidy := leadingSlashes path ++ Text.join "/" parts
  if tidy.isEmpty then "." else tidy

/-- The text with a line feed for every end of line. -/
def unifyLineEnds : Text → Text
  | '\r' :: '\n' :: t => '\n' :: unifyLineEnds t
  | '\r' :: t => '\n' :: unifyLineEnds t
  | c :: t => c :: unifyLineEnds t
  | [] => []

/-- Reads a configuration from the text of the file at `path`. -/
def parse (path t : Text) : Except ConfigFileError ThemeConfig := do
  match ← (Json.parse (unifyLineEnds t)).mapError (ConfigFileError.notJson (tidyPath path)) with
  | none => throw .halfCharacter
  | some (.object members) => (ThemeConfig.ofMembers members).mapError .invalid
  | some _ => throw (.notObject (tidyPath path))

/-- Reads a configuration from the content of the file at `path`, if there is one. -/
def load (path : Text) (content : Option ByteArray) : Except ConfigFileError ThemeConfig :=
  match content with
  | none => .error .missing
  | some bytes =>
    match String.fromUTF8? bytes with
    | none => .error .notText
    | some t => parse path t.toList

end ConfigFile

end CssTheming
