import CssTheming.Text.Basic

/-!
# Faults in JSON texts

What can be wrong with a JSON text, and how an error names the place. A reader that meets a fault
tells it together with the text that was left at the place it points to, which gives the offset in
the end.
-/

namespace CssTheming.Json

/-- What is wrong with a JSON text. -/
inductive Fault where
  /-- The text starts with a byte order mark. -/
  | byteOrderMark
  /-- No value stands where one is needed. -/
  | expectedValue
  /-- Something follows the value. -/
  | extraData
  /-- No quoted name stands where a member is needed. -/
  | expectedName
  /-- No colon follows the name of a member. -/
  | expectedColon
  /-- Neither a comma nor the closing bracket follows a member or an item. -/
  | expectedComma
  /-- A text holds a control character. -/
  | controlCharacter
  /-- A text is not closed. -/
  | unterminatedText
  /-- A backslash is followed by a character that makes no escape with it. -/
  | invalidEscape
  /-- An escape by code point lacks its four hexadecimal digits. -/
  | invalidCodePoint
deriving DecidableEq, Repr

/-- The wording for a fault. -/
def Fault.message : Fault → Text
  | byteOrderMark => "Unexpected UTF-8 BOM (decode using utf-8-sig)"
  | expectedValue => "Expecting value"
  | extraData => "Extra data"
  | expectedName => "Expecting property name enclosed in double quotes"
  | expectedColon => "Expecting ':' delimiter"
  | expectedComma => "Expecting ',' delimiter"
  | controlCharacter => "Invalid control character at"
  | unterminatedText => "Unterminated string starting at"
  | invalidEscape => "Invalid \\escape"
  | invalidCodePoint => "Invalid \\uXXXX escape"

/-- A fault and the place in the text that it points to. -/
structure SyntaxError where
  /-- What is wrong. -/
  fault : Fault
  /-- The offset of the place. -/
  offset : Nat
  /-- The number of the line, counted from one. -/
  line : Nat
  /-- The number of the character in its line, counted from one. -/
  column : Nat
deriving DecidableEq, Repr

/-- The message for an error: the fault and the place. -/
def SyntaxError.message (error : SyntaxError) : Text :=
  error.fault.message ++ ": line " ++ Text.ofNat error.line ++ " column " ++
    Text.ofNat error.column ++ " (char " ++ Text.ofNat error.offset ++ ")"

/-- A fault in `t`, with `rest` left from the place on. -/
def SyntaxError.at (t : Text) (fault : Fault) (rest : Text) : SyntaxError :=
  let before := t.take (t.length - rest.length)
  { fault
    offset := before.length
    line := before.count '\n' + 1
    column := (before.reverse.takeWhile (· != '\n')).length + 1 }

/-- A result, or a fault with the text that is left from its place on. -/
abbrev Attempt (α : Type) := Except (Fault × Text) α

end CssTheming.Json
