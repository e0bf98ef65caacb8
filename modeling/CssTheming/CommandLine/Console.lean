import CssTheming.Text.Basic

/-!
# The console

A message is printed to one of two streams, and what arrives there is up to the console. A stream
may be unable to encode some characters, and a message that holds one of them is not printed at all.
Codes that set colours and styles are meant for terminals; on any other stream they are left out.

Whatever prints takes the console as an argument. The console of the program itself has streams that
encode every character.

## Main definitions

* `Console`: what is known of the streams, and what printing a message does.
* `Console.printAll`: messages printed one after the other.
* `Text.unstyled`, `Console.unicode`: a text without its style codes, and the console of the
  program. -/

namespace CssTheming

/-! ## Style codes -/

namespace Text

/-- The character that a style code starts with. -/
def escapeChar : Char := '\x1b'

/-- Whether a character can stand among the parameters of a style code. -/
def isStyleParameter (c : Char) : Bool :=
  c == ';' || c == '?' || c.isDigit

/-- The length of the style code at the start of a text, which is 0 if there is none. A style code
    is an escape character and a bracket, perhaps parameters, and a letter. -/
def styleCodeLength : Text → Nat
  | start :: '[' :: t =>
    match t.dropWhile isStyleParameter with
    | letter :: _ =>
      if start = escapeChar ∧ letter.isAlpha = true then
        (t.takeWhile isStyleParameter).length + 3
      else 0
    | [] => 0
  | _ => 0

/-- Leaves out the first `skipped` characters, which belong to a style code, and all style codes
    behind them. -/
def unstyledFrom (skipped : Nat) : Text → Text
  | [] => []
  | c :: t =>
    match skipped with
    | skipped + 1 => unstyledFrom skipped t
    | 0 =>
      match styleCodeLength (c :: t) with
      | 0 => c :: unstyledFrom 0 t
      | length + 1 => unstyledFrom length t

/-- The text without its style codes. -/
def unstyled (t : Text) : Text :=
  unstyledFrom 0 t

end Text

/-! ## Consoles -/

/-- A stream that messages are printed to. -/
inductive OutputStream where
  /-- Standard output. -/
  | output
  /-- Standard error. -/
  | diagnostics
deriving DecidableEq, Repr

/-- What is known of the streams, and what printing does. -/
structure Console where
  /-- Whether a stream is a terminal. -/
  isTerminal : OutputStream → Bool
  /-- Whether a stream can encode a character. -/
  encodes : OutputStream → Char → Bool
  /-- What is left of a message where its styles are not wanted. -/
  unstyle : Text → Text
  /-- What arrives at a stream when a message is printed; nothing does if that fails. -/
  print? : OutputStream → Text → Option Text

namespace Console

/-- Prints messages one after the other: what arrives, and whether all of them were printed. The
    first message that cannot be printed is the last that is tried. -/
def printAll (console : Console) (stream : OutputStream) : List Text → Text × Bool
  | [] => ([], true)
  | message :: messages =>
    match console.print? stream message with
    | none => ([], false)
    | some t =>
      let (rest, complete) := console.printAll stream messages
      (t ++ rest, complete)

/-- The console with streams that encode every character. -/
def unicode (isTerminal : OutputStream → Bool) : Console where
  isTerminal
  encodes _ _ := true
  unstyle := Text.unstyled
  print? stream message :=
    some (if isTerminal stream then message else Text.unstyled message)

end Console

end CssTheming
