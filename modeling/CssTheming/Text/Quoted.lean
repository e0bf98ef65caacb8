import CssTheming.Text.Characters

/-!
# Quoted texts

The form in which a text is shown inside a message: between quotation marks, with escapes for
backslashes, for the mark itself, for line breaks and tabs, and for characters that are not
printable. The mark is an apostrophe, unless the text holds an apostrophe and no double quote.
-/

namespace CssTheming.Text

/-- The mark that encloses the quoted form of `t`. -/
def quotationMark (t : Text) : Char :=
  if t.contains '\x27' && !t.contains '\x22' then '\x22' else '\x27'

/-- The lower-case hexadecimal digits of `n`, led by zeros up to `width` digits. -/
def hexDigits (width n : Nat) : Text :=
  (Nat.toDigits 16 n).leftpad width '0'

/-- The escape of a character that is not printable, in the shortest of the three widths. -/
def codePointEscape (c : Char) : Text :=
  if c.toNat < 0x100 then '\\' :: 'x' :: hexDigits 2 c.toNat
  else if c.toNat < 0x10000 then '\\' :: 'u' :: hexDigits 4 c.toNat
  else '\\' :: 'U' :: hexDigits 8 c.toNat

/-- The form of one character between the quotation marks `mark`. -/
def quoteChar (mark c : Char) : Text :=
  if c = mark || c = '\\' then ['\\', c]
  else if c = '\n' then "\\n"
  else if c = '\r' then "\\r"
  else if c = '\t' then "\\t"
  else if isPrintable c then [c]
  else codePointEscape c

/-- The text between quotation marks, with its escapes. -/
def quote (t : Text) : Text :=
  let mark := quotationMark t
  mark :: t.flatMap (quoteChar mark) ++ [mark]

/-- The quoted texts in square brackets, separated by commas. -/
def quoteAll (texts : List Text) : Text :=
  "[" ++ join ", " (texts.map quote) ++ "]"

end CssTheming.Text
