/-!
# Text

A text is the list of its characters. Every operation on selectors, values and stylesheets is then a
list function, and every index and length counts characters. String literals stand for texts
through a coercion.

## Main definitions

* `Text`: the characters of a text in order.
* `Text.slice`: a part of a text between two positions, which may be counted from the end.
* `Text.isBlank`, `Text.trim`: blank characters, and the text without those at its ends. -/

namespace CssTheming

/-- A text: its characters in order. -/
abbrev Text := List Char

namespace Text

instance : Coe String Text := ⟨String.toList⟩

/-- The texts of `parts`, one after the other, with `separator` between neighbours. -/
def join (separator : Text) (parts : List Text) : Text :=
  separator.intercalate parts

/-- Whether `s` stands before `t` in a dictionary, or is the same; characters are compared by code
    point. -/
def precedes : Text → Text → Bool
  | [], _ => true
  | _ :: _, [] => false
  | c :: s, d :: t => c.toNat < d.toNat || c == d && precedes s t

/-- The texts in the order of a dictionary. -/
def sort (texts : List Text) : List Text :=
  texts.mergeSort precedes

/-- The decimal digits of a natural number. -/
def ofNat (n : Nat) : Text :=
  Nat.toDigits 10 n

/-- The decimal digits of an integer, after a minus sign if it is negative. -/
def ofInt (n : Int) : Text :=
  if n < 0 then '-' :: ofNat n.natAbs else ofNat n.natAbs

/-! ## Slices -/

/-- The offset in a text of length `length` that position `i` stands for, clipped to the text. A
    position may be counted from the end: `-1` is the last character. -/
def clippedOffset (length : Nat) (i : Int) : Nat :=
  if i < 0 then (length + i).toNat else min i.toNat length

/-- The characters from position `start` up to, not including, position `stop`. Both are clipped to
    the text, so a slice never fails. -/
def slice (t : Text) (start stop : Int) : Text :=
  let first := clippedOffset t.length start
  (t.drop first).take (clippedOffset t.length stop - first)

/-! ## Blank characters -/

/-- A blank character: the separators of the Unicode standard, and the control characters that move
    the point of writing. -/
def isBlank (c : Char) : Bool :=
  let n := c.toNat
  (0x09 ≤ n && n ≤ 0x0D) || (0x1C ≤ n && n ≤ 0x20) || n == 0x85 || n == 0xA0 ||
    n == 0x1680 || (0x2000 ≤ n && n ≤ 0x200A) || n == 0x2028 || n == 0x2029 || n == 0x202F ||
    n == 0x205F || n == 0x3000

/-- The text without the blank characters at its start. -/
def trimStart (t : Text) : Text :=
  t.dropWhile isBlank

/-- The text without the blank characters at its end. -/
def trimEnd (t : Text) : Text :=
  (t.reverse.dropWhile isBlank).reverse

/-- The text without the blank characters at its two ends. -/
def trim (t : Text) : Text :=
  trimEnd (trimStart t)

end Text

end CssTheming
