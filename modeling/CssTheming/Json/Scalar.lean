import CssTheming.Json.Basic
import CssTheming.Json.Fault

/-!
# JSON values without parts

Readers for quoted texts, numbers and constants. Beyond the standard the constants `NaN`, `Infinity`
and `-Infinity` are accepted. A reader takes the text that is left and returns the value with what
is left behind it.

## Main statements

* `length_lt_of_readText`, `length_lt_of_readScalar?`: reading takes at least one character, so less
  is left than before. -/

namespace CssTheming.Json

/-! ## Texts -/

/-- The value of a hexadecimal digit. -/
def hexDigit? (c : Char) : Option Nat :=
  if c.isDigit then some (c.toNat - '0'.toNat)
  else if 'a' ≤ c ∧ c ≤ 'f' then some (c.toNat - 'a'.toNat + 10)
  else if 'A' ≤ c ∧ c ≤ 'F' then some (c.toNat - 'A'.toNat + 10)
  else none

/-- The value of the four hexadecimal digits at the start of a text that goes on behind them. -/
def codeUnit? : Text → Option Nat
  | a :: b :: c :: d :: _ :: _ =>
    [a, b, c, d].foldlM (fun n digit => (hexDigit? digit).map (16 * n + ·)) 0
  | _ => none

/-- The character of an escape by code point, given the text behind its `u`, and the length of the
    escape from there on. Two escapes in a row may give the two halves of one character; one half
    without the other is no fault, but stands for no character. -/
def readCodePoint (t : Text) : Attempt (Option Char × Nat) :=
  match codeUnit? t with
  | none => .error (.invalidCodePoint, 'u' :: t)
  | some high =>
    if 0xD800 ≤ high ∧ high ≤ 0xDBFF then
      match t.drop 4 with
      | '\\' :: 'u' :: more =>
        -- a second escape at the very end of the text is not looked at
        if (more.drop 4).isEmpty then .ok (none, 4)
        else
          match codeUnit? more with
          | none => .error (.invalidCodePoint, 'u' :: more)
          | some low =>
            if 0xDC00 ≤ low ∧ low ≤ 0xDFFF then
              .ok (Char.ofNat (0x10000 + (high - 0xD800) * 0x400 + (low - 0xDC00)), 10)
            else .ok (none, 4)
      | _ => .ok (none, 4)
    else if 0xDC00 ≤ high ∧ high ≤ 0xDFFF then .ok (none, 4)
    else .ok (Char.ofNat high, 4)

/-- The character that a backslash and `c` stand for. -/
def simpleEscape? (c : Char) : Option Char :=
  match c with
  | '\x22' => some '\x22'
  | '\\' => some '\\'
  | '/' => some '/'
  | 'b' => some '\x08'
  | 'f' => some '\x0c'
  | 'n' => some '\n'
  | 'r' => some '\r'
  | 't' => some '\t'
  | _ => none

/-- Reads a text up to its closing quote. `opening` is what was left at its opening quote, and
    `reversed` what was read since, last character first; there is no such text behind half of a
    character. -/
def readText (opening : Text) (reversed : Option Text) (t : Text) :
    Attempt (Option Text × Text) :=
  match t with
  | [] => .error (.unterminatedText, opening)
  | '\x22' :: rest => .ok (reversed.map List.reverse, rest)
  | '\\' :: [] => .error (.unterminatedText, opening)
  | '\\' :: c :: rest =>
    if c = 'u' then
      match readCodePoint rest with
      | .error fault => .error fault
      | .ok (decoded, length) =>
        readText opening (return (← decoded) :: (← reversed)) (rest.drop length)
    else
      match simpleEscape? c with
      | none => .error (.invalidEscape, t)
      | some decoded => readText opening (reversed.map (decoded :: ·)) rest
  | c :: rest =>
    if c.toNat < 0x20 then .error (.controlCharacter, t)
    else readText opening (reversed.map (c :: ·)) rest
termination_by t.length
decreasing_by
  all_goals simp only [List.length_cons, List.length_drop]; omega

/-- A quoted text takes at least its closing quote. -/
theorem length_lt_of_readText {opening t left : Text} {reversed value : Option Text}
    (h : readText opening reversed t = .ok (value, left)) : left.length < t.length := by
  fun_induction readText opening reversed t with
  | case1 | case3 | case4 | case6 | case8 => cases h  -- the faults leave nothing
  | case2 reversed rest =>  -- the closing quote
    cases h
    exact Nat.lt_succ_self _
  | case5 _ rest _ length _ ih =>  -- an escape by code point
    have hlt := ih h
    rw [List.length_drop] at hlt
    simp only [List.length_cons]
    omega
  | case7 _ _ rest _ _ _ ih =>  -- any other escape
    have hlt := ih h
    simp only [List.length_cons]
    omega
  | case9 _ c rest _ _ _ _ ih => exact Nat.lt_succ_of_lt (ih h)  -- a character as it is

/-! ## Numbers -/

/-- The number that a run of decimal digits stands for. -/
def digitsValue (digits : Text) : Nat :=
  digits.foldl (fun n c => 10 * n + (c.toNat - '0'.toNat)) 0

/-- Reads a point and at least one digit. -/
def readFraction (t : Text) : Text × Text :=
  match t with
  | '.' :: rest =>
    let digits := rest.takeWhile Char.isDigit
    if digits.isEmpty then ([], t) else (digits, rest.drop digits.length)
  | _ => ([], t)

/-- Reads the sign of an exponent, if there is one: whether it is negative. -/
def readSign : Text → Bool × Text
  | '-' :: rest => (true, rest)
  | '+' :: rest => (false, rest)
  | t => (false, t)

/-- Reads an `e`, perhaps a sign, and at least one digit. -/
def readExponent (t : Text) : Option Int × Text :=
  match t with
  | [] => (none, t)
  | c :: behind =>
    if c = 'e' ∨ c = 'E' then
      let (negative, rest) := readSign behind
      let digits := rest.takeWhile Char.isDigit
      if digits.isEmpty then (none, t)
      else
        let value : Int := digitsValue digits
        (some (if negative then -value else value), rest.drop digits.length)
    else (none, t)

/-- Reads the minus sign of a number, if there is one. -/
def readMinus : Text → Bool × Text
  | '-' :: rest => (true, rest)
  | t => (false, t)

/-- The digits of a number before its point. A zero is not followed by further digits. -/
def wholeDigits : Text → Text
  | '0' :: _ => ['0']
  | t => t.takeWhile Char.isDigit

/-- Reads a number. -/
def readNumber? (t : Text) : Option (Json × Text) :=
  let (negative, unsigned) := readMinus t
  let whole := wholeDigits unsigned
  if whole.isEmpty then none
  else
    let (fraction, rest) := readFraction (unsigned.drop whole.length)
    let (exponent, rest) := readExponent rest
    if fraction.isEmpty && exponent.isNone then
      let value : Int := digitsValue whole
      some (int (if negative then -value else value), rest)
    else
      let digits := digitsValue (whole ++ fraction)
      -- every digit behind the point moves the point by one
      some (float (.ofDecimal negative digits (exponent.getD 0 - fraction.length)), rest)

/-- A fraction leaves no more than there was. -/
private theorem length_readFraction_le (t : Text) : (readFraction t).2.length ≤ t.length := by
  fun_cases readFraction t with
  | case2 rest =>
    -- the digits are taken from what is behind the point
    rw [List.length_drop, List.length_cons]
    omega
  | case1 | case3 => exact Nat.le_refl _

private theorem length_readSign_le (t : Text) : (readSign t).2.length ≤ t.length := by
  fun_cases readSign t <;> simp

private theorem length_readExponent_le (t : Text) : (readExponent t).2.length ≤ t.length := by
  fun_cases readExponent t with
  | case3 c behind _ negative rest hsign =>
    have := length_readSign_le behind
    simp_all
    omega
  | _ => simp

private theorem length_readMinus_le (t : Text) : (readMinus t).2.length ≤ t.length := by
  fun_cases readMinus t <;> simp

/-- The digits before the point are among the characters of the text. -/
private theorem length_wholeDigits_le (t : Text) : (wholeDigits t).length ≤ t.length := by
  fun_cases wholeDigits t with
  | case1 => simp
  | case2 => exact (List.takeWhile_sublist _).length_le

/-- A number takes at least its first digit. -/
private theorem length_lt_of_readNumber? {t rest : Text} {value : Json}
    (h : readNumber? t = some (value, rest)) : rest.length < t.length := by
  have hminus := length_readMinus_le t
  rw [readNumber?] at h
  generalize readMinus t = signed at h hminus
  obtain ⟨negative, unsigned⟩ := signed
  have hwhole := length_wholeDigits_le unsigned
  simp only at h hminus
  split at h
  · contradiction
  next hne =>
    have hpos : 0 < (wholeDigits unsigned).length := List.length_pos_iff.2 (by simpa using hne)
    -- neither the fraction nor the exponent gives back what the digits took
    have hfraction := length_readFraction_le (unsigned.drop (wholeDigits unsigned).length)
    have hexponent :=
      length_readExponent_le (readFraction (unsigned.drop (wholeDigits unsigned).length)).2
    rw [List.length_drop] at hfraction
    split at h <;> cases h <;> omega

/-! ## Constants -/

/-- The constants and their names. -/
def constants : List (Text × Json) :=
  [("null", null), ("true", bool true), ("false", bool false), ("NaN", float .nan),
    ("Infinity", float (.infinite false)), ("-Infinity", float (.infinite true))]

/-- Reads one of the constants. -/
def readConstant? (t : Text) : Option (Json × Text) :=
  constants.findSome? fun (name, value) =>
    if name.isPrefixOf t then some (value, t.drop name.length) else none

/-- A constant takes at least one character. -/
private theorem length_lt_of_readConstant? {t rest : Text} {value : Json}
    (h : readConstant? t = some (value, rest)) : rest.length < t.length := by
  obtain ⟨⟨name, constant⟩, hmem, hname⟩ := List.exists_of_findSome?_eq_some h
  -- no constant has an empty name
  have hpos : 0 < name.length := by
    simp only [constants, List.mem_cons, Prod.mk.injEq, List.not_mem_nil, or_false] at hmem
    rcases hmem with ⟨rfl, _⟩ | ⟨rfl, _⟩ | ⟨rfl, _⟩ | ⟨rfl, _⟩ | ⟨rfl, _⟩ | ⟨rfl, _⟩ <;> decide
  simp only [Option.ite_none_right_eq_some, Option.some.injEq, Prod.mk.injEq] at hname
  obtain ⟨hstart, _, rfl⟩ := hname
  have := (List.isPrefixOf_iff_prefix.1 hstart).length_le
  rw [List.length_drop]
  omega

/-- Reads a value that has no parts and no quotes. -/
def readScalar? (t : Text) : Option (Json × Text) :=
  (readConstant? t).or (readNumber? t)

/-- A value without parts takes at least one character. -/
theorem length_lt_of_readScalar? {t rest : Text} {value : Json}
    (h : readScalar? t = some (value, rest)) : rest.length < t.length := by
  rcases Option.or_eq_some_iff.1 h with h | ⟨_, h⟩
  · exact length_lt_of_readConstant? h
  · exact length_lt_of_readNumber? h

end CssTheming.Json
