import CssTheming.Json.Scalar

/-!
# Reading JSON

A reader for JSON texts that says what is wrong with a malformed one, and where. Of several members
with one name the last value counts, at the place of the first.

A well-formed text may hold an escape for half of a character, and then it has no value here. Such a
text is still read to its end, since a fault further on counts first.

The readers below take the text that is left and return the value with what is left behind it. That
is always less than before (`Taken.shorter`), and so they come to an end on every text, however deep
its lists and objects are nested and whether or not they are closed.
-/

namespace CssTheming.Json

/-- What a reader takes from the start of `t`. -/
structure Taken (t : Text) (α : Type) where
  /-- The value that was read. -/
  value : α
  /-- The text that is left. -/
  rest : Text
  /-- At least one character was taken. -/
  shorter : rest.length < t.length

/-- The text without the white space at its start. -/
def skipSpace (t : Text) : Text :=
  t.dropWhile fun c => c == ' ' || c == '\t' || c == '\n' || c == '\r'

/-- White space is only taken away. -/
private theorem length_skipSpace_le (t : Text) : (skipSpace t).length ≤ t.length :=
  (List.dropWhile_sublist _).length_le

/-- What stands behind the first character that is no white space is less than the text. -/
private theorem length_lt_of_skipSpace {c : Char} {t rest : Text} (h : skipSpace t = c :: rest) :
    rest.length < t.length := by
  have := length_skipSpace_le t
  rw [h, List.length_cons] at this
  omega

/-- Reads a quoted name. -/
def readName (t : Text) : Attempt (Taken t (Option Text)) :=
  match t with
  | '\x22' :: inside =>
    match h : readText t (some []) inside with
    | .ok (value, rest) =>
      .ok { value, rest, shorter := Nat.lt_succ_of_lt (length_lt_of_readText h) }
    | .error fault => .error fault
  | _ => .error (.expectedName, t)

mutual

/-- Reads a value. -/
def readValue (t : Text) : Attempt (Taken t (Option Json)) :=
  match t with
  | '\x22' :: inside => do
    let name ← readName ('\x22' :: inside)
    return { name with value := name.value.map text }
  | '\x7b' :: inside =>
    match h : skipSpace inside with
    | '\x7d' :: rest =>
      .ok { value := object [], rest, shorter := Nat.lt_succ_of_lt (length_lt_of_skipSpace h) }
    | _ => readMembers (some []) (skipSpace inside) (Nat.lt_succ_of_le (length_skipSpace_le inside))
  | '[' :: inside =>
    match h : skipSpace inside with
    | ']' :: rest =>
      .ok { value := list [], rest, shorter := Nat.lt_succ_of_lt (length_lt_of_skipSpace h) }
    | _ => readItems (some []) (skipSpace inside) (Nat.lt_succ_of_le (length_skipSpace_le inside))
  | t =>
    match h : readScalar? t with
    | some (value, rest) => .ok { value, rest, shorter := length_lt_of_readScalar? h }
    | none => .error (.expectedValue, t)
termination_by 2 * t.length
decreasing_by
  all_goals
    have := length_skipSpace_le inside
    simp only [List.length_cons]
    omega

/-- Reads the members of an object in `t`, from the name at the start of `u` up to the closing
    brace. -/
def readMembers {t : Text} (members : Option (Entries Json)) (u : Text) (h : u.length < t.length) :
    Attempt (Taken t (Option Json)) := do
  let name ← readName u
  match hname : skipSpace name.rest with
  | ':' :: behind =>
    have hbehind := Nat.lt_trans (length_lt_of_skipSpace hname) name.shorter
    have hvalue := Nat.lt_of_le_of_lt (length_skipSpace_le behind) hbehind
    let member ← readValue (skipSpace behind)
    have hmember := Nat.lt_trans member.shorter hvalue
    let members : Option (Entries Json) := do
      return (← members).set (← name.value) (← member.value)
    match hrest : skipSpace member.rest with
    | '\x7d' :: rest =>
      have hrest := Nat.lt_trans (length_lt_of_skipSpace hrest) hmember
      .ok { value := members.map object, rest, shorter := Nat.lt_trans hrest h }
    | ',' :: rest =>
      have hrest := Nat.lt_trans (length_lt_of_skipSpace hrest) hmember
      have hnext := Nat.lt_of_le_of_lt (length_skipSpace_le rest) hrest
      readMembers members (skipSpace rest) (Nat.lt_trans hnext h)
    | rest => .error (.expectedComma, rest)
  | rest => .error (.expectedColon, rest)
termination_by 2 * u.length

/-- Reads the items of a list in `t`, from the item at the start of `u` up to the closing bracket.
    `reversed` holds the items read before, last one first. -/
def readItems {t : Text} (reversed : Option (List Json)) (u : Text) (h : u.length < t.length) :
    Attempt (Taken t (Option Json)) := do
  let item ← readValue u
  let reversed : Option (List Json) := do return (← item.value) :: (← reversed)
  match hrest : skipSpace item.rest with
  | ']' :: rest =>
    have hrest := Nat.lt_trans (length_lt_of_skipSpace hrest) item.shorter
    .ok { value := reversed.map (list ·.reverse), rest, shorter := Nat.lt_trans hrest h }
  | ',' :: rest =>
    have hrest := Nat.lt_trans (length_lt_of_skipSpace hrest) item.shorter
    have hnext := Nat.lt_of_le_of_lt (length_skipSpace_le rest) hrest
    readItems reversed (skipSpace rest) (Nat.lt_trans hnext h)
  | rest => .error (.expectedComma, rest)
-- an item starts where the items start, so reading it is the lesser task on the same text
termination_by 2 * u.length + 1

end

/-- Reads a text that holds one value and nothing else but white space around it. -/
def readAll (t : Text) : Attempt (Option Json) :=
  match t with
  | '\uFEFF' :: _ => .error (.byteOrderMark, t)
  | _ => do
    let taken ← readValue (skipSpace t)
    match skipSpace taken.rest with
    | [] => .ok taken.value
    | rest => .error (.extraData, rest)

/-- The value of a JSON text, unless it has half of a character in it. -/
def parse (t : Text) : Except SyntaxError (Option Json) :=
  (readAll t).mapError fun (fault, rest) => .at t fault rest

end CssTheming.Json
