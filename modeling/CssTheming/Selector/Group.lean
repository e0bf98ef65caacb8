import CssTheming.Selector.Scan
import CssTheming.Text.Quoted

/-!
# Parenthesis groups

The parenthesis that closes a group is found by counting the parentheses outside strings and
escapes; square brackets play no part. `Group.cut` does so for a text that starts inside the group,
and `GroupSpan.find` for a position in a text, which may be counted from the end.
-/

namespace CssTheming

namespace Group

/-- The number of open inner groups after reading `c` in state `l`. -/
def depthAfter (l : Lexical) (depth : Nat) (c : Char) : Nat :=
  if l.reads c then
    if c = '(' then depth + 1 else if c = ')' then depth - 1 else depth
  else depth

/-- Cuts a text inside a group, with `depth` inner groups open, into the rest of the group and what
    follows its closing parenthesis. There is no result if the group is never closed. -/
def cutAt (l : Lexical) (depth : Nat) : Text → Option (Text × Text)
  | [] => none
  | c :: t =>
    if l.reads c && c == ')' && depth == 0 then some ([], t)
    else
      -- whatever else `c` is belongs to the group, an inner closing parenthesis included
      (cutAt (l.step c) (depthAfter l depth c) t).map fun cut => (c :: cut.1, cut.2)

/-- Cuts the text that follows an opening parenthesis into the inside of the group and what follows
    its closing parenthesis, if the group is closed. -/
def cut (t : Text) : Option (Text × Text) :=
  cutAt .code 0 t

/-- The rest of a group, its closing parenthesis and what follows make up the text. -/
theorem append_of_cutAt {l : Lexical} {depth : Nat} {t inner rest : Text}
    (h : cutAt l depth t = some (inner, rest)) : inner ++ ')' :: rest = t := by
  induction t generalizing l depth inner rest with
  | nil => simp [cutAt] at h
  | cons c t ih =>
    rw [cutAt] at h
    split at h
    · next hc =>
      simp only [Bool.and_eq_true, beq_iff_eq] at hc
      cases h
      simp [hc.1.2]
    · obtain ⟨⟨i, r⟩, hcut, heq⟩ := Option.map_eq_some_iff.1 h
      cases heq
      simp [ih hcut]

end Group

/-- The positions of the two parentheses of a group. -/
structure GroupSpan where
  /-- The position of the opening parenthesis. -/
  start : Int
  /-- The position of the closing parenthesis. -/
  stop : Int
deriving DecidableEq, Repr

/-- Why no group can be looked for at a position. -/
inductive GroupError where
  /-- There is no opening parenthesis at position `index` of `text`. -/
  | noParenthesis (index : Int) (text : Text)
  /-- The position lies before the start of the text. -/
  | outOfRange
deriving DecidableEq, Repr

/-- The message for an error. -/
def GroupError.message : GroupError → Text
  | noParenthesis index text =>
    "No '(' at index " ++ Text.ofInt index ++ " in " ++ Text.quote text
  | outOfRange => "string index out of range"

namespace GroupSpan

/-- The text between the two parentheses. -/
def inner (span : GroupSpan) (t : Text) : Text :=
  t.slice (span.start + 1) span.stop

/-- The characters from position `index` on. From a position that is counted from the end, the text
    is read to its end and then once more from its start. -/
def readFrom (t : Text) (index : Int) : Text :=
  if index < 0 then t.drop (t.length + index).toNat ++ t else t.drop index.toNat

/-- The group that opens at position `index` of `t`, or nothing if it is never closed. -/
def find (t : Text) (index : Int) : Except GroupError (Option GroupSpan) :=
  if t.length + index < 0 then .error .outOfRange
  else
    match readFrom t index with
    | '(' :: rest =>
      -- the inside starts one position behind the opening parenthesis
      .ok <| (Group.cut rest).map fun cut =>
        { start := index, stop := index + 1 + cut.1.length }
    | _ => .error (.noParenthesis index t)

end GroupSpan

end CssTheming
