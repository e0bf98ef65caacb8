import CssTheming.Text.Basic

/-!
# Scanning selector text

A scan reads selector text one character at a time and knows two things: whether it stands in plain
code, behind a backslash or inside a quoted string (`Lexical`), and which closing brackets the open
groups still wait for (`Scan`). Whatever depends on strings, escapes or groups is asked of the scan,
so that all readers of selector text agree on what is quoted.

## Main definitions

* `Lexical.step`, `Scan.step`: the state after one more character.
* `Scan.topLevel`: the character about to be read lies outside every string, escape and group.
* `Scan.splitOn`, `Scan.span`: cutting a text at its top-level characters.
* `Selector.firstCompound`: the first compound of a selector, and the rest. -/

namespace CssTheming

/-- Where a scan stands with respect to strings and escapes. -/
inductive Lexical where
  /-- In plain code. -/
  | code
  /-- Behind a backslash in plain code. -/
  | escaped
  /-- Inside a string that `mark` opened. -/
  | quoted (mark : Char)
  /-- Behind a backslash inside a string that `mark` opened. -/
  | quotedEscaped (mark : Char)
deriving DecidableEq, Repr

namespace Lexical

/-- The two characters that open and close strings. -/
def isMark (c : Char) : Bool :=
  c == '\x22' || c == '\x27'

/-- Whether `c`, read in state `l`, is plain code: not part of a string and not part of an
    escape. -/
def reads (l : Lexical) (c : Char) : Bool :=
  l == code && !isMark c && c != '\\'

/-- The state after reading `c`. A backslash takes the next character with it, whatever that is. -/
def step : Lexical → Char → Lexical
  | code, c => if isMark c then quoted c else if c = '\\' then escaped else code
  | escaped, _ => code
  | quoted mark, c =>
    if c = '\\' then quotedEscaped mark else if c = mark then code else quoted mark
  | quotedEscaped mark, _ => quoted mark

/-- Reading plain code leaves the scan in plain code. -/
theorem step_of_reads {l : Lexical} {c : Char} (h : l.reads c = true) : l.step c = code := by
  simp only [reads, Bool.and_eq_true, beq_iff_eq, Bool.not_eq_true', bne_iff_ne] at h
  obtain ⟨⟨rfl, hm⟩, hb⟩ := h
  simp [step, hm, hb]

end Lexical

/-- A scan of selector text: its lexical state and the closing brackets that the open groups wait
    for, innermost first. -/
structure Scan where
  /-- Where the scan stands with respect to strings and escapes. -/
  lexical : Lexical
  /-- The closing brackets of the open groups, innermost first. -/
  expected : List Char
deriving DecidableEq, Repr

namespace Scan

/-- The scan before the first character. -/
def start : Scan where
  lexical := .code
  expected := []

/-- The closing bracket that an opening bracket asks for. -/
def closer? : Char → Option Char
  | '(' => some ')'
  | '[' => some ']'
  | _ => none

/-- The expected closing brackets after the plain character `c`. A closing bracket that the
    innermost group does not wait for changes nothing. -/
def stepExpected (expected : List Char) (c : Char) : List Char :=
  match closer? c with
  | some d => d :: expected
  | none => if expected.head? = some c then expected.tail else expected

/-- The scan after reading `c`. -/
def step (s : Scan) (c : Char) : Scan where
  lexical := s.lexical.step c
  expected := if s.lexical.reads c then stepExpected s.expected c else s.expected

/-- The scan after reading `t`. -/
def run (s : Scan) (t : Text) : Scan :=
  t.foldl step s

/-- Whether `c`, read by the scan `s`, is a top-level character: plain code outside every group, and
    not the start of one. -/
def topLevel (s : Scan) (c : Char) : Bool :=
  s.lexical.reads c && s.expected.isEmpty && (closer? c).isNone

@[simp] theorem run_nil (s : Scan) : s.run [] = s := rfl

@[simp] theorem run_cons (s : Scan) (c : Char) (t : Text) : s.run (c :: t) = (s.step c).run t := rfl

/-- A scan can be interrupted and taken up again. -/
@[simp] theorem run_append (s : Scan) (t u : Text) : s.run (t ++ u) = (s.run t).run u :=
  List.foldl_append

/-- A top-level character leaves a scan outside strings, escapes and groups. -/
theorem step_of_topLevel {s : Scan} {c : Char} (h : s.topLevel c = true) : s.step c = start := by
  simp only [topLevel, Bool.and_eq_true, List.isEmpty_iff, Option.isNone_iff_eq_none] at h
  obtain ⟨⟨hr, he⟩, hc⟩ := h
  simp [step, hr, Lexical.step_of_reads hr, stepExpected, hc, he, start]

/-- Cuts `t` at its top-level characters that satisfy `p`, which are left out. -/
def splitOn (p : Char → Bool) (s : Scan) : Text → List Text
  | [] => [[]]
  | c :: t =>
    if s.topLevel c && p c then [] :: splitOn p (s.step c) t
    else (splitOn p (s.step c) t).modifyHead (c :: ·)

/-- Cuts `t` before its first top-level character that satisfies `p`: the text up to there, and the
    text from there on. -/
def span (p : Char → Bool) (s : Scan) : Text → Text × Text
  | [] => ([], [])
  | c :: t =>
    if s.topLevel c && p c then ([], c :: t)
    else
      let (before, rest) := span p (s.step c) t
      (c :: before, rest)

/-- Nothing is lost when a text is cut in two. -/
theorem span_append (p : Char → Bool) (s : Scan) (t : Text) :
    (s.span p t).1 ++ (s.span p t).2 = t := by
  induction t generalizing s with
  | nil => rfl
  | cons c t ih =>
    rw [span]
    split
    · rfl
    · simp [ih]

end Scan

/-! ## Compound selectors

A selector is a chain of compound selectors joined by combinators. Only the end of the first
compound is of interest: it is the first top-level blank or combinator character. -/

namespace Selector

/-- The characters that end a compound selector: blank space and the combinators. -/
def endsCompound (c : Char) : Bool :=
  Text.isBlank c || c == '>' || c == '+' || c == '~'

/-- The first compound of a selector, and the rest from the combinator on. -/
def firstCompound (selector : Text) : Text × Text :=
  Scan.start.span endsCompound selector

/-- The offset at which the first compound of a selector ends. -/
def firstCompoundEnd (selector : Text) : Nat :=
  (firstCompound selector).1.length

/-- The first compound and the rest make up the selector. -/
theorem firstCompound_append (selector : Text) :
    (firstCompound selector).1 ++ (firstCompound selector).2 = selector :=
  Scan.span_append endsCompound Scan.start selector

end Selector

end CssTheming
