import CssTheming.Selector.Scan

/-!
# Selector lists

A selector list is given as text, in which commas separate the selectors, or as a sequence of
selectors. Either way its selectors are trimmed, and blank ones are dropped. Several lists are
flattened into one sequence without repetitions.
-/

namespace CssTheming

/-- A selector list, as it is handed in. -/
inductive SelectorList where
  /-- Selectors separated by top-level commas. -/
  | text (t : Text)
  /-- Selectors that have been separated before. -/
  | items (selectors : List Text)
deriving DecidableEq, Repr

namespace SelectorList

/-- The parts, trimmed, without those that are blank. -/
def trimAll (parts : List Text) : List Text :=
  (parts.map Text.trim).filter fun part => !part.isEmpty

/-- The selectors of a text, in which top-level commas separate them. -/
def split (t : Text) : List Text :=
  trimAll (Scan.start.splitOn (· == ',') t)

/-- The selectors of a list, in order and with repetitions. -/
def selectors : SelectorList → List Text
  | text t => split t
  | items parts => trimAll parts

/-- The selectors of all lists, in order, each only where it occurs first. -/
def flatten (lists : List SelectorList) : List Text :=
  (lists.flatMap selectors).eraseDups

/-- The selectors of a list, each with `suffix` appended. -/
def append (list : SelectorList) (suffix : Text) : List Text :=
  (flatten [list]).map (· ++ suffix)

end SelectorList

end CssTheming
