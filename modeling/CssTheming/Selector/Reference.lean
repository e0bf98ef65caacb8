import CssTheming.Selector.List

/-!
# Parent references and nesting

In a nested rule an ampersand outside strings and escapes, groups included, stands for the selector
of the enclosing rule. A selector without one is a descendant of it.
-/

namespace CssTheming

namespace Selector

/-- Whether the text, read from state `l`, holds a parent reference. -/
def refersFrom (l : Lexical) : Text → Bool
  | [] => false
  | c :: t => l.reads c && c == '&' || refersFrom (l.step c) t

/-- The text, read from state `l`, with `parent` for each parent reference. -/
def substituteFrom (parent : Text) (l : Lexical) : Text → Text
  | [] => []
  | c :: t =>
    (if l.reads c && c == '&' then parent else [c]) ++ substituteFrom parent (l.step c) t

/-- Whether a selector holds a parent reference. -/
def hasReference (selector : Text) : Bool :=
  refersFrom .code selector

/-- The selector with `parent` for each parent reference. -/
def substitute (parent selector : Text) : Text :=
  substituteFrom parent .code selector

/-- The selector `child`, nested in a rule for `parent`. -/
def nest (parent child : Text) : Text :=
  if hasReference child then substitute parent child else parent ++ " " ++ child

/-- A text without parent references stands for itself. -/
theorem substituteFrom_of_not_refers (parent : Text) {l : Lexical} {t : Text}
    (h : refersFrom l t = false) : substituteFrom parent l t = t := by
  induction t generalizing l with
  | nil => rfl
  | cons c t ih =>
    simp only [refersFrom, Bool.or_eq_false_iff] at h
    simp [substituteFrom, h.1, ih h.2]

end Selector

namespace SelectorList

/-- The selectors of the list `children` in a rule for `parents`: each parent in turn with each
    child. Without parents the children stand alone. -/
def nest (parents children : SelectorList) : List Text :=
  match flatten [parents] with
  | [] => flatten [children]
  | outer =>
    -- flattened once more, since different parents may give the same selector
    flatten [.items (outer.flatMap fun parent => (flatten [children]).map (Selector.nest parent))]

end SelectorList

end CssTheming
