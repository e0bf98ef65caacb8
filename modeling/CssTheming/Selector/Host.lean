import CssTheming.Message
import CssTheming.Selector.Group
import CssTheming.Selector.List

/-!
# Host selectors

The pseudo-class `:host` takes the rest of its compound selector as an argument: `:host:hover` has
to be written `:host(:hover)`, and `:host([outlined]):hover` as `:host([outlined]:hover)`. A host
selector is read into its parts, and written again with whatever trails `:host` or its group moved
into the argument. What follows the first compound is left alone.

## Main definitions

* `HostSelector.parse?`: the parts of a selector whose first compound starts with `:host`.
* `HostSelector.toText`, `HostSelector.fixed`: the selector as it was, and its corrected form.
* `SelectorList.hostAware`: several selector lists as one, every host selector corrected. -/

namespace CssTheming

/-- A selector whose first compound starts with `:host`. -/
structure HostSelector where
  /-- The text inside the group of `:host(...)`; a bare `:host` has none. -/
  argument : Option Text
  /-- What follows `:host` or its group within the first compound. -/
  trailing : Text
  /-- The first combinator and all that follows. -/
  rest : Text
  /-- Whether the group is closed; a bare `:host` has none to close. -/
  closed : Bool
deriving DecidableEq, Repr

namespace HostSelector

/-- The pseudo-class that stands for the host element. -/
def keyword : Text := ":host"

/-- Whether `c`, right behind `:host`, makes the name of another pseudo-class of it. -/
def continuesName (c : Char) : Bool :=
  Text.isAlphanumeric c || c == '-' || c == '_'

/-- The parts of a selector, given the text behind `:host`. -/
def ofAfterKeyword (after : Text) : HostSelector :=
  match Selector.firstCompound after with
  | ('(' :: inside, rest) =>
    match Group.cut inside with
    | some (argument, trailing) => { argument, trailing, rest, closed := true }
    -- without its closing parenthesis the group takes all that is left of the compound
    | none => { argument := inside, trailing := [], rest, closed := false }
  | (trailing, rest) => { argument := none, trailing, rest, closed := true }

/-- The parts of a selector, if its first compound starts with the pseudo-class `:host`. -/
def parse? (selector : Text) : Option HostSelector :=
  match keyword.isPrefixOf? selector.trim with
  | none => none
  -- `:host-context` and the like are pseudo-classes of their own
  | some after => if after.head?.any continuesName then none else some (ofAfterKeyword after)

/-- Whether the selector has to be corrected: something trails `:host` or its group, or the group is
    not closed. -/
def needsFix (host : HostSelector) : Bool :=
  !host.trailing.isEmpty || !host.closed

/-- The selector as it was read. -/
def toText (host : HostSelector) : Text :=
  let head : Text := match host.argument with
    | none => keyword
    | some argument => keyword ++ "(" ++ argument ++ (if host.closed then ")" else "")
  head ++ host.trailing ++ host.rest

/-- The selector with what trails moved into the argument. -/
def fixed (host : HostSelector) : Text :=
  if host.needsFix then
    keyword ++ "(" ++ host.argument.getD [] ++ host.trailing ++ ")" ++ host.rest
  else host.toText

end HostSelector

namespace Selector

/-- The corrected form of a selector that is a host selector in need of correction. -/
def hostFix? (selector : Text) : Option Text :=
  ((HostSelector.parse? selector).filter (·.needsFix)).map (·.fixed)

/-- Whether a selector is a host selector in need of correction. -/
def needsHostFix (selector : Text) : Bool :=
  (hostFix? selector).isSome

/-- The selector, trimmed, and corrected if it is a host selector in need of it. -/
def fixHost (selector : Text) : Text :=
  (hostFix? selector).getD selector.trim

/-- The log records of correcting a selector. -/
def fixHostLog (selector : Text) : List LogRecord :=
  ((hostFix? selector).map (LogRecord.hostFixed selector)).toList

end Selector

namespace SelectorList

/-- The selectors of all lists with every host selector corrected, each only where it occurs
    first. -/
def hostAware (lists : List SelectorList) : List Text :=
  flatten [.items ((flatten lists).map Selector.fixHost)]

/-- The log records of `hostAware`. -/
def hostAwareLog (lists : List SelectorList) : List LogRecord :=
  (flatten lists).flatMap Selector.fixHostLog

end SelectorList

end CssTheming
