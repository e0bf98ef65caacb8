import CssTheming.Text.Basic

/-!
# Feature queries

A query selects the features that a build includes. It names features to include, features to
exclude, or both: an excluded feature is never included, and if no feature is named for inclusion
every other one is included.
-/

namespace CssTheming

/-- A selection of features. -/
structure FeatureQuery where
  /-- The features named for inclusion; `none` includes every feature. -/
  included : Option (List Text) := none
  /-- The features excluded, whatever else is named. -/
  excluded : List Text := []
deriving DecidableEq, Repr

namespace FeatureQuery

/-- Whether the query includes a feature. -/
def includes (query : FeatureQuery) (feature : Text) : Bool :=
  !query.excluded.contains feature && query.included.all (·.contains feature)

/-- The name of the feature that an item of a query excludes, if it starts with a minus sign. -/
def excludedName? : Text → Option Text
  | '-' :: name => some (Text.trim name)
  | _ => none

/-- The items of a query, trimmed; blank ones are dropped. -/
def items (t : Text) : List Text :=
  ((List.splitOn ',' t).map Text.trim).filter fun item => !item.isEmpty

/-- Reads a query: names separated by commas, with a minus sign before each excluded one. -/
def parse (t : Text) : FeatureQuery :=
  let named := (items t).filter fun item => (excludedName? item).isNone
  { included := if named.isEmpty then none else some named.eraseDups
    excluded := ((items t).filterMap excludedName?).eraseDups }

end FeatureQuery

end CssTheming
