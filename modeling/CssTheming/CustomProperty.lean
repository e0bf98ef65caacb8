import CssTheming.Stylesheet.Basic

/-!
# Custom properties

A custom property is a variable of a stylesheet. A reference to it may carry a fallback, which is
used where the variable has no value.
-/

namespace CssTheming

/-- A reference to a custom property. -/
structure CustomProperty where
  /-- The name of the variable, which starts with two dashes. -/
  name : Text
  /-- The value that is used where the variable has none. -/
  fallback : Option Text := none
  /-- The annotations of every declaration that uses the property. -/
  annotations : Annotations := []
deriving Repr

namespace CustomProperty

/-- What the name of a variable starts with. -/
def dashes : Text := "--"

/-- A reference to the variable `name`, which is given its two dashes if it lacks them. -/
def named (name : Text) (fallback : Option Text) (annotations : Annotations) : CustomProperty where
  name := if dashes.isPrefixOf name then name else dashes ++ name
  fallback := fallback
  annotations := annotations

/-- The `var()` expression that stands for the property. -/
def var (custom : CustomProperty) : Text :=
  match custom.fallback with
  | none => "var(" ++ custom.name ++ ")"
  | some fallback => "var(" ++ custom.name ++ ", " ++ fallback ++ ")"

end CustomProperty

/-- The value of a property as it is handed in: a text, which may turn out to be a theme role, or a
    custom property. -/
inductive ThemeValue where
  /-- A text. -/
  | text (t : Text)
  /-- A custom property. -/
  | custom (property : CustomProperty)
deriving Repr

end CssTheming
