import CssTheming.CustomProperty
import CssTheming.Stylesheet.Builder

/-!
# Emitting custom properties

A declaration that uses a custom property is written twice: first with the fallback, for browsers
without custom properties, and then with the `var()` expression, marked as the alternative. Without
a fallback only the second is written, unmarked.
-/

namespace CssTheming

/-- A declaration that uses a custom property, before it is written. -/
structure Emission where
  /-- The property to declare. -/
  property : Text
  /-- The custom property that gives it its value. -/
  custom : CustomProperty
  /-- Annotations beside those of the custom property, if any were handed in. -/
  annotations : Option Annotations := none
  /-- Whether the declaration is important. -/
  important : Bool := false
deriving Repr

/-- The ways to write declarations that use custom properties. -/
inductive Emitter where
  /-- Writes fallback and alternative, and perhaps defines the custom property in the root. -/
  | fallbackAndVar (rootDefinitions : Bool)
  /-- Writes nothing. -/
  | silent
deriving DecidableEq, Repr

namespace Emission

/-- The annotations of the custom property, and then those that were handed in. -/
def allAnnotations (e : Emission) : Annotations :=
  e.custom.annotations.merge (e.annotations.getD [])

/-- The declaration with a given value. -/
def declaration (e : Emission) (value : Text) (annotations : Annotations) : Declaration where
  property := e.property
  value := value
  important := e.important
  annotations := annotations

/-- The additions to a stylesheet that make the declaration, with a root definition if one is wanted
    and there is a fallback. -/
def writes (e : Emission) (rootDefinitions : Bool) : List Write :=
  let annotations := e.allAnnotations
  match e.custom.fallback with
  | none => [.declare (e.declaration e.custom.var annotations)]
  | some fallback =>
    -- the root definition does not wait for the declarations to be accepted
    (if rootDefinitions then [.defineRoot e.custom.name fallback] else []) ++
      [.declare (e.declaration fallback annotations),
        .declare (e.declaration e.custom.var annotations.markAlternate)]

end Emission

/-- The additions to a stylesheet by which an emitter makes a declaration. -/
def Emitter.writes : Emitter → Emission → List Write
  | fallbackAndVar rootDefinitions, e => e.writes rootDefinitions
  | silent, _ => []

end CssTheming
