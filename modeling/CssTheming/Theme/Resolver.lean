import CssTheming.Theme.Colour
import CssTheming.Theme.Config
import CssTheming.Theme.Emission
import CssTheming.Theme.Replacement

/-!
# Resolving theme values

A resolver turns a property and a value into declarations. The value is a custom property, the name
of a theme role, which stands for a custom property with the value of the role as fallback, or a
literal value, in which names may be replaced. What is to be written is worked out first, and either
it is written or there is an error; the stylesheet plays no part in that.

## Main definitions

* `Resolver.apply`: the resolution of any value.
* `Resolver.prop`: the resolution of a value that has to be a literal colour or a theme role. -/

namespace CssTheming

/-- A theme, with the way in which it is written. -/
structure Resolver where
  /-- The theme roles and the names of their custom properties. -/
  config : ThemeConfig := {}
  /-- The way in which custom properties are written. -/
  emitter : Emitter := .fallbackAndVar config.emitRootDefinitions
  /-- The feature that all declarations belong to, if any. -/
  feature : Option Text := some "color"
deriving Repr

/-- What a resolver makes of a property and a value. -/
structure Resolution where
  /-- The log records of finding out. -/
  log : List LogRecord := []
  /-- The use of a custom property that was left to the emitter. -/
  emission? : Option Emission := none
  /-- The additions to the stylesheet. -/
  writes : List Write
deriving Repr

/-- The texts that take the place of a name. -/
structure ReplacementTexts where
  /-- The text in the static declaration. -/
  static : Text
  /-- The text in its alternative. -/
  dynamic : Text
deriving DecidableEq, Repr

namespace Resolver

/-- The names of the theme roles, in order. -/
def roles (r : Resolver) : List Text :=
  r.config.palette.keys

/-- Whether a text is the name of a theme role. -/
def isRole (r : Resolver) (t : Text) : Bool :=
  r.config.palette.contains t

/-- The custom property that stands for a theme role. -/
def roleProperty? (r : Resolver) (role : Text) : Option CustomProperty :=
  (r.config.palette.get? role).map fun value =>
    .named (r.config.propertyName role) (some value) []

/-- The custom property that stands for a theme role, or the error that there is no such role. -/
def roleProperty (r : Resolver) (role : Text) : Except ThemeError CustomProperty :=
  match r.roleProperty? role with
  | some custom => .ok custom
  | none => .error (.invalidStyle role r.roles none)

/-- The texts that take the place of `name` in the value of `property`, where `name` stands for a
    custom property. -/
def customTexts (property name : Text) (custom : CustomProperty) :
    Except ThemeError ReplacementTexts :=
  match custom.fallback with
  | some fallback => .ok { static := fallback, dynamic := custom.var }
  | none => .error (.replacementWithoutFallback name property)

/-- The texts that take the place of `name` in the value of `property`. -/
def replacementTexts (r : Resolver) (property name : Text) :
    ThemeValue → Except ThemeError ReplacementTexts
  | .custom custom => customTexts property name custom
  | .text t =>
    match r.roleProperty? t with
    | some custom => customTexts property name custom
    | none => .ok { static := t, dynamic := t }

/-- The declarations of a literal value with names to be replaced. The static one comes first, and
    its alternative follows if it differs. -/
def replaceWrites (r : Resolver) (declaration : Declaration) (replacements : Entries ThemeValue) :
    Except ThemeError (List Write) := do
  let texts ← replacements.mapM fun (name, value) => do
    return (name, ← r.replacementTexts declaration.property name value)
  let static :=
    Replacement.replaceAll (texts.map fun (name, t) => (name, t.static)) declaration.value
  let dynamic :=
    Replacement.replaceAll (texts.map fun (name, t) => (name, t.dynamic)) declaration.value
  -- texts that are not custom properties are the same in both, and need no alternative
  return .declare { declaration with value := static } ::
    if dynamic = static then []
    else
      [.declare { declaration with
        value := dynamic, annotations := declaration.annotations.markAlternate }]

/-- The resolution of a property and a value. Names are replaced in literal values only. -/
def apply (r : Resolver) (property : Text) (value : ThemeValue)
    (annotations : Option Annotations := none) (important : Bool := false)
    (replacements : Entries ThemeValue := []) : Except ThemeError Resolution :=
  let emit (log : List LogRecord) (custom : CustomProperty) : Resolution :=
    let e : Emission := { property, custom, annotations, important }
    { log, emission? := some e, writes := r.emitter.writes e }
  match value with
  | .custom custom => .ok (emit [] custom)
  | .text t =>
    match r.roleProperty? t with
    | some custom => .ok (emit [.roleResolved t property] custom)
    | none => do
      let declaration : Declaration :=
        { property, value := t, important, annotations := annotations.getD [] }
      if replacements.isEmpty then return { writes := [.declare declaration] }
      else return { writes := ← r.replaceWrites declaration replacements }

/-- The resolution of a property and a value that has to be a literal colour or a theme role. -/
def prop (r : Resolver) (property style : Text) (important : Bool := false) :
    Except ThemeError Resolution :=
  -- a role that is called like a colour stands for the colour
  if Colour.isLiteral style then
    .ok { writes := [.declare { property, value := style, important }] }
  else if r.isRole style then r.apply property (.text style) none important
  else .error (.invalidStyle style r.roles (some property))

end Resolver

namespace Builder

/-- Makes the additions of a resolution inside a block for `feature`, if one is given. -/
def enact (b : Builder) (feature : Option Text) (resolution : Resolution) : Outcome :=
  -- the additions may leave records of their own, which come behind those of the resolution
  let logged := { b with log := b.log ++ resolution.log }
  match feature with
  | none => logged.perform resolution.writes
  | some name =>
    let outcome := (logged.openFeature name).perform resolution.writes
    { outcome with builder := outcome.builder.close }

end Builder

end CssTheming
