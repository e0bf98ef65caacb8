import CssTheming.Json.Basic

/-!
# Theme configurations

A configuration gives each theme role its value, and fixes how the custom properties of roles are
named and whether they are defined in the root of a stylesheet. Configurations are read from the
members of a JSON object.
-/

namespace CssTheming

/-- The values of the theme roles, in the order in which roles are listed. -/
abbrev Palette := Entries Text

/-- The roles of the standard palette. -/
def Palette.standard : Palette :=
  [("primary", "#6200ee"),
    ("secondary", "#018786"),
    ("background", "#fff"),
    ("surface", "#fff"),
    ("error", "#b00020"),
    ("on-primary", "#fff"),
    ("on-secondary", "#fff"),
    ("on-surface", "#000"),
    ("on-error", "#fff"),
    ("text-primary-on-background", "rgba(0, 0, 0, 0.87)"),
    ("text-secondary-on-background", "rgba(0, 0, 0, 0.54)"),
    ("text-hint-on-background", "rgba(0, 0, 0, 0.38)"),
    ("text-disabled-on-background", "rgba(0, 0, 0, 0.38)"),
    ("text-icon-on-background", "rgba(0, 0, 0, 0.38)"),
    ("text-primary-on-light", "rgba(0, 0, 0, 0.87)"),
    ("text-secondary-on-light", "rgba(0, 0, 0, 0.54)"),
    ("text-hint-on-light", "rgba(0, 0, 0, 0.38)"),
    ("text-disabled-on-light", "rgba(0, 0, 0, 0.38)"),
    ("text-icon-on-light", "rgba(0, 0, 0, 0.38)"),
    ("text-primary-on-dark", "white"),
    ("text-secondary-on-dark", "rgba(255, 255, 255, 0.7)"),
    ("text-hint-on-dark", "rgba(255, 255, 255, 0.5)"),
    ("text-disabled-on-dark", "rgba(255, 255, 255, 0.5)"),
    ("text-icon-on-dark", "rgba(255, 255, 255, 0.5)")]

/-- The configuration of a theme. -/
structure ThemeConfig where
  /-- The theme roles and their values. -/
  palette : Palette := Palette.standard
  /-- What the names of the custom properties of roles start with. -/
  namePrefix : Text := "theme"
  /-- Whether custom properties are defined in the root where they are used. -/
  emitRootDefinitions : Bool := true
deriving DecidableEq, Repr

/-- Why a JSON object is not a configuration. -/
inductive ConfigError where
  /-- The object has members of other names. -/
  | unknownKeys (keys : List Text)
  /-- The prefix is not a text. -/
  | prefixNotText
  /-- The choice about root definitions is not a truth value. -/
  | rootDefinitionsNotBool
  /-- The palette is not an object. -/
  | paletteNotObject
  /-- The value of a role in the palette is not a text. -/
  | valueNotText (role : Text)
deriving DecidableEq, Repr

/-- The message for an error. -/
def ConfigError.message : ConfigError → Text
  | unknownKeys keys => "Unknown config keys: " ++ Text.join ", " keys
  | prefixNotText => "Config 'prefix' must be a string"
  | rootDefinitionsNotBool => "Config 'emit_root_definitions' must be true or false"
  | paletteNotObject => "Config 'palette' must be a mapping of role to value"
  | valueNotText role =>
    "Config palette entry " ++ Text.quote role ++ " must map a string role to a string value"

namespace ThemeConfig

/-- The name of the custom property of a role. -/
def propertyName (config : ThemeConfig) (role : Text) : Text :=
  "--" ++ config.namePrefix ++ "-" ++ role

/-- The configuration with further values for roles. In their names underscores stand for dashes. -/
def withPalette (config : ThemeConfig) (overrides : Entries Text) : ThemeConfig :=
  { config with
    palette := config.palette.merge <|
      overrides.map fun entry => (entry.1.map fun c => if c = '_' then '-' else c, entry.2) }

/-- The names of the members that a configuration may have. -/
def memberNames : List Text :=
  ["palette", "prefix", "emit_root_definitions"]

/-- Reads the prefix. -/
def readPrefix : Json → Except ConfigError Text
  | .text t => .ok t
  | _ => .error .prefixNotText

/-- Reads the choice about root definitions. -/
def readRootDefinitions : Json → Except ConfigError Bool
  | .bool b => .ok b
  | _ => .error .rootDefinitionsNotBool

/-- Reads the value of a role. -/
def readValue : Text × Json → Except ConfigError (Text × Text)
  | (role, .text value) => .ok (role, value)
  | (role, _) => .error (.valueNotText role)

/-- Reads the palette. -/
def readPalette : Json → Except ConfigError Palette
  | .object members => members.mapM readValue
  | _ => .error .paletteNotObject

/-- Reads the member `name`, or gives it the value `default` if it is missing. -/
def readMember {α : Type} (members : Entries Json) (name : Text) (default : α)
    (read : Json → Except ConfigError α) : Except ConfigError α :=
  match members.get? name with
  | some value => read value
  | none => .ok default

/-- Reads a configuration from the members of an object. Members of other names are reported before
    any other error. -/
def ofMembers (members : Entries Json) : Except ConfigError ThemeConfig := do
  let unknown := members.keys.filter fun key => !memberNames.contains key
  unless unknown.isEmpty do throw (.unknownKeys (Text.sort unknown))
  let standard : ThemeConfig := {}
  -- of several faulty members the first in this order is reported
  let namePrefix ← readMember members "prefix" standard.namePrefix readPrefix
  let emitRootDefinitions ←
    readMember members "emit_root_definitions" standard.emitRootDefinitions readRootDefinitions
  let palette ← readMember members "palette" standard.palette readPalette
  return { palette, namePrefix, emitRootDefinitions }

end ThemeConfig

end CssTheming
