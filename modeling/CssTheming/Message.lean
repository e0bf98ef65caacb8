import CssTheming.Text.Quoted

/-!
# Messages

What building a stylesheet tells: the errors for which a declaration cannot be made, and the events
that are worth a line in a debug log.
-/

namespace CssTheming

/-! ## Errors -/

/-- Why a declaration cannot be made. -/
inductive ThemeError where
  /-- No rule is open that could take a declaration of `property`. -/
  | outsideRule (property : Text)
  /-- The replacement for `name` in the value of `property` is a custom property without
      fallback. -/
  | replacementWithoutFallback (name property : Text)
  /-- The value `style` is neither a literal colour nor one of the theme roles. -/
  | invalidStyle (style : Text) (roles : List Text) (property : Option Text)
deriving DecidableEq, Repr

namespace ThemeError

/-- The message for an error. -/
def message : ThemeError → Text
  | outsideRule property => "Cannot declare '" ++ property ++ "' outside of a rule"
  | replacementWithoutFallback name property =>
    "Replacement '" ++ name ++ "' for " ++ property ++ " needs a fallback value"
  | invalidStyle style roles _ =>
    "Invalid style: '" ++ style ++ "'. Choose one of: " ++ Text.join ", " roles

/-- The property that could not be declared, if one was named. -/
def property? : ThemeError → Option Text
  | outsideRule property => some property
  | replacementWithoutFallback _ property => some property
  | invalidStyle _ _ property => property

end ThemeError

/-! ## Log records -/

/-- An event that is worth a line in a debug log. -/
inductive LogRecord where
  /-- The host selector `selector` was corrected to `fixed`. -/
  | hostFixed (selector fixed : Text)
  /-- The value of `property` was found to be the theme role `role`. -/
  | roleResolved (role property : Text)
  /-- A declaration of `property` was dropped inside blocks for `features`, outermost first. -/
  | declarationDropped (property : Text) (features : List Text)
deriving DecidableEq, Repr

namespace LogRecord

/-- The name of the log that a record goes to. -/
def logger : LogRecord → Text
  | hostFixed .. => "themecss.selector.host"
  | roleResolved .. => "themecss.theme.resolver"
  | declarationDropped .. => "themecss.stylesheet.builder"

/-- The message of a record. -/
def message : LogRecord → Text
  | hostFixed selector fixed =>
    "Rewrote host selector " ++ Text.quote selector ++ " -> " ++ Text.quote fixed
  | roleResolved role property =>
    "Resolved theme role " ++ Text.quote role ++ " for " ++ property
  | declarationDropped property features =>
    "Dropped " ++ property ++ ": features " ++ Text.quoteAll features ++ " not queried"

/-- The line of a record: its level, its log and its message. -/
def line (record : LogRecord) : Text :=
  "DEBUG " ++ record.logger ++ ": " ++ record.message

end LogRecord

end CssTheming
