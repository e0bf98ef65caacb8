import CssTheming.Json.Basic

/-!
# Stylesheets

A stylesheet consists of root definitions, which give custom properties their values, and of rules
in order. It is written as blocks: one for the root definitions if there are any, and one for every
rule that has declarations.

## Main definitions

* `Declaration`, `StyleRule`, `Stylesheet`: the parts of a stylesheet.
* `Block`: a heading with the statements below it, each with its annotations.
* `Stylesheet.blocks`, `Stylesheet.render`: the blocks of a stylesheet, and its text. -/

namespace CssTheming

/-- Annotations by name. -/
abbrev Annotations := Entries Json

namespace Annotations

/-- The annotation that marks a declaration as the alternative to the one before it. -/
def alternate : Text := "alternate"

/-- The written form of an annotation. One with the value null or false is switched off and not
    written, and one with the value true is written as its name alone. -/
def renderEntry? (name : Text) : Json → Option Text
  | .null => none
  | .bool false => none
  | .bool true => some ("@" ++ name)
  | value => some ("@" ++ name ++ " " ++ value.display)

/-- The written forms of annotations, in order. -/
def render (annotations : Annotations) : List Text :=
  annotations.filterMap fun entry => renderEntry? entry.1 entry.2

/-- The annotations, with the mark of an alternative. -/
def markAlternate (annotations : Annotations) : Annotations :=
  Entries.set annotations alternate (.bool true)

end Annotations

/-- A property with its value. -/
structure Declaration where
  /-- The name of the property. -/
  property : Text
  /-- The value. -/
  value : Text
  /-- Whether the declaration overrides those that are not important. -/
  important : Bool := false
  /-- Notes for the tools that process the stylesheet. -/
  annotations : Annotations := []
deriving Repr

/-- Declarations for the elements that the selectors match. -/
structure StyleRule where
  /-- The selectors. -/
  selectors : List Text
  /-- The declarations, in order. -/
  declarations : List Declaration
deriving Repr

/-- A stylesheet. -/
structure Stylesheet where
  /-- The values of custom properties, by name. -/
  root : Entries Text
  /-- The rules, in order. -/
  rules : List StyleRule
deriving Repr

/-- A line of a block: what is declared, and the written annotations that stand before it. -/
structure Statement where
  /-- The written annotations. -/
  annotations : List Text
  /-- The property and its value, without the semicolon. -/
  content : Text
deriving DecidableEq, Repr

/-- A heading and the statements in the braces behind it. -/
structure Block where
  /-- What stands before the opening brace. -/
  heading : Text
  /-- The statements, in order. -/
  statements : List Statement
deriving DecidableEq, Repr

/-- The space before the lines of a block. -/
def indentation : Text := "  "

/-- The lines of a statement, behind `indent`: a comment for each annotation, and the content. -/
def Statement.lines (indent : Text) (statement : Statement) : List Text :=
  statement.annotations.map (fun annotation => indent ++ "/* " ++ annotation ++ " */") ++
    [indent ++ statement.content ++ ";"]

/-- The text of a statement, behind `indent`. -/
def Statement.render (indent : Text) (statement : Statement) : Text :=
  Text.join "\n" (statement.lines indent)

/-- The text of a block. -/
def Block.render (block : Block) : Text :=
  block.heading ++ " \x7b\n" ++
    Text.join "\n" (block.statements.map (Statement.render indentation)) ++ "\n\x7d"

/-- The statement that makes a declaration. -/
def Declaration.statement (declaration : Declaration) : Statement where
  annotations := declaration.annotations.render
  content :=
    declaration.property ++ ": " ++ declaration.value ++
      (if declaration.important then " !important" else "" : String)

/-- The text of a declaration, behind `indent`. -/
def Declaration.render (indent : Text) (declaration : Declaration) : Text :=
  declaration.statement.render indent

/-- The block of a rule, headed by its selectors. -/
def StyleRule.block (rule : StyleRule) : Block where
  heading := Text.join ", " rule.selectors
  statements := rule.declarations.map (·.statement)

/-- The text of a rule. -/
def StyleRule.render (rule : StyleRule) : Text :=
  rule.block.render

namespace Stylesheet

/-- The rule that makes the root definitions. -/
def rootRule (root : Entries Text) : StyleRule where
  selectors := [":root"]
  declarations := root.map fun entry => { property := entry.1, value := entry.2 }

/-- The blocks of a stylesheet. The root definitions come first, and what would be empty is left
    out. -/
def blocks (sheet : Stylesheet) : List Block :=
  let rules := rootRule sheet.root :: sheet.rules
  (rules.filter fun rule => !rule.declarations.isEmpty).map (·.block)

/-- The text of a stylesheet: its blocks, with empty lines between them. -/
def render (sheet : Stylesheet) : Text :=
  match sheet.blocks with
  | [] => []
  | blocks => Text.join "\n\n" (blocks.map (·.render)) ++ "\n"

end Stylesheet

end CssTheming
