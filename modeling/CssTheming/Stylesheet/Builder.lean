import CssTheming.Feature
import CssTheming.Message
import CssTheming.Selector.Host
import CssTheming.Selector.Reference
import CssTheming.Stylesheet.Basic

/-!
# Building a stylesheet

A stylesheet is built by opening and closing blocks and by declaring properties inside them. A rule
block takes declarations; rules may be nested. A feature block lets what is written inside it take
effect only if the query includes its feature. Blocks of both kinds may be nested in any way, and
what is closed is always the innermost one.

Nothing that was built is ever changed: rules are added behind the others when they are opened, and
declarations behind the others of their rule.

## Main definitions

* `OpenBlocks`: the rules and features of the open blocks, and in which order they are closed.
* `Builder`: what was built so far, and the open blocks.
* `Builder.openRule`, `Builder.openAtRoot`, `Builder.openHostAware`, `Builder.openFeature`,
  `Builder.close`: opening and closing blocks.
* `Write`, `Builder.write`, `Builder.perform`: adding declarations and root definitions. -/

namespace CssTheming

/-- What a block is for. -/
inductive BlockKind where
  /-- It takes declarations. -/
  | rule
  /-- It is for one feature. -/
  | feature
deriving DecidableEq, Repr

/-- The blocks that have been opened and not yet closed. Rules and features are kept apart, since
    declarations only ask for the innermost rule and the query for all features. -/
@[ext]
structure OpenBlocks where
  /-- The indices of the open rules among the rules built so far, innermost first. -/
  rules : List Nat
  /-- The features of the open feature blocks, outermost first. -/
  features : List Text
  /-- The kinds of the open blocks, innermost first: what is closed next. -/
  kinds : List BlockKind
  /-- There is an index for every rule block. -/
  length_rules : rules.length = kinds.count .rule
  /-- There is a name for every feature block. -/
  length_features : features.length = kinds.count .feature
deriving Repr

namespace OpenBlocks

/-- No block is open. -/
def none : OpenBlocks where
  rules := []
  features := []
  kinds := []
  length_rules := rfl
  length_features := rfl

/-- A rule block is opened inside the others. -/
def openRule (blocks : OpenBlocks) (index : Nat) : OpenBlocks where
  rules := index :: blocks.rules
  features := blocks.features
  kinds := .rule :: blocks.kinds
  length_rules := by simp [blocks.length_rules]
  length_features := by simp [blocks.length_features]

/-- A feature block is opened inside the others. -/
def openFeature (blocks : OpenBlocks) (name : Text) : OpenBlocks where
  rules := blocks.rules
  features := blocks.features ++ [name]
  kinds := .feature :: blocks.kinds
  length_rules := by simp [blocks.length_rules]
  length_features := by simp [blocks.length_features]

/-- The innermost block is closed, whichever kind it is of. -/
def close (blocks : OpenBlocks) : OpenBlocks :=
  match h : blocks.kinds with
  | [] => blocks
  | .rule :: kinds =>
    { rules := blocks.rules.tail
      features := blocks.features
      kinds
      length_rules := by simp [blocks.length_rules, h]
      length_features := by simp [blocks.length_features, h] }
  | .feature :: kinds =>
    { rules := blocks.rules
      features := blocks.features.dropLast
      kinds
      length_rules := by simp [blocks.length_rules, h]
      length_features := by simp [blocks.length_features, h] }

end OpenBlocks

/-- A stylesheet in the making. -/
structure Builder where
  /-- The features that the stylesheet includes. -/
  query : FeatureQuery := {}
  /-- The root definitions so far. -/
  root : Entries Text := []
  /-- The rules so far, in the order in which they were opened. -/
  rules : List StyleRule := []
  /-- The open blocks. -/
  openBlocks : OpenBlocks := .none
  /-- The log records so far, oldest first. -/
  log : List LogRecord := []
deriving Repr

/-- An addition to a stylesheet in the making. -/
inductive Write where
  /-- Defines a custom property in the root, unless it is defined there already. -/
  | defineRoot (name value : Text)
  /-- Adds a declaration to the innermost open rule. -/
  | declare (declaration : Declaration)
deriving Repr

/-- What an operation leaves behind, and the error that stopped it, if any. -/
structure Outcome where
  /-- The stylesheet in the making after the operation. -/
  builder : Builder
  /-- The error that stopped the operation. -/
  error? : Option ThemeError := none
deriving Repr

namespace Builder

/-- The indices of the open rules, innermost first. -/
def openRules (b : Builder) : List Nat :=
  b.openBlocks.rules

/-- The features of the open feature blocks, outermost first. -/
def openFeatures (b : Builder) : List Text :=
  b.openBlocks.features

/-- Whether what is written now takes effect: the query includes all features of open blocks. -/
def emitting (b : Builder) : Bool :=
  b.openFeatures.all b.query.includes

/-- The selectors of the innermost open rule; none if no rule is open. -/
def currentSelectors (b : Builder) : List Text :=
  -- rules are never taken away, so the index of an open rule always finds it
  match b.openRules.head?.bind (b.rules[·]?) with
  | some rule => rule.selectors
  | none => []

/-! ## Blocks -/

/-- Adds a rule with the given selectors and opens it. -/
def openSelectors (b : Builder) (selectors : List Text) : Builder :=
  { b with
    rules := b.rules ++ [{ selectors, declarations := [] }]
    openBlocks := b.openBlocks.openRule b.rules.length }

/-- Opens a rule nested in the innermost open one. -/
def openRule (b : Builder) (list : SelectorList) : Builder :=
  b.openSelectors (SelectorList.nest (.items b.currentSelectors) list)

/-- Opens a rule at the top level, whatever rules are open. -/
def openAtRoot (b : Builder) (list : SelectorList) : Builder :=
  b.openSelectors (SelectorList.flatten [list])

/-- Opens a rule at the top level for several selector lists, with every host selector corrected. -/
def openHostAware (b : Builder) (lists : List SelectorList) : Builder :=
  { b with log := b.log ++ SelectorList.hostAwareLog lists }.openAtRoot
    (.items (SelectorList.hostAware lists))

/-- Opens a block for one feature. -/
def openFeature (b : Builder) (feature : Text) : Builder :=
  { b with openBlocks := b.openBlocks.openFeature feature }

/-- Closes the innermost open block. -/
def close (b : Builder) : Builder :=
  { b with openBlocks := b.openBlocks.close }

/-! ## Additions -/

/-- Adds a declaration to the innermost open rule. It is an error if there is none, whether or not
    the declaration would take effect. -/
def declare (b : Builder) (declaration : Declaration) : Except ThemeError Builder :=
  match b.openRules with
  | [] => .error (.outsideRule declaration.property)
  | index :: _ =>
    -- open feature blocks count on both sides of the innermost rule
    if b.emitting then
      .ok { b with
        rules := b.rules.modify index fun rule =>
          { rule with declarations := rule.declarations ++ [declaration] } }
    else
      .ok { b with
        log := b.log ++ [.declarationDropped declaration.property b.openFeatures] }

/-- Defines a custom property in the root. The first definition of a name counts. -/
def defineRoot (b : Builder) (name value : Text) : Builder :=
  if b.emitting then { b with root := b.root.setIfNew name value } else b

/-- Makes one addition. -/
def write (b : Builder) : Write → Except ThemeError Builder
  | .defineRoot name value => .ok (b.defineRoot name value)
  | .declare declaration => b.declare declaration

/-- Makes additions one after the other, up to the first that fails. Those before it stay. -/
def perform (b : Builder) : List Write → Outcome
  | [] => { builder := b }
  | w :: ws =>
    match b.write w with
    | .ok b' => b'.perform ws
    | .error e => { builder := b, error? := some e }

/-! ## Results -/

/-- The stylesheet built so far. -/
def build (b : Builder) : Stylesheet where
  root := b.root
  rules := b.rules

/-- The text of the stylesheet built so far. -/
def render (b : Builder) : Text :=
  b.build.render

end Builder

end CssTheming
