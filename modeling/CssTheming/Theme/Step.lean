import CssTheming.Theme.Resolver

/-!
# Steps

Everything that can be done to a stylesheet in the making, as data. A step that fails leaves the
stylesheet as it then is, and the next step goes on from there.
-/

namespace CssTheming

/-- Something that can be done to a stylesheet in the making. -/
inductive Step where
  /-- Opens a rule nested in the innermost open one. -/
  | openRule (list : SelectorList)
  /-- Opens a rule at the top level. -/
  | openAtRoot (list : SelectorList)
  /-- Opens a rule at the top level, with every host selector corrected. -/
  | openHostAware (lists : List SelectorList)
  /-- Opens a block for one feature. -/
  | openFeature (name : Text)
  /-- Closes the innermost open block. -/
  | close
  /-- Makes an addition. -/
  | write (w : Write)
  /-- Writes a declaration that uses a custom property. -/
  | emit (emitter : Emitter) (e : Emission)
  /-- Resolves a property and a value, and writes what comes of it. -/
  | apply (resolver : Resolver) (property : Text) (value : ThemeValue)
      (annotations : Option Annotations) (important : Bool) (replacements : Entries ThemeValue)
  /-- Resolves a property and a literal colour or theme role, and writes what comes of it. -/
  | prop (resolver : Resolver) (property style : Text) (important : Bool)
deriving Repr

namespace Step

/-- The resolution that a step rests on, with the feature that it belongs to. -/
def resolution? : Step → Option (Option Text × Except ThemeError Resolution)
  | apply r property value annotations important replacements =>
    some (r.feature, r.apply property value annotations important replacements)
  | prop r property style important => some (r.feature, r.prop property style important)
  | _ => none

/-- The use of a custom property that a step leaves to the emitter of its resolver. -/
def emission? (step : Step) : Option Emission :=
  step.resolution?.bind fun (_, resolution) => resolution.toOption.bind (·.emission?)

end Step

namespace Builder

/-- Makes the additions of a resolution, unless it is an error. -/
def enactResult (b : Builder) (feature : Option Text) :
    Except ThemeError Resolution → Outcome
  | .ok resolution => b.enact feature resolution
  | .error e => { builder := b, error? := some e }

/-- Does one step. -/
def step (b : Builder) : Step → Outcome
  | .openRule list => { builder := b.openRule list }
  | .openAtRoot list => { builder := b.openAtRoot list }
  | .openHostAware lists => { builder := b.openHostAware lists }
  | .openFeature name => { builder := b.openFeature name }
  | .close => { builder := b.close }
  | .write w => b.perform [w]
  | .emit emitter e => b.perform (emitter.writes e)
  | .apply r property value annotations important replacements =>
    b.enactResult r.feature (r.apply property value annotations important replacements)
  | .prop r property style important =>
    b.enactResult r.feature (r.prop property style important)

/-- Does steps one after the other, whether or not they fail. -/
def run (b : Builder) (steps : List Step) : Builder :=
  steps.foldl (fun b step => (b.step step).builder) b

end Builder

end CssTheming
