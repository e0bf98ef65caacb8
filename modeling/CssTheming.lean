import CssTheming.CommandLine.Console
import CssTheming.CommandLine.Invocation
import CssTheming.CommandLine.Options
import CssTheming.CommandLine.Run
import CssTheming.CustomProperty
import CssTheming.Decimal.Binary64
import CssTheming.Decimal.Shortest
import CssTheming.Entries
import CssTheming.Feature
import CssTheming.Json.Basic
import CssTheming.Json.Fault
import CssTheming.Json.Reader
import CssTheming.Json.Scalar
import CssTheming.Main
import CssTheming.Message
import CssTheming.Selector.Group
import CssTheming.Selector.Host
import CssTheming.Selector.List
import CssTheming.Selector.Reference
import CssTheming.Selector.Scan
import CssTheming.Stylesheet.Basic
import CssTheming.Stylesheet.Builder
import CssTheming.Text.Basic
import CssTheming.Text.Characters
import CssTheming.Text.Quoted
import CssTheming.Theme.Colour
import CssTheming.Theme.Config
import CssTheming.Theme.ConfigFile
import CssTheming.Theme.Emission
import CssTheming.Theme.Replacement
import CssTheming.Theme.Resolver
import CssTheming.Theme.Step
import CssTheming.Proofs.CommandLine.Console
import CssTheming.Proofs.CommandLine.HostVariants
import CssTheming.Proofs.CommandLine.PropEnding
import CssTheming.Proofs.Entries
import CssTheming.Proofs.Feature
import CssTheming.Proofs.List
import CssTheming.Proofs.Selector.Associativity
import CssTheming.Proofs.Selector.AtomicSelectors
import CssTheming.Proofs.Selector.Clean
import CssTheming.Proofs.Selector.Compound
import CssTheming.Proofs.Selector.Flatten
import CssTheming.Proofs.Selector.Group
import CssTheming.Proofs.Selector.GroupEnds
import CssTheming.Proofs.Selector.HostAppend
import CssTheming.Proofs.Selector.HostFixedPoint
import CssTheming.Proofs.Selector.HostLists
import CssTheming.Proofs.Selector.HostNormalForm
import CssTheming.Proofs.Selector.HostOffsets
import CssTheming.Proofs.Selector.HostOpenGroup
import CssTheming.Proofs.Selector.HostParts
import CssTheming.Proofs.Selector.HostRest
import CssTheming.Proofs.Selector.Nesting
import CssTheming.Proofs.Selector.References
import CssTheming.Proofs.Selector.Resplitting
import CssTheming.Proofs.Selector.SplitReferences
import CssTheming.Proofs.Selector.Splitting
import CssTheming.Proofs.Stylesheet.Alternates
import CssTheming.Proofs.Stylesheet.AppendOnly
import CssTheming.Proofs.Stylesheet.BlankSelectors
import CssTheming.Proofs.Stylesheet.FailedSteps
import CssTheming.Proofs.Stylesheet.OpenBlocks
import CssTheming.Proofs.Stylesheet.Plan
import CssTheming.Proofs.Stylesheet.Program
import CssTheming.Proofs.Stylesheet.QueryFilter
import CssTheming.Proofs.Stylesheet.Rendering
import CssTheming.Proofs.Stylesheet.RootDefinitions
import CssTheming.Proofs.Stylesheet.RuleSelectors
import CssTheming.Proofs.Stylesheet.Steps
import CssTheming.Proofs.Text.Pieces
import CssTheming.Proofs.Text.Trim
import CssTheming.Proofs.Theme.ColourGrammar
import CssTheming.Proofs.Theme.EntryOrder
import CssTheming.Proofs.Theme.ReplacedValues
import CssTheming.Proofs.Theme.Segments
import CssTheming.Proofs.Theme.WholeWords
