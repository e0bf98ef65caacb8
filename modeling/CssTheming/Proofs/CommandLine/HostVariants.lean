import CssTheming.Proofs.CommandLine.Console
import CssTheming.Proofs.Selector.Nesting
import CssTheming.Proofs.Stylesheet.Program

/-!
# Printing corrected host selectors

The command that corrects host selectors appends suffixes to the selectors as they were handed in,
repetitions included. A stylesheet takes them from an open rule, where there are no repetitions any
more. In the end both have the same selectors: repetitions are removed when everything is flattened,
and where they have been removed before makes no difference.

What is printed of a selector is up to the console. Where styles are not wanted, a selector with a
style code in it is printed without the code.

## Main definitions

- `SelectorList.variants`: a list, and again with each suffix appended
- `Builder.openVariants`: a rule, and inside it one for the variants of its selectors

## Key results

- `SelectorList.flatten_variants_flatten`: the variants of a list are those of the flattened list
- `command_prints_selectors_of_rule`: the command prints the selectors of a rule for the variants
-/

namespace CssTheming

namespace SelectorList

/-- A list, and again with each suffix appended to all its selectors. -/
def variants (list : SelectorList) (suffixes : List Text) : List SelectorList :=
  list :: suffixes.map fun suffix => .items (list.append suffix)

/-- It makes no difference whether repetitions are removed before suffixes are appended. -/
theorem flatten_variants_flatten (list : SelectorList) (suffixes : List Text) :
    flatten (variants (.items (flatten [list])) suffixes) = flatten (variants list suffixes) := by
  -- appending flattens the list itself, so the suffixed lists are the same
  have happend (suffix : Text) :
      append (.items (flatten [list])) suffix = list.append suffix := by
    rw [append, append, flatten_items_flatten]
  rw [variants, variants, flatten_cons_items_flatten]
  simp only [happend]

end SelectorList

namespace Builder

open SelectorList

/-- Opens a rule, and inside it one for its selectors and again with each suffix appended, with
    every host selector corrected. -/
def openVariants (b : Builder) (list : SelectorList) (suffixes : List Text) : Builder :=
  let outer := b.openRule list
  outer.openHostAware (variants (.items outer.currentSelectors) suffixes)

/-- With no rule open, a rule has the selectors that it is given. -/
private theorem openRule_of_currentSelectors_eq_nil {b : Builder} (h : b.currentSelectors = [])
    (list : SelectorList) : b.openRule list = b.openSelectors (flatten [list]) := by
  have hparents : flatten [.items b.currentSelectors] = [] := by
    rw [h]
    rfl
  rw [openRule, nest_of_flatten_eq_nil hparents]

/-- With no rule open, the rule for the variants of a list has their corrected selectors, and each
    correction is recorded. -/
private theorem openVariants_of_currentSelectors_eq_nil {b : Builder} (h : b.currentSelectors = [])
    (list : SelectorList) (suffixes : List Text) :
    (b.openVariants list suffixes).currentSelectors = hostAware (variants list suffixes) ∧
      (b.openVariants list suffixes).log = b.log ++ hostAwareLog (variants list suffixes) := by
  have houter := openRule_of_currentSelectors_eq_nil h list
  simp only [openVariants, houter, currentSelectors_openSelectors]
  rw [openHostAware_eq, currentSelectors_openSelectors, hostAware, hostAwareLog,
    flatten_variants_flatten]
  exact ⟨rfl, rfl⟩

end Builder

namespace CommandLine

/-- The command prints the corrected selectors of the variants, each as a line. -/
private theorem fixHost_eq (lists suffixes : List Text) :
    fixHost lists suffixes =
      { result := .ok ((SelectorList.hostAware
          (SelectorList.variants (.items (lists.flatMap SelectorList.split)) suffixes)).map
            (· ++ ['\n']))
        log := SelectorList.hostAwareLog
          (SelectorList.variants (.items (lists.flatMap SelectorList.split)) suffixes) } :=
  rfl

end CommandLine

/-- The command that corrects host selectors succeeds if its selectors can be encoded. It prints a
    line for every selector of the rule that a stylesheet has for the variants of the selectors, and
    if log lines are wanted, one for every correction that is made for the rule. A selector is
    printed as it is on a terminal, and also elsewhere if there is no style code in it. -/
theorem command_prints_selectors_of_rule {console : Console} (hconsole : console.Documented)
    (query : FeatureQuery) (lists suffixes : List Text) (verbose : Bool)
    (content : Option ByteArray) {rule : Builder}
    (hrule : rule = ({ query } : Builder).openVariants
      (.items (lists.flatMap SelectorList.split)) suffixes)
    (hencodes : ∀ s ∈ rule.currentSelectors, ∀ c ∈ s ++ ['\n'],
      console.encodes .output c = true) :
    CommandLine.answer console
        (some (.invoke { command := .fixHost lists suffixes, verbose })) content =
      .finished 0 (rule.currentSelectors.flatMap fun s => console.shown .output (s ++ ['\n']))
        (CommandLine.logLines verbose rule.log) ∧
    ∀ s ∈ rule.currentSelectors,
      console.isTerminal .output = true ∨ Text.escapeChar ∉ s →
        console.shown .output (s ++ ['\n']) = s ++ ['\n'] := by
  obtain ⟨hselectors, hlog⟩ := Builder.openVariants_of_currentSelectors_eq_nil
    (b := { query }) rfl (.items (lists.flatMap SelectorList.split)) suffixes
  rw [← hrule] at hselectors hlog
  constructor
  · -- the arguments are carried out without a configuration
    have hanswer : CommandLine.answer console
        (some (.invoke { command := .fixHost lists suffixes, verbose })) content =
          CommandLine.conclude console verbose (CommandLine.fixHost lists suffixes) := rfl
    rw [hanswer, CommandLine.fixHost_eq, ← hselectors, CommandLine.conclude_ok hconsole,
      List.flatMap_map, hlog]
    · rfl
    · exact List.forall_mem_map.2 hencodes
  · intro s _ hplain
    refine hconsole.shown_eq (hplain.imp_right fun hescape hmem => ?_)
    -- the line feed behind the selector is no escape character
    rcases List.mem_append.1 hmem with hmem | hmem
    · exact hescape hmem
    · cases List.mem_singleton.1 hmem

/-- A selector that is handed in twice is printed once, also with the suffix. -/
theorem command_prints_selectors_of_rule_of_repeated_selector :
    CommandLine.answer (.unicode fun _ => false)
        (some (.invoke { command := .fixHost [":host:hover, p", " p "] [":focus"] })) none =
      .finished 0 ":host(:hover)\np\n:host(:hover:focus)\np:focus\n" [] := by
  obtain ⟨hanswer, -⟩ := command_prints_selectors_of_rule
    (Console.documented_unicode fun _ => false) {} [":host:hover, p", " p "] [":focus"] false none
    rfl fun _ _ _ _ => rfl
  rw [hanswer]
  decide +kernel

/-- What is not printed to a terminal loses a style code that the rule keeps. -/
theorem command_removes_style_code :
    (Console.unicode fun _ => false).Documented ∧
    CommandLine.answer (.unicode fun _ => false)
        (some (.invoke { command := .fixHost ["a\x1b[1mb"] [] })) none =
      .finished 0 "ab\n" [] ∧
    ((({} : Builder).openVariants (.items (["a\x1b[1mb"].flatMap SelectorList.split))
      []).currentSelectors.flatMap fun s => s ++ ['\n']) = ("a\x1b[1mb\n" : Text) ∧
    ("ab\n" : Text) ≠ "a\x1b[1mb\n" :=
  ⟨Console.documented_unicode _, by decide +kernel, by decide +kernel, by decide⟩

end CssTheming
