import CssTheming.Proofs.Selector.Nesting
import CssTheming.Proofs.Selector.Splitting
import CssTheming.Proofs.Stylesheet.Steps

/-!
# The selectors of rules, read back

If all selectors handed to the steps of a run are single, then so are the selectors of all rules,
however the rules are nested and wherever the parent references stand. The heading of a rule is
therefore split into just the selectors of the rule.

## Key results

- `Builder.trimmed_of_mem_opened?`: a step opens rules for trimmed selectors
- `Builder.single_of_mem_opened?`: a step opens rules for single selectors
- `split_join_selectors_of_run`: the heading of a rule reads back as its selectors
-/

namespace CssTheming

open Selector

/-- The selector lists that are handed to a step. -/
def Step.lists : Step → List SelectorList
  | .openRule list | .openAtRoot list => [list]
  | .openHostAware lists => lists
  | _ => []

/-- The selectors of a rule that is opened are trimmed, whatever was handed to the step. -/
theorem Builder.trimmed_of_mem_opened? {b : Builder} {s : Step} {selectors : List Text}
    (hopened : selectors ∈ b.opened? s) {t : Text} (ht : t ∈ selectors) : Trimmed t := by
  cases s with
  | openRule list =>
    obtain rfl := Option.some.inj hopened
    obtain ⟨lists, hlists⟩ :=
      SelectorList.exists_nest_eq_flatten (.items b.currentSelectors) list
    -- nesting ends with flattening, which trims
    rw [hlists] at ht
    exact SelectorList.trimmed_of_mem_flatten ht
  | openAtRoot list =>
    obtain rfl := Option.some.inj hopened
    exact SelectorList.trimmed_of_mem_flatten ht
  | openHostAware lists =>
    obtain rfl := Option.some.inj hopened
    exact SelectorList.trimmed_of_mem_hostAware ht
  | _ => cases hopened

/-- If the current selectors and those handed to a step are single, the step opens a rule for single
    selectors, which are trimmed as always. -/
theorem Builder.single_of_mem_opened? {b : Builder} {s : Step}
    (hs : ∀ list ∈ s.lists, ∀ t ∈ list.selectors, Single t)
    (hcurrent : ∀ t ∈ b.currentSelectors, Single t ∧ Trimmed t) {selectors : List Text}
    (hopened : selectors ∈ b.opened? s) {t : Text} (ht : t ∈ selectors) :
    Single t ∧ Trimmed t := by
  refine ⟨?_, trimmed_of_mem_opened? hopened ht⟩
  cases s with
  | openRule list =>
    obtain rfl := Option.some.inj hopened
    -- the current selectors are trimmed, so that they are the parents just as they are
    have hparents : ∀ t ∈ (SelectorList.items b.currentSelectors).selectors, Single t := by
      rw [SelectorList.selectors, SelectorList.trimAll_of_trimmed fun t ht => (hcurrent t ht).2]
      exact fun t ht => (hcurrent t ht).1
    exact SelectorList.single_of_mem_nest hparents (hs list List.mem_cons_self) ht
  | openAtRoot list =>
    obtain rfl := Option.some.inj hopened
    exact SelectorList.single_of_mem_flatten hs ht
  | openHostAware lists =>
    obtain rfl := Option.some.inj hopened
    exact SelectorList.single_of_mem_hostAware hs ht
  | _ => cases hopened

/-- The heading of every rule is split into the selectors of the rule, if all selectors handed to
    the steps are clean and have no top-level commas. -/
theorem split_join_selectors_of_run (query : FeatureQuery) (steps : List Step)
    (hsteps : ∀ s ∈ steps, ∀ list ∈ s.lists, ∀ t ∈ list.selectors, Single t) :
    ∀ rule ∈ (({ query } : Builder).run steps).build.rules,
      SelectorList.split (Text.join ", " rule.selectors) = rule.selectors := by
  -- the invariant is stronger than what is to be shown, since a parent may stand in any reference
  have hall : ∀ selectors ∈ (({ query } : Builder).run steps).selectorLists,
      ∀ t ∈ selectors, Single t ∧ Trimmed t := by
    refine Builder.forall_selectors_run (fun s hs b hcurrent selectors hopened t ht => ?_) ?_
    · exact Builder.single_of_mem_opened? (hsteps s hs) hcurrent hopened ht
    · intro selectors hmem
      cases hmem
  intro rule hrule
  refine SelectorList.split_join fun t ht => ?_
  obtain ⟨hsingle, htrim⟩ := hall rule.selectors (List.mem_map_of_mem hrule) t ht
  exact ⟨htrim, hsingle.1.2, hsingle.2⟩

/-- The comma in a group does not separate selectors, whether it was handed in there or came with
    the correction of a host selector. -/
theorem split_join_selectors_of_nested_not :
    (({} : Builder).run
        [.openRule (.text ":host(.a, .b), p"), .openRule (.text "q:not(&, r)"), .close,
          .openHostAware [.text ":host:is(s, t)"]]).build.rules.map
      (fun rule => SelectorList.split (Text.join ", " rule.selectors)) =
      ([[":host(.a, .b)", "p"], ["q:not(:host(.a, .b), r)", "q:not(p, r)"],
        [":host(:is(s, t))"]] : List (List Text)) := by
  have hsplit := split_join_selectors_of_run {}
    [.openRule (.text ":host(.a, .b), p"), .openRule (.text "q:not(&, r)"), .close,
      .openHostAware [.text ":host:is(s, t)"]] (by decide +kernel)
  rw [List.map_congr_left hsplit]
  decide +kernel

end CssTheming
