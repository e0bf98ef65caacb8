import CssTheming.Proofs.Stylesheet.RuleSelectors
import CssTheming.Proofs.Text.Pieces

/-!
# Rules without selectors

Nothing stops a rule from being opened with blank selectors. It then has no selectors, and is
written all the same if it has declarations. There is no other way to get such a rule: nesting,
flattening and the correction of host selectors keep at least one selector of those that they are
given, and no step changes the selectors of a rule that is there.

## Main definitions

- `Step.opening?`: the selector lists that a rule is opened with

## Key results

- `Builder.isEmpty_opened?`: a step opens a rule without selectors just if it is given none
- `Builder.isEmpty_selectorLists_run`: which rules have no selectors after a run
- `selectors_isEmpty_of_run`: the same for what is built, and whether its blocks have headings
-/

namespace CssTheming

open Selector

/-- The selector lists that a step opens a rule with, if it opens one. -/
def Step.opening? (s : Step) : Option (List SelectorList) :=
  match s with
  | .openRule _ | .openAtRoot _ | .openHostAware _ => some s.lists
  | _ => none

/-- Lists are blank just if there is no selector in any of them. -/
private theorem SelectorList.all_isBlank_iff {lists : List SelectorList} :
    lists.all isBlank = true ↔ ∀ list ∈ lists, list.selectors = [] := by
  simp only [List.all_eq_true, selectors_eq_nil_iff]

namespace Builder

variable {b : Builder}

/-- A step opens a rule without selectors just if it is given none, whatever the current ones
    are. -/
theorem isEmpty_opened? (b : Builder) (s : Step) :
    (b.opened? s).map List.isEmpty = s.opening?.map (·.all SelectorList.isBlank) := by
  cases s with
  | openRule list =>
    refine congrArg some (Bool.eq_iff_iff.2 ?_)
    rw [List.isEmpty_iff, SelectorList.nest_eq_nil_iff, SelectorList.all_isBlank_iff, Step.lists,
      List.forall_mem_singleton]
  | openAtRoot list =>
    refine congrArg some (Bool.eq_iff_iff.2 ?_)
    rw [List.isEmpty_iff, SelectorList.flatten_eq_nil_iff, SelectorList.all_isBlank_iff]
    rfl
  | openHostAware lists =>
    refine congrArg some (Bool.eq_iff_iff.2 ?_)
    rw [List.isEmpty_iff, SelectorList.hostAware_eq_nil_iff, SelectorList.all_isBlank_iff]
    rfl
  | _ => rfl

/-- The rules of a run are in the order of the steps that open them, and nothing takes a selector
    from them or gives them one. -/
theorem isEmpty_selectorLists_run (b : Builder) (steps : List Step) :
    (b.run steps).selectorLists.map List.isEmpty =
      b.selectorLists.map List.isEmpty ++
        (steps.filterMap Step.opening?).map (·.all SelectorList.isBlank) := by
  induction steps generalizing b with
  | nil => simp
  | cons s steps ih =>
    have hopened := b.isEmpty_opened? s
    rw [run_cons, ih, (blocksStep_step b s).selectorLists, List.filterMap_cons]
    cases hopening : s.opening? with
    | none =>
      -- the step opens no rule
      rw [hopening, Option.map_none, Option.map_eq_none_iff] at hopened
      simp [hopened]
    | some lists =>
      rw [hopening, Option.map_some, Option.map_eq_some_iff] at hopened
      obtain ⟨selectors, hopened, hempty⟩ := hopened
      simp [hopened, hempty]

/-- Whatever the steps are given, the selectors of all rules are trimmed. -/
private theorem trimmed_selectors_run (query : FeatureQuery) (steps : List Step) :
    ∀ selectors ∈ (({ query } : Builder).run steps).selectorLists, ∀ t ∈ selectors, Trimmed t := by
  refine forall_selectors_run (fun s _ b _ selectors hopened t ht => ?_) ?_
  · exact trimmed_of_mem_opened? hopened ht
  · intro selectors hmem
    cases hmem

end Builder

/-- A rule for selectors has a heading. -/
private theorem StyleRule.heading_ne_nil {rule : StyleRule} (hne : rule.selectors ≠ [])
    (h : ∀ t ∈ rule.selectors, Trimmed t) : rule.block.heading ≠ [] := by
  obtain ⟨t, rest, hselectors⟩ := List.exists_cons_of_ne_nil hne
  have ht : Trimmed t := h t (by simp [hselectors])
  rw [StyleRule.block, hselectors]
  exact Text.join_cons_ne_nil ht.2 rest

/-- If all rules have selectors, all blocks have headings, that of the root definitions included. -/
private theorem Stylesheet.heading_ne_nil_of_mem_blocks {sheet : Stylesheet}
    (hne : ∀ rule ∈ sheet.rules, rule.selectors ≠ [])
    (h : ∀ rule ∈ sheet.rules, ∀ t ∈ rule.selectors, Trimmed t) {block : Block}
    (hblock : block ∈ sheet.blocks) : block.heading ≠ [] := by
  obtain ⟨rule, hrule, rfl⟩ := List.mem_map.1 hblock
  rcases List.mem_cons.1 (List.mem_filter.1 hrule).1 with rfl | hrule
  · -- the block of the root definitions has a heading of its own
    have hroot : ∀ t ∈ ([":root"] : List Text), Trimmed t := by decide
    exact StyleRule.heading_ne_nil (List.cons_ne_nil _ _) hroot
  · exact StyleRule.heading_ne_nil (hne rule hrule) (h rule hrule)

/-- A rule has no selectors just if there is nothing but blanks and commas in what it was opened
    with. So if every rule is opened with some selector, all rules have selectors, and nothing is
    written without a heading. -/
theorem selectors_isEmpty_of_run (query : FeatureQuery) (steps : List Step) :
    (({ query } : Builder).run steps).build.rules.map (·.selectors.isEmpty) =
        (steps.filterMap Step.opening?).map (·.all SelectorList.isBlank) ∧
      ((∀ lists ∈ steps.filterMap Step.opening?, ∃ list ∈ lists, list.isBlank = false) →
        (∀ rule ∈ (({ query } : Builder).run steps).build.rules, rule.selectors ≠ []) ∧
          ∀ block ∈ (({ query } : Builder).run steps).build.blocks, block.heading ≠ []) := by
  have hempty : (({ query } : Builder).run steps).build.rules.map (·.selectors.isEmpty) =
      (steps.filterMap Step.opening?).map (·.all SelectorList.isBlank) := by
    have hrun := Builder.isEmpty_selectorLists_run { query } steps
    rwa [Builder.selectorLists, List.map_map] at hrun
  refine ⟨hempty, fun hsteps => ?_⟩
  have hselectors : ∀ rule ∈ (({ query } : Builder).run steps).build.rules,
      rule.selectors ≠ [] := by
    intro rule hrule hnil
    -- the rule would have been opened with blank lists only
    have hmem := List.mem_map_of_mem (f := fun rule : StyleRule => rule.selectors.isEmpty) hrule
    rw [hempty, hnil] at hmem
    obtain ⟨lists, hlists, hblank⟩ := List.mem_map.1 hmem
    obtain ⟨list, hlist, hnonblank⟩ := hsteps lists hlists
    have hlistBlank : list.isBlank = true := List.all_eq_true.1 hblank list hlist
    cases hlistBlank.symm.trans hnonblank
  refine ⟨hselectors, fun block => ?_⟩
  exact Stylesheet.heading_ne_nil_of_mem_blocks hselectors fun rule hrule =>
    Builder.trimmed_selectors_run query steps _ (List.mem_map_of_mem hrule)

/-- A rule for no selector but with a declaration, and one in it for a selector and a blank. -/
def blankRuleSteps : List Step :=
  [.openRule (.text " ,"), .write (.declare { property := "color", value := "red" }),
    .openRule (.items ["a", ""])]

/-- The rule for no selector is written, with nothing in front of its brace. -/
theorem rule_without_selectors_is_written :
    (({} : Builder).run blankRuleSteps).build.rules.map
        (fun rule => (rule.selectors, rule.declarations.map (·.property))) =
      ([([], ["color"]), (["a"], [])] : List (List Text × List Text)) ∧
    (({} : Builder).run blankRuleSteps).render = " \x7b\n  color: red;\n\x7d\n" := by
  decide +kernel

/-- A rule for a selector and a blank has selectors, and one for a comma has none. -/
theorem selectors_isEmpty_of_run_of_blank_part :
    (∀ lists ∈ (blankRuleSteps.drop 2).filterMap Step.opening?,
      ∃ list ∈ lists, list.isBlank = false) ∧
    (∀ rule ∈ (({} : Builder).run (blankRuleSteps.drop 2)).build.rules, rule.selectors ≠ []) ∧
    (({} : Builder).run blankRuleSteps).build.rules.map (·.selectors.isEmpty) = [true, false] := by
  have hsteps : ∀ lists ∈ (blankRuleSteps.drop 2).filterMap Step.opening?,
      ∃ list ∈ lists, list.isBlank = false := by decide +kernel
  obtain ⟨hempty, -⟩ := selectors_isEmpty_of_run {} blankRuleSteps
  obtain ⟨-, hall⟩ := selectors_isEmpty_of_run {} (blankRuleSteps.drop 2)
  exact ⟨hsteps, (hall hsteps).1, hempty.trans (by decide +kernel)⟩

end CssTheming
