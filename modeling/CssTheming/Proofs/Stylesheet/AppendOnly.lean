import CssTheming.Proofs.Stylesheet.Plan

/-!
# Building only ever adds

A step adds declarations to the innermost open rule, root definitions behind the others, and at most
one rule behind the others, which has no declarations yet. So all that was built before is found
again in what is built later, in the same place: no rule is reopened after it was closed, and the
indices of the open rules grow from the outermost to the innermost one.

## Main definitions

- `Stylesheet.Extends`: a later stylesheet has all of an earlier one, in the same places
- `Stylesheet.declarationsAt`: the declarations of the rule at an index
- `Builder.Stacked`: the open rules exist, and each was opened after those around it

## Key results

- `Builder.exists_rules_step`: the rules after a step
- `Builder.extends_step`, `Builder.extends_run`: what is built is extended
- `Builder.stacked_run`: the open rules after a run
- `append_only_of_reachable`: all of this for what steps lead to
-/

namespace CssTheming

/-- A later rule is for the same selectors, and has all declarations of an earlier one in front. -/
structure StyleRule.Extends (rule later : StyleRule) : Prop where
  selectors : later.selectors = rule.selectors
  declarations : rule.declarations <+: later.declarations

/-- A later stylesheet has all root definitions of an earlier one in front, and at the index of each
    rule one that extends it. -/
structure Stylesheet.Extends (sheet later : Stylesheet) : Prop where
  root : sheet.root <+: later.root
  rules : ∀ (index : Nat) (rule : StyleRule), sheet.rules[index]? = some rule →
    ∃ rule' : StyleRule, later.rules[index]? = some rule' ∧ rule.Extends rule'

namespace Stylesheet

variable {sheet sheet' sheet'' : Stylesheet}

theorem Extends.refl (sheet : Stylesheet) : sheet.Extends sheet :=
  ⟨List.prefix_refl _, fun _ rule h => ⟨rule, h, rfl, List.prefix_refl _⟩⟩

theorem Extends.trans (h : sheet.Extends sheet') (h' : sheet'.Extends sheet'') :
    sheet.Extends sheet'' := by
  refine ⟨h.root.trans h'.root, fun index rule hrule => ?_⟩
  -- each rule is found at its index in both
  obtain ⟨rule', hrule', hextends⟩ := h.rules index rule hrule
  obtain ⟨rule'', hrule'', hextends'⟩ := h'.rules index rule' hrule'
  exact ⟨rule'', hrule'', hextends'.selectors.trans hextends.selectors,
    hextends.declarations.trans hextends'.declarations⟩

/-- The declarations of the rule at `index`; none if there is no such rule. -/
def declarationsAt (sheet : Stylesheet) (index : Nat) : List Declaration :=
  (sheet.rules[index]?.map (·.declarations)).getD []

end Stylesheet

namespace Builder

variable {b : Builder}

/-! ## What a step adds -/

/-- Only the innermost open rule has more declarations. -/
private theorem getElem?_rulesWith (b : Builder) (declarations : List Declaration) (index : Nat) :
    (b.rulesWith declarations)[index]? =
      b.rules[index]?.map fun rule =>
        { rule with
          declarations :=
            rule.declarations ++ if b.openRules.head? = some index then declarations else [] } := by
  cases hopen : b.openRules with
  | nil =>
    rw [rulesWith_of_openRules_eq_nil hopen]
    simp
  | cons innermost outer =>
    rw [rulesWith_of_openRules_eq_cons hopen, List.getElem?_modify]
    by_cases h : innermost = index
    · subst h
      simp
    · simp [h]

/-- The rules after a step: the rules before it, the innermost open one perhaps with more
    declarations, and the rule that the step opens. -/
theorem exists_rules_step (hb : b.RulesExist) (s : Step) :
    ∃ declarations, (b.step s).builder.rules = b.rulesWith declarations ++
      (b.opened? s).toList.map fun selectors => { selectors, declarations := [] } := by
  cases hplan : s.plan? with
  | none =>
    obtain ⟨-, -, hrules⟩ := step_of_plan?_eq_none (b := b) hplan
    exact ⟨[], by rw [rulesWith_nil, hrules]⟩
  | some plan =>
    obtain ⟨declarations, hadds, -⟩ := exists_adds_step hb (s := s) (by simp [hplan])
    -- steps with a plan add declarations and definitions, and never open a rule
    have hopened : b.opened? s = none := by
      cases s with
      | openRule _ | openAtRoot _ | openHostAware _ => cases hplan
      | _ => rfl
    refine ⟨if b.emittingFor s.feature? then declarations else [], ?_⟩
    rw [hadds.rules, hopened]
    rfl

/-- A step adds root definitions behind the others. -/
private theorem root_prefix_step (hb : b.RulesExist) (s : Step) :
    b.root <+: (b.step s).builder.root := by
  cases hplan : s.plan? with
  | none =>
    obtain ⟨-, hroot, -⟩ := step_of_plan?_eq_none (b := b) hplan
    exact ⟨[], (List.append_nil _).trans hroot.symm⟩
  | some plan =>
    obtain ⟨declarations, hadds, -⟩ := exists_adds_step hb (s := s) (by simp [hplan])
    rw [hadds.root, Entries.foldl_setIfNew]
    exact List.prefix_append _ _

/-- What is built after a step extends what was built before. -/
theorem extends_step (hb : b.RulesExist) (s : Step) :
    b.build.Extends (b.step s).builder.build := by
  refine ⟨root_prefix_step hb s, fun index rule hrule => ?_⟩
  change b.rules[index]? = some rule at hrule
  obtain ⟨declarations, hrules⟩ := exists_rules_step hb s
  let rule' : StyleRule :=
    { rule with
      declarations :=
        rule.declarations ++ if b.openRules.head? = some index then declarations else [] }
  have hrule' : (b.rulesWith declarations)[index]? = some rule' := by
    rw [getElem?_rulesWith, hrule]
    rfl
  refine ⟨rule', ?_, rfl, List.prefix_append _ _⟩
  -- the rule that is opened comes behind, so the index leads to the same rule
  rw [build, hrules, List.getElem?_append_left (List.getElem?_eq_some_iff.1 hrule').1, hrule']

/-- A rule that is opened has no declarations yet, so none but the innermost open one gets any. -/
theorem declarationsAt_step (hb : b.RulesExist) (s : Step) {index : Nat}
    (hindex : b.openRules.head? ≠ some index) :
    (b.step s).builder.build.declarationsAt index = b.build.declarationsAt index := by
  obtain ⟨declarations, hrules⟩ := exists_rules_step hb s
  have hwith : (b.rulesWith declarations)[index]? = b.rules[index]? := by
    rw [getElem?_rulesWith, if_neg hindex]
    simp
  simp only [Stylesheet.declarationsAt, build, hrules, List.getElem?_append, hwith]
  split
  · rfl
  · next hlength =>
    -- behind the rules that were there before, there is at most the one that is opened
    have hnone : b.rules[index]? = none := by
      rw [← hwith]
      exact List.getElem?_eq_none (Nat.le_of_not_lt hlength)
    rw [hnone, List.getElem?_map, Option.map_map]
    cases (b.opened? s).toList[index - (b.rulesWith declarations).length]? <;> rfl

/-- What is built after a run extends what was built before. -/
theorem extends_run (hb : b.RulesExist) (steps : List Step) :
    b.build.Extends (b.run steps).build := by
  induction steps generalizing b with
  | nil => exact .refl _
  | cons s steps ih => exact (extends_step hb s).trans (ih (rulesExist_step hb s))

/-! ## The open rules -/

/-- The open rules are among the rules built so far, and each was opened after those around it. -/
structure Stacked (b : Builder) : Prop where
  exist : b.RulesExist
  decreasing : b.openRules.Pairwise (· > ·)

private theorem stacked_start (query : FeatureQuery) : ({ query } : Builder).Stacked :=
  ⟨rulesExist_start query, .nil⟩

/-- The rule that is opened comes behind all others, and the one that is closed is the innermost. -/
theorem stacked_step (hb : b.Stacked) (s : Step) : (b.step s).builder.Stacked := by
  refine ⟨rulesExist_step hb.exist s, ?_⟩
  rw [openRules, (blocksStep_step b s).openBlocks]
  cases s with
  | openRule _ | openAtRoot _ | openHostAware _ =>
    rw [blocksAfter, ← length_rules]
    exact List.pairwise_cons.2 ⟨hb.exist, hb.decreasing⟩
  | close => exact hb.decreasing.sublist b.openBlocks.rules_close_sublist
  | openFeature _ | write _ | emit _ _ | apply _ _ _ _ _ _ | prop _ _ _ _ => exact hb.decreasing

/-- The open rules are in order after a run. -/
theorem stacked_run (hb : b.Stacked) (steps : List Step) : (b.run steps).Stacked := by
  induction steps generalizing b with
  | nil => exact hb
  | cons s steps ih => exact ih (stacked_step hb s)

/-- A stylesheet in the making that some steps lead to. -/
def Reachable (b : Builder) : Prop :=
  ∃ query steps, b = ({ query } : Builder).run steps

/-- The open rules are in order wherever steps lead to. -/
theorem Reachable.stacked (hb : b.Reachable) : b.Stacked := by
  obtain ⟨query, steps, rfl⟩ := hb
  exact stacked_run (stacked_start query) steps

end Builder

/-- Whatever has been built, all later steps only add to it, whether or not they fail. Each of them
    adds declarations to none but the innermost open rule. The open rules exist, and their indices
    grow from the outermost to the innermost. -/
theorem append_only_of_reachable {b : Builder} (hb : b.Reachable) :
    (∀ steps : List Step, b.build.Extends (b.run steps).build) ∧
      (∀ s : Step, b.build.Extends (b.step s).builder.build ∧
        ∀ index, b.openRules.head? ≠ some index →
          (b.step s).builder.build.declarationsAt index = b.build.declarationsAt index) ∧
      (∀ index ∈ b.openRules, index < b.build.rules.length) ∧
      b.openRules.reverse.Pairwise (· < ·) := by
  obtain ⟨hexist, hdecreasing⟩ := hb.stacked
  refine ⟨Builder.extends_run hexist, fun s => ⟨Builder.extends_step hexist s, fun index => ?_⟩,
    hexist, List.pairwise_reverse.2 hdecreasing⟩
  exact Builder.declarationsAt_step hexist s

/-- Two nested rules, the outer one with a declaration. -/
def Builder.twoOpenRules : Builder :=
  ({} : Builder).run
    [.openRule (.text "a"), .write (.declare { property := "color", value := "red" }),
      .openRule (.text "b")]

/-- In the inner rule, what is declared leaves the outer one alone, and so does a replacement that
    fails. -/
theorem append_only_of_reachable_of_two_open_rules :
    Builder.twoOpenRules.Reachable ∧
      Builder.twoOpenRules.openRules.reverse = [0, 1] ∧
      (Builder.twoOpenRules.step
          (.write (.declare { property := "top", value := "0" }))).builder.build.declarationsAt 0 =
        Builder.twoOpenRules.build.declarationsAt 0 ∧
      Builder.twoOpenRules.build.Extends
        (Builder.twoOpenRules.run
          [.apply {} "width" (.text "calc(w)") none false [("w", .custom { name := "--w" })],
            .close, .write (.declare { property := "width", value := "1px" })]).build := by
  have hb : Builder.twoOpenRules.Reachable := ⟨{}, _, rfl⟩
  obtain ⟨hrun, hstep, -, -⟩ := append_only_of_reachable hb
  exact ⟨hb, by decide +kernel, (hstep _).2 0 (by decide +kernel), hrun _⟩

end CssTheming
