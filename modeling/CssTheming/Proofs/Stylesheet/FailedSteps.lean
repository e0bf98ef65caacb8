import CssTheming.Proofs.Stylesheet.Plan

/-!
# Steps that fail

A step fails because what it is to add cannot be worked out, or because no rule is open that could
take a declaration. In the first case nothing has been added yet. In the second case the root
definition, which comes before the declarations, has been made.

## Key results

- `Builder.SameBlocks.currentSelectors`: additions leave the current selectors alone
- `failed_step_changes_root_only`: what is left behind by a step that fails
-/

namespace CssTheming

namespace Builder

variable {b b' : Builder}

theorem SameBlocks.openFeatures (h : SameBlocks b b') : b'.openFeatures = b.openFeatures := by
  rw [Builder.openFeatures, Builder.openFeatures, h.openBlocks]

/-- The current selectors are the same as before. -/
theorem SameBlocks.currentSelectors (h : SameBlocks b b') :
    b'.currentSelectors = b.currentSelectors := by
  rw [currentSelectors_eq, currentSelectors_eq, h.openRules, h.selectorLists]

/-- Outside of rules, additions change nothing but the root. -/
private theorem Adds.build_of_openRules_eq_nil {declarations : List Declaration}
    {definitions : Entries Text} (h : Adds b declarations definitions [] b')
    (hopen : b.openRules = []) :
    b'.build =
      { b.build with
        root := definitions.foldl (fun root d => root.setIfNew d.1 d.2) b.root } := by
  have hrules := h.rules
  rw [rulesWith_of_openRules_eq_nil hopen, List.append_nil] at hrules
  rw [build, h.root, hrules]
  rfl

/-- A step with a plan leaves the blocks alone. -/
private theorem sameBlocks_step_of_plan? {s : Step} (hplan : s.plan? ≠ none) :
    SameBlocks b (b.step s).builder := by
  obtain ⟨⟨feature, result⟩, hplan⟩ := Option.ne_none_iff_exists'.1 hplan
  rw [step_of_plan? hplan]
  exact sameBlocks_enactResult b feature result

end Builder

/-- A step that fails leaves the rules, the current selectors and the open features as they were. So
    it does with the root, unless no rule is open and what is added takes effect: then the custom
    property that the step uses has been defined, if it has a fallback and is to be defined in the
    root at all. -/
theorem failed_step_changes_root_only (b : Builder) (s : Step) {e : ThemeError}
    (h : (b.step s).error? = some e) :
    (b.step s).builder.build =
        { b.build with
          root :=
            if b.openRules = [] ∧ b.emittingFor s.feature? = true then
              s.definition?.elim b.root fun d => b.root.setIfNew d.1 d.2
            else b.root } ∧
      (b.step s).builder.currentSelectors = b.currentSelectors ∧
      (b.step s).builder.openFeatures = b.openFeatures := by
  -- a step about blocks does not fail
  have hplan : s.plan? ≠ none := by
    intro hplan
    rw [(Builder.step_of_plan?_eq_none hplan).1] at h
    cases h
  have hsame := Builder.sameBlocks_step_of_plan? (b := b) hplan
  refine ⟨?_, hsame.currentSelectors, hsame.openFeatures⟩
  by_cases hopen : b.openRules = []
  · -- the root definition comes first, and it does not fail
    obtain ⟨declarations, hadds, -⟩ :=
      Builder.exists_adds_step (Builder.rulesExist_of_openRules_eq_nil hopen) hplan
    rw [hadds.build_of_openRules_eq_nil hopen]
    cases b.emittingFor s.feature? <;> cases s.definition? <;> simp [hopen]
  · rw [Builder.builder_step_of_error? hopen h, if_neg fun hboth => hopen hboth.1]
    rfl

/-- A replacement without fallback fails inside a rule and a feature block, and leaves all as it
    was. -/
theorem failed_step_changes_root_only_of_replacement :
    ((({} : Builder).run [.openRule (.text "a"), .openFeature "layout"]).step
        (.apply {} "width" (.text "calc(w)") none false
          [("w", .custom { name := "--w" })])).error? =
      some (.replacementWithoutFallback "w" "width") ∧
    ((({} : Builder).run [.openRule (.text "a"), .openFeature "layout"]).step
        (.apply {} "width" (.text "calc(w)") none false
          [("w", .custom { name := "--w" })])).builder.build =
      (({} : Builder).run [.openRule (.text "a"), .openFeature "layout"]).build := by
  have herror : ((({} : Builder).run [.openRule (.text "a"), .openFeature "layout"]).step
      (.apply {} "width" (.text "calc(w)") none false [("w", .custom { name := "--w" })])).error? =
        some (.replacementWithoutFallback "w" "width") := by decide +kernel
  refine ⟨herror, ?_⟩
  have hbuild := (failed_step_changes_root_only _ _ herror).1
  rw [if_neg (by decide +kernel)] at hbuild
  exact hbuild

/-- Outside of rules the use of a custom property fails, but defines it. -/
theorem failed_emission_defines_root :
    (({} : Builder).step (.emit (.fallbackAndVar true)
        { property := "color", custom := .named "c" (some "red") [] })).error? =
      some (.outsideRule "color") ∧
    (({} : Builder).step (.emit (.fallbackAndVar true)
        { property := "color", custom := .named "c" (some "red") [] })).builder.build.root =
      ([("--c", "red")] : Entries Text) ∧
    ({} : Builder).build.root = [] := by
  decide +kernel

end CssTheming
