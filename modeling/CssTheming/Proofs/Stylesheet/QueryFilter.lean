import CssTheming.Proofs.Entries
import CssTheming.Proofs.List
import CssTheming.Proofs.Stylesheet.Steps

/-!
# A query only filters

Two runs of the same steps, with two queries of which one includes everything that the other does,
open the same rules, see the same current selectors and fail at the same steps. They differ in what
takes effect: the wider query keeps all that the narrower one keeps.

## Key results

- `Builder.Filters`: how the builders of the two runs are related
- `Builder.Filters.step`: a step keeps them related, and fails for both or for neither
- `run_filters_of_includes`: what follows for whole runs
-/

namespace CssTheming

/-- The rules have the same selectors, and the first has some of the declarations of the second, in
    the same order. -/
structure StyleRule.Filters (r₁ r₂ : StyleRule) : Prop where
  selectors : r₁.selectors = r₂.selectors
  declarations : r₁.declarations.Sublist r₂.declarations

namespace Builder

/-- The first builder has been through the same steps as the second, with a query that includes
    less. -/
structure Filters (b₁ b₂ : Builder) : Prop where
  includes : ∀ feature, b₁.query.includes feature = true → b₂.query.includes feature = true
  openBlocks : b₁.openBlocks = b₂.openBlocks
  rules : List.Forall₂ StyleRule.Filters b₁.rules b₂.rules
  root : ∀ name ∈ b₁.root.keys, name ∈ b₂.root.keys

namespace Filters

variable {b₁ b₂ : Builder}

/-! ## What the related builders have in common -/

theorem openRules (h : Filters b₁ b₂) : b₁.openRules = b₂.openRules := by
  rw [Builder.openRules, Builder.openRules, h.openBlocks]

theorem selectorLists (h : Filters b₁ b₂) : b₁.selectorLists = b₂.selectorLists := by
  rw [Builder.selectorLists, Builder.selectorLists, ← List.forall₂_eq_eq_eq,
    List.forall₂_map_left_iff, List.forall₂_map_right_iff]
  exact h.rules.imp fun r₁ r₂ hr => hr.selectors

theorem currentSelectors (h : Filters b₁ b₂) : b₁.currentSelectors = b₂.currentSelectors := by
  rw [currentSelectors_eq, currentSelectors_eq, h.openRules, h.selectorLists]

/-- What takes effect for the narrower query takes effect for the wider one. -/
theorem emitting (h : Filters b₁ b₂) (hemitting : b₁.emitting = true) : b₂.emitting = true := by
  unfold Builder.emitting openFeatures at hemitting ⊢
  rw [List.all_eq_true] at hemitting ⊢
  rw [← h.openBlocks]
  intro feature hfeature
  exact h.includes feature (hemitting feature hfeature)

/-! ## Additions -/

private theorem addLog (h : Filters b₁ b₂) (log₁ log₂ : List LogRecord) :
    Filters { b₁ with log := log₁ } { b₂ with log := log₂ } :=
  ⟨h.includes, h.openBlocks, h.rules, h.root⟩

/-- A feature may be opened in both. -/
theorem openFeature (h : Filters b₁ b₂) (feature : Text) :
    Filters (b₁.openFeature feature) (b₂.openFeature feature) :=
  ⟨h.includes, congrArg (·.openFeature feature) h.openBlocks, h.rules, h.root⟩

theorem close (h : Filters b₁ b₂) : Filters b₁.close b₂.close :=
  ⟨h.includes, congrArg OpenBlocks.close h.openBlocks, h.rules, h.root⟩

/-- A definition is kept by the wider query if it is kept by the narrower one. -/
theorem defineRoot (h : Filters b₁ b₂) (name value : Text) :
    Filters (b₁.defineRoot name value) (b₂.defineRoot name value) := by
  unfold Builder.defineRoot
  by_cases hemitting₁ : b₁.emitting = true
  · -- then the wider query lets the definition through as well
    rw [if_pos hemitting₁, if_pos (h.emitting hemitting₁)]
    refine ⟨h.includes, h.openBlocks, h.rules, fun other hother => ?_⟩
    rw [Entries.mem_keys_setIfNew] at hother ⊢
    exact hother.imp_left (h.root other)
  · rw [if_neg hemitting₁]
    split
    · -- a name that only the wider query defines
      refine ⟨h.includes, h.openBlocks, h.rules, fun other hother => ?_⟩
      exact Entries.mem_keys_setIfNew.2 (.inl (h.root other hother))
    · exact h

/-- A declaration fails for both builders, with the same error, or it succeeds for both. -/
theorem declare (h : Filters b₁ b₂) (declaration : Declaration) :
    (∃ e, b₁.declare declaration = .error e ∧ b₂.declare declaration = .error e) ∨
      ∃ b₁' b₂', b₁.declare declaration = .ok b₁' ∧ b₂.declare declaration = .ok b₂' ∧
        Filters b₁' b₂' := by
  cases hrules : b₁.openRules with
  | nil =>
    exact .inl ⟨_, declare_of_openRules_eq_nil hrules declaration,
      declare_of_openRules_eq_nil (h.openRules ▸ hrules) declaration⟩
  | cons index outer =>
    refine .inr ⟨_, _, declare_of_openRules_eq_cons hrules declaration,
      declare_of_openRules_eq_cons (h.openRules ▸ hrules) declaration, ?_⟩
    by_cases hemitting₁ : b₁.emitting = true
    · rw [if_pos hemitting₁, if_pos (h.emitting hemitting₁)]
      refine ⟨h.includes, h.openBlocks, h.rules.modify index fun r₁ r₂ hr => ?_, h.root⟩
      exact ⟨hr.selectors, hr.declarations.append_right [declaration]⟩
    · rw [if_neg hemitting₁]
      split
      · -- only the wider query keeps the declaration
        have hmodify := h.rules.modify index (f := id)
          (g := fun rule => { rule with declarations := rule.declarations ++ [declaration] })
          fun r₁ r₂ hr => ⟨hr.selectors, hr.declarations.trans (List.sublist_append_left _ _)⟩
        rw [List.modify_id] at hmodify
        exact ⟨h.includes, h.openBlocks, hmodify, h.root⟩
      · exact h.addLog _ _

/-- An addition fails for both builders, with the same error, or it succeeds for both. -/
theorem write (h : Filters b₁ b₂) (w : Write) :
    (∃ e, b₁.write w = .error e ∧ b₂.write w = .error e) ∨
      ∃ b₁' b₂', b₁.write w = .ok b₁' ∧ b₂.write w = .ok b₂' ∧ Filters b₁' b₂' := by
  cases w with
  | defineRoot name value => exact .inr ⟨_, _, rfl, rfl, h.defineRoot name value⟩
  | declare declaration => exact h.declare declaration

/-- Additions in sequence fail for both builders at the same place, or for neither. -/
theorem perform (h : Filters b₁ b₂) (writes : List Write) :
    (b₁.perform writes).error? = (b₂.perform writes).error? ∧
      Filters (b₁.perform writes).builder (b₂.perform writes).builder := by
  induction writes generalizing b₁ b₂ with
  | nil => exact ⟨rfl, h⟩
  | cons w writes ih =>
    rcases h.write w with ⟨e, he₁, he₂⟩ | ⟨b₁', b₂', hb₁, hb₂, h'⟩
    · -- the error ends both runs, and what was added before stays
      simp only [Builder.perform, he₁, he₂]
      exact ⟨trivial, h⟩
    · simp only [Builder.perform, hb₁, hb₂]
      exact ih h'

/-- A resolution fails for both builders, with the same error, or for neither. -/
theorem enact (h : Filters b₁ b₂) (feature : Option Text) (resolution : Resolution) :
    (b₁.enact feature resolution).error? = (b₂.enact feature resolution).error? ∧
      Filters (b₁.enact feature resolution).builder (b₂.enact feature resolution).builder := by
  have hlogged := h.addLog (b₁.log ++ resolution.log) (b₂.log ++ resolution.log)
  cases feature with
  | none => exact hlogged.perform resolution.writes
  | some name =>
    have hperform := (hlogged.openFeature name).perform resolution.writes
    exact ⟨hperform.1, hperform.2.close⟩

/-- What a resolver makes of a value fails for both builders, with the same error, or for
    neither. -/
theorem enactResult (h : Filters b₁ b₂) (feature : Option Text)
    (result : Except ThemeError Resolution) :
    (b₁.enactResult feature result).error? = (b₂.enactResult feature result).error? ∧
      Filters (b₁.enactResult feature result).builder (b₂.enactResult feature result).builder := by
  cases result with
  | ok resolution => exact h.enact feature resolution
  | error e => exact ⟨rfl, h⟩

/-! ## Steps -/

/-- A rule may be opened for the same selectors in both. -/
theorem openSelectors (h : Filters b₁ b₂) (selectors : List Text) :
    Filters (b₁.openSelectors selectors) (b₂.openSelectors selectors) := by
  refine ⟨h.includes, ?_, List.rel_append h.rules (.cons ⟨rfl, .refl _⟩ .nil), h.root⟩
  -- both have as many rules, so the opened one has the same index
  rw [Builder.openSelectors, Builder.openSelectors, h.openBlocks, h.rules.length_eq]

/-- A step fails for both builders, with the same error, or for neither, and they stay related. -/
theorem step (h : Filters b₁ b₂) (s : Step) :
    (b₁.step s).error? = (b₂.step s).error? ∧ Filters (b₁.step s).builder (b₂.step s).builder := by
  cases s with
  | openRule list =>
    refine ⟨rfl, ?_⟩
    -- the only step that looks at what was built, and it looks at selectors only
    simp only [Builder.step, openRule, h.currentSelectors]
    exact h.openSelectors _
  | openAtRoot list => exact ⟨rfl, h.openSelectors _⟩
  | openHostAware lists => exact ⟨rfl, (h.addLog _ _).openSelectors _⟩
  | openFeature name => exact ⟨rfl, h.openFeature name⟩
  | close => exact ⟨rfl, h.close⟩
  | write w => exact h.perform [w]
  | emit emitter e => exact h.perform (emitter.writes e)
  | apply r property value annotations important replacements => exact h.enactResult r.feature _
  | prop r property style important => exact h.enactResult r.feature _

/-- A run keeps the builders related. -/
theorem run (h : Filters b₁ b₂) (steps : List Step) : Filters (b₁.run steps) (b₂.run steps) := by
  induction steps generalizing b₁ b₂ with
  | nil => exact h
  | cons s steps ih => exact ih (h.step s).2

end Filters

/-- The outcomes of steps that are done one after the other, whether or not they fail. -/
def trace (b : Builder) : List Step → List Outcome
  | [] => []
  | s :: steps => b.step s :: (b.step s).builder.trace steps

/-- Outcome by outcome, the errors and the current selectors of the two runs are the same. -/
theorem Filters.trace {b₁ b₂ : Builder} (h : Filters b₁ b₂) (steps : List Step) :
    (b₁.trace steps).map (fun o => (o.error?, o.builder.currentSelectors)) =
      (b₂.trace steps).map (fun o => (o.error?, o.builder.currentSelectors)) := by
  induction steps generalizing b₁ b₂ with
  | nil => rfl
  | cons s steps ih =>
    obtain ⟨herror, hfilters⟩ := h.step s
    simp only [Builder.trace, List.map_cons, herror, hfilters.currentSelectors, ih hfilters]

end Builder

/-- If everything that one query includes is included by another, runs of the same steps with the
    two queries fail at the same steps with the same errors and have the same current selectors
    after each step. The stylesheets that they build have the same rules, except that the first
    query may leave out declarations and root definitions. -/
theorem run_filters_of_includes {narrow wide : FeatureQuery}
    (h : ∀ feature, narrow.includes feature = true → wide.includes feature = true)
    (steps : List Step) :
    (({ query := narrow } : Builder).trace steps).map
        (fun o => (o.error?, o.builder.currentSelectors)) =
      (({ query := wide } : Builder).trace steps).map
        (fun o => (o.error?, o.builder.currentSelectors)) ∧
    List.Forall₂
      (fun r₁ r₂ => r₁.selectors = r₂.selectors ∧ r₁.declarations.Sublist r₂.declarations)
      (({ query := narrow } : Builder).run steps).build.rules
      (({ query := wide } : Builder).run steps).build.rules ∧
    ∀ name ∈ (({ query := narrow } : Builder).run steps).build.root.keys,
      name ∈ (({ query := wide } : Builder).run steps).build.root.keys := by
  have hstart : Builder.Filters { query := narrow } { query := wide } :=
    ⟨h, rfl, .nil, fun _ => id⟩
  have hrun := hstart.run steps
  exact ⟨hstart.trace steps, hrun.rules.imp fun r₁ r₂ hr => ⟨hr.selectors, hr.declarations⟩,
    hrun.root⟩

/-- Steps that declare a colour outside of a rule, which fails, and then a width and a colour in
    one, each in a block for its own feature. -/
def widthAndColourSteps : List Step :=
  [.apply {} "color" (.text "red") none false [], .openRule (.text "a"), .openFeature "layout",
    .emit (.fallbackAndVar true)
      { property := "width", custom := .named "--width" (some "1px") [] },
    .close, .apply {} "color" (.text "red") none false []]

/-- Only the colour is left in the rule, and it is among the declarations of the full stylesheet. -/
theorem run_filters_of_includes_colour :
    (({ query := { included := some ["color"] } } : Builder).run
        widthAndColourSteps).build.rules.map (·.declarations.map (·.property)) =
      ([["color"]] : List (List Text)) ∧
    List.Forall₂
      (fun r₁ r₂ => r₁.selectors = r₂.selectors ∧ r₁.declarations.Sublist r₂.declarations)
      (({ query := { included := some ["color"] } } : Builder).run widthAndColourSteps).build.rules
      (({ query := {} } : Builder).run widthAndColourSteps).build.rules := by
  have hincludes : ∀ feature,
      ({ included := some ["color"] } : FeatureQuery).includes feature = true →
        ({} : FeatureQuery).includes feature = true := fun _ _ => rfl
  exact ⟨by decide +kernel, (run_filters_of_includes hincludes widthAndColourSteps).2.1⟩

end CssTheming
