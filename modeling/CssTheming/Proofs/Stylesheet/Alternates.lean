import CssTheming.Proofs.Stylesheet.Plan

/-!
# Alternatives and their partners

Declarations that are marked as alternatives are written in pairs, by the emitter and by the
replacement of names. Both declarations of a pair are under the same gate, and no other step comes
in between, so that the marked one always stands right behind the one that it is the alternative to.

## Main definitions

- `Declaration.IsPartner`: what the two declarations of a pair have in common
- `Partnered`: every marked declaration stands behind its partner

## Key results

- `Resolution.Form.exists_partnered`: what a step is going to add is in pairs
- `Builder.partnered_step`: a step keeps the pairs of all rules
- `alternate_has_partner_of_run`: the same for whole runs
-/

namespace CssTheming

namespace Annotations

/-- The annotations without the mark of an alternative. -/
def withoutAlternate (annotations : Annotations) : Annotations :=
  annotations.filter fun entry => entry.1 ≠ alternate

/-- Taking the mark away gives the annotations from before, if it was not among them. -/
private theorem withoutAlternate_markAlternate {annotations : Annotations}
    (h : alternate ∉ Entries.keys annotations) :
    annotations.markAlternate.withoutAlternate = annotations := by
  -- none of the annotations is the mark, so none is taken away
  have hkeep : annotations.withoutAlternate = annotations := by
    rw [withoutAlternate, List.filter_eq_self]
    intro entry hentry
    have hname : entry.1 ∈ Entries.keys annotations := List.mem_map_of_mem hentry
    simpa using fun heq : entry.1 = alternate => h (heq ▸ hname)
  rw [markAlternate, Entries.set_of_notMem_keys h, withoutAlternate, List.filter_append]
  simpa [withoutAlternate] using hkeep

end Annotations

namespace CustomProperty

variable {custom : CustomProperty} {fallback : Text}

/-- The `var()` expression is longer than the fallback, which it contains. -/
theorem length_fallback_lt_length_var (h : custom.fallback = some fallback) :
    fallback.length < custom.var.length := by
  simp [var, h]
  omega

/-- The two values of a custom property are not the same. -/
private theorem var_ne_fallback (h : custom.fallback = some fallback) : custom.var ≠ fallback := by
  rintro rfl
  exact Nat.lt_irrefl _ (length_fallback_lt_length_var h)

end CustomProperty

/-- The two declarations differ in the value and in the mark of an alternative only. -/
structure Declaration.IsPartner (partner d : Declaration) : Prop where
  property : partner.property = d.property
  important : partner.important = d.important
  annotations : partner.annotations = d.annotations.withoutAlternate
  value : partner.value ≠ d.value

/-- Right in front of every declaration that is marked as an alternative stands its partner. -/
def Partnered (declarations : List Declaration) : Prop :=
  ∀ front d behind, declarations = front ++ d :: behind →
    Annotations.alternate ∈ d.annotations.keys → ∃ partner ∈ front.getLast?, partner.IsPartner d

namespace Partnered

theorem nil : Partnered [] := by
  intro front d behind h
  cases front <;> cases h

/-- Pairs stay together where lists of declarations are put together. -/
theorem append {l l' : List Declaration} (hl : Partnered l) (hl' : Partnered l') :
    Partnered (l ++ l') := by
  intro front d behind h hd
  rcases List.append_eq_append_iff.1 h with ⟨front', rfl, hbehind⟩ | ⟨tail, rfl, htail⟩
  · -- the declaration is in the second list, and so is its partner
    obtain ⟨partner, hlast, hpartner⟩ := hl' front' d behind hbehind hd
    exact ⟨partner, by rw [List.getLast?_append, hlast]; rfl, hpartner⟩
  · cases tail with
    | nil =>
      -- the second list does not start with a marked declaration
      obtain ⟨partner, hlast, -⟩ := hl' [] d behind htail.symm hd
      cases hlast
    | cons d' tail =>
      obtain ⟨rfl, -⟩ := List.cons.inj htail
      exact hl front d tail rfl hd

theorem single {d : Declaration} (h : Annotations.alternate ∉ d.annotations.keys) :
    Partnered [d] := by
  intro front d' behind heq hd'
  cases front with
  | nil =>
    obtain ⟨rfl, -⟩ := List.cons.inj heq
    exact absurd hd' h
  | cons _ front => simp at heq

/-- A declaration that is not marked itself is the partner of its alternative. -/
theorem pair {d : Declaration} {value : Text} (h : Annotations.alternate ∉ d.annotations.keys)
    (hvalue : value ≠ d.value) : Partnered [d, d.alternative value] := by
  intro front d' behind heq hd'
  rcases front with _ | ⟨first, _ | ⟨second, front⟩⟩
  · -- the first declaration is not marked
    obtain ⟨rfl, -⟩ := List.cons.inj heq
    exact absurd hd' h
  · simp only [List.cons_append, List.nil_append, List.cons.injEq] at heq
    obtain ⟨rfl, rfl, -⟩ := heq
    exact ⟨d, rfl, rfl, rfl, (Annotations.withoutAlternate_markAlternate h).symm, hvalue.symm⟩
  · simp at heq

end Partnered

/-- If no annotation that was handed in is called like the mark, what is added is in pairs. -/
theorem Resolution.Form.exists_partnered {emitter : Emitter} {names : List Text} {r : Resolution}
    (h : r.Form emitter names) (hnames : Annotations.alternate ∉ names) :
    ∃ definitions declarations, r.writes = Write.sequence definitions declarations ∧
      Partnered declarations := by
  cases h with
  | emission e _ he hwrites =>
    -- the mark is neither among the annotations of the custom property nor among the others
    have hmark : Annotations.alternate ∉ e.allAnnotations.keys := by
      rw [Emission.allAnnotations, Entries.mem_keys_merge, ← List.mem_append]
      exact fun hmem => hnames (he _ hmem)
    refine ⟨_, _, hwrites.trans (emitter.writes_eq e), ?_⟩
    cases emitter with
    | silent => exact .nil
    | fallbackAndVar rootDefinitions =>
      rw [Emitter.declarations]
      split
      · exact .single hmark
      · next fallback hfallback => exact .pair hmark (CustomProperty.var_ne_fallback hfallback)
  | single d _ hd hwrites => exact ⟨[], [d], hwrites, .single fun hmem => hnames (hd _ hmem)⟩
  | pair d value hvalue _ hd hwrites =>
    exact ⟨[], [d, d.alternative value], hwrites, .pair (fun hmem => hnames (hd _ hmem)) hvalue⟩

namespace Builder

variable {b b₁ : Builder}

/-- A rule that has been added to has the declarations behind those it had. -/
private theorem exists_of_mem_rulesWith {declarations : List Declaration} {rule : StyleRule}
    (h : rule ∈ b.rulesWith declarations) :
    rule ∈ b.rules ∨
      ∃ before ∈ b.rules, rule.declarations = before.declarations ++ declarations := by
  unfold rulesWith at h
  split at h
  · exact .inl h
  · exact (List.mem_of_mem_modify h).imp_right fun ⟨before, hbefore, heq⟩ =>
      ⟨before, hbefore, by rw [heq]⟩

/-- Pairs that are added keep the pairs of all rules. -/
private theorem Adds.partnered {declarations : List Declaration} {definitions : Entries Text}
    (h : Adds b declarations definitions [] b₁) (hdeclarations : Partnered declarations)
    (hb : ∀ rule ∈ b.rules, Partnered rule.declarations) :
    ∀ rule ∈ b₁.rules, Partnered rule.declarations := by
  intro rule hrule
  rw [h.rules, List.append_nil] at hrule
  rcases exists_of_mem_rulesWith hrule with hrule | ⟨before, hbefore, heq⟩
  · exact hb rule hrule
  · rw [heq]
    exact (hb before hbefore).append hdeclarations

/-- A step keeps every marked declaration behind its partner. -/
theorem partnered_step (hexist : b.RulesExist)
    (hb : ∀ rule ∈ b.rules, Partnered rule.declarations) {s : Step}
    (hs : Annotations.alternate ∉ s.annotationNames) :
    ∀ rule ∈ (b.step s).builder.rules, Partnered rule.declarations := by
  cases hplan : s.plan? with
  | none =>
    -- a rule that is opened is empty
    intro rule hrule
    rw [(step_of_plan?_eq_none hplan).2.2, List.mem_append, List.mem_map] at hrule
    rcases hrule with hrule | ⟨selectors, -, rfl⟩
    · exact hb rule hrule
    · exact .nil
  | some plan =>
    obtain ⟨feature, result⟩ := plan
    rw [step_of_plan? hplan]
    cases result with
    | error e => exact hb
    | ok r =>
      obtain ⟨definitions, declarations, hwrites, hdeclarations⟩ :
          ∃ definitions declarations, r.writes = Write.sequence definitions declarations ∧
            Partnered declarations := by
        rcases Step.form_of_plan? hplan with ⟨name, value, -, hwrites⟩ | ⟨-, emitter, hform, -⟩
        · exact ⟨[(name, value)], [], hwrites, .nil⟩
        · exact hform.exists_partnered hs
      refine (adds_enact hexist feature hwrites).partnered ?_ hb
      split
      · exact hdeclarations
      · exact .nil

/-- A run keeps every marked declaration behind its partner. -/
theorem partnered_run (hexist : b.RulesExist) (hb : ∀ rule ∈ b.rules, Partnered rule.declarations)
    {steps : List Step} (hsteps : ∀ s ∈ steps, Annotations.alternate ∉ s.annotationNames) :
    ∀ rule ∈ (b.run steps).rules, Partnered rule.declarations := by
  induction steps generalizing b with
  | nil => exact hb
  | cons s steps ih =>
    exact ih (rulesExist_step hexist s) (partnered_step hexist hb (hsteps s List.mem_cons_self))
      fun s' hs' => hsteps s' (List.mem_cons_of_mem _ hs')

end Builder

/-- If no annotation that is handed in is called like the mark of an alternative, then in every rule
    that a run builds, a marked declaration is not the first one, and the one right in front of it
    has the same property, importance and annotations apart from the mark, and another value. -/
theorem alternate_has_partner_of_run (query : FeatureQuery) (steps : List Step)
    (hsteps : ∀ s ∈ steps, Annotations.alternate ∉ s.annotationNames) :
    ∀ rule ∈ (({ query } : Builder).run steps).build.rules, ∀ front d behind,
      rule.declarations = front ++ d :: behind → Annotations.alternate ∈ d.annotations.keys →
      ∃ partner, front.getLast? = some partner ∧ partner.property = d.property ∧
        partner.important = d.important ∧ partner.annotations = d.annotations.withoutAlternate ∧
        partner.value ≠ d.value := by
  intro rule hrule front d behind hdeclarations hd
  have hrun := Builder.partnered_run (Builder.rulesExist_start query) (by simp) hsteps rule hrule
  obtain ⟨partner, hlast, hpartner⟩ := hrun front d behind hdeclarations hd
  exact ⟨partner, hlast, hpartner.property, hpartner.important, hpartner.annotations,
    hpartner.value⟩

/-- Steps that use the role of primary colours three times: outside of rules, which fails, in a
    border, and in a background. -/
def primaryColourSteps : List Step :=
  [.apply {} "color" (.text "primary") none false [], .openRule (.text "a"),
    .apply {} "border" (.text "1px solid c") none true [("c", .text "primary")],
    .apply {} "background" (.text "primary") none false []]

/-- Every use inside the rule gives a pair of declarations, of which the second is marked. -/
theorem alternate_has_partner_of_primary_colour :
    (({} : Builder).run primaryColourSteps).build.rules.map
        (·.declarations.map fun d => (d.property, d.value, d.annotations.keys)) =
      ([[("border", "1px solid #6200ee", []),
        ("border", "1px solid var(--theme-primary, #6200ee)", ["alternate"]),
        ("background", "#6200ee", []),
        ("background", "var(--theme-primary, #6200ee)", ["alternate"])]] :
        List (List (Text × Text × List Text))) ∧
    ∀ rule ∈ (({} : Builder).run primaryColourSteps).build.rules, ∀ front d behind,
      rule.declarations = front ++ d :: behind → Annotations.alternate ∈ d.annotations.keys →
      ∃ partner, front.getLast? = some partner ∧ partner.property = d.property ∧
        partner.important = d.important ∧ partner.annotations = d.annotations.withoutAlternate ∧
        partner.value ≠ d.value := by
  have hsteps : ∀ s ∈ primaryColourSteps, Annotations.alternate ∉ s.annotationNames := by
    decide +kernel
  exact ⟨by decide +kernel, alternate_has_partner_of_run {} primaryColourSteps hsteps⟩

end CssTheming
