import CssTheming.Proofs.Stylesheet.Program

/-!
# What steps are going to add

A step that is not about blocks works out what it is going to add before it looks at the stylesheet.
The plan holds root definitions first and declarations behind them. There is at most one pair of
declarations, the second of which is the alternative to the first. All of it is gated by the same
features, so that it takes effect as a whole or not at all.

## Main definitions

- `Step.plan?`: what a step is going to add, or why it cannot
- `Resolution.Form`: the forms that a plan takes
- `Builder.emittingFor`: whether additions for a feature take effect

## Key results

- `Step.form_of_plan?`: the plan of a step has one of the forms
- `Builder.adds_enact`, `Builder.error?_enact`: what a resolution adds, and when it fails
- `Builder.exists_adds_step`, `Builder.builder_step_of_error?`: what a step adds, also if it fails
- `Builder.exists_build_step`: a step that only makes declarations changes only the innermost rule
- `Builder.rulesExist_step`: the open rules stay among the rules
-/

namespace CssTheming

/-! ## Additions in sequence -/

namespace Write

/-- Root definitions, and declarations behind them. -/
def sequence (definitions : Entries Text) (declarations : List Declaration) : List Write :=
  definitions.map (fun d => .defineRoot d.1 d.2) ++ declarations.map .declare

end Write

/-- The alternative to a declaration, with a value of its own. -/
def Declaration.alternative (d : Declaration) (value : Text) : Declaration :=
  { d with value, annotations := d.annotations.markAlternate }

/-! ## The uses of custom properties -/

/-- The names of the annotations of a custom property and of those that were handed in. -/
def Emission.annotationNames (e : Emission) : List Text :=
  e.custom.annotations.keys ++ (e.annotations.getD []).keys

namespace Emitter

/-- The root definition that an emitter makes for the use of a custom property, if it makes one. -/
def definition? : Emitter → Emission → Option (Text × Text)
  | fallbackAndVar true, e => e.custom.fallback.map (e.custom.name, ·)
  | _, _ => none

/-- The declarations that an emitter makes for the use of a custom property. -/
def declarations : Emitter → Emission → List Declaration
  | fallbackAndVar _, e =>
    match e.custom.fallback with
    | none => [e.declaration e.custom.var e.allAnnotations]
    | some fallback =>
      let d := e.declaration fallback e.allAnnotations
      [d, d.alternative e.custom.var]
  | silent, _ => []

/-- An emitter makes its root definition first and its declarations behind it. -/
theorem writes_eq (emitter : Emitter) (e : Emission) :
    emitter.writes e =
      Write.sequence (emitter.definition? e).toList (emitter.declarations e) := by
  cases emitter with
  | silent => rfl
  | fallbackAndVar rootDefinitions =>
    rw [writes, Emission.writes]
    cases hfallback : e.custom.fallback with
    | none => cases rootDefinitions <;> simp [definition?, declarations, hfallback, Write.sequence]
    | some fallback =>
      cases rootDefinitions <;>
        simp [definition?, declarations, hfallback, Write.sequence, Declaration.alternative,
          Emission.declaration]

/-- Every emitter but the silent one makes a declaration. -/
private theorem declarations_ne_nil {emitter : Emitter} (h : emitter ≠ .silent) (e : Emission) :
    emitter.declarations e ≠ [] := by
  cases emitter with
  | silent => exact absurd rfl h
  | fallbackAndVar rootDefinitions =>
    rw [declarations]
    cases e.custom.fallback <;> exact List.cons_ne_nil _ _

end Emitter

/-! ## The forms of plans -/

/-- The forms that the additions of a resolution take, where `names` are the names of all
    annotations that were handed in. -/
inductive Resolution.Form (emitter : Emitter) (names : List Text) (r : Resolution) : Prop where
  /-- The use of a custom property is left to the emitter. -/
  | emission (e : Emission) (hemission : r.emission? = some e)
      (hnames : ∀ name ∈ e.annotationNames, name ∈ names) (hwrites : r.writes = emitter.writes e)
  /-- There is one declaration. -/
  | single (d : Declaration) (hemission : r.emission? = none)
      (hnames : ∀ name ∈ d.annotations.keys, name ∈ names) (hwrites : r.writes = [.declare d])
  /-- There is a declaration with an alternative that has another value. -/
  | pair (d : Declaration) (value : Text) (hvalue : value ≠ d.value)
      (hemission : r.emission? = none) (hnames : ∀ name ∈ d.annotations.keys, name ∈ names)
      (hwrites : r.writes = [.declare d, .declare (d.alternative value)])

/-- The additions of a resolution are root definitions with declarations behind them. Only the use
    of a custom property can define anything, and its declarations are those of the emitter. There
    is at least one declaration, unless the emitter writes nothing. -/
theorem Resolution.Form.writes_eq {emitter : Emitter} {names : List Text} {r : Resolution}
    (h : r.Form emitter names) :
    ∃ declarations,
      r.writes = Write.sequence (r.emission?.bind emitter.definition?).toList declarations ∧
      (∀ e, r.emission? = some e → declarations = emitter.declarations e) ∧
      (emitter ≠ .silent → declarations ≠ []) := by
  cases h with
  | emission e hemission _ hwrites =>
    refine ⟨emitter.declarations e, ?_, fun e' he' => ?_,
      fun hemitter => Emitter.declarations_ne_nil hemitter e⟩
    · rw [hwrites, hemission, Emitter.writes_eq]
      rfl
    · rw [Option.some.inj (hemission.symm.trans he')]
  | single d hemission _ hwrites =>
    refine ⟨[d], ?_, fun e he => (by cases hemission.symm.trans he), fun _ => List.cons_ne_nil _ _⟩
    rw [hwrites, hemission]
    rfl
  | pair d value _ hemission _ hwrites =>
    refine ⟨[d, d.alternative value], ?_, fun e he => (by cases hemission.symm.trans he),
      fun _ => List.cons_ne_nil _ _⟩
    rw [hwrites, hemission]
    rfl

namespace Resolver

variable {r : Resolver} {property : Text} {value : ThemeValue} {annotations : Option Annotations}
  {important : Bool} {replacements : Entries ThemeValue} {resolution : Resolution}

/-- The custom property that a value is or stands for. -/
def customOf? (r : Resolver) : ThemeValue → Option CustomProperty
  | .custom custom => some custom
  | .text t => r.roleProperty? t

/-- The names of the annotations that come with a value. -/
def valueNames : ThemeValue → List Text
  | .custom custom => custom.annotations.keys
  | .text _ => []

/-- The custom property that a value stands for brings no annotations but those that come with the
    value. -/
private theorem keys_annotations_of_customOf? {custom : CustomProperty}
    (h : r.customOf? value = some custom) : custom.annotations.keys = valueNames value := by
  cases value with
  | custom custom' =>
    obtain rfl := Option.some.inj h
    rfl
  | text t =>
    obtain ⟨fallback, -, rfl⟩ := Option.map_eq_some_iff.1 h
    rfl

/-- Replacing names gives one declaration, or a pair if the two values are not the same. -/
private theorem replaceWrites_eq_ok {d : Declaration} {writes : List Write}
    (h : r.replaceWrites d replacements = .ok writes) :
    ∃ static dynamic : Text, writes = .declare { d with value := static } ::
      if dynamic = static then []
      else [.declare (Declaration.alternative { d with value := static } dynamic)] := by
  simp only [replaceWrites, bind, Except.bind] at h
  split at h
  · -- a replacement has no fallback
    cases h
  · exact ⟨_, _, (Except.ok.inj h).symm⟩

/-- What a resolver makes of any value has one of the forms. -/
theorem form_apply
    (h : r.apply property value annotations important replacements = .ok resolution) :
    resolution.Form r.emitter (valueNames value ++ (annotations.getD []).keys) := by
  cases hcustom : r.customOf? value with
  | some custom =>
    -- a custom property, given or standing for a role
    have hresolution : ∃ log, resolution =
        { log, emission? := some { property, custom, annotations, important }
          writes := r.emitter.writes { property, custom, annotations, important } } := by
      cases value with
      | custom custom' =>
        obtain rfl := Option.some.inj hcustom
        exact ⟨_, (Except.ok.inj h).symm⟩
      | text t =>
        simp only [customOf?] at hcustom
        simp only [apply, hcustom] at h
        exact ⟨_, (Except.ok.inj h).symm⟩
    obtain ⟨log, rfl⟩ := hresolution
    refine .emission _ rfl (fun name hname => ?_) rfl
    rwa [Emission.annotationNames, keys_annotations_of_customOf? hcustom] at hname
  -- a text that stands for no custom property, with or without names to replace
  | none =>
    cases value with
    | custom custom => cases hcustom
    | text t =>
      simp only [customOf?] at hcustom
      simp only [apply, hcustom] at h
      split at h
      · obtain rfl := Except.ok.inj h
        refine .single _ rfl ?_ rfl
        exact fun name hname => hname
      · cases hwrites : r.replaceWrites
            { property, value := t, important, annotations := annotations.getD [] }
            replacements with
        | error e =>
          rw [hwrites] at h
          cases h
        | ok writes =>
          rw [hwrites] at h
          obtain rfl := Except.ok.inj h
          obtain ⟨static, dynamic, rfl⟩ := replaceWrites_eq_ok hwrites
          -- the alternative is made only if it has another value
          by_cases heq : dynamic = static
          · refine .single _ rfl ?_ (by rw [if_pos heq])
            exact fun name hname => hname
          · refine .pair _ dynamic heq rfl ?_ (by rw [if_neg heq])
            exact fun name hname => hname

/-- What a resolver makes of a style has one of the forms. -/
theorem form_prop {style : Text} (h : r.prop property style important = .ok resolution) :
    resolution.Form r.emitter [] := by
  unfold prop at h
  split at h
  · obtain rfl := Except.ok.inj h
    refine .single _ rfl ?_ rfl
    exact fun name hname => hname
  · split at h
    · exact form_apply h
    · cases h

end Resolver

/-! ## The plans of steps -/

namespace Step

/-- What a step is going to add, or why it cannot, with the feature that the additions belong to.
    Steps about blocks have no plan. -/
def plan? : Step → Option (Option Text × Except ThemeError Resolution)
  | write w => some (none, .ok { writes := [w] })
  | emit emitter e => some (none, .ok { emission? := some e, writes := emitter.writes e })
  | step => step.resolution?

/-- The use of a custom property that a step makes, with the emitter that it is left to. -/
def use? : Step → Option (Emitter × Emission)
  | emit emitter e => some (emitter, e)
  | apply r property value annotations important replacements =>
    (apply r property value annotations important replacements).emission?.map (r.emitter, ·)
  | prop r property style important =>
    (prop r property style important).emission?.map (r.emitter, ·)
  | _ => none

/-- The feature that the additions of a step belong to. -/
def feature? (s : Step) : Option Text :=
  s.plan?.bind (·.1)

/-- The root definition that a step is to make: the one that is asked for, or that of the custom
    property that the step uses. -/
def definition? : Step → Option (Text × Text)
  | write (.defineRoot name value) => some (name, value)
  | step => step.use?.bind fun (emitter, e) => emitter.definition? e

/-- The names of all annotations that are handed in with a step, those of a custom property
    included. -/
def annotationNames : Step → List Text
  | write (.declare d) => d.annotations.keys
  | emit _ e => e.annotationNames
  | apply _ _ value annotations _ _ => Resolver.valueNames value ++ (annotations.getD []).keys
  | _ => []

/-- A plan is a root definition that is asked for, or it has one of the forms. -/
theorem form_of_plan? {s : Step} {feature : Option Text} {r : Resolution}
    (h : s.plan? = some (feature, .ok r)) :
    (∃ name value, s = .write (.defineRoot name value) ∧ r.writes = [.defineRoot name value]) ∨
      (s.definition? = s.use?.bind fun (emitter, e) => emitter.definition? e) ∧
        ∃ emitter, r.Form emitter s.annotationNames ∧ s.use? = r.emission?.map (emitter, ·) := by
  cases s with
  | openRule _ | openAtRoot _ | openHostAware _ | openFeature _ | close => cases h
  | write w =>
    cases h
    cases w with
    | defineRoot name value => exact .inl ⟨name, value, rfl, rfl⟩
    | declare d => exact .inr ⟨rfl, .silent, .single d rfl (fun name hname => hname) rfl, rfl⟩
  | emit emitter e =>
    cases h
    exact .inr ⟨rfl, emitter, .emission e rfl (fun name hname => hname) rfl, rfl⟩
  | apply resolver property value annotations important replacements =>
    obtain ⟨rfl, hresult⟩ := Prod.mk.inj (Option.some.inj h)
    refine .inr ⟨rfl, resolver.emitter, Resolver.form_apply hresult, ?_⟩
    simp only [use?, emission?, resolution?, Option.bind_some, hresult]
    rfl
  | prop resolver property style important =>
    obtain ⟨rfl, hresult⟩ := Prod.mk.inj (Option.some.inj h)
    refine .inr ⟨rfl, resolver.emitter, Resolver.form_prop hresult, ?_⟩
    simp only [use?, emission?, resolution?, Option.bind_some, hresult]
    rfl

/-- The feature of a step is that of its plan. -/
private theorem feature?_of_plan? {s : Step} {feature : Option Text}
    {result : Except ThemeError Resolution}
    (h : s.plan? = some (feature, result)) : s.feature? = feature := by
  rw [feature?, h]
  rfl

/-- A step about blocks uses no custom property. -/
theorem use?_of_plan?_eq_none {s : Step} (h : s.plan? = none) : s.use? = none := by
  cases s with
  | openRule _ | openAtRoot _ | openHostAware _ | openFeature _ | close => rfl
  | write _ | emit _ _ | apply _ _ _ _ _ _ | prop _ _ _ _ => cases h

/-- Nothing is used or defined by a step that fails before it adds anything. -/
private theorem use?_definition?_of_plan?_eq_error {s : Step} {feature : Option Text}
    {e : ThemeError}
    (h : s.plan? = some (feature, .error e)) : s.use? = none ∧ s.definition? = none := by
  cases s with
  | openRule _ | openAtRoot _ | openHostAware _ | openFeature _ | close => cases h
  | write _ | emit _ _ => cases h
  | apply r property value annotations important replacements =>
    obtain ⟨-, hresult⟩ := Prod.mk.inj (Option.some.inj h)
    simp [definition?, use?, emission?, resolution?, hresult, Except.toOption]
  | prop r property style important =>
    obtain ⟨-, hresult⟩ := Prod.mk.inj (Option.some.inj h)
    simp [definition?, use?, emission?, resolution?, hresult, Except.toOption]

/-- A plan consists of the root definition of the step and declarations behind it, which are those
    of the emitter if a custom property is used. -/
private theorem exists_writes_eq {s : Step} {feature : Option Text} {r : Resolution}
    (h : s.plan? = some (feature, .ok r)) :
    ∃ declarations, r.writes = Write.sequence s.definition?.toList declarations ∧
      ∀ emitter e, s.use? = some (emitter, e) → declarations = emitter.declarations e := by
  rcases form_of_plan? h with ⟨name, value, rfl, hwrites⟩ | ⟨hdefinition, emitter, hform, huse⟩
  · exact ⟨[], hwrites, fun emitter e heq => by cases heq⟩
  · obtain ⟨declarations, hwrites, hdeclarations, -⟩ := hform.writes_eq
    rw [hdefinition, huse, Option.bind_map]
    refine ⟨declarations, hwrites, fun emitter' e heq => ?_⟩
    obtain ⟨e', hemission, heq'⟩ := Option.map_eq_some_iff.1 heq
    cases heq'
    exact hdeclarations e hemission

end Step

namespace Builder

variable {b b₁ : Builder}

/-! ## What is added -/

/-- Whether additions for a feature take effect: the query includes it and all open features. -/
def emittingFor (b : Builder) (feature : Option Text) : Bool :=
  b.emitting && feature.all b.query.includes

private theorem emittingFor_none (b : Builder) : b.emittingFor none = b.emitting := by
  simp [emittingFor]

/-- Additions have no part in what takes effect. -/
theorem Adds.emitting {declarations : List Declaration} {definitions : Entries Text}
    {rules : List StyleRule} (h : Adds b declarations definitions rules b₁) :
    b₁.emitting = b.emitting := by
  rw [Builder.emitting, Builder.emitting, h.openFeatures, h.query]

/-- In a feature block additions take effect just if they do for its feature. -/
private theorem emitting_openFeature (b : Builder) (name : Text) :
    (b.openFeature name).emitting = b.emittingFor (some name) := by
  rw [emitting, openFeatures_openFeature, List.all_append, emittingFor, emitting]
  simp [openFeature]

/-- With a rule open, declarations are added to that rule, behind those it has. -/
private theorem Adds.exists_rules_eq {declarations : List Declaration} {definitions : Entries Text}
    (hb : b.RulesExist) (hopen : b.openRules ≠ []) (h : Adds b declarations definitions [] b₁) :
    ∃ before rule after, b.rules = before ++ rule :: after ∧
      b.openRules.head? = some before.length ∧
      b₁.rules =
        before ++ { rule with declarations := rule.declarations ++ declarations } :: after := by
  obtain ⟨index, outer, hcons⟩ := List.exists_cons_of_ne_nil hopen
  have hindex : index < b.rules.length := hb index (hcons ▸ List.mem_cons_self)
  obtain ⟨before, rule, after, hrules, hlength, hmodify⟩ := List.exists_of_modify
    (fun rule : StyleRule => { rule with declarations := rule.declarations ++ declarations }) hindex
  refine ⟨before, rule, after, hrules, ?_, ?_⟩
  · rw [hcons, hlength]
    rfl
  · rw [h.rules, List.append_nil, rulesWith_of_openRules_eq_cons hcons, hmodify]

/-- Declarations in sequence are all made, or the first of them fails. -/
private theorem adds_perform_declarations (hb : b.RulesExist) (declarations : List Declaration) :
    Adds b (if b.emitting then declarations else []) [] []
      (b.perform (declarations.map .declare)).builder := by
  induction declarations generalizing b with
  | nil =>
    rw [ite_self]
    exact .refl b
  | cons d declarations ih =>
    cases hopen : b.openRules with
    | nil =>
      -- outside of rules it does not matter which declarations are added
      simp only [List.map_cons, perform, write, declare_of_openRules_eq_nil hopen]
      exact ⟨rfl, rfl, rfl, by rw [rulesWith_of_openRules_eq_nil hopen, List.append_nil]⟩
    | cons index outer =>
      obtain ⟨b', hdeclare⟩ : ∃ b', b.declare d = .ok b' :=
        ⟨_, declare_of_openRules_eq_cons hopen d⟩
      -- the first declaration is made, and the others behind it under the same gate
      have hfirst : Adds b (if b.emitting then [d] else []) [] [] b' := by
        simpa only [step, perform, write, hdeclare] using b.adds_declare d
      have hrest := ih (hfirst.rulesExist hb)
      rw [hfirst.emitting] at hrest
      have hboth := hfirst.trans hrest hb
      simp only [List.map_cons, perform, write, hdeclare]
      cases hemitting : b.emitting <;> rw [hemitting] at hboth <;> exact hboth

/-- A plan takes effect as a whole, or not at all. -/
private theorem adds_perform_sequence (hb : b.RulesExist) (definitions : Entries Text)
    (declarations : List Declaration) :
    Adds b (if b.emitting then declarations else []) (if b.emitting then definitions else []) []
      (b.perform (Write.sequence definitions declarations)).builder := by
  induction definitions generalizing b with
  | nil =>
    rw [ite_self]
    exact adds_perform_declarations hb declarations
  | cons d definitions ih =>
    have hfirst := b.adds_defineRoot d.1 d.2
    have hrest := ih (hfirst.rulesExist hb)
    rw [hfirst.emitting] at hrest
    have hboth := hfirst.trans hrest hb
    cases hemitting : b.emitting <;> rw [hemitting] at hboth <;> exact hboth

theorem SameBlocks.openRules (h : SameBlocks b b₁) : b₁.openRules = b.openRules := by
  rw [Builder.openRules, Builder.openRules, h.openBlocks]

/-- Additions in sequence fail exactly if there is a declaration and no rule is open. -/
private theorem error?_perform_sequence (b : Builder) (definitions : Entries Text)
    (declarations : List Declaration) :
    (b.perform (Write.sequence definitions declarations)).error? =
      if b.openRules = [] then declarations.head?.map fun d => .outsideRule d.property
      else none := by
  induction definitions generalizing b with
  | nil =>
    induction declarations generalizing b with
    | nil =>
      rw [List.head?_nil, Option.map_none, ite_self]
      rfl
    | cons d declarations ih =>
      cases hopen : b.openRules with
      | nil =>
        simp only [Write.sequence, List.map_nil, List.nil_append, List.map_cons, perform, write,
          declare_of_openRules_eq_nil hopen]
        rfl
      | cons index outer =>
        obtain ⟨b', hdeclare⟩ : ∃ b', b.declare d = .ok b' :=
          ⟨_, declare_of_openRules_eq_cons hopen d⟩
        -- the rule is open for the next declaration as well
        have hsame := (sameBlocks_write (w := .declare d) hdeclare).openRules
        have hrest := ih b'
        rw [hsame, hopen] at hrest
        simp only [Write.sequence, List.map_nil, List.nil_append, List.map_cons, perform, write,
          hdeclare] at hrest ⊢
        simpa using hrest
  | cons d definitions ih =>
    have hsame := (sameBlocks_write (b := b) (w := .defineRoot d.1 d.2) rfl).openRules
    -- a definition does not fail, and leaves the open rules alone
    rw [← hsame]
    exact ih (b.defineRoot d.1 d.2)

/-- What a resolution adds to the innermost open rule and to the root, if it takes effect for its
    feature. -/
theorem adds_enact (hb : b.RulesExist) (feature : Option Text) {resolution : Resolution}
    {definitions : Entries Text} {declarations : List Declaration}
    (hwrites : resolution.writes = Write.sequence definitions declarations) :
    Adds b (if b.emittingFor feature then declarations else [])
      (if b.emittingFor feature then definitions else []) []
      (b.enact feature resolution).builder := by
  let logged : Builder := { b with log := b.log ++ resolution.log }
  cases feature with
  | none =>
    have h := adds_perform_sequence (b := logged) hb definitions declarations
    rw [← hwrites] at h
    rw [emittingFor_none]
    exact h.of_log
  | some name =>
    have h := adds_perform_sequence (b := logged.openFeature name) hb definitions declarations
    rw [← hwrites, emitting_openFeature] at h
    exact h.close_openFeature.of_log

/-- A resolution fails exactly if it has a declaration and no rule is open. -/
theorem error?_enact (b : Builder) (feature : Option Text) {resolution : Resolution}
    {definitions : Entries Text} {declarations : List Declaration}
    (hwrites : resolution.writes = Write.sequence definitions declarations) :
    (b.enact feature resolution).error? =
      if b.openRules = [] then declarations.head?.map fun d => .outsideRule d.property
      else none := by
  let logged : Builder := { b with log := b.log ++ resolution.log }
  cases feature with
  | none =>
    have h := error?_perform_sequence logged definitions declarations
    rwa [← hwrites] at h
  | some name =>
    have h := error?_perform_sequence (logged.openFeature name) definitions declarations
    rwa [← hwrites] at h

/-! ## Steps with plans -/

/-- A step with a plan carries it out. -/
theorem step_of_plan? {s : Step} {feature : Option Text} {result : Except ThemeError Resolution}
    (h : s.plan? = some (feature, result)) : b.step s = b.enactResult feature result := by
  cases s with
  | openRule _ | openAtRoot _ | openHostAware _ | openFeature _ | close => cases h
  | write w =>
    cases h
    -- such a step leaves no log, and belongs to no feature
    simp only [step, enactResult, enact, List.append_nil]
  | emit emitter e =>
    cases h
    simp only [step, enactResult, enact, List.append_nil]
  | apply r property value annotations important replacements =>
    cases h
    rfl
  | prop r property style important =>
    cases h
    rfl

/-- What a step with a plan adds: its root definition, and declarations, which are those of the
    emitter if a custom property is used. -/
theorem exists_adds_step (hb : b.RulesExist) {s : Step} (hplan : s.plan? ≠ none) :
    ∃ declarations,
      Adds b (if b.emittingFor s.feature? then declarations else [])
        (if b.emittingFor s.feature? then s.definition?.toList else []) [] (b.step s).builder ∧
      ∀ emitter e, s.use? = some (emitter, e) → declarations = emitter.declarations e := by
  obtain ⟨⟨feature, result⟩, hplan⟩ := Option.ne_none_iff_exists'.1 hplan
  rw [step_of_plan? hplan, Step.feature?_of_plan? hplan]
  cases result with
  | error e =>
    obtain ⟨huse, hdefinition⟩ := Step.use?_definition?_of_plan?_eq_error hplan
    refine ⟨[], ?_, fun emitter e heq => by cases huse.symm.trans heq⟩
    rw [hdefinition, Option.toList_none, ite_self, ite_self]
    exact .refl b
  | ok r =>
    obtain ⟨declarations, hwrites, hdeclarations⟩ := Step.exists_writes_eq hplan
    exact ⟨declarations, adds_enact hb feature hwrites, hdeclarations⟩

/-- A step whose declarations take effect makes them in the innermost open rule. If it is to make
    nothing else, then nothing else changes. -/
theorem exists_build_step (hb : b.RulesExist) (hopen : b.openRules ≠ []) {s : Step}
    {feature : Option Text} {resolution : Resolution} {declarations : List Declaration}
    (hplan : s.plan? = some (feature, .ok resolution)) (hemitting : b.emittingFor feature = true)
    (hwrites : resolution.writes = Write.sequence [] declarations) :
    (b.step s).error? = none ∧
      ∃ before rule after, b.build.rules = before ++ rule :: after ∧
        b.openRules.head? = some before.length ∧
        (b.step s).builder.build =
          { root := b.build.root
            rules := before ++
              { rule with declarations := rule.declarations ++ declarations } :: after } := by
  have hadds := adds_enact hb feature hwrites
  have herror := error?_enact b feature hwrites
  rw [hemitting, if_pos rfl, if_pos rfl] at hadds
  rw [if_neg hopen] at herror
  obtain ⟨before, rule, after, hrules, hindex, hrules'⟩ := hadds.exists_rules_eq hb hopen
  rw [step_of_plan? hplan]
  refine ⟨herror, before, rule, after, hrules, hindex, ?_⟩
  rw [build, enactResult, hadds.root, hrules']
  rfl

/-- A step without a plan is about blocks. -/
theorem step_of_plan?_eq_none {s : Step} (h : s.plan? = none) :
    (b.step s).error? = none ∧ (b.step s).builder.root = b.root ∧
      (b.step s).builder.rules =
        b.rules ++ (b.opened? s).toList.map fun selectors => { selectors, declarations := [] } := by
  cases s with
  | openRule _ | openAtRoot _ => exact ⟨rfl, rfl, rfl⟩
  | openHostAware lists =>
    rw [step, openHostAware_eq]
    exact ⟨rfl, rfl, rfl⟩
  | openFeature _ | close => exact ⟨rfl, rfl, (List.append_nil _).symm⟩
  | write _ | emit _ _ | apply _ _ _ _ _ _ | prop _ _ _ _ => cases h

/-- With a rule open, a step can fail only before it adds anything. -/
theorem builder_step_of_error? (hopen : b.openRules ≠ []) {s : Step} {e : ThemeError}
    (h : (b.step s).error? = some e) : (b.step s).builder = b := by
  cases hplan : s.plan? with
  | none =>
    rw [(step_of_plan?_eq_none hplan).1] at h
    cases h
  | some plan =>
    obtain ⟨feature, result⟩ := plan
    rw [step_of_plan? hplan] at h ⊢
    cases result with
    | error e' => rfl
    | ok r =>
      obtain ⟨declarations, hwrites, -⟩ := Step.exists_writes_eq hplan
      -- with a rule open, no declaration fails
      have herror := b.error?_enact feature hwrites
      rw [if_neg hopen] at herror
      cases herror.symm.trans h

/-! ## The open rules -/

theorem length_rules (b : Builder) : b.rules.length = b.selectorLists.length :=
  (List.length_map _).symm

/-- No step closes a rule that stays among the open ones, and none takes a rule away. -/
theorem rulesExist_step (hb : b.RulesExist) (s : Step) : (b.step s).builder.RulesExist := by
  have hstep := blocksStep_step b s
  have hlength : (b.step s).builder.rules.length =
      b.rules.length + (b.opened? s).toList.length := by
    rw [length_rules, hstep.selectorLists, List.length_append, length_rules]
  intro index hindex
  rw [openRules, hstep.openBlocks] at hindex
  rw [hlength]
  cases s with
  | openRule _ | openAtRoot _ | openHostAware _ =>
    rcases List.mem_cons.1 hindex with rfl | houter
    · rw [length_rules, opened?, Option.toList_some, List.length_singleton]
      omega
    · have hlt := hb index houter
      omega
  | close =>
    have hlt := hb index (b.openBlocks.rules_close_sublist.mem hindex)
    omega
  | openFeature _ | write _ | emit _ _ | apply _ _ _ _ _ _ | prop _ _ _ _ =>
    have hlt := hb index hindex
    omega

/-- Without open rules there is none that could be missing. -/
theorem rulesExist_of_openRules_eq_nil (h : b.openRules = []) : b.RulesExist := by
  intro index hindex
  rw [h] at hindex
  cases hindex

theorem rulesExist_start (query : FeatureQuery) : ({ query } : Builder).RulesExist :=
  rulesExist_of_openRules_eq_nil rfl

end Builder

end CssTheming
