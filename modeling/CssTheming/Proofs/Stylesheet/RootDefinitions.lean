import CssTheming.Proofs.Stylesheet.Plan

/-!
# Root definitions and the declarations that go with them

If nothing is defined in the root but by emitters that define what they use, and nothing is added
outside of rules, then a root definition takes effect just if the two declarations behind it do,
since all three are under the same gate. The root can therefore be read off the declarations that
were appended, step by step, where the first use of a name counts.

## Main definitions

- `Builder.appended`: the declarations that a step appends, by comparison of before and after
- `Builder.emittedEntries`: the custom properties whose two declarations are appended in a run

## Key results

- `Builder.emitted?_eq`: the declarations are appended just if the root definition takes effect
- `Builder.root_run`: the root after a run
- `root_eq_emitted_of_run`: the names and values in the root, and the declarations that refer to
  them
-/

namespace CssTheming

namespace Step

/-- Whether a step defines nothing in the root but what it uses, and leaves what it uses to an
    emitter that defines it. -/
def definesWhatItUses : Step → Bool
  | write (.defineRoot _ _) => false
  | emit emitter _ => emitter == .fallbackAndVar true
  | apply r _ _ _ _ _ | prop r _ _ _ => r.emitter == .fallbackAndVar true
  | _ => true

/-- The root definition of such a step is that of the custom property that it uses. -/
private theorem definition?_of_definesWhatItUses {s : Step} (hs : s.definesWhatItUses = true) :
    s.definition? = s.use?.bind fun (emitter, e) => emitter.definition? e := by
  cases s with
  | write w =>
    cases w with
    | defineRoot name value => cases hs
    | declare d => rfl
  | _ => rfl

/-- The use of a custom property is left to an emitter that defines it. -/
private theorem emitter_of_use? {s : Step} (hs : s.definesWhatItUses = true) {emitter : Emitter}
    {e : Emission} (huse : s.use? = some (emitter, e)) : emitter = .fallbackAndVar true := by
  cases s with
  | openRule _ | openAtRoot _ | openHostAware _ | openFeature _ | close | write _ => cases huse
  | emit emitter' e' =>
    cases huse
    exact beq_iff_eq.1 hs
  | apply r property value annotations important replacements =>
    obtain ⟨e', -, heq⟩ := Option.map_eq_some_iff.1 huse
    cases heq
    exact beq_iff_eq.1 hs
  | prop r property style important =>
    obtain ⟨e', -, heq⟩ := Option.map_eq_some_iff.1 huse
    cases heq
    exact beq_iff_eq.1 hs

end Step

namespace Builder

variable {b b₁ : Builder} {declarations : List Declaration} {definitions : Entries Text}

/-! ## The declarations of the innermost open rule -/

/-- The declarations of the innermost open rule; none if no rule is open. -/
def currentDeclarations (b : Builder) : List Declaration :=
  match b.openRules.head?.bind (b.rules[·]?) with
  | some rule => rule.declarations
  | none => []

/-- The declarations that a step appends to those of the innermost open rule. -/
def appended (b : Builder) (s : Step) : List Declaration :=
  (b.step s).builder.currentDeclarations.drop b.currentDeclarations.length

/-- With a rule open, what is added comes behind the declarations of the innermost one. -/
private theorem Adds.currentDeclarations (h : Adds b declarations definitions [] b₁)
    (hb : b.RulesExist)
    (hopen : b.openRules ≠ []) :
    b₁.currentDeclarations = b.currentDeclarations ++ declarations := by
  obtain ⟨index, outer, hrules⟩ := List.exists_cons_of_ne_nil hopen
  have hlt : index < b.rules.length := hb index (hrules ▸ List.mem_cons_self)
  rw [Builder.currentDeclarations, Builder.currentDeclarations, h.openRules, h.rules,
    List.append_nil, rulesWith_of_openRules_eq_cons hrules, hrules]
  simp only [List.head?_cons, Option.bind_some, List.getElem?_modify_eq,
    List.getElem?_eq_getElem hlt, Option.map_eq_map, Option.map_some]

/-! ## The declarations of all rules -/

/-- Some rule has the declaration. -/
def Declares (b : Builder) (d : Declaration) : Prop :=
  ∃ rule ∈ b.rules, d ∈ rule.declarations

/-- The declarations of the innermost open rule are those of a rule. -/
private theorem declares_of_mem_currentDeclarations {d : Declaration}
    (h : d ∈ b.currentDeclarations) :
    b.Declares d := by
  unfold currentDeclarations at h
  split at h
  · next rule hrule =>
    obtain ⟨index, -, hindex⟩ := Option.bind_eq_some_iff.1 hrule
    exact ⟨rule, List.mem_of_getElem? hindex, h⟩
  · cases h

/-- A declaration that was made stays. -/
private theorem Adds.declares {rules : List StyleRule}
    (h : Adds b declarations definitions rules b₁)
    {d : Declaration} (hd : b.Declares d) : b₁.Declares d := by
  obtain ⟨rule, hrule, hmem⟩ := hd
  -- the rule is still there, perhaps with more declarations
  have hwith : ∃ rule' ∈ b.rulesWith declarations, d ∈ rule'.declarations := by
    unfold Builder.rulesWith
    split
    · exact ⟨rule, hrule, hmem⟩
    · next index _ _ =>
      rcases List.mem_modify_of_mem hrule index fun rule =>
        { rule with declarations := rule.declarations ++ declarations } with hsame | hmodified
      · exact ⟨rule, hsame, hmem⟩
      · exact ⟨_, hmodified, List.mem_append_left _ hmem⟩
  obtain ⟨rule', hrule', hmem'⟩ := hwith
  exact ⟨rule', h.rules ▸ List.mem_append_left _ hrule', hmem'⟩

/-! ## What is emitted -/

/-- The name and the fallback of the custom property that a step uses, if the step appends the two
    declarations for it, that of the fallback and that of the reference. -/
def emitted? (b : Builder) (s : Step) : Option (Text × Text) := do
  let (_, e) ← s.use?
  let fallback ← e.custom.fallback
  if (b.appended s).map (fun d => (d.property, d.value)) =
      [(e.property, fallback), (e.property, e.custom.var)] then
    some (e.custom.name, fallback)
  else none

/-- The names and the fallbacks of the custom properties whose two declarations are appended in a
    run, in order and with repetitions. -/
def emittedEntries (b : Builder) : List Step → Entries Text
  | [] => []
  | s :: steps => (b.emitted? s).toList ++ (b.step s).builder.emittedEntries steps

/-- A rule is open whenever a step of a run is about additions. -/
def AddsInRules (b : Builder) : List Step → Prop
  | [] => True
  | s :: steps => (s.plan? ≠ none → b.openRules ≠ []) ∧ (b.step s).builder.AddsInRules steps

instance AddsInRules.decidable :
    ∀ (b : Builder) (steps : List Step), Decidable (b.AddsInRules steps)
  | _, [] => inferInstanceAs (Decidable True)
  | b, s :: steps =>
    have := AddsInRules.decidable (b.step s).builder steps
    inferInstanceAs (Decidable
      ((s.plan? ≠ none → b.openRules ≠ []) ∧ (b.step s).builder.AddsInRules steps))

/-- The two declarations are appended just if the root definition in front of them takes effect. -/
theorem emitted?_eq (hb : b.RulesExist) (hopen : b.openRules ≠ []) {s : Step}
    (hplan : s.plan? ≠ none) (hs : s.definesWhatItUses = true) :
    b.emitted? s = if b.emittingFor s.feature? then s.definition? else none := by
  obtain ⟨declarations, hadds, hdeclarations⟩ := exists_adds_step hb hplan
  -- what is appended is just what is added, since a rule is open
  have happended : b.appended s = if b.emittingFor s.feature? then declarations else [] := by
    rw [appended, hadds.currentDeclarations hb hopen, List.drop_left]
  rw [Step.definition?_of_definesWhatItUses hs]
  cases huse : s.use? with
  | none => simp [emitted?, huse]
  | some use =>
    obtain ⟨emitter, e⟩ := use
    obtain rfl := Step.emitter_of_use? hs huse
    rw [hdeclarations _ e huse] at happended
    cases hfallback : e.custom.fallback with
    | none => simp [emitted?, Emitter.definition?, huse, hfallback]
    | some fallback =>
      cases hemitting : b.emittingFor s.feature? with
      | false =>
        rw [hemitting] at happended
        simp [emitted?, huse, happended]
      | true =>
        rw [hemitting] at happended
        simp [emitted?, Emitter.definition?, Emitter.declarations, Declaration.alternative,
          Emission.declaration, huse, hfallback, happended]

/-- What is emitted is declared with a reference to the custom property. -/
private theorem declares_of_emitted? {s : Step} {entry : Text × Text}
    (h : b.emitted? s = some entry) :
    ∃ d, (b.step s).builder.Declares d ∧
      d.value = "var(" ++ entry.1 ++ ", " ++ entry.2 ++ ")" := by
  obtain ⟨⟨emitter, e⟩, -, h⟩ := Option.bind_eq_some_iff.1 h
  obtain ⟨fallback, hfallback, h⟩ := Option.bind_eq_some_iff.1 h
  split at h
  · next happended =>
    obtain rfl := Option.some.inj h
    have hvar : (e.property, e.custom.var) ∈
        (b.appended s).map fun d => (d.property, d.value) := by
      rw [happended]
      exact List.mem_cons_of_mem _ List.mem_cons_self
    obtain ⟨d, hd, heq⟩ := List.mem_map.1 hvar
    refine ⟨d, declares_of_mem_currentDeclarations (List.mem_of_mem_drop hd), ?_⟩
    rw [show d.value = e.custom.var from congrArg Prod.snd heq, CustomProperty.var, hfallback]
  · cases h

/-! ## Steps and runs -/

/-- No step takes a declaration away. -/
theorem declares_step (hb : b.RulesExist) (s : Step) {d : Declaration} (hd : b.Declares d) :
    (b.step s).builder.Declares d := by
  by_cases hplan : s.plan? = none
  · obtain ⟨rule, hrule, hmem⟩ := hd
    exact ⟨rule, (step_of_plan?_eq_none hplan).2.2 ▸ List.mem_append_left _ hrule, hmem⟩
  · obtain ⟨declarations, hadds, -⟩ := exists_adds_step hb hplan
    exact hadds.declares hd

/-- No run takes a declaration away. -/
theorem declares_run (hb : b.RulesExist) (steps : List Step) {d : Declaration}
    (hd : b.Declares d) : (b.run steps).Declares d := by
  induction steps generalizing b with
  | nil => exact hd
  | cons s steps ih => exact ih (rulesExist_step hb s) (declares_step hb s hd)

/-- What is emitted in a run is declared with a reference, at its end too. -/
private theorem declares_of_mem_emittedEntries (hb : b.RulesExist) {steps : List Step}
    {entry : Text × Text} (h : entry ∈ b.emittedEntries steps) :
    ∃ d, (b.run steps).Declares d ∧ d.value = "var(" ++ entry.1 ++ ", " ++ entry.2 ++ ")" := by
  induction steps generalizing b with
  | nil => cases h
  | cons s steps ih =>
    -- it is emitted by the first step, or later
    rcases List.mem_append.1 h with hfirst | hlater
    · obtain ⟨d, hd, hvalue⟩ := declares_of_emitted? (Option.mem_toList.1 hfirst)
      exact ⟨d, declares_run (rulesExist_step hb s) steps hd, hvalue⟩
    · exact ih (rulesExist_step hb s) hlater

/-- A step adds to the root what it emits. -/
theorem root_step (hb : b.RulesExist) {s : Step} (hs : s.definesWhatItUses = true)
    (hrule : s.plan? ≠ none → b.openRules ≠ []) :
    (b.step s).builder.root =
      (b.emitted? s).toList.foldl (fun root d => root.setIfNew d.1 d.2) b.root := by
  by_cases hplan : s.plan? = none
  · rw [(step_of_plan?_eq_none hplan).2.1, emitted?, Step.use?_of_plan?_eq_none hplan]
    rfl
  · obtain ⟨declarations, hadds, -⟩ := exists_adds_step hb hplan
    -- what takes effect in the root is what is emitted
    rw [hadds.root, emitted?_eq hb (hrule hplan) hplan hs]
    split <;> rfl

/-- A run adds to the root what it emits. -/
theorem root_run (hb : b.RulesExist) {steps : List Step}
    (hsteps : ∀ s ∈ steps, s.definesWhatItUses = true) (hrules : b.AddsInRules steps) :
    (b.run steps).root =
      (b.emittedEntries steps).foldl (fun root d => root.setIfNew d.1 d.2) b.root := by
  induction steps generalizing b with
  | nil => rfl
  | cons s steps ih =>
    have hs := hsteps s List.mem_cons_self
    rw [run_cons, ih (rulesExist_step hb s) (fun s' hs' => hsteps s' (List.mem_cons_of_mem _ hs'))
      hrules.2, root_step hb hs hrules.1, emittedEntries, List.foldl_append]

end Builder

/-- If nothing is defined in the root but by emitters that define all that they use, and all
    additions are made in rules, then the names in the root are those of the custom properties whose
    two declarations were appended, in the order of the first time. Each has the fallback of that
    time as its value, and a declaration refers to both. -/
theorem root_eq_emitted_of_run (query : FeatureQuery) (steps : List Step)
    (hsteps : ∀ s ∈ steps, s.definesWhatItUses = true)
    (hrules : ({ query } : Builder).AddsInRules steps) :
    (({ query } : Builder).run steps).build.root.keys =
        (({ query } : Builder).emittedEntries steps).keys.eraseDups ∧
      (∀ name, (({ query } : Builder).run steps).build.root.get? name =
        (({ query } : Builder).emittedEntries steps).get? name) ∧
      ∀ entry ∈ (({ query } : Builder).run steps).build.root,
        ∃ rule ∈ (({ query } : Builder).run steps).build.rules, ∃ d ∈ rule.declarations,
          d.value = "var(" ++ entry.1 ++ ", " ++ entry.2 ++ ")" := by
  have hexist := Builder.rulesExist_start query
  have hroot := Builder.root_run hexist hsteps hrules
  refine ⟨?_, fun name => ?_, fun entry hentry => ?_⟩
  · rw [Builder.build, hroot]
    exact Entries.keys_foldl_setIfNew_nil _
  · rw [Builder.build, hroot]
    exact Entries.get?_foldl_setIfNew _ [] name
  · rw [Builder.build, hroot] at hentry
    have hemitted := (Entries.mem_of_mem_foldl_setIfNew hentry).resolve_left List.not_mem_nil
    obtain ⟨d, ⟨rule, hrule, hd⟩, hvalue⟩ :=
      Builder.declares_of_mem_emittedEntries hexist hemitted
    exact ⟨rule, hrule, d, hd, hvalue⟩

/-- Steps that use three custom properties of one name, the first in a block for a feature, and that
    of a role in between. -/
def sharedNameSteps : List Step :=
  [.openRule (.text "a"), .openFeature "layout",
    .emit (.fallbackAndVar true) { property := "width", custom := .named "c" (some "1px") [] },
    .close,
    .emit (.fallbackAndVar true) { property := "fill", custom := .named "c" (some "red") [] },
    .apply {} "color" (.text "primary") none false [],
    .apply { feature := none } "stroke" (.custom (.named "c" (some "blue") [])) none false []]

/-- The feature of the first use is not queried, so that the second use counts. -/
theorem root_eq_emitted_of_shared_name :
    ({ query := { excluded := ["layout"] } } : Builder).emittedEntries sharedNameSteps =
      ([("--c", "red"), ("--theme-primary", "#6200ee"), ("--c", "blue")] : Entries Text) ∧
    (({ query := { excluded := ["layout"] } } : Builder).run sharedNameSteps).build.root.keys =
      (["--c", "--theme-primary"] : List Text) ∧
    (({ query := { excluded := ["layout"] } } : Builder).run
        sharedNameSteps).build.root.get? "--c" = some "red" := by
  have hsteps : ∀ s ∈ sharedNameSteps, s.definesWhatItUses = true := by decide +kernel
  have hrules :
      ({ query := { excluded := ["layout"] } } : Builder).AddsInRules sharedNameSteps := by
    decide +kernel
  have hemitted :
      ({ query := { excluded := ["layout"] } } : Builder).emittedEntries sharedNameSteps =
        ([("--c", "red"), ("--theme-primary", "#6200ee"), ("--c", "blue")] : Entries Text) := by
    decide +kernel
  obtain ⟨hkeys, hget, -⟩ :=
    root_eq_emitted_of_run { excluded := ["layout"] } sharedNameSteps hsteps hrules
  rw [hkeys, hget, hemitted]
  decide +kernel

end CssTheming
