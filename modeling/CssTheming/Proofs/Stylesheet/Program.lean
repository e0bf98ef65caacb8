import CssTheming.Proofs.Entries
import CssTheming.Proofs.List
import CssTheming.Proofs.Stylesheet.Steps

/-!
# Nested programs

A program is a tree of blocks with additions between them. What it builds can be read off the tree,
without a builder: every rule block gives a rule, which has the declarations that stand directly
inside it or inside feature blocks of it. The builder, with its flat list of rules and its stack of
open blocks, builds the same.

## Key results

- `Program.declarations`, `Program.definitions`, `Program.rules`: the parts of a stylesheet, read
  off the program
- `Builder.Adds`: what a part of a program adds to a stylesheet in the making
- `Builder.carried_run_steps`: the steps of a program add what is read off the program
- `Program.build_run_steps`: the builder builds the stylesheet of the program
-/

namespace CssTheming

/-! ## Programs and their stylesheets -/

/-- The ways to open a rule. -/
inductive RuleKind where
  /-- Inside the enclosing rule. -/
  | nested (list : SelectorList)
  /-- At the top level. -/
  | atRoot (list : SelectorList)
  /-- At the top level, with every host selector corrected. -/
  | hostAware (lists : List SelectorList)
deriving DecidableEq, Repr

namespace RuleKind

/-- The selectors of a rule, from those of the enclosing rule. -/
def selectors (enclosing : List Text) : RuleKind → List Text
  | nested list => SelectorList.nest (.items enclosing) list
  | atRoot list => SelectorList.flatten [list]
  | hostAware lists => SelectorList.hostAware lists

/-- The step that opens a rule. -/
def opening : RuleKind → Step
  | nested list => .openRule list
  | atRoot list => .openAtRoot list
  | hostAware lists => .openHostAware lists

end RuleKind

/-- A sequence of blocks and additions. A block holds a sequence of its own, and all sequences are
    written as their first element and what comes next. -/
inductive Program where
  /-- The end of a sequence. -/
  | done
  /-- A rule. -/
  | rule (kind : RuleKind) (body next : Program)
  /-- A block for one feature. -/
  | targets (feature : Text) (body next : Program)
  /-- An addition. -/
  | write (w : Write) (next : Program)
deriving Repr

namespace Program

/-- The steps by which a program is carried out. -/
def steps : Program → List Step
  | done => []
  | rule kind body next => kind.opening :: body.steps ++ .close :: next.steps
  | targets feature body next => .openFeature feature :: body.steps ++ .close :: next.steps
  | write w next => .write w :: next.steps

/-- The declarations that a sequence makes in the rule around it, where `features` are those of all
    blocks around it. -/
def declarations (query : FeatureQuery) (features : List Text) : Program → List Declaration
  | done => []
  | rule _ _ next => next.declarations query features
  | targets feature body next =>
    body.declarations query (features ++ [feature]) ++ next.declarations query features
  | write (.declare declaration) next =>
    (if features.all query.includes then [declaration] else []) ++ next.declarations query features
  | write (.defineRoot _ _) next => next.declarations query features

/-- The root definitions of a sequence, in order and with repetitions. -/
def definitions (query : FeatureQuery) (features : List Text) : Program → Entries Text
  | done => []
  | rule _ body next => body.definitions query features ++ next.definitions query features
  | targets feature body next =>
    body.definitions query (features ++ [feature]) ++ next.definitions query features
  | write (.defineRoot name value) next =>
    (if features.all query.includes then [(name, value)] else []) ++
      next.definitions query features
  | write (.declare _) next => next.definitions query features

/-- The rules of a sequence, each before those inside it, where `enclosing` are the selectors of the
    rule around the sequence. -/
def rules (query : FeatureQuery) (features enclosing : List Text) : Program → List StyleRule
  | done => []
  | rule kind body next =>
    { selectors := kind.selectors enclosing, declarations := body.declarations query features } ::
      body.rules query features (kind.selectors enclosing) ++ next.rules query features enclosing
  | targets feature body next =>
    body.rules query (features ++ [feature]) enclosing ++ next.rules query features enclosing
  | write _ next => next.rules query features enclosing

/-- The stylesheet of a program. The first definition of a name counts. -/
def stylesheet (query : FeatureQuery) (p : Program) : Stylesheet where
  root := (p.definitions query []).eraseDupsBy (·.1 == ·.1)
  rules := p.rules query [] []

end Program

namespace Builder

variable {b b₁ b₂ : Builder}

/-! ## What is added -/

/-- A feature that is opened comes behind the others. -/
theorem openFeatures_openFeature (b : Builder) (feature : Text) :
    (b.openFeature feature).openFeatures = b.openFeatures ++ [feature] :=
  rfl

/-- Every open rule is among the rules built so far. -/
def RulesExist (b : Builder) : Prop :=
  ∀ index ∈ b.openRules, index < b.rules.length

/-- The rules with declarations added to the innermost open one; unchanged if no rule is open. -/
def rulesWith (b : Builder) (declarations : List Declaration) : List StyleRule :=
  match b.openRules with
  | [] => b.rules
  | index :: _ => b.rules.modify index fun rule =>
      { rule with declarations := rule.declarations ++ declarations }

/-- Outside of rules there is none to take the declarations. -/
theorem rulesWith_of_openRules_eq_nil (h : b.openRules = []) (declarations : List Declaration) :
    b.rulesWith declarations = b.rules := by
  rw [rulesWith, h]

/-- The innermost open rule takes the declarations behind its own. -/
theorem rulesWith_of_openRules_eq_cons {index : Nat} {outer : List Nat}
    (h : b.openRules = index :: outer) (declarations : List Declaration) :
    b.rulesWith declarations = b.rules.modify index fun rule =>
      { rule with declarations := rule.declarations ++ declarations } := by
  rw [rulesWith, h]

@[simp] theorem rulesWith_nil (b : Builder) : b.rulesWith [] = b.rules := by
  unfold rulesWith
  split
  · rfl
  · simp only [List.append_nil]
    exact List.modify_id _ _

/-- Declarations leave the selectors of the rules alone. -/
private theorem map_selectors_rulesWith (b : Builder) (declarations : List Declaration) :
    (b.rulesWith declarations).map (·.selectors) = b.selectorLists := by
  unfold rulesWith
  split
  · rfl
  · exact map_selectors_modify _ _ _

/-- The second builder has the open blocks of the first, and beyond what the first has built, it has
    declarations in the innermost open rule, root definitions, and rules at the end. -/
structure Adds (b : Builder) (declarations : List Declaration) (definitions : Entries Text)
    (rules : List StyleRule) (b' : Builder) : Prop where
  query : b'.query = b.query
  openBlocks : b'.openBlocks = b.openBlocks
  root : b'.root = definitions.foldl (fun root d => root.setIfNew d.1 d.2) b.root
  rules : b'.rules = b.rulesWith declarations ++ rules

namespace Adds

variable {declarations declarations₁ declarations₂ : List Declaration}
  {definitions definitions₁ definitions₂ : Entries Text} {rules rules₁ rules₂ : List StyleRule}

theorem refl (b : Builder) : Adds b [] [] [] b :=
  ⟨rfl, rfl, rfl, by rw [rulesWith_nil, List.append_nil]⟩

theorem openRules (h : Adds b declarations definitions rules b₁) : b₁.openRules = b.openRules := by
  rw [Builder.openRules, h.openBlocks, Builder.openRules]

theorem openFeatures (h : Adds b declarations definitions rules b₁) :
    b₁.openFeatures = b.openFeatures := by
  rw [Builder.openFeatures, h.openBlocks, Builder.openFeatures]

/-- The selectors of the new rules come behind those of the rules that were there. -/
theorem selectorLists (h : Adds b declarations definitions rules b₁) :
    b₁.selectorLists = b.selectorLists ++ rules.map (·.selectors) := by
  rw [Builder.selectorLists, h.rules, List.map_append, map_selectors_rulesWith]

theorem length_le (h : Adds b declarations definitions rules b₁) :
    b.rules.length ≤ b₁.rules.length := by
  have hlength := congrArg List.length h.selectorLists
  simp only [Builder.selectorLists, List.length_map, List.length_append] at hlength
  omega

/-- The open rules stay among the rules. -/
theorem rulesExist (h : Adds b declarations definitions rules b₁) (hb : b.RulesExist) :
    b₁.RulesExist := by
  intro index hindex
  rw [h.openRules] at hindex
  have hlt := hb index hindex
  have hle := h.length_le
  omega

/-- The current selectors are those of a rule that was there before. -/
theorem currentSelectors (h : Adds b declarations definitions rules b₁) (hb : b.RulesExist) :
    b₁.currentSelectors = b.currentSelectors := by
  rw [currentSelectors_eq, currentSelectors_eq, h.openRules, h.selectorLists]
  cases hrules : b.openRules with
  | nil => rfl
  | cons index outer =>
    -- the open rule is not one of those that were added
    have hlt : index < b.selectorLists.length := by
      rw [Builder.selectorLists, List.length_map]
      exact hb index (hrules ▸ List.mem_cons_self)
    simp only [List.head?_cons, Option.bind_some, List.getElem?_append_left hlt]

/-- Declarations added later come behind those added before, in the same rule. -/
theorem rulesWith (h : Adds b declarations definitions rules b₁) (hb : b.RulesExist)
    (later : List Declaration) :
    b₁.rulesWith later = b.rulesWith (declarations ++ later) ++ rules := by
  cases hopen : b.openRules with
  | nil =>
    rw [rulesWith_of_openRules_eq_nil (h.openRules.trans hopen), h.rules,
      rulesWith_of_openRules_eq_nil hopen, rulesWith_of_openRules_eq_nil hopen]
  | cons index outer =>
    have hlt : index < b.rules.length := hb index (hopen ▸ List.mem_cons_self)
    rw [rulesWith_of_openRules_eq_cons (h.openRules.trans hopen), h.rules,
      rulesWith_of_openRules_eq_cons hopen, rulesWith_of_openRules_eq_cons hopen]
    -- the new rules stand behind the one that is modified
    rw [List.modify_append_of_lt (by rwa [List.length_modify]), List.modify_modify_eq]
    simp only [Function.comp_def, List.append_assoc]

/-- What is added in two parts is added together, in the same order. -/
theorem trans (h : Adds b declarations₁ definitions₁ rules₁ b₁)
    (h' : Adds b₁ declarations₂ definitions₂ rules₂ b₂) (hb : b.RulesExist) :
    Adds b (declarations₁ ++ declarations₂) (definitions₁ ++ definitions₂) (rules₁ ++ rules₂)
      b₂ := by
  refine ⟨h'.query.trans h.query, h'.openBlocks.trans h.openBlocks, ?_, ?_⟩
  · -- the declarations of both parts are in the rule that is open all the time
    rw [h'.root, h.root, List.foldl_append]
  · rw [h'.rules, h.rulesWith hb, List.append_assoc]

/-- The log does not count as something that is added. -/
theorem of_log {log : List LogRecord}
    (h : Adds { b with log } declarations definitions rules b₁) :
    Adds b declarations definitions rules b₁ :=
  ⟨h.query, h.openBlocks, h.root, h.rules⟩

/-! ## Blocks -/

/-- What is added in a feature block is added around it. -/
theorem close_openFeature {feature : Text}
    (h : Adds (b.openFeature feature) declarations definitions rules b₁) :
    Adds b declarations definitions rules b₁.close := by
  have hclose := congrArg OpenBlocks.close h.openBlocks
  exact ⟨h.query, hclose.trans (OpenBlocks.close_openFeature _ _), h.root, h.rules⟩

/-- The rule that is opened comes before all rules inside it, and takes the declarations. -/
theorem close_openSelectors {selectors : List Text}
    (h : Adds (b.openSelectors selectors) declarations definitions rules b₁) :
    Adds b [] definitions ({ selectors, declarations } :: rules) b₁.close := by
  refine ⟨h.query, congrArg OpenBlocks.close h.openBlocks, h.root, ?_⟩
  have hrules := h.rules
  -- the opened rule is the last one, and empty
  have hopen : (b.openSelectors selectors).openRules = b.rules.length :: b.openRules := rfl
  rw [rulesWith_of_openRules_eq_cons hopen, openSelectors, List.modify_append_length,
    List.nil_append, List.append_assoc] at hrules
  rw [rulesWith_nil]
  exact hrules

end Adds

/-! ## Additions -/

/-- A declaration is added unless it is dropped. Outside of rules it fails and adds nothing, so
    there it does not matter whether it is dropped. -/
theorem adds_declare (b : Builder) (declaration : Declaration) :
    Adds b (if b.emitting then [declaration] else []) [] []
      (b.step (.write (.declare declaration))).builder := by
  cases hrules : b.openRules with
  | nil =>
    simp only [step, perform, write, declare_of_openRules_eq_nil hrules]
    exact ⟨rfl, rfl, rfl, by rw [rulesWith, hrules, List.append_nil]⟩
  | cons index outer =>
    simp only [step, perform, write, declare_of_openRules_eq_cons hrules]
    split
    · exact ⟨rfl, rfl, rfl, by rw [rulesWith, hrules, List.append_nil]⟩
    · exact ⟨rfl, rfl, rfl, by rw [rulesWith_nil, List.append_nil]⟩

/-- A root definition is added unless it is dropped. -/
theorem adds_defineRoot (b : Builder) (name value : Text) :
    Adds b [] (if b.emitting then [(name, value)] else []) []
      (b.step (.write (.defineRoot name value))).builder := by
  simp only [step, perform, write, defineRoot]
  split <;> exact ⟨rfl, rfl, rfl, by rw [rulesWith_nil, List.append_nil]⟩

/-! ## Programs -/

/-- A rule that is opened is among the rules. -/
theorem rulesExist_openSelectors (hb : b.RulesExist) (selectors : List Text) :
    (b.openSelectors selectors).RulesExist := by
  intro index hindex
  have hlength : (b.openSelectors selectors).rules.length = b.rules.length + 1 :=
    List.length_append
  rcases List.mem_cons.1 hindex with rfl | houter
  · omega
  · have hlt := hb index houter
    omega

/-- The selectors of a rule that is opened are the current ones. -/
theorem currentSelectors_openSelectors (b : Builder) (selectors : List Text) :
    (b.openSelectors selectors).currentSelectors = selectors := by
  have hrule : (b.openSelectors selectors).rules[b.rules.length]? =
      some { selectors, declarations := [] } := List.getElem?_concat_length
  have hopen : (b.openSelectors selectors).openRules.head? = some b.rules.length := rfl
  rw [currentSelectors, hopen, Option.bind_some, hrule]

/-- All kinds of rules are opened for their selectors, and differ in the log at most. -/
private theorem step_opening (b : Builder) (kind : RuleKind) :
    ∃ log, (b.step kind.opening).builder =
      ({ b with log } : Builder).openSelectors (kind.selectors b.currentSelectors) := by
  cases kind with
  | nested list => exact ⟨b.log, rfl⟩
  | atRoot list => exact ⟨b.log, rfl⟩
  | hostAware lists =>
    exact ⟨b.log ++ SelectorList.hostAwareLog lists, b.openHostAware_eq lists⟩

/-- A rule of any kind that is opened is among the rules. -/
private theorem rulesExist_step_opening (hb : b.RulesExist) (kind : RuleKind) :
    (b.step kind.opening).builder.RulesExist := by
  obtain ⟨log, hopening⟩ := b.step_opening kind
  rw [hopening]
  exact rulesExist_openSelectors (b := { b with log }) hb _

/-- The second builder has added what is read off the program where the first stands. -/
def Carried (b : Builder) (p : Program) (b' : Builder) : Prop :=
  Adds b (p.declarations b.query b.openFeatures) (p.definitions b.query b.openFeatures)
    (p.rules b.query b.openFeatures b.currentSelectors) b'

/-- What comes next in a program is read in the same place. -/
theorem Adds.next {declarations : List Declaration} {definitions : Entries Text}
    {rules : List StyleRule} {p : Program} (h : Adds b declarations definitions rules b₁)
    (hb : b.RulesExist) (hp : Carried b₁ p b₂) :
    Adds b (declarations ++ p.declarations b.query b.openFeatures)
      (definitions ++ p.definitions b.query b.openFeatures)
      (rules ++ p.rules b.query b.openFeatures b.currentSelectors) b₂ := by
  rw [Carried, h.query, h.openFeatures, h.currentSelectors hb] at hp
  exact h.trans hp hb

/-- A rule with its body is read as the rule and what is in the body. -/
private theorem Carried.close_opening {kind : RuleKind} {body : Program}
    (h : Carried (b.step kind.opening).builder body b₁) :
    Adds b [] (body.definitions b.query b.openFeatures)
      ({ selectors := kind.selectors b.currentSelectors
         declarations := body.declarations b.query b.openFeatures } ::
        body.rules b.query b.openFeatures (kind.selectors b.currentSelectors)) b₁.close := by
  obtain ⟨log, hopening⟩ := b.step_opening kind
  rw [hopening, Carried, currentSelectors_openSelectors] at h
  exact h.close_openSelectors.of_log

/-- The steps of a program add what is read off the program. -/
theorem carried_run_steps (p : Program) (b : Builder) (hb : b.RulesExist) :
    Carried b p (b.run p.steps) := by
  -- the builder is arbitrary, since the body of a block is carried out where the block has left it
  induction p generalizing b with
  | done => exact .refl b
  | rule kind body next ihbody ihnext =>
    rw [Program.steps, List.cons_append, run_cons, run_append, run_cons]
    -- the body adds a rule, and the next part goes on behind its closing
    have hrule := (ihbody _ (rulesExist_step_opening hb kind)).close_opening
    exact hrule.next hb (ihnext _ (hrule.rulesExist hb))
  | targets feature body next ihbody ihnext =>
    rw [Program.steps, List.cons_append, run_cons, run_append, run_cons]
    have hbody := ihbody (b.openFeature feature) hb
    rw [Carried, openFeatures_openFeature] at hbody
    -- closed, the feature block has only added what its body adds
    have htargets := hbody.close_openFeature
    exact htargets.next hb (ihnext _ (htargets.rulesExist hb))
  | write w next ih =>
    cases w with
    | declare declaration =>
      have hdeclare := b.adds_declare declaration
      exact hdeclare.next hb (ih _ (hdeclare.rulesExist hb))
    | defineRoot name value =>
      have hdefine := b.adds_defineRoot name value
      exact hdefine.next hb (ih _ (hdefine.rulesExist hb))

end Builder

/-- The builder turns the steps of a program into the stylesheet that is read off the program. -/
theorem Program.build_run_steps (query : FeatureQuery) (p : Program) :
    (({ query } : Builder).run p.steps).build = p.stylesheet query := by
  have h : Builder.Carried { query } p (({ query } : Builder).run p.steps) :=
    Builder.carried_run_steps p _ fun index hindex => by cases hindex
  -- nothing has been defined at the start, so the first definitions of all names are left
  have hroot : (({ query } : Builder).run p.steps).root =
      (p.definitions query []).eraseDupsBy (·.1 == ·.1) :=
    h.root.trans (Entries.foldl_setIfNew_nil _)
  have hrules : (({ query } : Builder).run p.steps).rules = p.rules query [] [] := h.rules
  rw [Builder.build, hroot, hrules, stylesheet]

-- what stands behind an inner rule goes to the outer one
example :
    ((Program.rule (.nested (.text "a"))
        (.rule (.nested (.text "&:hover")) .done
          (.write (.declare { property := "color", value := "red" }) .done))
        .done).stylesheet {}).rules.map
      (fun rule => (rule.selectors, rule.declarations.map (·.property))) =
      ([(["a"], ["color"]), (["a:hover"], [])] : List (List Text × List Text)) := by
  decide +kernel

end CssTheming
