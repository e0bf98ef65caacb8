import CssTheming.Proofs.Selector.HostParts
import CssTheming.Proofs.Stylesheet.OpenBlocks
import CssTheming.Theme.Step

/-!
# What the steps do to blocks and selectors

Additions leave the blocks, the query and the selectors of the rules alone. What a step opens and
closes can therefore be told from the step, the open blocks and the selectors before it, and neither
the query nor the declarations have a part in it.

## Key results

- `Builder.SameBlocks`: what additions leave alone
- `Builder.BlocksStep`, `Builder.blocksStep_step`: what a step does to the blocks
- `Builder.forall_selectors_run`: an invariant of the selectors of all rules
-/

namespace CssTheming

namespace Builder

variable {b b' b'' : Builder}

/-! ## Selectors -/

/-- The selectors of the rules built so far, rule by rule. -/
def selectorLists (b : Builder) : List (List Text) :=
  b.rules.map (·.selectors)

/-- The current selectors are found among the selectors of the rules. -/
theorem currentSelectors_eq (b : Builder) :
    b.currentSelectors = (b.openRules.head?.bind (b.selectorLists[·]?)).getD [] := by
  unfold currentSelectors selectorLists
  cases b.openRules with
  | nil => rfl
  | cons index _ =>
    simp only [List.head?_cons, Option.bind_some, List.getElem?_map]
    cases b.rules[index]? <;> rfl

/-- The current selectors are those of some rule, or there are none. -/
private theorem currentSelectors_eq_nil_or_mem (b : Builder) :
    b.currentSelectors = [] ∨ b.currentSelectors ∈ b.selectorLists := by
  rw [currentSelectors_eq]
  cases h : b.openRules.head?.bind (b.selectorLists[·]?) with
  | none => exact .inl rfl
  | some selectors =>
    obtain ⟨index, -, hindex⟩ := Option.bind_eq_some_iff.1 h
    exact .inr (List.mem_of_getElem? hindex)

/-- Selectors do not change where declarations are added. -/
theorem map_selectors_modify (rules : List StyleRule) (index : Nat)
    (f : StyleRule → List Declaration) :
    (rules.modify index fun rule => { rule with declarations := f rule }).map (·.selectors) =
      rules.map (·.selectors) := by
  induction rules generalizing index with
  | nil => rw [List.modify_nil]
  | cons rule rules ih =>
    cases index with
    | zero => rfl
    | succ index => rw [List.modify_succ_cons, List.map_cons, List.map_cons, ih]

/-! ## Additions -/

/-- The query, the open blocks and the selectors of the rules are the same. -/
structure SameBlocks (b b' : Builder) : Prop where
  query : b'.query = b.query
  openBlocks : b'.openBlocks = b.openBlocks
  selectorLists : b'.selectorLists = b.selectorLists

namespace SameBlocks

theorem refl (b : Builder) : SameBlocks b b :=
  ⟨rfl, rfl, rfl⟩

theorem trans (h : SameBlocks b b') (h' : SameBlocks b' b'') : SameBlocks b b'' :=
  ⟨h'.query.trans h.query, h'.openBlocks.trans h.openBlocks,
    h'.selectorLists.trans h.selectorLists⟩

end SameBlocks

/-- A declaration fails just if no rule is open. -/
theorem declare_of_openRules_eq_nil (h : b.openRules = []) (declaration : Declaration) :
    b.declare declaration = .error (.outsideRule declaration.property) := by
  rw [declare, h]

/-- With a rule open, a declaration goes to the innermost one, unless it is dropped. -/
theorem declare_of_openRules_eq_cons {index : Nat} {outer : List Nat}
    (h : b.openRules = index :: outer) (declaration : Declaration) :
    b.declare declaration = .ok
      (if b.emitting then
        { b with
          rules := b.rules.modify index fun rule =>
            { rule with declarations := rule.declarations ++ [declaration] } }
      else
        { b with log := b.log ++ [.declarationDropped declaration.property b.openFeatures] }) := by
  rw [declare, h]
  dsimp only
  split <;> rfl

/-- An addition leaves the blocks alone, whether or not it takes effect. -/
theorem sameBlocks_write {w : Write} (h : b.write w = .ok b') : SameBlocks b b' := by
  cases w with
  | defineRoot name value =>
    obtain rfl := Except.ok.inj h
    -- a definition changes the root or the log at most
    rw [defineRoot]
    split <;> exact ⟨rfl, rfl, rfl⟩
  | declare declaration =>
    cases hrules : b.openRules with
    | nil => cases h.symm.trans (declare_of_openRules_eq_nil hrules declaration)
    | cons index outer =>
      obtain rfl := Except.ok.inj (h.symm.trans (declare_of_openRules_eq_cons hrules declaration))
      split
      · exact ⟨rfl, rfl, map_selectors_modify _ _ _⟩
      · exact ⟨rfl, rfl, rfl⟩

/-- Additions in sequence leave the blocks alone, also if one of them fails. -/
private theorem sameBlocks_perform (b : Builder) (writes : List Write) :
    SameBlocks b (b.perform writes).builder := by
  induction writes generalizing b with
  | nil => exact .refl b
  | cons w writes ih =>
    rw [perform]
    split
    · -- the first addition succeeds, and the others start from what it leaves
      next b' hwrite => exact (sameBlocks_write hwrite).trans (ih b')
    · exact .refl b

/-- A resolution closes the feature block that it opens. -/
private theorem sameBlocks_enact (b : Builder) (feature : Option Text) (resolution : Resolution) :
    SameBlocks b (b.enact feature resolution).builder := by
  let logged : Builder := { b with log := b.log ++ resolution.log }
  cases feature with
  | none =>
    have h := sameBlocks_perform logged resolution.writes
    exact ⟨h.query, h.openBlocks, h.selectorLists⟩
  | some name =>
    have h := sameBlocks_perform (logged.openFeature name) resolution.writes
    -- the additions leave the feature block innermost, and closing takes away just that
    have hclose := congrArg OpenBlocks.close h.openBlocks
    exact ⟨h.query, hclose.trans (OpenBlocks.close_openFeature _ _), h.selectorLists⟩

/-- What a resolver makes of a value leaves the blocks alone, also if it is an error. -/
theorem sameBlocks_enactResult (b : Builder) (feature : Option Text)
    (result : Except ThemeError Resolution) :
    SameBlocks b (b.enactResult feature result).builder := by
  cases result with
  | ok resolution => exact sameBlocks_enact b feature resolution
  | error e => exact .refl b

/-! ## Steps -/

/-- The selectors of the rule that a step opens, if it opens one. -/
def opened? (b : Builder) : Step → Option (List Text)
  | .openRule list => some (SelectorList.nest (.items b.currentSelectors) list)
  | .openAtRoot list => some (SelectorList.flatten [list])
  | .openHostAware lists => some (SelectorList.hostAware lists)
  | _ => none

/-- The blocks that are open after a step. -/
def blocksAfter (b : Builder) : Step → OpenBlocks
  | .openRule _ | .openAtRoot _ | .openHostAware _ => b.openBlocks.openRule b.selectorLists.length
  | .openFeature name => b.openBlocks.openFeature name
  | .close => b.openBlocks.close
  | _ => b.openBlocks

/-- Corrected lists are flat, so opening them at the top level keeps them as they are. -/
theorem openHostAware_eq (b : Builder) (lists : List SelectorList) :
    b.openHostAware lists =
      { b with log := b.log ++ SelectorList.hostAwareLog lists }.openSelectors
        (SelectorList.hostAware lists) := by
  rw [openHostAware, openAtRoot, SelectorList.flatten_items_hostAware]

/-- What a step does to the blocks: the query stays, a rule is added if the step opens one, and the
    open blocks are those after the step. -/
structure BlocksStep (b : Builder) (s : Step) (b' : Builder) : Prop where
  query : b'.query = b.query
  openBlocks : b'.openBlocks = b.blocksAfter s
  selectorLists : b'.selectorLists = b.selectorLists ++ (b.opened? s).toList

/-- A rule that is opened comes behind the others. -/
private theorem selectorLists_openSelectors (b : Builder) (selectors : List Text) :
    (b.openSelectors selectors).selectorLists = b.selectorLists ++ [selectors] :=
  List.map_append

/-- A step that is not about blocks does nothing to them if its additions leave them alone. -/
private theorem SameBlocks.blocksStep {s : Step} (h : SameBlocks b b')
    (hopened : b.opened? s = none)
    (hblocks : b.blocksAfter s = b.openBlocks) : BlocksStep b s b' := by
  refine ⟨h.query, h.openBlocks.trans hblocks.symm, ?_⟩
  rw [h.selectorLists, hopened, Option.toList_none, List.append_nil]

/-- What each step does to the blocks. Failing makes no difference. -/
theorem blocksStep_step (b : Builder) (s : Step) : BlocksStep b s (b.step s).builder := by
  have hlength : b.rules.length = b.selectorLists.length := (List.length_map _).symm
  cases s with
  | openRule list =>
    exact ⟨rfl, congrArg b.openBlocks.openRule hlength, selectorLists_openSelectors _ _⟩
  | openAtRoot list =>
    exact ⟨rfl, congrArg b.openBlocks.openRule hlength, selectorLists_openSelectors _ _⟩
  | openHostAware lists =>
    rw [step, openHostAware_eq]
    exact ⟨rfl, congrArg b.openBlocks.openRule hlength, selectorLists_openSelectors _ _⟩
  | openFeature name => exact ⟨rfl, rfl, (List.append_nil _).symm⟩
  | close => exact ⟨rfl, rfl, (List.append_nil _).symm⟩
  -- all other steps only add something
  | write w => exact (sameBlocks_perform b [w]).blocksStep rfl rfl
  | emit emitter e => exact (sameBlocks_perform b (emitter.writes e)).blocksStep rfl rfl
  | apply r property value annotations important replacements =>
    exact (sameBlocks_enactResult b r.feature _).blocksStep rfl rfl
  | prop r property style important =>
    exact (sameBlocks_enactResult b r.feature _).blocksStep rfl rfl

/-! ## Runs -/

@[simp] theorem run_nil (b : Builder) : b.run [] = b :=
  rfl

@[simp] theorem run_cons (b : Builder) (s : Step) (steps : List Step) :
    b.run (s :: steps) = (b.step s).builder.run steps :=
  rfl

/-- A run may be interrupted and taken up again. -/
theorem run_append (b : Builder) (steps steps' : List Step) :
    b.run (steps ++ steps') = (b.run steps).run steps' :=
  List.foldl_append

/-- If the selectors that a step opens have a property whenever the current ones have it, the
    selectors of all rules have it after a run. -/
theorem forall_selectors_run {holds : Text → Prop} {steps : List Step}
    (hsteps : ∀ s ∈ steps, ∀ b : Builder, (∀ t ∈ b.currentSelectors, holds t) →
      ∀ selectors ∈ b.opened? s, ∀ t ∈ selectors, holds t)
    (hb : ∀ selectors ∈ b.selectorLists, ∀ t ∈ selectors, holds t) :
    ∀ selectors ∈ (b.run steps).selectorLists, ∀ t ∈ selectors, holds t := by
  induction steps generalizing b with
  | nil => exact hb
  | cons s steps ih =>
    rw [run_cons]
    refine ih (fun s' hs' => hsteps s' (List.mem_cons_of_mem _ hs')) fun selectors hmem => ?_
    rw [(blocksStep_step b s).selectorLists, List.mem_append, Option.mem_toList] at hmem
    rcases hmem with hmem | hmem
    · exact hb selectors hmem
    · -- a rule is opened: the current selectors are those of an earlier one, or there are none
      refine hsteps s List.mem_cons_self b (fun t ht => ?_) selectors hmem
      rcases b.currentSelectors_eq_nil_or_mem with hnil | hcurrent
      · rw [hnil] at ht
        cases ht
      · exact hb _ hcurrent t ht

end Builder

end CssTheming
