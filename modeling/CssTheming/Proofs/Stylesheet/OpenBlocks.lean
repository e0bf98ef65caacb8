import CssTheming.Stylesheet.Builder

/-!
# Open blocks as one stack

The rules and the features of the open blocks stand in two lists, and the kinds of the blocks tell
which of the two the next closing takes from. There is an index for every rule block and a name for
every feature block, so all three are the same as one stack of blocks, each with its index or its
name. A block that is opened goes on top of the stack, and closing takes the top away.

## Main definitions

- `OpenBlock`, `OpenBlocks.stack`: the open blocks as one stack

## Key results

- `OpenBlocks.filterMap_rule?_stack`, `OpenBlocks.filterMap_feature?_stack`,
  `OpenBlocks.map_kind_stack`: the lists are what the stack holds
- `OpenBlocks.stack_injective`: and the stack is all that they hold
- `OpenBlocks.stack_openRule`, `OpenBlocks.stack_openFeature`, `OpenBlocks.stack_close`: opening and
  closing on the stack
- `OpenBlocks.close_openRule`, `OpenBlocks.close_openFeature`: closing undoes the last opening
-/

namespace CssTheming

/-- A block that has been opened and not yet closed. -/
inductive OpenBlock where
  /-- The rule at `index` among the rules built so far. -/
  | rule (index : Nat)
  /-- A block for one feature. -/
  | feature (name : Text)
deriving DecidableEq, Repr

namespace OpenBlock

/-- The kind of a block. -/
def kind : OpenBlock → BlockKind
  | rule _ => .rule
  | feature _ => .feature

/-- The index of a rule block. -/
def rule? : OpenBlock → Option Nat
  | rule index => some index
  | feature _ => none

/-- The feature of a feature block. -/
def feature? : OpenBlock → Option Text
  | rule _ => none
  | feature name => some name

end OpenBlock

namespace OpenBlocks

/-- The blocks of the given kinds, with indices and names taken from the two lists in turn. -/
def interleave : List BlockKind → List Nat → List Text → List OpenBlock
  | .rule :: kinds, index :: rules, names => .rule index :: interleave kinds rules names
  | .feature :: kinds, rules, name :: names => .feature name :: interleave kinds rules names
  | _, _, _ => []

/-- The open blocks, innermost first. -/
def stack (blocks : OpenBlocks) : List OpenBlock :=
  interleave blocks.kinds blocks.rules blocks.features.reverse

/-! ## The lists and the stack -/

/-- If there are as many indices and names as there are blocks of their kinds, each block gets its
    own, and nothing is left over. -/
private theorem interleave_spec {kinds : List BlockKind} {rules : List Nat} {names : List Text}
    (hrules : rules.length = kinds.count .rule) (hnames : names.length = kinds.count .feature) :
    (interleave kinds rules names).filterMap OpenBlock.rule? = rules ∧
      (interleave kinds rules names).filterMap OpenBlock.feature? = names ∧
      (interleave kinds rules names).map OpenBlock.kind = kinds := by
  induction kinds generalizing rules names with
  | nil =>
    obtain rfl := List.eq_nil_of_length_eq_zero hrules
    obtain rfl := List.eq_nil_of_length_eq_zero hnames
    exact ⟨rfl, rfl, rfl⟩
  | cons kind kinds ih =>
    cases kind with
    | rule =>
      rw [List.count_cons_self] at hrules
      obtain ⟨index, rules, rfl⟩ := List.exists_cons_of_length_eq_add_one hrules
      obtain ⟨hr, hn, hk⟩ := ih (Nat.succ.inj hrules) hnames
      exact ⟨congrArg (index :: ·) hr, hn, congrArg (BlockKind.rule :: ·) hk⟩
    | feature =>
      rw [List.count_cons_self] at hnames
      obtain ⟨name, names, rfl⟩ := List.exists_cons_of_length_eq_add_one hnames
      obtain ⟨hr, hn, hk⟩ := ih hrules (Nat.succ.inj hnames)
      exact ⟨hr, congrArg (name :: ·) hn, congrArg (BlockKind.feature :: ·) hk⟩

/-- The stack holds all that the lists hold. -/
private theorem stack_spec (blocks : OpenBlocks) :
    blocks.stack.filterMap OpenBlock.rule? = blocks.rules ∧
      blocks.stack.filterMap OpenBlock.feature? = blocks.features.reverse ∧
      blocks.stack.map OpenBlock.kind = blocks.kinds :=
  interleave_spec blocks.length_rules (List.length_reverse.trans blocks.length_features)

/-- The open rules are those of the stack. -/
theorem filterMap_rule?_stack (blocks : OpenBlocks) :
    blocks.stack.filterMap OpenBlock.rule? = blocks.rules :=
  blocks.stack_spec.1

/-- The open features are those of the stack, from the bottom to the top. -/
theorem filterMap_feature?_stack (blocks : OpenBlocks) :
    blocks.stack.filterMap OpenBlock.feature? = blocks.features.reverse :=
  blocks.stack_spec.2.1

/-- The kinds are those of the stack. -/
theorem map_kind_stack (blocks : OpenBlocks) : blocks.stack.map OpenBlock.kind = blocks.kinds :=
  blocks.stack_spec.2.2

/-- Nothing but the stack is known of the open blocks. -/
theorem stack_injective : Function.Injective stack := by
  intro blocks blocks' h
  apply OpenBlocks.ext
  · rw [← filterMap_rule?_stack, h, filterMap_rule?_stack]
  · rw [← List.reverse_inj, ← filterMap_feature?_stack, h, filterMap_feature?_stack]
  · rw [← map_kind_stack, h, map_kind_stack]

/-! ## Opening and closing -/

@[simp] theorem stack_none : none.stack = [] :=
  rfl

@[simp] theorem stack_openRule (blocks : OpenBlocks) (index : Nat) :
    (blocks.openRule index).stack = .rule index :: blocks.stack :=
  rfl

/-- A feature block goes on top of the stack. -/
@[simp] theorem stack_openFeature (blocks : OpenBlocks) (name : Text) :
    (blocks.openFeature name).stack = .feature name :: blocks.stack := by
  rw [stack, openFeature, List.reverse_concat, interleave, stack]

/-- The block that is closed is the one on top. -/
@[simp] theorem stack_close (blocks : OpenBlocks) : blocks.close.stack = blocks.stack.tail := by
  obtain ⟨rules, features, kinds, hrules, hfeatures⟩ := blocks
  cases kinds with
  | nil => rfl
  | cons kind kinds =>
    cases kind with
    | rule =>
      cases rules with
      | nil => simp at hrules
      | cons index rules => rfl
    | feature =>
      rcases List.eq_nil_or_concat features with rfl | ⟨features, name, rfl⟩
      · simp at hfeatures
      · -- the innermost feature is the last one, so it comes first in the stack
        simp only [stack, close, List.concat_eq_append, List.dropLast_concat, List.reverse_concat,
          interleave, List.tail_cons]

/-- Closing a rule block gives what was open before. -/
theorem close_openRule (blocks : OpenBlocks) (index : Nat) :
    (blocks.openRule index).close = blocks :=
  rfl

/-- Closing a feature block gives what was open before. -/
theorem close_openFeature (blocks : OpenBlocks) (name : Text) :
    (blocks.openFeature name).close = blocks :=
  stack_injective (by rw [stack_close, stack_openFeature, List.tail_cons])

/-- No rule is open after closing that was not open before. -/
theorem rules_close_sublist (blocks : OpenBlocks) : blocks.close.rules.Sublist blocks.rules := by
  rw [← filterMap_rule?_stack, ← filterMap_rule?_stack blocks, stack_close]
  exact (List.tail_sublist _).filterMap _

end OpenBlocks

end CssTheming
