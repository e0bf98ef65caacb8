import CssTheming.Proofs.Selector.References

/-!
# Nesting in several steps

Of three rules inside one another, the inner two may be nested first, or the outer two. A parent
reference in the innermost selector is replaced by the middle one, and then the references in that
by the outermost. It makes no difference if they have been replaced there before, as long as the
scan is back in plain code behind the middle selector. A selector without references goes behind
its parent, and stays there.

The two ways differ where only the innermost selector has a reference: what stands in front of the
reference would come before or behind the outermost selector.

## Key results

- `Selector.nest_nest`: three selectors inside one another
- `nesting_associative`: the same for selector lists
-/

namespace CssTheming

namespace Selector

variable {a b c : Text}

/-- Of three selectors inside one another, the outer two may be nested first, unless the innermost
    one has a reference and the middle one has none. -/
theorem nest_nest (hb : EndsInCode b) (href : hasReference b = true ∨ hasReference c = false) :
    nest (nest a b) c = nest a (nest b c) := by
  cases hc : hasReference c with
  | true =>
    have hmiddle : hasReference b = true := by simpa [hc] using href
    -- the references of the middle selector come to stand in the innermost one
    have hinner : hasReference (substitute b c) = true := by
      rw [hasReference_substitute hb, hc, hmiddle, Bool.and_self]
    rw [nest_of_hasReference hc, nest_of_hasReference hmiddle, nest_of_hasReference hc,
      nest_of_hasReference hinner, substitute_substitute hb]
  | false =>
    have hbehind : hasReference (' ' :: c) = false := hc
    have hinner : hasReference (b ++ ' ' :: c) = hasReference b := by
      rw [hasReference_append hb, hbehind, Bool.or_false]
    rw [nest_of_hasReference_eq_false hc, nest_of_hasReference_eq_false hc]
    cases hmiddle : hasReference b with
    | true =>
      -- what stands behind the middle selector is left alone
      have hrest : substitute a (' ' :: c) = ' ' :: c := substituteFrom_of_not_refers a hbehind
      rw [nest_of_hasReference hmiddle, nest_of_hasReference (hinner.trans hmiddle),
        substitute_append hb, hrest]
    | false =>
      rw [nest_of_hasReference_eq_false hmiddle,
        nest_of_hasReference_eq_false (hinner.trans hmiddle), List.append_assoc, List.cons_append]

end Selector

namespace SelectorList

variable {outer middle : SelectorList}

/-- Nested lists are flattened lists. -/
@[simp] theorem flatten_items_nest (parents children : SelectorList) :
    flatten [.items (nest parents children)] = nest parents children := by
  obtain ⟨lists, hlists⟩ := exists_nest_eq_flatten parents children
  rw [hlists, flatten_items_flatten]

/-- Parents may be flattened before. -/
private theorem nest_items_flatten (parents children : SelectorList) :
    nest (.items (flatten [parents])) children = nest parents children := by
  rw [nest, nest, flatten_items_flatten]

/-- Nesting the outer two lists first goes through all three lists in order. -/
private theorem nest_items_nest_left (houter : flatten [outer] ≠ [])
    (hmiddle : flatten [middle] ≠ [])
    (inner : SelectorList) :
    nest (.items (nest outer middle)) inner =
      ((flatten [outer]).flatMap fun a => (flatten [middle]).flatMap fun b =>
        (flatten [inner]).map fun c => Selector.nest (Selector.nest a b) c).eraseDups := by
  -- there are nested selectors, which are the parents of the innermost ones
  have hparents : nest outer middle ≠ [] := by
    rwa [Ne, nest_eq_nil_iff, ← flatten_singleton_eq_nil_iff]
  rw [nest_eq_eraseDups (by rwa [flatten_items_nest]), flatten_items_nest,
    nest_eq_eraseDups houter, List.eraseDups_flatMap_eraseDups, List.flatMap_assoc]
  simp only [List.flatMap_map]

/-- Nesting the inner two lists first goes through all three lists in the same order. -/
private theorem nest_items_nest_right (houter : flatten [outer] ≠ [])
    (hmiddle : flatten [middle] ≠ [])
    (inner : SelectorList) :
    nest outer (.items (nest middle inner)) =
      ((flatten [outer]).flatMap fun a => (flatten [middle]).flatMap fun b =>
        (flatten [inner]).map fun c => Selector.nest a (Selector.nest b c)).eraseDups := by
  rw [nest_eq_eraseDups houter, flatten_items_nest, nest_eq_eraseDups hmiddle]
  -- the repetitions among the inner selectors may stay until the outer ones are nested, too
  refine List.eraseDups_flatMap_congr fun a _ => ?_
  rw [List.eraseDups_map_eraseDups, List.map_flatMap]
  simp only [List.map_map, Function.comp_def]

end SelectorList

open Selector SelectorList in
/-- Rules may be nested inside rules that are nested already, or the other way round: the selectors
    are the same, in the same order. The rules in the middle have to have selectors, the strings in
    these have to be closed, and either all of them have parent references or none of the innermost
    selectors do. -/
theorem nesting_associative {outer middle inner : SelectorList} (hne : flatten [middle] ≠ [])
    (hends : ∀ b ∈ flatten [middle], EndsInCode b)
    (href : (∀ b ∈ flatten [middle], hasReference b = true) ∨
      ∀ c ∈ flatten [inner], hasReference c = false) :
    nest (.items (nest outer middle)) inner = nest outer (.items (nest middle inner)) := by
  by_cases houter : flatten [outer] = []
  · -- without parents the selectors in the middle stand alone, either way
    rw [nest_of_flatten_eq_nil houter, nest_of_flatten_eq_nil houter, flatten_items_nest,
      nest_items_flatten]
  · rw [nest_items_nest_left houter hne, nest_items_nest_right houter hne]
    congr 1
    refine List.flatMap_congr fun a _ => List.flatMap_congr fun b hb => ?_
    refine List.map_congr_left fun c hc => nest_nest (hends b hb) ?_
    exact href.imp (· b hb) (· c hc)

/-- Selectors with references: one has two, and one has a reference in a group and beside a string
    with an ampersand. -/
def SelectorList.referring : SelectorList :=
  .items ["& > &", " :is(&, [a='&']) ", "& > &"]

open Selector SelectorList in
/-- All of the selectors in the middle have references, so the innermost ones may have some, too. -/
theorem nesting_associative_of_references_in_groups :
    (flatten [referring] ≠ [] ∧ (∀ b ∈ flatten [referring], EndsInCode b) ∧
      ∀ b ∈ flatten [referring], hasReference b = true) ∧
    nest (.items (nest (.text "ul, ol") referring)) (.text "&:hover, b") =
      nest (.text "ul, ol") (.items (nest referring (.text "&:hover, b"))) ∧
    nest (.text "ul, ol") (.items (nest referring (.text "&:hover, b"))) =
      (["ul > ul:hover", "ul > ul b", ":is(ul, [a='&']):hover", ":is(ul, [a='&']) b",
        "ol > ol:hover", "ol > ol b", ":is(ol, [a='&']):hover", ":is(ol, [a='&']) b"] :
        List Text) := by
  have hne : flatten [referring] ≠ [] := by decide +kernel
  have hends : ∀ b ∈ flatten [referring], EndsInCode b := by decide +kernel
  have href : ∀ b ∈ flatten [referring], hasReference b = true := by decide +kernel
  exact ⟨⟨hne, hends, href⟩, nesting_associative hne hends (.inl href), by decide +kernel⟩

-- where only the innermost selector has a reference, the outermost one goes to different places
example :
    SelectorList.nest (.items (SelectorList.nest (.text "a") (.text "b"))) (.text "c &") =
        (["c a b"] : List Text) ∧
      SelectorList.nest (.text "a") (.items (SelectorList.nest (.text "b") (.text "c &"))) =
        (["a c b"] : List Text) := by
  decide +kernel

end CssTheming
