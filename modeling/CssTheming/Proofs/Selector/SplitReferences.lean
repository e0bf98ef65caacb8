import CssTheming.Proofs.Selector.References
import CssTheming.Proofs.Selector.Splitting

/-!
# Parent references in selector lists

A scan does not notice whether it has read a reference or a single selector in the place of one. So
a text is split at the same commas before and after its references are replaced, and the parts
differ in nothing else. The text may be malformed: a string or a group that is left open takes all
that follows.

## Key results

- `Selector.hasReference_eq_any_splitOn`: a text has the references of its parts
- `Selector.splitOn_substitute`: the parts of a text in which references are replaced
- `SelectorList.hasReference_eq_any_split`, `SelectorList.split_substitute`: the same for the
  selectors of a text
- `nesting_commutes_with_splitting`: references may be replaced before a list is split
-/

namespace CssTheming

namespace Selector

open Scan

variable {parent t : Text}

/-- A text has references just if one of its parts has some. -/
theorem hasReference_eq_any_splitOn (t : Text) :
    hasReference t = (Scan.start.splitOn (· == ',') t).any hasReference := by
  induction t using splitInduction (· == ',') with
  | single t havoids => rw [splitOn_of_avoids havoids, List.any_cons, List.any_nil, Bool.or_false]
  | cut t c u havoids htop hc ih =>
    obtain rfl := beq_iff_eq.1 hc
    -- the comma is no reference, and leaves the scan in plain code
    have hcomma : hasReference (',' :: u) = hasReference u := rfl
    rw [splitOn_append_cons havoids htop hc, List.any_cons, ← ih, ← hcomma,
      hasReference_append (endsInCode_of_topLevel htop)]

/-- The parts of a text in which references are replaced are its parts, each with its references
    replaced. -/
theorem splitOn_substitute (hparent : Single parent) (t : Text) :
    Scan.start.splitOn (· == ',') (substitute parent t) =
      (Scan.start.splitOn (· == ',') t).map (substitute parent) := by
  -- replacing references brings no comma to the top level
  have hkept {t : Text} (havoids : Scan.start.avoids (· == ',') t = true) :
      Scan.start.avoids (· == ',') (substitute parent t) = true :=
    every_substituteFrom hparent.1 (fun _ => hparent.avoids_of_code) proper_start havoids
  induction t using splitInduction (· == ',') with
  | single t havoids =>
    rw [splitOn_of_avoids havoids, splitOn_of_avoids (hkept havoids), List.map_singleton]
  | cut t c u havoids htop hc ih =>
    obtain rfl := beq_iff_eq.1 hc
    have hcomma : substitute parent (',' :: u) = ',' :: substitute parent u := rfl
    -- the scan stands at the same place in front of the comma
    have hrun : Scan.start.run (substitute parent t) = Scan.start.run t :=
      run_substituteFrom hparent.1 proper_start t
    rw [substitute_append (endsInCode_of_topLevel htop), hcomma,
      splitOn_append_cons havoids htop hc, splitOn_append_cons (hkept havoids) (hrun ▸ htop) hc, ih,
      List.map_cons]

end Selector

namespace SelectorList

open Selector

variable {parent t : Text}

/-- The references of a text are those of its selectors. -/
theorem hasReference_eq_any_split (t : Text) : hasReference t = (split t).any hasReference := by
  rw [hasReference_eq_any_splitOn, split, trimAll, List.any_filter, List.any_map]
  congr 1
  refine funext fun part => ?_
  -- a part of which trimming leaves nothing has none
  rw [Function.comp_apply, ← hasReference_trim part]
  cases part.trim with
  | nil => rfl
  | cons c t => rfl

private theorem isEmpty_substitute (hparent : parent ≠ []) (t : Text) :
    (substitute parent t).isEmpty = t.isEmpty := by
  cases t with
  | nil => rfl
  | cons c t =>
    rw [List.isEmpty_cons, List.isEmpty_eq_false_iff]
    exact substituteFrom_ne_nil hparent .code (List.cons_ne_nil c t)

/-- The selectors of a text in which references are replaced are its selectors, each with its
    references replaced. -/
theorem split_substitute (hparent : Single parent) (htrim : Trimmed parent) (t : Text) :
    split (substitute parent t) = (split t).map (substitute parent) := by
  have htrimmed : Text.trim ∘ substitute parent = substitute parent ∘ Text.trim :=
    funext fun part => trim_substitute htrim part
  -- the parts that are left out for being blank are the same ones
  have hempty : (fun part : Text => !part.isEmpty) ∘ substitute parent =
      fun part => !part.isEmpty :=
    funext fun part => congrArg not (isEmpty_substitute htrim.2 part)
  rw [split, split, trimAll, trimAll, splitOn_substitute hparent, List.map_map, htrimmed,
    ← List.map_map, List.filter_map, hempty]

/-- Nested in one trimmed selector, the selectors of a text that all have references have them
    replaced. -/
private theorem nest_singleton_of_hasReference (htrim : Trimmed parent)
    (href : ∀ s ∈ split t, hasReference s = true) :
    nest (.items [parent]) (.text t) = ((split t).map (substitute parent)).eraseDups := by
  have hparents : flatten [.items [parent]] = [parent] := by
    rw [flatten_items (List.forall_mem_singleton.2 htrim)]
    rfl
  -- each selector has a reference, so that none goes behind the parent
  have hnest : (flatten [.text t]).map (Selector.nest parent) =
      (flatten [.text t]).map (substitute parent) := by
    refine List.map_congr_left fun s hs => nest_of_hasReference (href s ?_) parent
    rwa [flatten_singleton, List.mem_eraseDups] at hs
  rw [nest_eq_eraseDups (by simp [hparents]), hparents, List.flatMap_singleton, hnest,
    flatten_singleton, selectors, List.eraseDups_map_eraseDups]

end SelectorList

open Selector SelectorList in
/-- If all selectors of a text have parent references, they may be nested in a single selector by
    replacing the references in the whole text before it is split. The text may end in a string or a
    group that is left open. -/
theorem nesting_commutes_with_splitting {parent t : Text} (hparent : Single parent)
    (htrim : Trimmed parent) (hne : split t ≠ []) (href : ∀ s ∈ split t, hasReference s = true) :
    hasReference t = true ∧
      nest (.items [parent]) (.text t) = flatten [.text (substitute parent t)] := by
  constructor
  · obtain ⟨s, hs⟩ := List.exists_mem_of_ne_nil _ hne
    rw [hasReference_eq_any_split, List.any_eq_true]
    exact ⟨s, hs, href s hs⟩
  · rw [nest_singleton_of_hasReference htrim href, flatten_singleton, selectors,
      split_substitute hparent htrim]

/-- Selectors with references in front of a blank, in a group, and in a group that is left open
    behind a string with a comma and an ampersand. -/
def SelectorList.openReferences : Text :=
  " &:is(a, &) , b & , c:not([d=', &'] & "

open Selector SelectorList in
/-- The comma in the group of the parent stays in the selector. -/
theorem nesting_commutes_with_splitting_of_open_group :
    (Single ":is(p, q)" ∧ Trimmed ":is(p, q)") ∧
    (split openReferences ≠ [] ∧ ∀ s ∈ split openReferences, hasReference s = true) ∧
    nest (.items [":is(p, q)"]) (.text openReferences) =
      flatten [.text (substitute ":is(p, q)" openReferences)] ∧
    flatten [.text (substitute ":is(p, q)" openReferences)] =
      ([":is(p, q):is(a, :is(p, q))", "b :is(p, q)", "c:not([d=', &'] :is(p, q)"] :
        List Text) := by
  have hparent : Single ":is(p, q)" := by decide +kernel
  have htrim : Trimmed ":is(p, q)" := by decide +kernel
  have hne : split openReferences ≠ [] := by decide +kernel
  have href : ∀ s ∈ split openReferences, hasReference s = true := by decide +kernel
  obtain ⟨-, hnest⟩ := nesting_commutes_with_splitting hparent htrim hne href
  exact ⟨⟨hparent, htrim⟩, ⟨hne, href⟩, hnest, by decide +kernel⟩

end CssTheming
