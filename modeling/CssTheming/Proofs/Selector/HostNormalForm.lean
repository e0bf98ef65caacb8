import CssTheming.Proofs.Selector.HostParts

/-!
# The normal form of host selectors

Correcting a clean host selector moves what trails `:host` or its group into the argument and leaves
the rest alone. The corrected selector is clean again and needs no correction, so correcting
selector lists a second time changes nothing.

## Key results

- `parse?_fixHost`: the parts of a corrected selector
- `hostAware_hostAware_of_clean`: correcting lists of clean selectors is idempotent
-/

namespace CssTheming

namespace HostSelector

open Selector

/-- The parts of the corrected selector: what trails is part of the argument. -/
def merged (host : HostSelector) : HostSelector where
  argument :=
    if host.trailing = [] then host.argument else some (host.argument.getD [] ++ host.trailing)
  trailing := []
  rest := host.rest
  closed := true

/-- A clean host selector has clean parts. -/
theorem cleanParts_of_parse? {s : Text} {host : HostSelector} (hclean : Clean s)
    (htrim : s.trim = s) (hparse : parse? s = some host) : host.CleanParts := by
  obtain ⟨after, hafter, -, rfl⟩ := parse?_eq_some_iff.1 hparse
  rw [htrim] at hafter
  rw [hafter] at hclean
  exact cleanParts_ofAfterKeyword (hclean.of_append rfl).2

/-- What stands before the rest of a clean selector is clean. -/
theorem exists_clean_front {s : Text} {host : HostSelector} (hclean : Clean s)
    (htrim : s.trim = s) (hparse : parse? s = some host) :
    ∃ front, s = front ++ host.rest ∧ Clean front := by
  obtain ⟨after, hafter, -, rfl⟩ := parse?_eq_some_iff.1 hparse
  rw [htrim] at hafter
  have hkeyword : Clean keyword := by decide
  rw [hafter] at hclean
  -- the first compound ends where nothing is open, so it is clean on its own
  obtain ⟨hcompound, -⟩ := clean_firstCompound (hclean.of_append rfl).2
  refine ⟨keyword ++ (firstCompound after).1, ?_, hkeyword.append hcompound⟩
  rw [hafter, rest_ofAfterKeyword, List.append_assoc, firstCompound_append]

/-- A selector with clean parts needs correction if something trails. -/
theorem CleanParts.needsFix_iff {host : HostSelector} (h : host.CleanParts) :
    host.needsFix = true ↔ host.trailing ≠ [] := by
  simp [needsFix, h.closed]

/-- What goes into the group of a selector with clean parts is clean. -/
theorem CleanParts.clean_argument_append {host : HostSelector} (h : host.CleanParts) :
    Clean (host.argument.getD [] ++ host.trailing) := by
  refine Clean.append ?_ h.trailing
  cases hargument : host.argument with
  -- the empty text is clean
  | none => exact ⟨rfl, rfl⟩
  | some argument => exact h.argument argument hargument

/-- The corrected form of a selector with clean parts is clean. -/
private theorem CleanParts.clean_fixed {host : HostSelector} (h : host.CleanParts)
    (hneeds : host.needsFix = true) : Clean host.fixed := by
  have hkeyword : Clean keyword := by decide
  have hgroup := h.clean_argument_append.group.append h.rest
  rw [fixed_of_needsFix hneeds]
  simpa using hkeyword.append hgroup

/-- The parts of the corrected form of a selector with clean parts. -/
theorem CleanParts.parse?_fixed {host : HostSelector} (h : host.CleanParts)
    (hneeds : host.needsFix = true) (htrim : host.fixed.trim = host.fixed) :
    parse? host.fixed = some host.merged := by
  rw [HostSelector.parse?_fixed h.clean_argument_append h.follows hneeds htrim, merged,
    if_neg (h.needsFix_iff.1 hneeds)]

/-- A selector with clean parts that needs no correction has the parts of a corrected one. -/
private theorem CleanParts.merged_eq_self {host : HostSelector} (h : host.CleanParts)
    (hneeds : host.needsFix = false) : host.merged = host := by
  have htrailing : host.trailing = [] := by
    rw [← Bool.not_eq_true, h.needsFix_iff] at hneeds
    exact Classical.not_not.1 hneeds
  have hclosed := h.closed
  obtain ⟨argument, trailing, rest, closed⟩ := host
  simp_all [merged]

private theorem needsFix_merged (host : HostSelector) : host.merged.needsFix = false := rfl

end HostSelector

namespace Selector

open HostSelector

/-- A clean selector is corrected to a clean selector, and a clean host selector to one with merged
    parts. -/
theorem clean_fixHost {s : Text} (hclean : Clean s) (hs : Trimmed s) :
    Clean (fixHost s) ∧
      ∀ host, parse? s = some host → parse? (fixHost s) = some host.merged := by
  cases hneeds : needsHostFix s with
  | false =>
    rw [fixHost_of_needsHostFix_eq_false hneeds, hs.1]
    refine ⟨hclean, fun host hparse => ?_⟩
    -- a host selector that is left alone has nothing to merge
    have hhost : host.needsFix = false := by
      rw [← Bool.not_eq_true] at hneeds ⊢
      exact fun h => hneeds (needsHostFix_iff.2 ⟨host, hparse, h⟩)
    rw [hparse, (cleanParts_of_parse? hclean hs.1 hparse).merged_eq_self hhost]
  | true =>
    obtain ⟨host, hparse, hneeds⟩ := needsHostFix_iff.1 hneeds
    have hparts := cleanParts_of_parse? hclean hs.1 hparse
    have htrim := (trimmed_fixHost hs).1
    rw [fixHost_of_needsFix hparse hneeds] at htrim ⊢
    refine ⟨hparts.clean_fixed hneeds, fun host' hparse' => ?_⟩
    obtain rfl : host = host' := Option.some.inj (hparse.symm.trans hparse')
    exact hparts.parse?_fixed hneeds htrim

/-- A corrected clean selector needs no correction. -/
private theorem needsHostFix_fixHost {s : Text} (hclean : Clean s) (hs : Trimmed s) :
    needsHostFix (fixHost s) = false := by
  cases hparse : parse? s with
  | none =>
    have hneeds : needsHostFix s = false := by
      rw [← Bool.not_eq_true, needsHostFix_iff, hparse]
      simp
    rw [fixHost_of_needsHostFix_eq_false hneeds, hs.1, hneeds]
  | some host =>
    -- the corrected selector has merged parts, which need no correction
    have hfixed := (clean_fixHost hclean hs).2 host hparse
    rw [← Bool.not_eq_true, needsHostFix_iff, hfixed]
    rintro ⟨host', heq, hneeds⟩
    rw [← Option.some.inj heq, needsFix_merged] at hneeds
    cases hneeds

end Selector

namespace SelectorList

open Selector

/-- No selector of corrected lists of clean selectors needs correction. -/
private theorem needsHostFix_of_mem_hostAware {lists : List SelectorList}
    (hclean : ∀ list ∈ lists, ∀ s ∈ list.selectors, Clean s) {s : Text}
    (hs : s ∈ hostAware lists) : needsHostFix s = false := by
  obtain ⟨t, ht, rfl⟩ := mem_hostAware.1 hs
  obtain ⟨list, hlist, htlist⟩ := mem_flatten.1 ht
  exact needsHostFix_fixHost (hclean list hlist t htlist) (trimmed_of_mem_flatten ht)

/-- Correcting lists of clean selectors a second time changes nothing. -/
theorem hostAware_hostAware_of_clean {lists : List SelectorList}
    (hclean : ∀ list ∈ lists, ∀ s ∈ list.selectors, Clean s) :
    hostAware [.items (hostAware lists)] = hostAware lists := by
  -- what needs no correction is only trimmed, and that has been done before
  have hfix : (hostAware lists).map fixHost = hostAware lists := by
    refine (List.map_congr_left fun s hs => ?_).trans (List.map_id' _)
    rw [fixHost_of_needsHostFix_eq_false (needsHostFix_of_mem_hostAware hclean hs)]
    exact (trimmed_of_mem_hostAware hs).1
  rw [hostAware_eq_eraseDups [.items (hostAware lists)], flatten_items_hostAware, hfix,
    hostAware_eq_eraseDups, List.eraseDups_eraseDups]

end SelectorList

open Selector HostSelector SelectorList in
/-- Correction brings clean host selectors into a normal form: the corrected selector is clean, it
    has the rest of the original one, and its argument ends with what trailed there. So nothing in
    corrected lists of clean selectors needs correction, and correcting them again changes
    nothing. -/
theorem host_correction_normal_form :
    (∀ s host, s.trim = s → Clean s → parse? s = some host →
      Clean (fixHost s) ∧
        parse? (fixHost s) = some
          { argument :=
              if host.trailing = [] then host.argument
              else some (host.argument.getD [] ++ host.trailing)
            trailing := [], rest := host.rest, closed := true }) ∧
      ∀ lists : List SelectorList, (∀ list ∈ lists, ∀ s ∈ list.selectors, Clean s) →
        (∀ s ∈ hostAware lists, needsHostFix s = false) ∧
          hostAware [.items (hostAware lists)] = hostAware lists := by
  refine ⟨fun s host htrim hclean hparse => ?_, fun lists hclean => ?_⟩
  · have hne : s ≠ [] := by
      rintro rfl
      cases hparse
    obtain ⟨hfixed, hparts⟩ := clean_fixHost hclean ⟨htrim, hne⟩
    exact ⟨hfixed, hparts host hparse⟩
  · exact ⟨fun s hs => needsHostFix_of_mem_hostAware hclean hs,
      hostAware_hostAware_of_clean hclean⟩

open Selector HostSelector SelectorList in
/-- A trailing pseudo-class joins an attribute in the argument, in front of a descendant that holds
    `:host` itself, and a list that also has the corrected selector is corrected once. -/
theorem host_correction_of_outlined_hover :
    Clean ":host([a=')']):not(.b) > :host:hover" ∧
      (Clean (fixHost ":host([a=')']):not(.b) > :host:hover") ∧
        parse? (fixHost ":host([a=')']):not(.b) > :host:hover") = some
          { argument := some "[a=')']:not(.b)"
            trailing := [], rest := " > :host:hover", closed := true }) ∧
      hostAware [.items (hostAware [.text ":host:hover, a", .items [" :host(:hover) "]])] =
        ([":host(:hover)", "a"] : List Text) := by
  refine ⟨by decide, ?_, ?_⟩
  · have hparse : parse? ":host([a=')']):not(.b) > :host:hover" = some
        { argument := some "[a=')']"
          trailing := ":not(.b)", rest := " > :host:hover", closed := true } := by decide +kernel
    exact host_correction_normal_form.1 _ _ (by decide) (by decide) hparse
  · rw [(host_correction_normal_form.2 [.text ":host:hover, a", .items [" :host(:hover) "]]
      (by decide)).2]
    decide +kernel

end CssTheming
