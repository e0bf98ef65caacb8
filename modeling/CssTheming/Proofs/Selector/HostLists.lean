import CssTheming.Proofs.Selector.HostParts

/-!
# Correcting several selector lists at once

The selectors of several lists are corrected after repetitions have been removed, and what comes of
it is trimmed and freed of repetitions once more. All of that amounts to correcting the selectors of
all lists, one behind the other, and keeping each result where it occurs first. A selector leaves a
log record where it occurs first, if it is changed.

## Key results

- `Selector.fixHostLog_eq`, `Selector.flatMap_fixHostLog`: the records of correcting selectors
- `SelectorList.hostAware_eq_eraseDups_flatMap`: correcting several lists is correcting all of their
  selectors in order
- `SelectorList.hostAwareLog_eq`: the records of correcting several lists
- `host_correction_of_concatenation`: all of this together
-/

namespace CssTheming

namespace Selector

/-- The record of correcting a selector names its corrected form. -/
theorem fixHostLog_eq (s : Text) :
    fixHostLog s = if needsHostFix s then [.hostFixed s (fixHost s)] else [] := by
  rw [fixHostLog, needsHostFix, fixHost]
  cases hostFix? s <;> rfl

/-- Each selector that needs correction leaves a record, and the others leave none. -/
theorem flatMap_fixHostLog (selectors : List Text) :
    selectors.flatMap fixHostLog =
      (selectors.filter needsHostFix).map fun s => .hostFixed s (fixHost s) := by
  induction selectors with
  | nil => rfl
  | cons s selectors ih =>
    rw [List.flatMap_cons, fixHostLog_eq, ih, List.filter_cons]
    split <;> rfl

end Selector

namespace SelectorList

open Selector

/-- Repetitions may be left in until all selectors are corrected. -/
theorem hostAware_eq_eraseDups_flatMap (lists : List SelectorList) :
    hostAware lists = ((lists.flatMap selectors).map fixHost).eraseDups := by
  rw [hostAware_eq_eraseDups, flatten, List.eraseDups_map_eraseDups]

/-- Each selector that is changed leaves one record, in the order of the first occurrences. -/
theorem hostAwareLog_eq (lists : List SelectorList) :
    hostAwareLog lists =
      ((lists.flatMap selectors).filter needsHostFix).eraseDups.map fun s =>
        .hostFixed s (fixHost s) := by
  rw [hostAwareLog, flatMap_fixHostLog, flatten, List.eraseDups_filter]

end SelectorList

open Selector SelectorList in
/-- Correcting several selector lists is correcting all of their selectors in order and removing
    each result that is the same as an earlier one. What is left is trimmed, and nothing of it is
    blank. There is one log record for each selector that is changed, however often it occurs, and
    the records come in the order of the first occurrences. -/
theorem host_correction_of_concatenation (lists : List SelectorList) :
    hostAware lists = ((lists.flatMap selectors).map fixHost).eraseDups ∧
      (∀ s ∈ hostAware lists, s ≠ [] ∧ s.trim = s) ∧
      hostAwareLog lists =
        ((lists.flatMap selectors).filter needsHostFix).eraseDups.map fun s =>
          .hostFixed s (fixHost s) :=
  ⟨hostAware_eq_eraseDups_flatMap lists, fun _ hs => (trimmed_of_mem_hostAware hs).symm,
    hostAwareLog_eq lists⟩

open Selector SelectorList in
/-- Two selectors of different lists become the same by correction, one of them is there twice, and
    a part of a sequence is blank. -/
theorem host_correction_of_concatenation_of_merged_selectors :
    hostAware [.text "b, :host:hover", .items [" :host(:hover) ", " ", ":host:hover", ":host(.a"]] =
        (["b", ":host(:hover)", ":host(.a)"] : List Text) ∧
      ((":host(.a)" : Text) ≠ [] ∧ Text.trim ":host(.a)" = ":host(.a)") ∧
      hostAwareLog
          [.text "b, :host:hover", .items [" :host(:hover) ", " ", ":host:hover", ":host(.a"]] =
        [.hostFixed ":host:hover" ":host(:hover)", .hostFixed ":host(.a" ":host(.a)"] := by
  obtain ⟨hlists, htrimmed, hlog⟩ := host_correction_of_concatenation
    [.text "b, :host:hover", .items [" :host(:hover) ", " ", ":host:hover", ":host(.a"]]
  have hfixed : hostAware
      [.text "b, :host:hover", .items [" :host(:hover) ", " ", ":host:hover", ":host(.a"]] =
        (["b", ":host(:hover)", ":host(.a)"] : List Text) := by
    rw [hlists]
    decide +kernel
  -- the selector with an open group is the last one that is left
  refine ⟨hfixed, htrimmed _ ?_, ?_⟩
  · rw [hfixed]
    simp
  · rw [hlog]
    decide +kernel

end CssTheming
