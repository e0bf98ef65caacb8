import CssTheming.Proofs.List
import CssTheming.Proofs.Text.Trim
import CssTheming.Selector.List

/-!
# Flattened selector lists

A flattened list holds trimmed selectors that are not blank, each only once. Flattening it again
therefore gives the same list.

## Key results

- `trimmed_of_mem_flatten`, `nodup_flatten`: what a flattened list looks like
- `flatten_eq_nil_iff`: when nothing is left
- `flatten_items`: flattening a sequence of trimmed selectors only removes repetitions
- `flatten_items_flatten`, `flatten_cons_items_flatten`: lists may be flattened before
-/

namespace CssTheming

namespace Selector

/-- A selector as lists hold it: trimmed, and not blank. -/
def Trimmed (s : Text) : Prop :=
  s.trim = s ∧ s ≠ []

instance : DecidablePred Trimmed := fun s =>
  inferInstanceAs (Decidable (s.trim = s ∧ s ≠ []))

end Selector

namespace SelectorList

open Selector

/-- The selectors of a sequence that has been trimmed are trimmed. -/
theorem trimmed_of_mem_trimAll {parts : List Text} {s : Text} (h : s ∈ trimAll parts) :
    Trimmed s := by
  rw [trimAll, List.mem_filter, List.mem_map] at h
  obtain ⟨⟨part, -, rfl⟩, hne⟩ := h
  exact ⟨Text.trim_trim part, by simpa using hne⟩

/-- Trimming leaves trimmed selectors alone. -/
theorem trimAll_of_trimmed {parts : List Text} (h : ∀ s ∈ parts, Trimmed s) :
    trimAll parts = parts := by
  have hmap : parts.map Text.trim = parts :=
    (List.map_congr_left fun s hs => (h s hs).1).trans (List.map_id' parts)
  -- no selector is changed by trimming, and none is left out for being blank
  rw [trimAll, hmap, List.filter_eq_self]
  intro s hs
  simpa using (h s hs).2

/-- Nothing is left of a sequence just if all its parts are blank. -/
theorem trimAll_eq_nil_iff {parts : List Text} :
    trimAll parts = [] ↔ ∀ part ∈ parts, ∀ c ∈ part, Text.isBlank c = true := by
  simp [trimAll, Text.trim_eq_nil_iff]

/-- The selectors of a list are trimmed, whether it is a text or a sequence. -/
private theorem trimmed_of_mem_selectors {list : SelectorList} {s : Text} (h : s ∈ list.selectors) :
    Trimmed s := by
  cases list with
  | text t => exact trimmed_of_mem_trimAll h
  | items parts => exact trimmed_of_mem_trimAll h

theorem flatten_singleton (list : SelectorList) : flatten [list] = list.selectors.eraseDups := by
  rw [flatten, List.flatMap_singleton]

theorem mem_flatten {lists : List SelectorList} {s : Text} :
    s ∈ flatten lists ↔ ∃ list ∈ lists, s ∈ list.selectors := by
  rw [flatten, List.mem_eraseDups, List.mem_flatMap]

theorem trimmed_of_mem_flatten {lists : List SelectorList} {s : Text} (h : s ∈ flatten lists) :
    Trimmed s := by
  obtain ⟨list, -, hs⟩ := mem_flatten.1 h
  exact trimmed_of_mem_selectors hs

/-- Nothing is left of some lists just if none of them has a selector. -/
theorem flatten_eq_nil_iff {lists : List SelectorList} :
    flatten lists = [] ↔ ∀ list ∈ lists, list.selectors = [] := by
  simp only [List.eq_nil_iff_forall_not_mem, mem_flatten, not_exists, not_and]
  exact ⟨fun h list hlist s => h s list hlist, fun h s list hlist => h list hlist s⟩

theorem flatten_singleton_eq_nil_iff {list : SelectorList} :
    flatten [list] = [] ↔ list.selectors = [] := by
  rw [flatten_eq_nil_iff, List.forall_mem_singleton]

theorem nodup_flatten (lists : List SelectorList) : (flatten lists).Nodup :=
  List.nodup_eraseDups _

/-- Flattening a sequence of trimmed selectors only removes repetitions. -/
theorem flatten_items {parts : List Text} (h : ∀ s ∈ parts, Trimmed s) :
    flatten [.items parts] = parts.eraseDups := by
  rw [flatten_singleton, selectors, trimAll_of_trimmed h]

/-- Flattening a flattened list changes nothing. -/
@[simp] theorem flatten_items_flatten (lists : List SelectorList) :
    flatten [.items (flatten lists)] = flatten lists := by
  rw [flatten_items fun s hs => trimmed_of_mem_flatten hs,
    List.eraseDups_of_nodup (nodup_flatten lists)]

/-- A list may be flattened before it is flattened together with others. -/
theorem flatten_cons_items_flatten (list : SelectorList) (lists : List SelectorList) :
    flatten (.items (flatten [list]) :: lists) = flatten (list :: lists) := by
  -- the list has the same selectors before and after, up to repetitions
  have hselectors : (SelectorList.items (flatten [list])).selectors.eraseDups =
      list.selectors.eraseDups := by
    rw [← flatten_singleton, flatten_items_flatten, flatten_singleton]
  rw [flatten, flatten, List.flatMap_cons, List.flatMap_cons]
  exact List.eraseDups_append_congr hselectors rfl

end SelectorList

end CssTheming
