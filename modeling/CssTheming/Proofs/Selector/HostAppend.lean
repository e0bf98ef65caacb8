import CssTheming.Proofs.Selector.HostNormalForm

/-!
# Appending to host selectors

What is appended to a selector is read behind its last compound. If that is the first one, then the
start of what is appended trails `:host` or its group, and the correction moves it into the argument
together with what trailed before. So it does not matter whether a selector is corrected before
something is appended.

## Main definitions

- `HostSelector.extend`: the parts of a host selector with a text appended

## Key results

- `HostSelector.parse?_append`: appending to a clean host selector extends its parts
- `Selector.fixHost_fixHost_append`: a clean selector may be corrected before something is appended
- `host_correction_commutes_with_append`: the same for selector lists
-/

namespace CssTheming

namespace HostSelector

open Selector

variable {host : HostSelector}

/-- The parts with a text appended: as far as the text still belongs to the first compound, it
    trails. -/
def extend (host : HostSelector) (u : Text) : HostSelector where
  argument := host.argument
  trailing := host.trailing ++ (firstCompound (host.rest ++ u)).1
  rest := (firstCompound (host.rest ++ u)).2
  closed := host.closed

/-- Appending extends the parts of a clean selector, unless it is `:host` alone: there a parenthesis
    would open a group, and a letter would make another name. -/
private theorem ofAfterKeyword_append {after : Text} (h : Clean after)
    (hparts : (ofAfterKeyword after).argument ≠ none ∨ (ofAfterKeyword after).trailing ≠ [])
    (u : Text) : ofAfterKeyword (after ++ u) = (ofAfterKeyword after).extend u := by
  obtain ⟨compound, rest, hcut⟩ : ∃ compound rest, firstCompound after = (compound, rest) :=
    ⟨_, _, rfl⟩
  have hcompound := (clean_firstCompound h).1
  have happend := firstCompound_append_of_clean h u
  rw [hcut] at hcompound happend
  by_cases hopen : compound.head? = some '('
  · obtain ⟨inside, rfl⟩ := List.head?_eq_some_iff.1 hopen
    -- the group is closed where it was, since what is appended stands behind it
    obtain ⟨argument, trailing, rfl, hargument, -⟩ := Group.exists_group hcompound
    rw [ofAfterKeyword_of_group hcut hargument]
    rw [List.cons_append, List.append_assoc, List.cons_append] at happend
    exact ofAfterKeyword_of_group happend hargument
  · rw [ofAfterKeyword_of_head?_ne hcut hopen] at hparts ⊢
    have hne : compound ≠ [] := by simpa using hparts
    refine ofAfterKeyword_of_head?_ne happend ?_
    rwa [List.head?_append_of_ne_nil _ hne]

/-- The parts of a clean host selector with a text appended, of which blanks at the end do not
    count. -/
theorem parse?_append {s : Text} (hclean : Clean s) (hs : Trimmed s) (hparse : parse? s = some host)
    (hparts : host.argument ≠ none ∨ host.trailing ≠ []) (u : Text) :
    parse? (s ++ u) = some (host.extend u.trimEnd) := by
  obtain ⟨after, hafter, hname, rfl⟩ := parse?_eq_some_iff.1 hparse
  rw [hs.1] at hafter
  have hclean' : Clean after := by
    rw [hafter] at hclean
    exact (hclean.of_append rfl).2
  -- `:host` alone has neither an argument nor anything that trails it
  have hne : after ≠ [] := by
    rintro rfl
    simp [ofAfterKeyword, firstCompound, Scan.span] at hparts
  refine parse?_eq_some_iff.2 ⟨after ++ u.trimEnd, ?_, ?_, ofAfterKeyword_append hclean' hparts _⟩
  · rw [Text.trim_append hs.1 hs.2, ← List.append_assoc, ← hafter]
  · -- the name of the pseudo-class ends where it did
    rwa [List.head?_append_of_ne_nil _ hne]

/-- What is appended ends up in the same place, whether or not what trails has been moved into the
    argument before. -/
private theorem fixed_extend_merged (htrailing : host.trailing ≠ []) (u : Text) :
    (host.merged.extend u).fixed = (host.extend u).fixed := by
  have hneeds : (host.extend u).needsFix = true := by simp [needsFix, extend, htrailing]
  rw [fixed_of_needsFix hneeds, fixed]
  split
  · simp [extend, merged, htrailing]
  · next h =>
    -- nothing of the text trails, so that the group is written as it was closed before
    have hnone : (firstCompound (host.rest ++ u)).1 = [] := by
      simpa [needsFix, extend, merged] using h
    simp [toText, extend, merged, htrailing, hnone]

end HostSelector

namespace Selector

open HostSelector

/-- A clean selector may be corrected before something is appended and everything is corrected. -/
theorem fixHost_fixHost_append {s : Text} (hclean : Clean s) (hs : Trimmed s) (u : Text) :
    fixHost (fixHost s ++ u) = fixHost (s ++ u) := by
  cases hneeds : needsHostFix s with
  | false => rw [fixHost_of_needsHostFix_eq_false hneeds, hs.1]
  | true =>
    obtain ⟨host, hparse, hneeds⟩ := needsHostFix_iff.1 hneeds
    have htrailing := (cleanParts_of_parse? hclean hs.1 hparse).needsFix_iff.1 hneeds
    have hargument : host.merged.argument ≠ none := by simp [merged, htrailing]
    obtain ⟨hfixed, hmerged⟩ := clean_fixHost hclean hs
    -- both selectors are clean host selectors, so that what is appended extends their parts
    have hbefore := parse?_append hclean hs hparse (.inr htrailing) u
    have hafter :=
      parse?_append hfixed (trimmed_fixHost hs) (hmerged host hparse) (.inl hargument) u
    rw [fixHost_of_parse? hbefore, fixHost_of_parse? hafter, fixed_extend_merged htrailing]

end Selector

namespace SelectorList

open Selector

/-- Correcting a list to which something was appended is doing both to each selector. -/
private theorem hostAware_append (list : SelectorList) (suffix : Text) :
    hostAware [.items (append list suffix)] =
      ((flatten [list]).map fun s => fixHost (s ++ suffix)).eraseDups := by
  rw [hostAware_items, append, List.map_map]
  · rfl
  · -- a selector that is not blank is not blank with something appended
    intro s hs
    obtain ⟨t, ht, rfl⟩ := List.mem_map.1 hs
    obtain ⟨htrim, hne⟩ := trimmed_of_mem_flatten ht
    simp [Text.trim_append htrim hne, hne]

end SelectorList

open Selector SelectorList in
/-- If the selectors of a list are clean, the list may be corrected before something is appended to
    each of them: correcting what comes of it gives the same as correcting only then. What is
    appended may be any text. -/
theorem host_correction_commutes_with_append {list : SelectorList}
    (hclean : ∀ s ∈ list.selectors, Clean s) (suffix : Text) :
    hostAware [.items (append (.items (hostAware [list])) suffix)] =
      hostAware [.items (append list suffix)] := by
  -- both sides are one change of each selector, with repetitions removed at the end
  rw [hostAware_append, hostAware_append, flatten_items_hostAware, hostAware_eq_eraseDups,
    List.eraseDups_map_eraseDups, List.map_map]
  congr 1
  refine List.map_congr_left fun s hs => ?_
  obtain ⟨list', hlist, hmem⟩ := mem_flatten.1 hs
  obtain rfl := List.mem_singleton.1 hlist
  exact fixHost_fixHost_append (hclean s hmem) (trimmed_of_mem_flatten hs) suffix

/-- Host selectors with an attribute that has a bracket in a string, with a descendant, and alone,
    and a blank one. -/
def SelectorList.hosts : SelectorList :=
  .items [" :host([a=')']):hover ", ":host p", "", ":host([a=')']:hover)", ":host"]

open Selector SelectorList in
/-- A group that is left open, with a combinator in it, is appended. -/
theorem host_correction_commutes_with_append_of_open_group :
    (∀ s ∈ hosts.selectors, Clean s) ∧
    append (.items (hostAware [hosts])) ":not(.b > c" =
      ([":host([a=')']:hover):not(.b > c", ":host p:not(.b > c", ":host:not(.b > c"] :
        List Text) ∧
    hostAware [.items (append (.items (hostAware [hosts])) ":not(.b > c")] =
      ([":host([a=')']:hover:not(.b > c)", ":host p:not(.b > c", ":host(:not(.b > c)"] :
        List Text) := by
  refine ⟨by decide +kernel, by decide +kernel, ?_⟩
  rw [host_correction_commutes_with_append (by decide +kernel)]
  decide +kernel

end CssTheming
