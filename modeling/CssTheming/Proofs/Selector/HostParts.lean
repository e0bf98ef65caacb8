import CssTheming.Proofs.Selector.Compound
import CssTheming.Proofs.Selector.Flatten
import CssTheming.Proofs.Selector.Group
import CssTheming.Selector.Host

/-!
# The parts of host selectors

How a host selector is cut into its parts, and what its corrected form looks like.

## Key results

- `HostSelector.parse?_eq_some_iff`: which selectors are host selectors
- `HostSelector.cleanParts_ofAfterKeyword`: the parts of a clean host selector are clean
- `HostSelector.ofAfterKeyword_group`: the parts of a selector with nothing behind its group
- `HostSelector.toText_of_parse?`: the parts make up the selector again
- `Selector.trimmed_fixHost`: correcting a selector keeps it trimmed
- `SelectorList.hostAware_eq_eraseDups`: correcting several lists is correcting each selector and
  removing repetitions
-/

namespace CssTheming

namespace HostSelector

open Selector

/-- A selector is a host selector if it starts with `:host`, and not with a longer name. -/
theorem parse?_eq_some_iff {selector : Text} {host : HostSelector} :
    parse? selector = some host ↔
      ∃ after, selector.trim = keyword ++ after ∧ after.head?.any continuesName = false ∧
        ofAfterKeyword after = host := by
  unfold parse?
  cases hfront : keyword.isPrefixOf? selector.trim with
  | none =>
    simp only [reduceCtorEq, false_iff, not_exists, not_and]
    intro after hafter
    rw [eq_comm, ← List.isPrefixOf?_eq_some_iff_append_eq, hfront] at hafter
    cases hafter
  | some after =>
    rw [List.isPrefixOf?_eq_some_iff_append_eq] at hfront
    rw [← hfront]
    -- the keyword in front is cut off, so the text behind it is the only one there can be
    constructor
    · intro h
      simp only at h
      split at h
      · cases h
      · next hname => exact ⟨after, rfl, by simpa using hname, Option.some.inj h⟩
    · rintro ⟨after', hafter, hname, rfl⟩
      obtain rfl := List.append_cancel_left hafter
      simp [hname]

/-- The rest of a host selector is what follows its first compound. -/
theorem rest_ofAfterKeyword (after : Text) :
    (ofAfterKeyword after).rest = (firstCompound after).2 := by
  unfold ofAfterKeyword
  split
  · next h => split <;> rw [h]
  · next h => rw [h]

/-- Nothing is lost when a selector is cut into its parts. -/
private theorem toText_ofAfterKeyword (after : Text) :
    (ofAfterKeyword after).toText = keyword ++ after := by
  have happend := firstCompound_append after
  unfold ofAfterKeyword
  split
  · next inside rest heq =>
    rw [heq] at happend
    subst happend
    split
    · next argument trailing hcut => simp [toText, ← Group.append_of_cutAt hcut]
    · -- the group is open, and all of the compound is its argument
      simp [toText]
  · next trailing rest _ heq =>
    rw [heq] at happend
    subst happend
    simp [toText]

/-- A clean group right behind `:host` holds the argument. -/
theorem ofAfterKeyword_of_group {after argument trailing rest : Text}
    (hcut : firstCompound after = ('(' :: (argument ++ ')' :: trailing), rest))
    (hargument : Clean argument) :
    ofAfterKeyword after = { argument := some argument, trailing, rest, closed := true } := by
  rw [ofAfterKeyword, hcut]
  simp only
  rw [Group.cut_append_closer hargument]

/-- Without a parenthesis right behind `:host`, all of the compound trails. -/
theorem ofAfterKeyword_of_head?_ne {after compound rest : Text}
    (hcut : firstCompound after = (compound, rest)) (hopen : compound.head? ≠ some '(') :
    ofAfterKeyword after = { argument := none, trailing := compound, rest, closed := true } := by
  rw [ofAfterKeyword, hcut]
  split
  · next heq =>
    cases heq
    exact absurd rfl hopen
  · next heq =>
    cases heq
    rfl

/-- The parts of a host selector make up the trimmed selector again. -/
theorem toText_of_parse? {selector : Text} {host : HostSelector}
    (h : parse? selector = some host) : host.toText = selector.trim := by
  obtain ⟨after, hafter, -, rfl⟩ := parse?_eq_some_iff.1 h
  rw [toText_ofAfterKeyword, hafter]

/-- The rest of a host selector can follow a compound. -/
theorem followsCompound_rest {selector : Text} {host : HostSelector}
    (h : parse? selector = some host) : FollowsCompound host.rest := by
  obtain ⟨after, -, -, rfl⟩ := parse?_eq_some_iff.1 h
  rw [rest_ofAfterKeyword]
  exact followsCompound_firstCompound after

/-- A selector with a parenthesis right behind `:host` has an argument. -/
theorem exists_argument_ofAfterKeyword (t : Text) :
    ∃ argument, (ofAfterKeyword ('(' :: t)).argument = some argument := by
  obtain ⟨inside, rest, hcut⟩ :
      ∃ inside rest, firstCompound ('(' :: t) = ('(' :: inside, rest) := ⟨_, _, rfl⟩
  rw [ofAfterKeyword, hcut]
  simp only
  split <;> exact ⟨_, rfl⟩

/-- A selector ends with its rest. -/
private theorem isSuffix_rest {selector : Text} {host : HostSelector}
    (h : parse? selector = some host) :
    host.rest <:+ selector.trim := by
  obtain ⟨after, hafter, -, rfl⟩ := parse?_eq_some_iff.1 h
  rw [hafter, rest_ofAfterKeyword]
  exact ⟨keyword ++ (firstCompound after).1, by rw [List.append_assoc, firstCompound_append]⟩

/-- The parts of a clean host selector. -/
structure CleanParts (host : HostSelector) : Prop where
  argument : ∀ a ∈ host.argument, Clean a
  trailing : Clean host.trailing
  rest : Clean host.rest
  follows : FollowsCompound host.rest
  closed : host.closed = true

/-- The parts of a clean host selector are clean, and its group is closed. -/
theorem cleanParts_ofAfterKeyword {after : Text} (h : Clean after) :
    (ofAfterKeyword after).CleanParts := by
  obtain ⟨hcompound, hrest, hfollows⟩ := clean_firstCompound h
  obtain ⟨compound, rest, hcut⟩ : ∃ compound rest, firstCompound after = (compound, rest) :=
    ⟨_, _, rfl⟩
  rw [hcut] at hcompound hrest hfollows
  by_cases hopen : compound.head? = some '('
  · obtain ⟨inside, rfl⟩ := List.head?_eq_some_iff.1 hopen
    obtain ⟨argument, trailing, rfl, hargument, htrailing⟩ := Group.exists_group hcompound
    rw [ofAfterKeyword_of_group hcut hargument]
    exact ⟨fun a ha => Option.some.inj ha ▸ hargument, htrailing, hrest, hfollows, rfl⟩
  · rw [ofAfterKeyword_of_head?_ne hcut hopen]
    exact ⟨by simp, hcompound, hrest, hfollows, rfl⟩

/-- Nothing trails a clean group if what is behind it can follow a compound. -/
theorem ofAfterKeyword_group {inside rest : Text} (h : Clean inside)
    (hrest : FollowsCompound rest) :
    ofAfterKeyword ('(' :: (inside ++ ')' :: rest)) =
      { argument := some inside, trailing := [], rest, closed := true } :=
  ofAfterKeyword_of_group (firstCompound_group h hrest) h

/-- The corrected form, as one group behind `:host`. -/
theorem fixed_of_needsFix {host : HostSelector} (h : host.needsFix = true) :
    host.fixed =
      keyword ++ '(' :: (host.argument.getD [] ++ host.trailing ++ ')' :: host.rest) := by
  simp [fixed, h]

/-- The parts of the corrected form, if what goes into the group is clean. -/
theorem parse?_fixed {host : HostSelector}
    (hclean : Clean (host.argument.getD [] ++ host.trailing)) (hfollows : FollowsCompound host.rest)
    (hneeds : host.needsFix = true) (htrim : host.fixed.trim = host.fixed) :
    parse? host.fixed = some
      { argument := some (host.argument.getD [] ++ host.trailing)
        trailing := [], rest := host.rest, closed := true } := by
  rw [fixed_of_needsFix hneeds] at htrim ⊢
  -- both scanners stop at the bracket that was put behind the trailing text
  exact parse?_eq_some_iff.2 ⟨_, htrim, rfl, ofAfterKeyword_group hclean hfollows⟩

end HostSelector

namespace Selector

open HostSelector

/-- A host selector that needs correction is written in its corrected form. -/
theorem fixHost_of_needsFix {s : Text} {host : HostSelector} (hparse : parse? s = some host)
    (hneeds : host.needsFix = true) : fixHost s = host.fixed := by
  rw [fixHost, hostFix?, hparse, Option.filter_some, if_pos hneeds]
  rfl

/-- A host selector is written in its corrected form in any case, which is its own text if it needs
    no correction. -/
theorem fixHost_of_parse? {s : Text} {host : HostSelector} (hparse : parse? s = some host) :
    fixHost s = host.fixed := by
  cases hneeds : host.needsFix with
  | true => exact fixHost_of_needsFix hparse hneeds
  | false =>
    rw [fixHost, hostFix?, hparse, Option.filter_some, hneeds, fixed, hneeds]
    exact (toText_of_parse? hparse).symm

/-- A selector that needs no correction is only trimmed. -/
theorem fixHost_of_needsHostFix_eq_false {s : Text} (h : needsHostFix s = false) :
    fixHost s = s.trim := by
  rw [needsHostFix, Option.isSome_eq_false_iff, Option.isNone_iff_eq_none] at h
  rw [fixHost, h, Option.getD_none]

/-- A selector needs correction if it is a host selector that does. -/
theorem needsHostFix_iff {s : Text} :
    needsHostFix s = true ↔ ∃ host, parse? s = some host ∧ host.needsFix = true := by
  rw [needsHostFix, hostFix?, Option.isSome_map, Option.isSome_filter, Option.any_eq_true]

/-- A selector is trimmed before it is corrected. -/
private theorem fixHost_trim (s : Text) : fixHost s.trim = fixHost s := by
  simp [fixHost, hostFix?, parse?]

/-- Correcting a selector keeps it trimmed. -/
theorem trimmed_fixHost {s : Text} (h : Trimmed s) : Trimmed (fixHost s) := by
  cases hneeds : needsHostFix s with
  | false =>
    rw [fixHost_of_needsHostFix_eq_false hneeds, h.1]
    exact h
  | true =>
  obtain ⟨host, hparse, hneeds⟩ := needsHostFix_iff.1 hneeds
  rw [fixHost_of_needsFix hparse hneeds, fixed_of_needsFix hneeds]
  refine ⟨Text.trim_eq_self_iff.2 ⟨?_, ?_⟩, by simp [keyword]⟩
  · -- the corrected form starts with the colon of `:host`
    intro c hc
    obtain rfl : ':' = c := by simpa [keyword] using hc
    rfl
  · intro c hc
    -- the last character is the parenthesis, or the last one that the selector had before
    have hsplit : keyword ++ '(' :: (host.argument.getD [] ++ host.trailing ++ ')' :: host.rest) =
        keyword ++ '(' :: (host.argument.getD [] ++ host.trailing) ++ ')' :: host.rest := by simp
    rw [hsplit, List.getLast?_append, List.getLast?_cons] at hc
    obtain rfl : host.rest.getLast?.getD ')' = c := by simpa using hc
    cases hlast : host.rest.getLast? with
    | none => rfl
    | some d =>
      obtain ⟨front, hfront⟩ := isSuffix_rest hparse
      refine (Text.trim_eq_self_iff.1 h.1).2 d ?_
      rw [← h.1, ← hfront, List.getLast?_append, hlast]
      rfl

end Selector

namespace SelectorList

/-- Correcting several lists is correcting each selector and removing repetitions. -/
theorem hostAware_eq_eraseDups (lists : List SelectorList) :
    hostAware lists = ((flatten lists).map Selector.fixHost).eraseDups := by
  rw [hostAware, flatten_items]
  intro s hs
  obtain ⟨t, ht, rfl⟩ := List.mem_map.1 hs
  exact Selector.trimmed_fixHost (trimmed_of_mem_flatten ht)

/-- A sequence of selectors may be corrected as it is, without being trimmed first, if none of them
    is blank. -/
theorem hostAware_items {parts : List Text} (h : ∀ s ∈ parts, s.trim ≠ []) :
    hostAware [.items parts] = (parts.map Selector.fixHost).eraseDups := by
  have htrim : (SelectorList.items parts).selectors = parts.map Text.trim := by
    rw [selectors, trimAll, List.filter_eq_self]
    intro s hs
    obtain ⟨part, hpart, rfl⟩ := List.mem_map.1 hs
    simpa using h part hpart
  rw [hostAware_eq_eraseDups, flatten_singleton, htrim,
    List.eraseDups_map_eraseDups, List.map_map]
  congr 1
  -- correcting a selector trims it anyway
  exact List.map_congr_left fun s _ => Selector.fixHost_trim s

theorem mem_hostAware {lists : List SelectorList} {s : Text} :
    s ∈ hostAware lists ↔ ∃ t ∈ flatten lists, Selector.fixHost t = s := by
  rw [hostAware_eq_eraseDups, List.mem_eraseDups, List.mem_map]

/-- Nothing is left of corrected lists just if there was no selector. -/
theorem hostAware_eq_nil_iff {lists : List SelectorList} :
    hostAware lists = [] ↔ ∀ list ∈ lists, list.selectors = [] := by
  rw [hostAware_eq_eraseDups, ← flatten_eq_nil_iff]
  simp [List.eq_nil_iff_forall_not_mem]

/-- Corrected lists are flattened lists. -/
@[simp] theorem flatten_items_hostAware (lists : List SelectorList) :
    flatten [.items (hostAware lists)] = hostAware lists := by
  rw [hostAware, flatten_items_flatten]

theorem trimmed_of_mem_hostAware {lists : List SelectorList} {s : Text}
    (h : s ∈ hostAware lists) : Selector.Trimmed s := by
  rw [← flatten_items_hostAware] at h
  exact trimmed_of_mem_flatten h

end SelectorList

end CssTheming
