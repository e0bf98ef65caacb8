import CssTheming.Proofs.Selector.HostNormalForm

/-!
# Correcting host selectors again

The correction of a host selector closes one group. Where the text that goes into it leaves further
groups or a string open, the new parenthesis does not close the group of `:host`, and a second
correction adds another one. This module says when that happens: a corrected selector is left alone
by a second correction exactly if its group is closed and nothing but closing parentheses trails it.

## Key results

- `HostSelector.fixed_eq_toText_iff`: which host selectors are their own corrected form
- `Selector.fixHost_fixHost_iff`, `Selector.fixHost_fixHost_of_clean`: when a second correction
  changes nothing, told from the corrected selector and from the selector itself
- `host_correction_idempotent_iff`: the same for selector lists
-/

namespace CssTheming

namespace HostSelector

/-- A host selector that needs no correction has no open group, and nothing trails in it. -/
private theorem closed_and_trailing_of_needsFix_eq_false {host : HostSelector}
    (h : host.needsFix = false) : host.closed = true ∧ host.trailing = [] := by
  simpa [needsFix, and_comm] using h

/-- With a group there, a host selector is its own corrected form exactly if the group is closed and
    nothing but closing parentheses trails it. -/
theorem fixed_eq_toText_iff {host : HostSelector} {argument : Text}
    (h : host.argument = some argument) :
    host.fixed = host.toText ↔ host.closed = true ∧ ∀ c ∈ host.trailing, c = ')' := by
  obtain ⟨_, trailing, rest, closed⟩ := host
  obtain rfl : _ = some argument := h
  cases closed with
  | false =>
    -- the corrected form is longer by a parenthesis
    have hlength : (fixed ⟨some argument, trailing, rest, false⟩).length ≠
        (toText ⟨some argument, trailing, rest, false⟩).length := by
      simp [fixed, toText, needsFix]
    simp only [Bool.false_eq_true, false_and, iff_false]
    exact fun heq => hlength (congrArg List.length heq)
  | true =>
    by_cases htrailing : trailing = []
    · subst htrailing
      simp [fixed, needsFix]
    · have hneeds : needsFix ⟨some argument, trailing, rest, true⟩ = true := by
        simp [needsFix, htrailing]
      -- the parenthesis is moved behind what trails it
      have hmove : trailing ++ ')' :: rest = ')' :: (trailing ++ rest) ↔
          trailing ++ [')'] = ')' :: trailing := by
        rw [← List.append_cancel_right_eq (trailing ++ [')']) rest]
        simp
      rw [fixed_of_needsFix hneeds]
      simp [toText, hmove, List.append_singleton_eq_cons_iff]

end HostSelector

namespace Selector

open HostSelector

variable {s : Text}

/-- What is not a host selector is only trimmed. -/
private theorem fixHost_of_parse?_eq_none (h : parse? s = none) : fixHost s = s.trim := by
  rw [fixHost, hostFix?, h]
  rfl

/-- A second correction changes nothing exactly if the group of the corrected selector is closed and
    nothing but closing parentheses trails it. -/
theorem fixHost_fixHost_iff (hs : Trimmed s) :
    fixHost (fixHost s) = fixHost s ↔
      ∀ host, parse? (fixHost s) = some host →
        host.closed = true ∧ ∀ c ∈ host.trailing, c = ')' := by
  have htrim := (trimmed_fixHost hs).1
  cases hneeds : needsHostFix s with
  | false =>
    -- the first correction changes nothing, and so neither does the second
    have hfix : fixHost s = s := by rw [fixHost_of_needsHostFix_eq_false hneeds, hs.1]
    rw [hfix, hfix]
    refine iff_of_true rfl fun host hparse => ?_
    have hhost : host.needsFix = false := by
      rw [← Bool.not_eq_true] at hneeds ⊢
      exact fun h => hneeds (needsHostFix_iff.2 ⟨host, hparse, h⟩)
    obtain ⟨hclosed, htrailing⟩ := closed_and_trailing_of_needsFix_eq_false hhost
    exact ⟨hclosed, by simp [htrailing]⟩
  | true =>
    obtain ⟨before, hbefore, hneeds⟩ := needsHostFix_iff.1 hneeds
    have hfix := fixHost_of_needsFix hbefore hneeds
    rw [fixed_of_needsFix hneeds] at hfix
    cases hparse : parse? (fixHost s) with
    | none => simp [fixHost_of_parse?_eq_none hparse, htrim]
    | some host =>
      -- the correction has put a group behind `:host`
      obtain ⟨argument, hargument⟩ : ∃ argument, host.argument = some argument := by
        obtain ⟨after, hafter, -, rfl⟩ := parse?_eq_some_iff.1 hparse
        rw [htrim, hfix] at hafter
        rw [← List.append_cancel_left hafter]
        exact exists_argument_ofAfterKeyword _
      rw [fixHost_of_parse? hparse, ← htrim, ← toText_of_parse? hparse,
        fixed_eq_toText_iff hargument]
      simp

/-- A second correction changes nothing if what the first one puts into the group is clean. -/
theorem fixHost_fixHost_of_clean (hs : Trimmed s)
    (h : ∀ host, parse? s = some host → host.needsFix = true →
      Clean (host.argument.getD [] ++ host.trailing)) :
    fixHost (fixHost s) = fixHost s := by
  cases hneeds : needsHostFix s with
  | false =>
    have hfix : fixHost s = s := by rw [fixHost_of_needsHostFix_eq_false hneeds, hs.1]
    rw [hfix, hfix]
  | true =>
    obtain ⟨host, hparse, hneeds⟩ := needsHostFix_iff.1 hneeds
    have htrim := (trimmed_fixHost hs).1
    refine (fixHost_fixHost_iff hs).2 fun host' hparse' => ?_
    -- the corrected selector has clean text in its group, so its parts are known
    rw [fixHost_of_needsFix hparse hneeds] at htrim hparse'
    rw [parse?_fixed (h host hparse hneeds) (followsCompound_rest hparse) hneeds htrim] at hparse'
    obtain rfl := Option.some.inj hparse'
    simp

end Selector

namespace SelectorList

open Selector

private theorem nodup_hostAware (lists : List SelectorList) : (hostAware lists).Nodup :=
  nodup_flatten _

/-- Correcting lists again changes nothing if each corrected selector is its own corrected form. -/
private theorem hostAware_hostAware_iff (lists : List SelectorList) :
    hostAware [.items (hostAware lists)] = hostAware lists ↔
      ∀ s ∈ flatten lists, fixHost (fixHost s) = fixHost s := by
  rw [hostAware_eq_eraseDups [.items (hostAware lists)], flatten_items_hostAware,
    List.eraseDups_map_eq_self_iff (nodup_hostAware lists)]
  constructor
  · exact fun h s hs => h _ (mem_hostAware.2 ⟨s, hs, rfl⟩)
  · intro h s hs
    obtain ⟨t, ht, rfl⟩ := mem_hostAware.1 hs
    exact h t ht

end SelectorList

open Selector HostSelector SelectorList in
/-- Correcting selector lists a second time changes nothing exactly if, in every corrected host
    selector, the group is closed and nothing but closing parentheses trails it. That is the case if
    in every host selector that needs correction, what goes into the group is clean; the selectors
    that need none may be of any kind, and so may what follows the first compound. -/
theorem host_correction_idempotent_iff (lists : List SelectorList) :
    (hostAware [.items (hostAware lists)] = hostAware lists ↔
        ∀ s ∈ hostAware lists, ∀ host ∈ parse? s,
          host.closed = true ∧ ∀ c ∈ host.trailing, c = ')') ∧
      ((∀ list ∈ lists, ∀ s ∈ list.selectors, ∀ host ∈ parse? s,
          host.needsFix = true → Clean (host.argument.getD [] ++ host.trailing)) →
        hostAware [.items (hostAware lists)] = hostAware lists) := by
  rw [hostAware_hostAware_iff]
  constructor
  · constructor
    · intro h s hs
      obtain ⟨t, ht, rfl⟩ := mem_hostAware.1 hs
      exact (fixHost_fixHost_iff (trimmed_of_mem_flatten ht)).1 (h t ht)
    · intro h t ht
      exact (fixHost_fixHost_iff (trimmed_of_mem_flatten ht)).2 (h _ (mem_hostAware.2 ⟨t, ht, rfl⟩))
  · intro h s hs
    -- a clean argument is enough for each selector of the lists
    obtain ⟨list, hlist, hmem⟩ := mem_flatten.1 hs
    exact fixHost_fixHost_of_clean (trimmed_of_mem_flatten hs) (h list hlist s hmem)

open Selector HostSelector SelectorList in
/-- An open group is closed once, and a string that a descendant leaves open does no harm. -/
theorem host_correction_idempotent_of_open_group :
    (∀ s ∈ ([":host(.a", ":host(.b):hover [c='"] : List Text), ∀ host ∈ parse? s,
        host.needsFix = true ∧ Clean (host.argument.getD [] ++ host.trailing)) ∧
      hostAware [.items [":host(.a", ":host(.b):hover [c='"]] =
        ([":host(.a)", ":host(.b:hover) [c='"] : List Text) ∧
      hostAware [.items (hostAware [.items [":host(.a", ":host(.b):hover [c='"]])] =
        hostAware [.items [":host(.a", ":host(.b):hover [c='"]] :=
  ⟨by decide +kernel, by decide +kernel, (host_correction_idempotent_iff _).2 (by decide +kernel)⟩

open SelectorList in
/-- Of two open groups the first correction closes the inner one, and the second the outer one. -/
theorem host_correction_of_nested_open_groups :
    hostAware [.text ":host(:not(.a"] = ([":host(:not(.a)"] : List Text) ∧
      hostAware [.items (hostAware [.text ":host(:not(.a"])] ≠
        hostAware [.text ":host(:not(.a"] := by
  decide +kernel

end CssTheming
