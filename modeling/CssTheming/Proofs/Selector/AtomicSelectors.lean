import CssTheming.Proofs.Selector.Resplitting

/-!
# Selectors that are not split further

A text is split into selectors that are trimmed and have no top-level comma of their own. Trimming
may cut an escape in two or shorten a string that is left open, but a scan of the trimmed selector
reads the characters that are left as it read them before, so no comma comes to the top level. Each
selector is therefore all that it is itself split into, and it makes no difference in which form a
text is handed in, as it is or split before.

## Key results

- `split_eq_singleton_iff`: the texts that are not split further
- `split_of_mem_split`, `flatMap_split_split`: splitting the selectors of a text once more
- `flatMap_selectors_of_forall₂`, `flatten_eq_of_forall₂`: texts that are handed in, split or not
- `split_selectors_stay_whole`: all of this together
-/

namespace CssTheming

namespace SelectorList

open Selector

/-- A text is not split further exactly if it is trimmed, not blank, and has no top-level comma. -/
theorem split_eq_singleton_iff {s : Text} :
    split s = [s] ↔ Trimmed s ∧ Scan.start.avoids (· == ',') s = true := by
  constructor
  · intro h
    -- the text is one of the selectors that it is split into
    have hmem : s ∈ split s := by
      rw [h]
      exact List.mem_singleton_self s
    exact (separated_split s).member s hmem
  · rintro ⟨htrim, havoids⟩
    exact split_of_avoids htrim havoids

/-- What a text is split into is not split further. -/
theorem split_of_mem_split {s t : Text} (h : s ∈ split t) : split s = [s] :=
  split_eq_singleton_iff.2 ((separated_split t).member s h)

/-- Splitting each selector of a text once more gives the same selectors. -/
theorem flatMap_split_split (t : Text) : (split t).flatMap split = split t :=
  flatMap_split_of_avoids (separated_split t).member

/-! ## Texts that are handed in split -/

/-- A text that is handed in as the sequence of its selectors has the same selectors. -/
private theorem selectors_items_split (t : Text) : (items (split t)).selectors = split t :=
  trimAll_of_trimmed fun _ hs => trimmed_of_mem_trimAll hs

/-- The selectors of some texts are the same whichever of the texts are handed in split. -/
theorem flatMap_selectors_of_forall₂ {texts : List Text} {lists : List SelectorList}
    (h : List.Forall₂ (fun t list => list = text t ∨ list = items (split t)) texts lists) :
    lists.flatMap selectors = texts.flatMap split := by
  induction h with
  | nil => rfl
  | @cons t list texts lists hlist _ ih =>
    -- either way the list has the selectors of the text
    have hselectors : list.selectors = split t := by
      rcases hlist with rfl | rfl
      · rfl
      · exact selectors_items_split t
    rw [List.flatMap_cons, List.flatMap_cons, hselectors, ih]

/-- Flattening some texts, it does not matter which of them are handed in split. -/
theorem flatten_eq_of_forall₂ {texts : List Text} {lists : List SelectorList}
    (h : List.Forall₂ (fun t list => list = text t ∨ list = items (split t)) texts lists) :
    flatten lists = flatten (texts.map text) := by
  rw [flatten, flatten, flatMap_selectors_of_forall₂ h, List.flatMap_map]
  rfl

end SelectorList

open SelectorList in
/-- What a text is split into is trimmed, not blank, and not split further, also if the text is
    malformed. So splitting the selectors of a text once more changes nothing, and flattening some
    texts gives the same list whichever of them are handed in as the sequences of their
    selectors. -/
theorem split_selectors_stay_whole :
    (∀ t : Text, ∀ s ∈ split t, s ≠ [] ∧ s.trim = s ∧ split s = [s]) ∧
      (∀ t : Text, (split t).flatMap split = split t) ∧
      ∀ (texts : List Text) (lists : List SelectorList),
        List.Forall₂ (fun t list => list = text t ∨ list = items (split t)) texts lists →
          flatten lists = flatten (texts.map text) := by
  refine ⟨fun t s hs => ?_, flatMap_split_split, fun texts lists h => flatten_eq_of_forall₂ h⟩
  obtain ⟨htrim, hne⟩ := trimmed_of_mem_trimAll hs
  exact ⟨hne, htrim, split_of_mem_split hs⟩

/-- Texts with a backslash in front of a blank, a bracket that closes nothing, and a group and a
    string that are left open in front of blanks. -/
def SelectorList.malformedTexts : List Text :=
  ["a\\ , b],, c ", " :is([d), e\\,\t", "c, [f=',\\ "]

open SelectorList in
/-- Trimming leaves a backslash alone, and shortens a group and a string that are left open. Two of
    the texts are handed in split. -/
theorem split_selectors_stay_whole_of_malformed_texts :
    (("a\\" : Text) ∈ split "a\\ , b],, c " ∧
      ("a\\" : Text) ≠ [] ∧ Text.trim "a\\" = "a\\" ∧ split "a\\" = (["a\\"] : List Text)) ∧
    (List.Forall₂ (fun t list => list = text t ∨ list = items (split t)) malformedTexts
        [items ["a\\", "b]", "c"], text " :is([d), e\\,\t", items ["c", "[f=',\\"]] ∧
      flatten [items ["a\\", "b]", "c"], text " :is([d), e\\,\t", items ["c", "[f=',\\"]] =
        flatten (malformedTexts.map text)) ∧
    flatten (malformedTexts.map text) =
      (["a\\", "b]", "c", ":is([d), e\\,", "[f=',\\"] : List Text) := by
  have hmem : ("a\\" : Text) ∈ split "a\\ , b],, c " := by decide +kernel
  have hlists : List.Forall₂ (fun t list => list = text t ∨ list = items (split t)) malformedTexts
      [items ["a\\", "b]", "c"], text " :is([d), e\\,\t", items ["c", "[f=',\\"]] := by
    decide +kernel
  obtain ⟨hwhole, -, hflatten⟩ := split_selectors_stay_whole
  exact ⟨⟨hmem, hwhole _ _ hmem⟩, ⟨hlists, hflatten _ _ hlists⟩, by decide +kernel⟩

end CssTheming
