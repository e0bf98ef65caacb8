import CssTheming.Proofs.Selector.Compound
import CssTheming.Proofs.Selector.Flatten
import CssTheming.Proofs.Text.Pieces

/-!
# Splitting and joining selector lists

A text is split at its top-level commas. A comma behind a text that leaves nothing open is one of
them, whatever stands in that text and behind the comma. So if each selector of a list leaves
nothing open and has no top-level comma of its own, then the commas that join the list are the ones
at which it is split.

## Key results

- `split_append_comma`: splitting behind a text that leaves nothing open
- `flatMap_split_of_avoids`: selectors that are not split further
- `split_cons_of_isBlank`: blanks in front of a list do not matter
- `split_join_eq_flatMap`, `split_join`: splitting a joined list
- `selectors_eq_nil_iff`: the lists without selectors
- `splitting_distributes_over_commas`: splitting behind a comma, and splitting a joined list
-/

namespace CssTheming

namespace SelectorList

open Scan Selector

/-- A trimmed selector is kept at the front of a sequence. -/
private theorem trimAll_cons_of_trimmed {s : Text} (h : Trimmed s) (parts : List Text) :
    trimAll (s :: parts) = s :: trimAll parts := by
  have hne : (!s.isEmpty) = true := by simpa using h.2
  rw [trimAll, List.map_cons, h.1, List.filter_cons, if_pos hne]
  rfl

theorem trimAll_append (parts parts' : List Text) :
    trimAll (parts ++ parts') = trimAll parts ++ trimAll parts' := by
  rw [trimAll, List.map_append, List.filter_append]
  rfl

/-- A text that leaves nothing open and what stands behind the next comma are split on their own. -/
theorem split_append_comma {t : Text} (hrun : Scan.start.run t = Scan.start) (u : Text) :
    split (t ++ ',' :: u) = split t ++ split u := by
  rw [split, splitOn_append_cons_of_run hrun rfl rfl, trimAll_append]
  rfl

/-- A trimmed selector without top-level commas is not split. -/
theorem split_of_avoids {s : Text} (htrim : Trimmed s)
    (havoids : Scan.start.avoids (· == ',') s = true) : split s = [s] := by
  rw [split, splitOn_of_avoids havoids, trimAll_cons_of_trimmed htrim]
  rfl

/-- Splitting trimmed selectors without top-level commas changes nothing. -/
theorem flatMap_split_of_avoids {selectors : List Text}
    (h : ∀ s ∈ selectors, Trimmed s ∧ Scan.start.avoids (· == ',') s = true) :
    selectors.flatMap split = selectors := by
  have hsingle : selectors.flatMap split = selectors.flatMap fun s => [s] :=
    List.flatMap_congr fun s hs => split_of_avoids (h s hs).1 (h s hs).2
  rw [hsingle, List.flatMap_singleton']

/-- A blank in front of a list does not matter. -/
theorem split_cons_of_isBlank {c : Char} (h : Text.isBlank c = true) (t : Text) :
    split (c :: t) = split t := by
  have hcomma : (c == ',') = false := by
    rw [beq_eq_false_iff_ne]
    rintro rfl
    cases h
  -- the blank stands in front of the first part, where it is trimmed away
  rw [split, split, splitOn, if_neg (by simp [hcomma]), step_of_topLevel (topLevel_of_isBlank h)]
  cases Scan.start.splitOn (· == ',') t with
  | nil => rfl
  | cons part parts =>
    rw [List.modifyHead_cons, trimAll, trimAll, List.map_cons, List.map_cons,
      Text.trim_cons_of_isBlank h]

/-- A comma in front of a list does not matter. -/
private theorem split_cons_comma (t : Text) : split (',' :: t) = split t :=
  rfl

/-- Texts that are joined with commas are split on their own, if none but the last leaves anything
    open. -/
theorem split_join_eq_flatMap {parts : List Text}
    (h : ∀ t ∈ parts.dropLast, Scan.start.run t = Scan.start) :
    split (Text.join ", " parts) = parts.flatMap split := by
  induction parts with
  | nil => rfl
  | cons t parts ih =>
    by_cases hne : parts = []
    · subst hne
      rw [Text.join_singleton, List.flatMap_singleton]
    · rw [List.dropLast_cons_of_ne_nil hne] at h
      obtain ⟨ht, hparts⟩ := List.forall_mem_cons.1 h
      rw [Text.join_cons_of_ne_nil hne, List.append_assoc]
      -- the separator is a comma, with a blank that belongs to the next part
      show split (t ++ ',' :: ' ' :: Text.join ", " parts) = _
      rw [split_append_comma ht, split_cons_of_isBlank rfl, ih hparts, List.flatMap_cons]

/-- Splitting a joined list gives the list back, if none of its selectors has a top-level comma and
    none but the last leaves anything open. -/
theorem split_join_of_dropLast {selectors : List Text}
    (h : ∀ s ∈ selectors, Trimmed s ∧ Scan.start.avoids (· == ',') s = true)
    (hrun : ∀ s ∈ selectors.dropLast, Scan.start.run s = Scan.start) :
    split (Text.join ", " selectors) = selectors := by
  rw [split_join_eq_flatMap hrun, flatMap_split_of_avoids h]

/-- Splitting a list that was joined with commas gives the list back. -/
theorem split_join {selectors : List Text}
    (h : ∀ s ∈ selectors, Trimmed s ∧ Scan.start.run s = Scan.start ∧
      Scan.start.avoids (· == ',') s = true) :
    split (Text.join ", " selectors) = selectors :=
  split_join_of_dropLast (fun s hs => ⟨(h s hs).1, (h s hs).2.2⟩)
    fun s hs => (h s (List.dropLast_subset _ hs)).2.1

/-! ## Lists without selectors -/

/-- Whether there is nothing in a list but blanks, and commas if it is given as text. -/
def isBlank : SelectorList → Bool
  | text t => t.all fun c => Text.isBlank c || c == ','
  | items parts => parts.all fun part => part.all Text.isBlank

/-- There is no selector in a text just if it has nothing but blanks and commas. -/
private theorem split_eq_nil_iff {t : Text} :
    split t = [] ↔ ∀ c ∈ t, Text.isBlank c = true ∨ c = ',' := by
  constructor
  · intro h c hc
    rw [or_iff_not_imp_right]
    intro hcomma
    -- the character is found in one of the parts, and these are blank
    obtain ⟨part, hpart, hmem⟩ :=
      exists_mem_splitOn (p := (· == ',')) (by simpa using hcomma) hc
    exact trimAll_eq_nil_iff.1 h part hpart c hmem
  · intro h
    induction t with
    | nil => rfl
    | cons c t ih =>
      obtain ⟨hc, ht⟩ := List.forall_mem_cons.1 h
      rcases hc with hblank | rfl
      · rw [split_cons_of_isBlank hblank, ih ht]
      · rw [split_cons_comma, ih ht]

/-- There is no selector in a list just if it is blank. -/
theorem selectors_eq_nil_iff {list : SelectorList} :
    list.selectors = [] ↔ list.isBlank = true := by
  cases list with
  | text t =>
    rw [selectors, split_eq_nil_iff]
    simp [isBlank]
  | items parts =>
    rw [selectors, trimAll_eq_nil_iff]
    simp [isBlank]

end SelectorList

open Selector SelectorList in
/-- Splitting takes texts apart at the commas that are written between them. A text that leaves no
    string, escape or group open is split on its own, whatever stands behind the comma; closing
    brackets that no group waits for do no harm in it. So a list of trimmed selectors of this kind,
    without top-level commas of their own, is read back from its joined form. -/
theorem splitting_distributes_over_commas :
    (∀ t u : Text, Scan.start.run t = Scan.start → split (t ++ ',' :: u) = split t ++ split u) ∧
      ∀ selectors : List Text,
        (∀ s ∈ selectors, Trimmed s ∧ Scan.start.run s = Scan.start ∧
          Scan.start.avoids (· == ',') s = true) →
        split (Text.join ", " selectors) = selectors :=
  ⟨fun _ u hrun => split_append_comma hrun u, fun _ h => split_join h⟩

open Selector SelectorList in
/-- The first text has a parenthesis in brackets that closes nothing, and the second one leaves a
    group open; the list has commas in an escape and in a string. -/
theorem splitting_distributes_over_commas_of_open_group :
    (Scan.start.run ":not([a)]), b" = Scan.start ∧
      split (":not([a)]), b" ++ ',' :: " c, d:is(e, f") =
        ([":not([a)])", "b", "c", "d:is(e, f"] : List Text)) ∧
    (∀ s ∈ ([":not([a)])", "b\\,", "[c=',)'] > d"] : List Text),
      Trimmed s ∧ Scan.start.run s = Scan.start ∧ Scan.start.avoids (· == ',') s = true) ∧
    split (Text.join ", " [":not([a)])", "b\\,", "[c=',)'] > d"]) =
      ([":not([a)])", "b\\,", "[c=',)'] > d"] : List Text) := by
  have hrun : Scan.start.run ":not([a)]), b" = Scan.start := by decide
  have hselectors : ∀ s ∈ ([":not([a)])", "b\\,", "[c=',)'] > d"] : List Text),
      Trimmed s ∧ Scan.start.run s = Scan.start ∧
        Scan.start.avoids (· == ',') s = true := by decide +kernel
  refine ⟨⟨hrun, ?_⟩, hselectors, splitting_distributes_over_commas.2 _ hselectors⟩
  rw [splitting_distributes_over_commas.1 _ _ hrun]
  decide +kernel

end CssTheming
