import CssTheming.Feature
import CssTheming.Proofs.Text.Trim
import Mathlib.Data.Finset.Dedup
import Mathlib.Data.Finset.Insert

/-!
# Reading feature queries

A query is written as items with commas between them: names of features, and names with a minus sign
in front. There may be blanks around an item and behind the minus sign, items may be blank or come
several times, and their order is free. Reading the query gives the two sets of names back.

## Main definitions

- `FeatureQuery.IsName`: the names that an item can hold
- `FeatureQuery.Padded`: a text with blanks around it
- `FeatureQuery.ItemsOf`: the items of a query for two sets of names

## Key results

- `items_join`: the items of a text that is put together from items
- `ItemsOf.mem_named_iff`, `ItemsOf.mem_excludedNames_iff`: the names that are found in the items
- `query_reads_back`: reading a query gives the two sets of names
-/

namespace CssTheming.FeatureQuery

variable {I X : Finset Text} {name t : Text} {parts : List Text}

/-- A name that can stand in a query: it is not empty, has no blank at its ends and holds no
    comma. -/
structure IsName (name : Text) : Prop where
  ne_nil : name ≠ []
  trim_eq : name.trim = name
  comma_notMem : ',' ∉ name

/-- A text with blanks, if any, around another one. -/
def Padded (t padded : Text) : Prop :=
  ∃ front back, (∀ c ∈ front, Text.isBlank c = true) ∧ (∀ c ∈ back, Text.isBlank c = true) ∧
    padded = front ++ t ++ back

/-- An item that excludes a feature: a minus sign and the name, with blanks between them and around
    both. -/
def Excludes (name item : Text) : Prop :=
  ∃ gap, (∀ c ∈ gap, Text.isBlank c = true) ∧ Padded ('-' :: (gap ++ name)) item

/-- The items of a query that includes the features `I` and excludes the features `X`, in any order
    and with repetitions. -/
structure ItemsOf (I X : Finset Text) (parts : List Text) : Prop where
  part : ∀ item ∈ parts,
    (∀ c ∈ item, Text.isBlank c = true) ∨ (∃ name ∈ I, Padded name item) ∨
      ∃ name ∈ X, Excludes name item
  included : ∀ name ∈ I, ∃ item ∈ parts, Padded name item
  excluded : ∀ name ∈ X, ∃ item ∈ parts, Excludes name item

/-! ## Single items -/

/-- A comma is no blank. -/
private theorem comma_notMem_of_isBlank (h : ∀ c ∈ t, Text.isBlank c = true) : ',' ∉ t :=
  fun hmem => absurd (h ',' hmem) (by decide)

/-- A text without blank ends is what is left if the blanks around it are taken away. -/
private theorem padded_iff (ht : t.trim = t) {padded : Text} :
    Padded t padded ↔ padded.trim = t := by
  constructor
  · rintro ⟨front, back, hfront, hback, rfl⟩
    exact Text.trim_append_append hfront ht hback
  · rintro rfl
    exact Text.exists_eq_append_trim padded

/-- Blanks around a text bring no comma with them. -/
private theorem Padded.comma_notMem {padded : Text} (h : Padded t padded) (ht : ',' ∉ t) :
    ',' ∉ padded := by
  obtain ⟨front, back, hfront, hback, rfl⟩ := h
  simp [comma_notMem_of_isBlank hfront, comma_notMem_of_isBlank hback, ht]

/-- The item is trimmed to the minus sign with the name behind it, and that name is trimmed when it
    is read. -/
private theorem Excludes.excludedName?_trim {item : Text} (h : Excludes name item)
    (hname : IsName name) :
    excludedName? item.trim = some name := by
  obtain ⟨gap, hgap, hitem⟩ := h
  have hsign : Text.trim ['-'] = ['-'] := by decide
  have htrim : Text.trim ('-' :: (gap ++ name)) = '-' :: (gap ++ name) :=
    Text.trim_append_eq_self hsign hname.trim_eq (by simp) hname.ne_nil gap
  -- the blanks behind the minus sign are trimmed when the name is read
  have hbehind : Text.trim (gap ++ name) = name :=
    (padded_iff hname.trim_eq).1 ⟨gap, [], hgap, by simp, by simp⟩
  rw [(padded_iff htrim).1 hitem, excludedName?, hbehind]

/-- An item that excludes a feature holds no comma. -/
private theorem Excludes.comma_notMem {item : Text} (h : Excludes name item) (hname : IsName name) :
    ',' ∉ item := by
  obtain ⟨gap, hgap, hitem⟩ := h
  refine hitem.comma_notMem ?_
  simp [comma_notMem_of_isBlank hgap, hname.comma_notMem]

/-- An item excludes no feature just if it does not start with a minus sign. -/
private theorem excludedName?_eq_none_iff : excludedName? t = none ↔ t.head? ≠ some '-' := by
  unfold excludedName?
  split
  · simp
  · next hsign =>
    simp only [true_iff]
    intro hhead
    obtain ⟨rest, rfl⟩ := List.head?_eq_some_iff.1 hhead
    exact hsign rest rfl

/-! ## All items of a query -/

/-- The items of a text that is put together from parts without commas. -/
theorem items_join (h : ∀ part ∈ parts, ',' ∉ part) :
    items (Text.join "," parts) = (parts.map Text.trim).filter fun item => !item.isEmpty := by
  by_cases hparts : parts = []
  · -- the empty text has one part, which is blank
    subst hparts
    rfl
  · have hsplit : List.splitOn ',' (Text.join "," parts) = parts :=
      List.splitOn_intercalate ',' h hparts
    rw [items, hsplit]

/-- The items of a query are its parts, trimmed, as far as something is left of them. -/
private theorem mem_items_join (h : ∀ part ∈ parts, ',' ∉ part) :
    name ∈ items (Text.join "," parts) ↔ name ≠ [] ∧ ∃ part ∈ parts, Text.trim part = name := by
  rw [items_join h, List.mem_filter, List.mem_map, Bool.not_eq_true', List.isEmpty_eq_false_iff,
    and_comm]

namespace ItemsOf

/-- No item holds a comma, so that the commas of the query stand between items. -/
private theorem comma_notMem (h : ItemsOf I X parts) (hI : ∀ name ∈ I, IsName name)
    (hX : ∀ name ∈ X, IsName name) : ∀ part ∈ parts, ',' ∉ part := by
  intro part hpart
  rcases h.part part hpart with hblank | ⟨name, hname, hpadded⟩ | ⟨name, hname, hexcludes⟩
  · exact comma_notMem_of_isBlank hblank
  · exact hpadded.comma_notMem (hI name hname).comma_notMem
  · exact hexcludes.comma_notMem (hX name hname)

/-- The items without a minus sign are the names to include. -/
theorem mem_named_iff (h : ItemsOf I X parts)
    (hI : ∀ name ∈ I, IsName name ∧ name.head? ≠ some '-') (hX : ∀ name ∈ X, IsName name) :
    (name ∈ items (Text.join "," parts) ∧ excludedName? name = none) ↔ name ∈ I := by
  rw [mem_items_join (h.comma_notMem (fun name hname => (hI name hname).1) hX)]
  constructor
  · rintro ⟨⟨hne, part, hpart, rfl⟩, hsign⟩
    rcases h.part part hpart with hblank | ⟨name, hname, hpadded⟩ | ⟨name, hname, hexcludes⟩
    · -- a blank item was dropped
      exact absurd (Text.trim_eq_nil_iff.2 hblank) hne
    · rwa [(padded_iff (hI name hname).1.trim_eq).1 hpadded]
    · -- what is left of the item starts with the minus sign
      rw [hexcludes.excludedName?_trim (hX name hname)] at hsign
      cases hsign
  · intro hname
    -- the name was written somewhere, and is trimmed to itself
    obtain ⟨part, hpart, hpadded⟩ := h.included name hname
    obtain ⟨hvalid, hsign⟩ := hI name hname
    exact ⟨⟨hvalid.ne_nil, part, hpart, (padded_iff hvalid.trim_eq).1 hpadded⟩,
      excludedName?_eq_none_iff.2 hsign⟩

/-- The names behind the minus signs are the names to exclude. -/
theorem mem_excludedNames_iff (h : ItemsOf I X parts)
    (hI : ∀ name ∈ I, IsName name ∧ name.head? ≠ some '-') (hX : ∀ name ∈ X, IsName name) :
    (∃ item ∈ items (Text.join "," parts), excludedName? item = some name) ↔ name ∈ X := by
  have hcomma := h.comma_notMem (fun name hname => (hI name hname).1) hX
  constructor
  · rintro ⟨item, hitem, hexcluded⟩
    obtain ⟨hne, part, hpart, rfl⟩ := (mem_items_join hcomma).1 hitem
    rcases h.part part hpart with hblank | ⟨other, hother, hpadded⟩ | ⟨other, hother, hexcludes⟩
    · -- a blank item was dropped
      exact absurd (Text.trim_eq_nil_iff.2 hblank) hne
    · -- a name to include does not start with a minus sign
      rw [(padded_iff (hI other hother).1.trim_eq).1 hpadded,
        excludedName?_eq_none_iff.2 (hI other hother).2] at hexcluded
      cases hexcluded
    · rw [hexcludes.excludedName?_trim (hX other hother), Option.some.injEq] at hexcluded
      rwa [← hexcluded]
  · intro hname
    obtain ⟨part, hpart, hexcludes⟩ := h.excluded name hname
    have hread := hexcludes.excludedName?_trim (hX name hname)
    refine ⟨part.trim, (mem_items_join hcomma).2 ⟨?_, part, hpart, rfl⟩, hread⟩
    -- the item is not dropped, since a name is read from it
    intro hnil
    rw [hnil] at hread
    cases hread

end ItemsOf

/-! ## The query -/

/-- Whether a feature is included depends on the names as sets only. -/
private theorem includes_iff {query : FeatureQuery} {feature : Text} :
    query.includes feature = true ↔
      feature ∉ query.excluded.toFinset ∧
        ∀ names ∈ query.included.map List.toFinset, feature ∈ names := by
  obtain ⟨included, excluded⟩ := query
  cases included <;> simp [includes]

/-- The names that are read as excluded, as a set. -/
private theorem toFinset_excluded_parse (h : ∀ name,
    (∃ item ∈ items t, excludedName? item = some name) ↔ name ∈ X) :
    (parse t).excluded.toFinset = X := by
  ext name
  rw [← h name, List.mem_toFinset, parse, List.mem_eraseDups, List.mem_filterMap]

/-- The names that are read as included, as a set; there is no such set without names. -/
private theorem map_toFinset_included_parse (h : ∀ name,
    (name ∈ items t ∧ excludedName? name = none) ↔ name ∈ I) :
    (parse t).included.map List.toFinset = if I = ∅ then none else some I := by
  have hmem : ∀ name, name ∈ (items t).filter (fun item => (excludedName? item).isNone) ↔
      name ∈ I := by
    intro name
    rw [List.mem_filter, Option.isNone_iff_eq_none, h name]
  rw [parse]
  generalize (items t).filter (fun item => (excludedName? item).isNone) = named at hmem
  have hset : named.eraseDups.toFinset = I := by
    ext name
    rw [List.mem_toFinset, List.mem_eraseDups, hmem]
  -- without any name there is no restriction
  cases named with
  | nil =>
    have hempty : I = ∅ := hset.symm
    rw [if_pos hempty]
    rfl
  | cons first rest =>
    have hne : I ≠ ∅ := Finset.ne_empty_of_mem ((hmem first).1 List.mem_cons_self)
    rw [if_neg hne, ← hset]
    rfl

/-- Reading a query gives the sets of features that it was written for: those to include, unless
    there are none, so that all are included, and those to exclude. So a feature is included if it
    is not excluded, and is named for inclusion if any feature is. -/
theorem query_reads_back {I X : Finset Text} {parts : List Text}
    (hI : ∀ name ∈ I, IsName name ∧ name.head? ≠ some '-') (hX : ∀ name ∈ X, IsName name)
    (h : ItemsOf I X parts) :
    (parse (Text.join "," parts)).included.map List.toFinset = (if I = ∅ then none else some I) ∧
      (parse (Text.join "," parts)).excluded.toFinset = X ∧
      ∀ feature, (parse (Text.join "," parts)).includes feature = true ↔
        feature ∉ X ∧ (I = ∅ ∨ feature ∈ I) := by
  have hincluded := map_toFinset_included_parse fun _ => h.mem_named_iff hI hX
  have hexcluded := toFinset_excluded_parse fun _ => h.mem_excludedNames_iff hI hX
  refine ⟨hincluded, hexcluded, fun feature => ?_⟩
  rw [includes_iff, hincluded, hexcluded]
  by_cases hempty : I = ∅ <;> simp [hempty]

/-- Two features to include. -/
def mixedIncluded : List Text := ["color", "b-c"]

/-- Two features to exclude, one of them with a minus sign in its name, and one that is also to be
    included. -/
def mixedExcluded : List Text := ["-x", "color"]

/-- The items of a query for these features, with a blank item, blanks other than the space and a
    name that comes twice. -/
def mixedItems : List Text :=
  ["\u3000color ", " ", "- -x\t", "b-c", "-color", "color"]

/-- These are items of a query for the two sets of features. -/
private theorem items_mixedItems :
    ItemsOf mixedIncluded.toFinset mixedExcluded.toFinset mixedItems := by
  have hcolor : Padded "color" "\u3000color " := (padded_iff (by decide)).2 (by decide)
  have hplain : Padded "b-c" "b-c" := (padded_iff (by decide)).2 (by decide)
  have hagain : Padded "color" "color" := (padded_iff (by decide)).2 (by decide)
  have hsign : Excludes "-x" "- -x\t" :=
    ⟨" ", Text.trim_eq_nil_iff.1 (by decide), (padded_iff (by decide)).2 (by decide)⟩
  have hboth : Excludes "color" "-color" :=
    ⟨[], by simp, (padded_iff (by decide)).2 (by decide)⟩
  refine ⟨?_, ?_, ?_⟩
  · simp only [mixedItems, List.forall_mem_cons, List.mem_toFinset]
    exact ⟨.inr (.inl ⟨_, by decide, hcolor⟩), .inl (Text.trim_eq_nil_iff.1 (by decide)),
      .inr (.inr ⟨_, by decide, hsign⟩), .inr (.inl ⟨_, by decide, hplain⟩),
      .inr (.inr ⟨_, by decide, hboth⟩), .inr (.inl ⟨_, by decide, hagain⟩), by simp⟩
  · simp only [mixedIncluded, List.forall_mem_cons, List.mem_toFinset]
    exact ⟨⟨_, by decide, hcolor⟩, ⟨_, by decide, hplain⟩, by simp⟩
  · simp only [mixedExcluded, List.forall_mem_cons, List.mem_toFinset]
    exact ⟨⟨_, by decide, hsign⟩, ⟨_, by decide, hboth⟩, by simp⟩

/-- The feature on both sides is excluded. -/
theorem query_reads_back_of_mixed_items :
    (∀ name ∈ mixedIncluded.toFinset, IsName name ∧ name.head? ≠ some '-') ∧
      (∀ name ∈ mixedExcluded.toFinset, IsName name) ∧
      ItemsOf mixedIncluded.toFinset mixedExcluded.toFinset mixedItems ∧
      (parse (Text.join "," mixedItems)).excluded.toFinset = mixedExcluded.toFinset ∧
      (parse (Text.join "," mixedItems)).includes "b-c" = true ∧
      ¬(parse (Text.join "," mixedItems)).includes "color" = true := by
  have hI : ∀ name ∈ mixedIncluded.toFinset, IsName name ∧ name.head? ≠ some '-' := by
    simp only [mixedIncluded, List.forall_mem_cons, List.mem_toFinset]
    exact ⟨⟨⟨by decide, by decide, by decide⟩, by decide⟩,
      ⟨⟨by decide, by decide, by decide⟩, by decide⟩, by simp⟩
  have hX : ∀ name ∈ mixedExcluded.toFinset, IsName name := by
    simp only [mixedExcluded, List.forall_mem_cons, List.mem_toFinset]
    exact ⟨⟨by decide, by decide, by decide⟩, ⟨by decide, by decide, by decide⟩, by simp⟩
  obtain ⟨-, hexcluded, hincludes⟩ := query_reads_back hI hX items_mixedItems
  refine ⟨hI, hX, items_mixedItems, hexcluded, ?_, ?_⟩
  · rw [hincludes]
    decide
  · rw [hincludes]
    decide

end CssTheming.FeatureQuery
