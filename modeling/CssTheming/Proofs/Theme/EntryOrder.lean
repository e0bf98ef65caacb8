import CssTheming.Proofs.Theme.Segments
import Mathlib

/-!
# The order of replacements

At each place of a value the longest name that stands alone there is replaced. Which one that is
depends on the names that there are, and not on their order: two names of one length cannot stand at
the same place unless they are equal. So replacing names depends on nothing but what every name
stands for.

## Key results

- `IsLongest.of_mem_iff`, `Segmented.of_mem_iff`: how a value is read depends on which names there
  are
- `replaceAll_eq_of_get?_eq`: replacing names depends on what the names stand for
- `replacement_of_permuted_entries`: the order of names that are set once does not matter
-/

namespace CssTheming.Replacement

variable {names names' : List Text} {before : Option Char} {name t : Text}

/-- Which name is the longest at a place depends on which names there are. -/
theorem IsLongest.of_mem_iff (hmem : ∀ name, name ∈ names ↔ name ∈ names')
    (h : IsLongest names before t name) : IsLongest names' before t name where
  mem := (hmem name).1 h.mem
  before := h.before
  stands := h.stands
  longest := fun other hother => h.longest other ((hmem other).2 hother)

/-- How a value is read depends on which names there are. -/
theorem Segmented.of_mem_iff {segs : List Segment} (hmem : ∀ name, name ∈ names ↔ name ∈ names')
    (h : Segmented names before t segs) : Segmented names' before t segs := by
  -- where no name stands alone, none of the same names does
  have hnone {before : Option Char} {t : Text} (hno : ∀ name, ¬IsLongest names before t name)
      (name : Text) : ¬IsLongest names' before t name :=
    fun hlongest => hno name (hlongest.of_mem_iff fun other => (hmem other).symm)
  -- the segments stay; only what is said about the names is carried over
  induction h with
  | stop hno => exact .stop (hnone hno)
  | stopEmpty hlongest => exact .stopEmpty (hlongest.of_mem_iff hmem)
  | keep hno _ ih => exact .keep (hnone hno) ih
  | keepEmpty hlongest _ ih => exact .keepEmpty (hlongest.of_mem_iff hmem) ih
  | found hname hlongest _ ih => exact .found hname (hlongest.of_mem_iff hmem) ih

/-- Replacements that give every name the same text are replaced in the same way. -/
theorem replaceAll_eq_of_get?_eq {replacements replacements' : Entries Text}
    (h : ∀ name, replacements.get? name = replacements'.get? name) (value : Text) :
    replaceAll replacements value = replaceAll replacements' value := by
  -- the value is read in the same way with both, and the same is written for each name in it
  obtain ⟨segs, hsegs⟩ := exists_segmented replacements.keys none value
  have hsegs' : Segmented replacements'.keys none value segs :=
    hsegs.of_mem_iff fun name => Entries.mem_keys_iff_of_get?_eq (h name)
  rw [hsegs.replaceAll_eq, hsegs'.replaceAll_eq]
  simp only [h]

/-- The order of the replacements does not matter, if no name is set twice: whatever the names are,
    also names of one length, names that other names start with and the empty name, the value comes
    out the same. -/
theorem replacement_of_permuted_entries {replacements replacements' : Entries Text}
    (hperm : replacements.Perm replacements') (hnames : replacements.keys.Nodup) (value : Text) :
    replaceAll replacements value = replaceAll replacements' value :=
  replaceAll_eq_of_get?_eq (Entries.get?_eq_of_perm hperm hnames) value

/-- Names of one length, names that other names start with, a name that stands behind another one,
    and the empty name. -/
def tangledNames : Entries Text :=
  [("a", "1"), ("b", "2"), ("", "|"), ("*", "3"), ("a*", "4"), ("a*b", "5")]

/-- Where the longest name is extended, a shorter one is found, and the empty name stands right
    behind a name, also if all names come in the reverse order. -/
theorem replacement_of_permuted_entries_of_tangled_names :
    tangledNames.Perm tangledNames.reverse ∧ tangledNames.keys.Nodup ∧
      replaceAll tangledNames "a*b a*bc * *" = ("5 1*bc 3| 3|" : Text) ∧
      replaceAll tangledNames.reverse "a*b a*bc * *" = ("5 1*bc 3| 3|" : Text) := by
  have hperm : tangledNames.Perm tangledNames.reverse := (List.reverse_perm _).symm
  have hnames : tangledNames.keys.Nodup := by decide +kernel
  have hvalue : replaceAll tangledNames "a*b a*bc * *" = ("5 1*bc 3| 3|" : Text) := by cbv
  refine ⟨hperm, hnames, hvalue, ?_⟩
  rw [← replacement_of_permuted_entries hperm hnames, hvalue]

end CssTheming.Replacement
