import CssTheming.Proofs.Selector.HostNormalForm
import CssTheming.Selector.Reference

/-!
# Single selectors

A single selector is clean and has no top-level commas. Nesting, with parent references at any
depth, and the correction of host selectors make single selectors from single selectors.

## Key results

- `Selector.run_substituteFrom`, `Selector.every_substituteFrom`: a scan does not notice clean text
  in the place of references
- `SelectorList.mem_nest`, `SelectorList.nest_eq_nil_iff`: which selectors come out of nesting
- `SelectorList.single_of_mem_nest`, `SelectorList.single_of_mem_hostAware`: they are single
-/

namespace CssTheming

namespace Selector

open Scan

variable {parent child s t : Text}

/-! ## Clean text in the place of references -/

/-- Clean text is read in the same way wherever it stands in plain code. -/
private theorem Clean.run_of_code (h : Clean t) {s : Scan} (hs : s.Proper)
    (hcode : s.lexical = .code) :
    s.run t = s := by
  have hwithin := run_within hs h.1
  rw [h.2] at hwithin
  obtain ⟨l, expected⟩ := s
  obtain rfl : l = .code := hcode
  exact hwithin

/-- The closing brackets of clean text match wherever it stands in plain code. -/
private theorem Clean.every_of_code (h : Clean t) {s : Scan} (hs : s.Proper)
    (hcode : s.lexical = .code) :
    s.every closesInnermost t = true := by
  have hwithin := every_closesInnermost_within hs h.1
  obtain ⟨l, expected⟩ := s
  obtain rfl : l = .code := hcode
  exact hwithin

/-- A parent reference is plain code that no group waits for. -/
private theorem step_ampersand {s : Scan} (hs : s.Proper) (hr : s.lexical.reads '&' = true) :
    s.step '&' = s := by
  obtain ⟨l, expected⟩ := s
  obtain rfl : l = .code := Lexical.eq_code_of_reads hr
  have hne : expected.head? ≠ some '&' := by
    intro h
    cases hs '&' (List.mem_of_mem_head? h)
  simp [step, Lexical.step_of_reads hr, stepExpected, closer?, hne]

/-- A scan stands at the same place behind clean text and behind the references it replaces. -/
theorem run_substituteFrom (hparent : Clean parent) {s : Scan} (hs : s.Proper) (t : Text) :
    s.run (substituteFrom parent s.lexical t) = s.run t := by
  induction t generalizing s with
  | nil => rfl
  | cons c t ih =>
    have ih := ih (hs.step c)
    rw [substituteFrom, run_append, run_cons]
    by_cases href : (s.lexical.reads c && c == '&') = true
    · rw [if_pos href]
      rw [Bool.and_eq_true, beq_iff_eq] at href
      obtain ⟨hr, rfl⟩ := href
      -- the parent stands in plain code here, where it leaves nothing open
      rw [hparent.run_of_code hs (Lexical.eq_code_of_reads hr)]
      -- the reference itself would not have moved the scan either
      rw [step_ampersand hs hr] at ih ⊢
      rw [Lexical.step_of_reads hr, ← Lexical.eq_code_of_reads hr]
      exact ih
    · rw [if_neg href]
      exact ih

/-- A condition that holds throughout a text, and throughout the parent in its references, holds
    throughout the text with the references replaced. -/
theorem every_substituteFrom {holds : Scan → Char → Bool} (hparent : Clean parent)
    (hevery : ∀ s : Scan, s.Proper → s.lexical = .code → s.every holds parent = true)
    {s : Scan} (hs : s.Proper) (ht : s.every holds t = true) :
    s.every holds (substituteFrom parent s.lexical t) = true := by
  induction t generalizing s with
  | nil => rfl
  | cons c t ih =>
    rw [every_cons, Bool.and_eq_true] at ht
    have ih := ih (hs.step c) ht.2
    rw [substituteFrom, every_append, Bool.and_eq_true]
    by_cases href : (s.lexical.reads c && c == '&') = true
    · rw [if_pos href]
      rw [Bool.and_eq_true, beq_iff_eq] at href
      obtain ⟨hr, rfl⟩ := href
      have hcode := Lexical.eq_code_of_reads hr
      -- the condition holds throughout the parent, and behind it the scan stands where it would
      -- have
      refine ⟨hevery s hs hcode, ?_⟩
      rw [hparent.run_of_code hs hcode, Lexical.step_of_reads hr, ← hcode]
      rwa [step_ampersand hs hr] at ih
    · rw [if_neg href]
      exact ⟨by simpa using ht.1, ih⟩

/-! ## Single selectors -/

/-- A clean selector without top-level commas. -/
def Single (s : Text) : Prop :=
  Clean s ∧ Scan.start.avoids (· == ',') s = true

instance : DecidablePred Single := fun s =>
  inferInstanceAs (Decidable (Clean s ∧ Scan.start.avoids (· == ',') s = true))

/-- Nowhere in plain code does a single selector have a top-level comma. -/
theorem Single.avoids_of_code (h : Single t) {s : Scan} (hs : s.Proper)
    (hcode : s.lexical = .code) :
    s.avoids (· == ',') t = true := by
  obtain ⟨l, expected⟩ := s
  obtain rfl : l = .code := hcode
  -- inside of a group nothing is at the top level
  by_cases hne : expected = []
  · subst hne
    exact h.2
  · exact avoids_within hs hne h.1.1 _

theorem Single.append (hs : Single s) (ht : Single t) : Single (s ++ t) := by
  refine ⟨hs.1.append ht.1, ?_⟩
  have hsecond := ht.2
  rw [avoids] at hsecond ⊢
  rw [every_append, hs.1.2, hsecond, Bool.and_true]
  exact hs.2

/-- Single selectors may be put in the place of references in single selectors. -/
private theorem single_substitute (hparent : Single parent) (hchild : Single child) :
    Single (substitute parent child) := by
  refine ⟨⟨?_, ?_⟩, ?_⟩
  · exact every_substituteFrom hparent.1 (fun s => hparent.1.every_of_code) proper_start hchild.1.1
  · exact (run_substituteFrom hparent.1 proper_start child).trans hchild.1.2
  · exact every_substituteFrom hparent.1 (fun s => hparent.avoids_of_code) proper_start hchild.2

/-- Nesting single selectors gives a single selector. -/
theorem single_nest (hparent : Single parent) (hchild : Single child) :
    Single (nest parent child) := by
  rw [nest]
  split
  · exact single_substitute hparent hchild
  · -- without a reference the child goes behind the parent and a blank
    have hblank : Single " " := by decide
    exact (hparent.append hblank).append hchild

/-- Correcting a single selector gives a single selector. -/
theorem single_fixHost (h : Single s) (hs : Trimmed s) : Single (fixHost s) := by
  refine ⟨(clean_fixHost h.1 hs).1, ?_⟩
  cases hneeds : needsHostFix s with
  | false =>
    rw [fixHost_of_needsHostFix_eq_false hneeds, hs.1]
    exact h.2
  | true =>
    obtain ⟨host, hparse, hneeds⟩ := needsHostFix_iff.1 hneeds
    have hparts := HostSelector.cleanParts_of_parse? h.1 hs.1 hparse
    obtain ⟨front, hfront, hclean⟩ := HostSelector.exists_clean_front h.1 hs.1 hparse
    -- outside of the argument there is only what was there before
    have hrest : Scan.start.avoids (· == ',') host.rest = true := by
      have havoids := h.2
      rw [hfront, avoids, every_append, hclean.2, Bool.and_eq_true] at havoids
      exact havoids.2
    have hkeyword : Single HostSelector.keyword := by decide
    have hgroup : Single ('(' :: (host.argument.getD [] ++ host.trailing) ++ [')']) :=
      ⟨hparts.clean_argument_append.group, hparts.clean_argument_append.avoids_group _⟩
    have hfixed := hkeyword.append (hgroup.append ⟨hparts.rest, hrest⟩)
    rw [fixHost_of_needsFix hparse hneeds, HostSelector.fixed_of_needsFix hneeds]
    simpa using hfixed.2

/-! ## Trimmed selectors -/

/-- A text does not become empty by replacing references with one that is not empty. -/
theorem substituteFrom_ne_nil (hparent : parent ≠ []) (l : Lexical) (ht : t ≠ []) :
    substituteFrom parent l t ≠ [] := by
  cases t with
  | nil => exact absurd rfl ht
  | cons c t =>
    rw [substituteFrom]
    split <;> simp [hparent]

/-- A text starts with no blank after its references are replaced, if it did not before. -/
theorem isBlank_head?_substituteFrom (hparent : Trimmed parent) (l : Lexical)
    (ht : ∀ c ∈ t.head?, Text.isBlank c = false) :
    ∀ c ∈ (substituteFrom parent l t).head?, Text.isBlank c = false := by
  cases t with
  | nil => simp [substituteFrom]
  | cons d t =>
    intro c hc
    rw [substituteFrom, List.head?_append] at hc
    split at hc
    · -- the text starts with a reference, so the parent comes first
      obtain ⟨e, he⟩ := Option.isSome_iff_exists.1 (List.isSome_head?.2 hparent.2)
      rw [he, Option.some_or] at hc
      exact (Text.trim_eq_self_iff.1 hparent.1).1 c (he.trans hc)
    · exact ht c hc

/-- A text ends with no blank after its references are replaced, if it did not before. -/
theorem isBlank_getLast?_substituteFrom (hparent : Trimmed parent) (l : Lexical)
    (ht : ∀ c ∈ t.getLast?, Text.isBlank c = false) :
    ∀ c ∈ (substituteFrom parent l t).getLast?, Text.isBlank c = false := by
  induction t generalizing l with
  | nil => simp [substituteFrom]
  | cons d t ih =>
    intro c hc
    rw [substituteFrom, List.getLast?_append] at hc
    by_cases hne : t = []
    · subst hne
      rw [substituteFrom, List.getLast?_nil, Option.none_or] at hc
      split at hc
      · exact (Text.trim_eq_self_iff.1 hparent.1).2 c hc
      · exact ht c hc
    · -- something is left behind the first character, so the last one is found there
      have hrest := substituteFrom_ne_nil hparent.2 (l.step d) hne
      obtain ⟨e, he⟩ := Option.isSome_iff_exists.1 (List.getLast?_isSome.2 hrest)
      rw [he, Option.some_or] at hc
      refine ih (l.step d) (fun c hc => ht c ?_) c (he.trans hc)
      rwa [List.getLast?_cons_of_ne_nil hne]

/-- Nesting trimmed selectors gives a trimmed selector. -/
private theorem trimmed_nest (hparent : Trimmed parent) (hchild : Trimmed child) :
    Trimmed (nest parent child) := by
  have hends := Text.trim_eq_self_iff.1 hchild.1
  rw [nest]
  split
  · exact ⟨Text.trim_eq_self_iff.2
        ⟨isBlank_head?_substituteFrom hparent .code hends.1,
          isBlank_getLast?_substituteFrom hparent .code hends.2⟩,
      substituteFrom_ne_nil hparent.2 .code hchild.2⟩
  · -- parent and child are not blank, so the blank between them is kept
    exact ⟨Text.trim_append_eq_self hparent.1 hchild.1 hparent.2 hchild.2 _, by simp⟩

end Selector

namespace SelectorList

open Selector

/-- With parents, each of them is nested with each child, and repetitions are removed. -/
theorem nest_eq_eraseDups {parents : SelectorList} (h : flatten [parents] ≠ [])
    (children : SelectorList) :
    nest parents children =
      ((flatten [parents]).flatMap fun parent =>
        (flatten [children]).map (Selector.nest parent)).eraseDups := by
  rw [nest]
  split
  · next hnil => exact absurd hnil h
  · refine flatten_items fun s hs => ?_
    obtain ⟨parent, hparent, hs⟩ := List.mem_flatMap.1 hs
    obtain ⟨child, hchild, rfl⟩ := List.mem_map.1 hs
    exact trimmed_nest (trimmed_of_mem_flatten hparent) (trimmed_of_mem_flatten hchild)

/-- Without parents the children stand alone. -/
theorem nest_of_flatten_eq_nil {parents : SelectorList} (h : flatten [parents] = [])
    (children : SelectorList) : nest parents children = flatten [children] := by
  rw [nest, h]

/-- A nested selector is a child that stands alone, or a parent nested with a child. -/
theorem mem_nest {parents children : SelectorList} {s : Text} (h : s ∈ nest parents children) :
    s ∈ flatten [children] ∨
      ∃ parent ∈ flatten [parents], ∃ child ∈ flatten [children],
        s = Selector.nest parent child := by
  by_cases hparents : flatten [parents] = []
  · rw [nest_of_flatten_eq_nil hparents] at h
    exact .inl h
  · rw [nest_eq_eraseDups hparents, List.mem_eraseDups, List.mem_flatMap] at h
    obtain ⟨parent, hparent, hs⟩ := h
    obtain ⟨child, hchild, rfl⟩ := List.mem_map.1 hs
    exact .inr ⟨parent, hparent, child, hchild, rfl⟩

/-- Nesting gives no selectors exactly if there are none to be nested, whatever the parents are. -/
theorem nest_eq_nil_iff {parents children : SelectorList} :
    nest parents children = [] ↔ children.selectors = [] := by
  rw [← flatten_singleton_eq_nil_iff]
  constructor
  · intro h
    refine List.eq_nil_iff_forall_not_mem.2 fun child hchild => ?_
    by_cases hparents : flatten [parents] = []
    · rw [← nest_of_flatten_eq_nil hparents, h] at hchild
      cases hchild
    · -- with a parent and a child, there is a nested selector
      obtain ⟨parent, hparent⟩ := List.exists_mem_of_ne_nil _ hparents
      have hmem : Selector.nest parent child ∈ nest parents children := by
        rw [nest_eq_eraseDups hparents, List.mem_eraseDups, List.mem_flatMap]
        exact ⟨parent, hparent, List.mem_map_of_mem hchild⟩
      rw [h] at hmem
      cases hmem
  · intro h
    refine List.eq_nil_iff_forall_not_mem.2 fun s hs => ?_
    rcases mem_nest hs with hs | ⟨parent, -, child, hchild, -⟩
    · rw [h] at hs
      cases hs
    · rw [h] at hchild
      cases hchild

/-- Nesting ends with flattening, with and without parents. -/
theorem exists_nest_eq_flatten (parents children : SelectorList) :
    ∃ lists, nest parents children = flatten lists := by
  rw [nest]
  split
  · exact ⟨_, rfl⟩
  · exact ⟨_, rfl⟩

theorem single_of_mem_flatten {lists : List SelectorList}
    (h : ∀ list ∈ lists, ∀ s ∈ list.selectors, Single s) {s : Text} (hs : s ∈ flatten lists) :
    Single s := by
  obtain ⟨list, hlist, hmem⟩ := mem_flatten.1 hs
  exact h list hlist s hmem

/-- The nested selectors of two lists of single selectors are single. -/
theorem single_of_mem_nest {parents children : SelectorList}
    (hparents : ∀ s ∈ parents.selectors, Single s) (hchildren : ∀ s ∈ children.selectors, Single s)
    {s : Text} (hs : s ∈ nest parents children) : Single s := by
  have hparents' : ∀ s ∈ flatten [parents], Single s := fun s =>
    single_of_mem_flatten (by simpa using hparents)
  have hchildren' : ∀ s ∈ flatten [children], Single s := fun s =>
    single_of_mem_flatten (by simpa using hchildren)
  rcases mem_nest hs with hs | ⟨parent, hparent, child, hchild, rfl⟩
  · exact hchildren' s hs
  · exact Selector.single_nest (hparents' parent hparent) (hchildren' child hchild)

/-- Correcting lists of single selectors leaves single selectors. -/
theorem single_of_mem_hostAware {lists : List SelectorList}
    (h : ∀ list ∈ lists, ∀ s ∈ list.selectors, Single s) {s : Text} (hs : s ∈ hostAware lists) :
    Single s := by
  obtain ⟨t, ht, rfl⟩ := mem_hostAware.1 hs
  exact single_fixHost (single_of_mem_flatten h ht) (trimmed_of_mem_flatten ht)

end SelectorList

end CssTheming
