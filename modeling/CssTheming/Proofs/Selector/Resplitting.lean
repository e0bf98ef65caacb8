import CssTheming.Proofs.Selector.References
import CssTheming.Proofs.Selector.Splitting

/-!
# Selector lists that are split, written and split again

The selectors of a text are trimmed without regard to escapes. A blank behind a backslash is cut
off, and the backslash is left alone at the end of the selector. When the selectors are written
again, with commas between them, it takes the next comma with it. This is the only way in which
selectors are not read back: every other one but the last leaves nothing open, and behind the last
one there is no comma.

## Main definitions

- `SelectorList.mergeOpen`: a list in which the selectors are joined that are not told apart once
  they are written

## Key results

- `Selector.avoids_trim`, `Selector.run_trim`: the scan of a part that was trimmed
- `SelectorList.split_join_split`: the selectors that are read back
- `written_list_reads_back_iff`: when they are the ones that were written
-/

namespace CssTheming

/-- A blank is no quotation mark. -/
private theorem isMark_eq_false_of_isBlank {c : Char} (h : Text.isBlank c = true) :
    Lexical.isMark c = false := by
  have htop := Selector.topLevel_of_isBlank h
  simp only [Scan.topLevel, Lexical.reads, Bool.and_eq_true, Bool.not_eq_true'] at htop
  exact htop.1.1.1.2

namespace Lexical

variable {l : Lexical} {c : Char} {t : Text}

/-- If the state is inside of a string, a quotation mark has opened it. -/
def Marked : Lexical → Prop
  | quoted mark | quotedEscaped mark => isMark mark = true
  | code | escaped => True

/-- A string is opened by a quotation mark, and remembers it. -/
private theorem Marked.step (h : l.Marked) (c : Char) : (l.step c).Marked := by
  cases l with
  | code =>
    simp only [Lexical.step]
    split
    · next hc => exact hc
    · split <;> trivial
  | escaped => trivial
  | quoted mark =>
    simp only [Lexical.step]
    split
    · exact h
    · split
      · trivial
      · exact h
  | quotedEscaped mark => exact h

/-- If a text leaves a string open, a quotation mark has opened it. -/
private theorem Marked.run (h : l.Marked) (t : Text) : (l.run t).Marked := by
  induction t generalizing l with
  | nil => exact h
  | cons c t ih => exact ih (h.step c)

/-- A blank does not close a string. -/
private theorem eq_code_or_escaped_of_step (h : l.Marked) (hc : Text.isBlank c = true)
    (hstep : l.step c = code ∨ l.step c = escaped) : l = code ∨ l = escaped := by
  cases l with
  | code => exact .inl rfl
  | escaped => exact .inr rfl
  | quoted mark =>
    -- a string is left only by its own mark, and a blank is none
    have hslash : c ≠ '\\' := by
      rintro rfl
      cases hc
    have hmark : c ≠ mark := by
      rintro rfl
      cases (isMark_eq_false_of_isBlank hc).symm.trans h
    simp [step, hslash, hmark] at hstep
  | quotedEscaped mark => simp [step] at hstep

/-- In front of blanks that end in plain code, the state was plain code, or a backslash took the
    first of them with it. -/
private theorem eq_code_or_escaped_of_run (h : l.Marked) (ht : ∀ c ∈ t, Text.isBlank c = true)
    (hrun : l.run t = code) : l = code ∨ l = escaped := by
  induction t generalizing l with
  | nil => exact .inl hrun
  | cons c t ih =>
    obtain ⟨hc, ht⟩ := List.forall_mem_cons.1 ht
    exact eq_code_or_escaped_of_step h hc (ih (h.step c) ht hrun)

end Lexical

namespace Scan

variable {s : Scan} {c : Char} {t : Text}

/-- The scan behind a backslash outside of all groups. -/
def escape : Scan where
  lexical := .escaped
  expected := []

/-- No group waits for a blank. -/
private theorem expected_step_of_isBlank (hs : s.Proper) (hc : Text.isBlank c = true) :
    (s.step c).expected = s.expected := by
  have htop := Selector.topLevel_of_isBlank hc
  simp only [topLevel, Bool.and_eq_true, Option.isNone_iff_eq_none] at htop
  have hhead : s.expected.head? ≠ some c := by
    intro hhead
    have hcloser := hs c (List.mem_of_mem_head? hhead)
    rw [isCloser, Bool.or_eq_true, beq_iff_eq, beq_iff_eq] at hcloser
    rcases hcloser with rfl | rfl <;> cases hc
  simp [step, stepExpected, htop.2, hhead]

/-- Blanks leave all groups as they are. -/
private theorem expected_run_of_isBlank (hs : s.Proper) (ht : ∀ c ∈ t, Text.isBlank c = true) :
    (s.run t).expected = s.expected := by
  induction t generalizing s with
  | nil => rfl
  | cons c t ih =>
    obtain ⟨hc, ht⟩ := List.forall_mem_cons.1 ht
    rw [run_cons, ih (hs.step c) ht, expected_step_of_isBlank hs hc]

end Scan

namespace Selector

open Scan

variable {s t : Text}

/-- A text ends in plain code if a scan of it does. -/
private theorem endsInCode_iff : EndsInCode t ↔ (Scan.start.run t).lexical = .code := by
  rw [lexical_run]
  rfl

/-! ## Trimmed parts -/

/-- Trimming brings nothing to the top level. -/
theorem avoids_trim {p : Char → Bool} (h : Scan.start.avoids p t = true) :
    Scan.start.avoids p t.trim = true := by
  obtain ⟨front, back, hfront, -, ht⟩ := Text.exists_eq_append_trim t
  rw [congrArg (Scan.start.avoids p) ht, avoids, every_append, every_append, run_of_isBlank hfront,
    Bool.and_eq_true, Bool.and_eq_true] at h
  exact h.1.2

/-- A text that leaves nothing open ends in an unpaired backslash at most, once it is trimmed. -/
theorem run_trim (h : Scan.start.run t = Scan.start) :
    Scan.start.run t.trim = Scan.start ∨ Scan.start.run t.trim = escape := by
  obtain ⟨front, back, hfront, hback, ht⟩ := Text.exists_eq_append_trim t
  rw [congrArg Scan.start.run ht, run_append, run_append, run_of_isBlank hfront] at h
  have hproper : (Scan.start.run t.trim).Proper := proper_start.run t.trim
  have hmarked : (Scan.start.run t.trim).lexical.Marked := by
    rw [lexical_run]
    exact (show Lexical.code.Marked from trivial).run t.trim
  -- only what is known about the scan in front of the blanks matters
  generalize Scan.start.run t.trim = s at *
  -- the blanks at the end change nothing, but for the one that a backslash takes with it
  have hexpected : s.expected = [] := by
    rw [← expected_run_of_isBlank hproper hback, h]
    rfl
  have hlexical : s.lexical = .code ∨ s.lexical = .escaped := by
    refine Lexical.eq_code_or_escaped_of_run hmarked hback ?_
    rw [← lexical_run, h]
    rfl
  obtain ⟨l, expected⟩ := s
  obtain rfl : expected = [] := hexpected
  rcases hlexical with rfl | rfl
  · exact .inl rfl
  · exact .inr rfl

/-- The comma behind an unpaired backslash is not a top-level character, and the text behind it is
    read from the start. -/
private theorem run_append_of_escape (hs : Scan.start.run s = escape) (t : Text) :
    Scan.start.run (s ++ ", " ++ t) = Scan.start.run t := by
  rw [run_append, run_append, hs]
  rfl

/-- Nothing at the top level is added by a text that ends in an unpaired backslash, nor by the comma
    behind it. -/
private theorem avoids_append_of_escape (hs : Scan.start.run s = escape)
    (havoids : Scan.start.avoids (· == ',') s = true) (t : Text) :
    Scan.start.avoids (· == ',') (s ++ ", " ++ t) = Scan.start.avoids (· == ',') t := by
  rw [avoids] at havoids
  rw [avoids, every_append, every_append, run_append, havoids, hs]
  rfl

end Selector

namespace SelectorList

open Scan Selector

/-! ## The selectors of a text -/

/-- No selector of a text has a top-level comma. -/
private theorem avoids_of_mem_split {s t : Text} (h : s ∈ split t) :
    Scan.start.avoids (· == ',') s = true := by
  rw [split, trimAll, List.mem_filter, List.mem_map] at h
  obtain ⟨⟨part, hpart, rfl⟩, -⟩ := h
  exact avoids_trim (avoids_of_mem_splitOn hpart)

/-- A selector that is not the last one comes from a part that is not the last one. -/
private theorem exists_of_mem_dropLast_trimAll {s : Text} {parts : List Text}
    (h : s ∈ (trimAll parts).dropLast) : ∃ part ∈ parts.dropLast, s = part.trim := by
  rcases List.eq_nil_or_concat' parts with rfl | ⟨front, last, rfl⟩
  · cases h
  · rw [List.dropLast_concat]
    have hmem : s ∈ trimAll front := by
      rw [trimAll_append] at h
      -- the last part gives the last selector, or none if it is blank
      by_cases hlast : last.trim = []
      · have hnil : trimAll [last] = [] := by simp [trimAll, hlast]
        rw [hnil, List.append_nil] at h
        exact List.dropLast_subset _ h
      · have hsingle : trimAll [last] = [last.trim] := by simp [trimAll, hlast]
        rwa [hsingle, List.dropLast_concat] at h
    rw [trimAll, List.mem_filter, List.mem_map] at hmem
    obtain ⟨⟨part, hpart, rfl⟩, -⟩ := hmem
    exact ⟨part, hpart, rfl⟩

/-- A selector that is not the last one leaves nothing open, or ends in an unpaired backslash. -/
private theorem run_of_mem_dropLast_split {s t : Text} (h : s ∈ (split t).dropLast) :
    Scan.start.run s = Scan.start ∨ Scan.start.run s = escape := by
  obtain ⟨part, hpart, rfl⟩ := exists_of_mem_dropLast_trimAll h
  exact run_trim (run_of_mem_dropLast_splitOn hpart)

/-! ## Joining what is not told apart -/

/-- The list with each selector but the last that does not end in plain code joined with the next
    one. -/
def mergeOpen : List Text → List Text
  | [] => []
  | [s] => [s]
  | s :: t :: rest =>
    if EndsInCode s then s :: mergeOpen (t :: rest)
    else (mergeOpen (t :: rest)).modifyHead (s ++ ", " ++ ·)

private theorem mergeOpen_ne_nil (s : Text) (rest : List Text) : mergeOpen (s :: rest) ≠ [] := by
  induction rest generalizing s with
  | nil => simp [mergeOpen]
  | cons t rest ih =>
    rw [mergeOpen]
    split
    · simp
    · simpa using ih t

/-- Joining selectors leaves a first one. -/
private theorem exists_mergeOpen_eq_cons (s : Text) (rest : List Text) :
    ∃ first others, mergeOpen (s :: rest) = first :: others :=
  List.exists_cons_of_ne_nil (mergeOpen_ne_nil s rest)

/-- Joined selectors are written like the selectors that they are made of. -/
private theorem join_mergeOpen (selectors : List Text) :
    Text.join ", " (mergeOpen selectors) = Text.join ", " selectors := by
  induction selectors using mergeOpen.induct with
  | case1 => rfl
  | case2 s => rfl
  | case3 s t rest hs ih =>
    rw [mergeOpen, if_pos hs, Text.join_cons_of_ne_nil (mergeOpen_ne_nil t rest), ih,
      Text.join_cons_of_ne_nil (List.cons_ne_nil t rest)]
  | case4 s t rest hs ih =>
    -- the separator is written by joining instead of between the selectors
    obtain ⟨first, others, hmerge⟩ := exists_mergeOpen_eq_cons t rest
    rw [mergeOpen, if_neg hs, Text.join_cons_of_ne_nil (List.cons_ne_nil t rest), ← ih, hmerge,
      List.modifyHead_cons]
    by_cases hothers : others = []
    · subst hothers
      rw [Text.join_singleton, Text.join_singleton]
    · rw [Text.join_cons_of_ne_nil hothers, Text.join_cons_of_ne_nil hothers]
      simp

/-- Selectors as they come out of splitting: they are trimmed and have no top-level commas, and each
    but the last one leaves nothing open, or ends in an unpaired backslash. -/
structure Separated (selectors : List Text) : Prop where
  member : ∀ s ∈ selectors, Trimmed s ∧ Scan.start.avoids (· == ',') s = true
  run : ∀ s ∈ selectors.dropLast, Scan.start.run s = Scan.start ∨ Scan.start.run s = escape

/-- The selectors of a text are of this kind. -/
theorem separated_split (t : Text) : Separated (split t) where
  member _ hs := ⟨trimmed_of_mem_trimAll hs, avoids_of_mem_split hs⟩
  run _ := run_of_mem_dropLast_split

private theorem Separated.tail {s t : Text} {rest : List Text} (h : Separated (s :: t :: rest)) :
    Separated (t :: rest) where
  member u hu := h.member u (List.mem_cons_of_mem s hu)
  run u hu := h.run u (List.mem_cons_of_mem s hu)

/-- The first of several selectors leaves nothing open if it ends in plain code, and otherwise it
    ends in an unpaired backslash. -/
private theorem Separated.run_head {s t : Text} {rest : List Text}
    (h : Separated (s :: t :: rest)) :
    Scan.start.run s = if EndsInCode s then Scan.start else escape := by
  rcases h.run s List.mem_cons_self with hrun | hrun
  · rw [if_pos (endsInCode_iff.2 (by rw [hrun]; rfl)), hrun]
  · have hs : ¬EndsInCode s := by
      rw [endsInCode_iff, hrun]
      exact Lexical.noConfusion
    rw [if_neg hs, hrun]

/-- Joined selectors are trimmed and have no top-level commas, either. -/
private theorem Separated.member_mergeOpen {selectors : List Text} (h : Separated selectors) :
    ∀ s ∈ mergeOpen selectors, Trimmed s ∧ Scan.start.avoids (· == ',') s = true := by
  induction selectors using mergeOpen.induct with
  | case1 => exact h.member
  | case2 s => exact h.member
  | case3 s t rest hs ih =>
    rw [mergeOpen, if_pos hs]
    exact List.forall_mem_cons.2 ⟨h.member s List.mem_cons_self, ih h.tail⟩
  | case4 s t rest hs ih =>
    obtain ⟨first, others, hmerge⟩ := exists_mergeOpen_eq_cons t rest
    have hrun := h.run_head
    rw [if_neg hs] at hrun
    rw [mergeOpen, if_neg hs, hmerge, List.modifyHead_cons]
    obtain ⟨⟨hfirst, havoids⟩, hothers⟩ := List.forall_mem_cons.1 (hmerge ▸ ih h.tail)
    obtain ⟨hs, hs'⟩ := h.member s List.mem_cons_self
    refine List.forall_mem_cons.2 ⟨⟨⟨?_, by simp [hs.2]⟩, ?_⟩, hothers⟩
    · exact Text.trim_append_eq_self hs.1 hfirst.1 hs.2 hfirst.2 ", "
    · -- the comma that joins the two is escaped, so it is not at the top level
      rw [avoids_append_of_escape hrun hs', havoids]

/-- What is joined leaves open what its last part does. -/
private theorem Separated.run_mergeOpen {selectors : List Text} (h : Separated selectors) :
    ∀ s ∈ (mergeOpen selectors).dropLast, Scan.start.run s = Scan.start := by
  induction selectors using mergeOpen.induct with
  | case1 => simp [mergeOpen]
  | case2 s => simp [mergeOpen]
  | case3 s t rest hs ih =>
    have hrun := h.run_head
    rw [if_pos hs] at hrun
    rw [mergeOpen, if_pos hs, List.dropLast_cons_of_ne_nil (mergeOpen_ne_nil t rest)]
    exact List.forall_mem_cons.2 ⟨hrun, ih h.tail⟩
  | case4 s t rest hs ih =>
    have ih := ih h.tail
    obtain ⟨first, others, hmerge⟩ := exists_mergeOpen_eq_cons t rest
    have hrun := h.run_head
    rw [if_neg hs] at hrun
    rw [hmerge] at ih
    rw [mergeOpen, if_neg hs, hmerge, List.modifyHead_cons]
    by_cases hne : others = []
    · subst hne
      simp
    · rw [List.dropLast_cons_of_ne_nil hne] at ih ⊢
      obtain ⟨hfirst, hothers⟩ := List.forall_mem_cons.1 ih
      refine List.forall_mem_cons.2 ⟨?_, hothers⟩
      -- the next selector is read from the start behind the escaped comma
      rw [run_append_of_escape hrun, hfirst]

/-- Written with commas between them, the selectors of a text are read back, each that ends in an
    unpaired backslash as one with the next. -/
theorem split_join_split (t : Text) :
    split (Text.join ", " (split t)) = mergeOpen (split t) := by
  have h := separated_split t
  -- written, the joined selectors are the same text, and they are told apart
  rw [← join_mergeOpen, split_join_of_dropLast h.member_mergeOpen h.run_mergeOpen]

private theorem length_mergeOpen_le (selectors : List Text) :
    (mergeOpen selectors).length ≤ selectors.length := by
  induction selectors using mergeOpen.induct with
  | case1 => simp [mergeOpen]
  | case2 s => simp [mergeOpen]
  | case3 s t rest hs ih =>
    rw [mergeOpen, if_pos hs, List.length_cons, List.length_cons]
    omega
  | case4 s t rest hs ih =>
    rw [mergeOpen, if_neg hs, List.length_modifyHead, List.length_cons]
    omega

/-- Nothing is joined exactly if all selectors but the last end in plain code. -/
theorem mergeOpen_eq_self_iff {selectors : List Text} :
    mergeOpen selectors = selectors ↔ ∀ s ∈ selectors.dropLast, EndsInCode s := by
  induction selectors using mergeOpen.induct with
  | case1 => simp [mergeOpen]
  | case2 s => simp [mergeOpen]
  | case3 s t rest hs ih =>
    rw [mergeOpen, if_pos hs, List.cons.injEq, ih,
      List.dropLast_cons_of_ne_nil (List.cons_ne_nil t rest), List.forall_mem_cons]
    simp [hs]
  | case4 s t rest hs ih =>
    rw [mergeOpen, if_neg hs]
    refine iff_of_false (fun heq => ?_) fun h => hs (h s List.mem_cons_self)
    -- with two selectors joined, the list is shorter
    have hlength := congrArg List.length heq
    have hle := length_mergeOpen_le (t :: rest)
    rw [List.length_modifyHead, List.length_cons] at hlength
    omega

end SelectorList

open Selector SelectorList in
/-- The selectors of a text are read back from the list in which they are written, except that a
    selector that ends in an unpaired backslash is read as one with the next. So they are the same
    exactly if all of them but the last end in plain code. -/
theorem written_list_reads_back_iff (t : Text) :
    split (Text.join ", " (split t)) = mergeOpen (split t) ∧
      (split (Text.join ", " (split t)) = split t ↔
        ∀ s ∈ (split t).dropLast, EndsInCode s) := by
  rw [split_join_split]
  exact ⟨rfl, mergeOpen_eq_self_iff⟩

open SelectorList in
/-- The blank that the backslash escapes is trimmed away, and then the comma is escaped. -/
theorem written_list_of_escaped_blank :
    split "a\\ , b" = (["a\\", "b"] : List Text) ∧
      split (Text.join ", " (split "a\\ , b")) = (["a\\, b"] : List Text) ∧
      split (Text.join ", " (split "a\\ , b")) ≠ split "a\\ , b" := by
  decide +kernel

end CssTheming
