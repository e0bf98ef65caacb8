import CssTheming.Proofs.Selector.Clean
import CssTheming.Selector.Group

/-!
# Closed groups

A scan keeps a stack of closing brackets, while `Group.cut` counts parentheses only. In text whose
closing brackets match, the count is the number of closing parentheses on the stack, and so both
find the same end of a group.

## Key results

- `exists_closing`: a group that is closed has its closing parenthesis behind matching text
- `cut_append_closer`: counting parentheses finds the end of a group with clean text inside
- `exists_group`: a clean text that starts with a parenthesis starts with a closed group
-/

namespace CssTheming.Group

open Scan

/-- The number of parentheses that the scan holds open behind a character. -/
theorem count_step (s : Scan) (c : Char) :
    (s.step c).expected.count ')' =
      if s.lexical.reads c = true then
        if c = '(' then s.expected.count ')' + 1
        else if c = ')' ∧ s.expected.head? = some ')' then s.expected.count ')' - 1
        else s.expected.count ')'
      else s.expected.count ')' := by
  obtain ⟨l, expected⟩ := s
  simp only [step]
  by_cases hr : l.reads c = true
  · rw [if_pos hr, if_pos hr]
    by_cases hopen : c = '('
    · subst hopen
      rw [if_pos rfl, show stepExpected expected '(' = ')' :: expected from rfl,
        List.count_cons_self]
    rw [if_neg hopen, stepExpected]
    cases hc : closer? c with
    | some d =>
      -- only a parenthesis asks for a parenthesis
      have hd : d ≠ ')' := by
        rintro rfl
        unfold closer? at hc
        split at hc <;> simp_all
      have hclose : c ≠ ')' := by
        rintro rfl
        cases hc
      simp [hd, hclose]
    | none =>
      -- the character closes the innermost group, or nothing is popped
      by_cases hhead : expected.head? = some c
      · obtain ⟨rest, rfl⟩ := List.head?_eq_some_iff.1 hhead
        by_cases hclose : c = ')' <;> simp [hclose]
      · have hstay : ¬(c = ')' ∧ expected.head? = some ')') := by
          rintro ⟨rfl, h⟩
          exact hhead h
        simp [hhead, hstay]
  · rw [if_neg hr, if_neg hr]

/-- The number of open parentheses as it follows from the expected closing brackets, if a closing
    parenthesis closes the innermost group. -/
theorem depthAfter_count {s : Scan} {c : Char}
    (h : s.lexical.reads c = true → c = ')' → s.expected.head? = some ')') :
    depthAfter s.lexical (s.expected.count ')') c = (s.step c).expected.count ')' := by
  rw [depthAfter, count_step]
  by_cases hr : s.lexical.reads c = true
  · rw [if_pos hr, if_pos hr]
    by_cases hclose : c = ')'
    · subst hclose
      simp [h hr rfl]
    · simp [hclose]
  · rw [if_neg hr, if_neg hr]

/-- Matching text that closes the group around it holds the closing parenthesis of the group, behind
    matching text after which no inner group is open. -/
theorem exists_closing {s : Scan} {t : Text}
    (h : (s.within [')']).every closesInnermost t = true)
    (hrun : ((s.within [')']).run t).expected = []) :
    ∃ inside behind, t = inside ++ ')' :: behind ∧ s.every closesInnermost inside = true ∧
      s.run inside = start := by
  induction t generalizing s with
  | nil => simp at hrun
  | cons c t ih =>
    by_cases hclose : s = start ∧ c = ')'
    · -- this is the parenthesis that closes the group around
      obtain ⟨rfl, rfl⟩ := hclose
      exact ⟨[], t, rfl, rfl, rfl⟩
    · simp only [every_cons, Bool.and_eq_true] at h
      -- a closing bracket that closes no inner group would close the group around
      have hc : s.closesInnermost c = true := by
        rw [closesInnermost_iff]
        intro hr hcloser
        have hhead := closesInnermost_iff.1 h.1 hr hcloser
        obtain ⟨l, expected⟩ := s
        cases expected with
        | nil =>
          obtain rfl : ')' = c := by simpa using hhead
          obtain rfl : l = .code := Lexical.eq_code_of_reads hr
          exact absurd ⟨rfl, rfl⟩ hclose
        | cons d expected => exact hhead
      have hstep : (s.within [')']).step c = (s.step c).within [')'] :=
        step_within Selector.isCloser_of_mem_inGroup hc
      rw [hstep] at h
      rw [run_cons, hstep] at hrun
      obtain ⟨inside, behind, rfl, hinside, hstart⟩ := ih h.2 hrun
      refine ⟨c :: inside, behind, rfl, ?_, hstart⟩
      rw [every_cons, hc, hinside, Bool.and_self]

/-- Counting parentheses from where a scan stands finds the closing parenthesis of the group behind
    matching text after which no inner group is open. -/
private theorem cutAt_append_closer {s : Scan} {inside : Text}
    (h : s.every closesInnermost inside = true) (hrun : s.run inside = start) (behind : Text) :
    cutAt s.lexical (s.expected.count ')') (inside ++ ')' :: behind) = some (inside, behind) := by
  induction inside generalizing s with
  | nil =>
    rw [run_nil] at hrun
    subst hrun
    rfl
  | cons c inside ih =>
    simp only [every_cons, Bool.and_eq_true] at h
    -- a parenthesis that is read here closes an inner group, so the count is not zero
    have hopen : (s.lexical.reads c && c == ')' && s.expected.count ')' == 0) = false := by
      rw [← Bool.not_eq_true]
      simp only [Bool.and_eq_true, beq_iff_eq]
      rintro ⟨⟨hr, rfl⟩, hcount⟩
      have hhead := closesInnermost_iff.1 h.1 hr rfl
      exact List.count_eq_zero.1 hcount (List.mem_of_mem_head? hhead)
    have hcount := depthAfter_count (s := s) (c := c) fun hr hc => by
      subst hc
      exact closesInnermost_iff.1 h.1 hr rfl
    -- the character is passed over, and the count behind it is that of the scan behind it
    rw [List.cons_append, cutAt, hopen, hcount]
    rw [run_cons] at hrun
    simp only [Bool.false_eq_true, if_false]
    rw [show s.lexical.step c = (s.step c).lexical from rfl, ih h.2 hrun]
    rfl

/-- Counting parentheses finds the end of a group with clean text inside. -/
theorem cut_append_closer {inside : Text} (h : Selector.Clean inside) (behind : Text) :
    cut (inside ++ ')' :: behind) = some (inside, behind) :=
  cutAt_append_closer h.1 h.2 behind

/-- A clean text that starts with a parenthesis starts with a closed group. -/
theorem exists_group {t : Text} (h : Selector.Clean ('(' :: t)) :
    ∃ inside behind, t = inside ++ ')' :: behind ∧ Selector.Clean inside ∧
      Selector.Clean behind := by
  have hevery := h.1
  have hrun := h.2
  rw [every_cons, Bool.and_eq_true] at hevery
  obtain ⟨inside, behind, rfl, hinside, hstart⟩ :=
    exists_closing (s := start) hevery.2 (congrArg Scan.expected hrun)
  have hclean : Selector.Clean inside := ⟨hinside, hstart⟩
  refine ⟨inside, behind, rfl, hclean, ?_⟩
  -- the group with its parentheses is clean, so what is behind it is clean too
  have hsplit : '(' :: (inside ++ ')' :: behind) = ('(' :: inside ++ [')']) ++ behind := by simp
  rw [hsplit] at h
  exact (h.of_append hclean.group.2).2

end CssTheming.Group
