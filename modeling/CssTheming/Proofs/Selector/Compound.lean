import CssTheming.Proofs.Selector.Clean

/-!
# First compounds of clean selectors

The first compound of a clean selector ends where nothing is left open, so that it and the rest of
the selector are clean on their own.

## Key results

- `topLevel_of_endsCompound`: what ends a compound is plain code
- `run_of_isBlank`: blanks leave nothing open
- `run_firstCompound`: a first compound that something follows leaves nothing open
- `clean_firstCompound`: both parts of a clean selector are clean
- `firstCompound_append_of_clean`, `firstCompound_append_of_avoids`: where the first compound ends
  if a text is appended
- `firstCompound_group`: a compound that is a group
-/

namespace CssTheming.Selector

open Scan

/-- The text can stand behind a compound selector: it is empty, or starts with a character that ends
    the compound. -/
def FollowsCompound (rest : Text) : Prop :=
  ∀ c ∈ rest.head?, endsCompound c = true

theorem followsCompound_nil : FollowsCompound [] :=
  fun _ hc => nomatch hc

/-- A character that ends a compound selector is a top-level character, unless it stands in a
    group. -/
theorem topLevel_of_endsCompound {c : Char} (h : endsCompound c = true) :
    Scan.start.topLevel c = true := by
  -- none of the characters that end a compound is a quote, a backslash or an opening bracket
  have hmark : Lexical.isMark c = false := by
    rw [← Bool.not_eq_true]
    intro hc
    rcases Bool.or_eq_true _ _ ▸ hc with hc | hc <;> rw [beq_iff_eq] at hc <;> subst hc <;> cases h
  have hslash : (c != '\\') = true := by
    rw [bne_iff_ne]
    rintro rfl
    cases h
  have hopen : closer? c = none := by
    unfold closer?
    split <;> first | rfl | cases h
  simp [topLevel, Lexical.reads, Scan.start, hmark, hslash, hopen]

/-- A blank is a top-level character. -/
theorem topLevel_of_isBlank {c : Char} (h : Text.isBlank c = true) : Scan.start.topLevel c = true :=
  topLevel_of_endsCompound (by simp [endsCompound, h])

/-- Blanks leave nothing open. -/
theorem run_of_isBlank {t : Text} (h : ∀ c ∈ t, Text.isBlank c = true) :
    Scan.start.run t = Scan.start := by
  induction t with
  | nil => rfl
  | cons c t ih =>
    obtain ⟨hc, ht⟩ := List.forall_mem_cons.1 h
    rw [run_cons, step_of_topLevel (topLevel_of_isBlank hc), ih ht]

/-- What is left behind the first compound of a text can follow a compound. -/
theorem followsCompound_firstCompound (t : Text) : FollowsCompound (firstCompound t).2 :=
  fun c hc => ((span_spec endsCompound Scan.start t).2 c hc).2

/-- The first compound of a text leaves nothing open if it ends before the text does. -/
theorem run_firstCompound {t : Text} (h : (firstCompound t).2 ≠ []) :
    Scan.start.run (firstCompound t).1 = Scan.start := by
  obtain ⟨c, rest, hrest⟩ := List.exists_cons_of_ne_nil h
  have hc : c ∈ (firstCompound t).2.head? := by rw [hrest]; rfl
  exact eq_start_of_topLevel ((span_spec endsCompound Scan.start t).2 c hc).1

/-- The first compound of a text is clean if the text is, and so is the rest. -/
theorem clean_firstCompound {t : Text} (h : Clean t) :
    Clean (firstCompound t).1 ∧ Clean (firstCompound t).2 ∧
      FollowsCompound (firstCompound t).2 := by
  have happend := firstCompound_append t
  -- either nothing follows, or what follows is read outside of all strings and groups
  have hrun : Scan.start.run (firstCompound t).1 = Scan.start := by
    by_cases hrest : (firstCompound t).2 = []
    · rw [hrest, List.append_nil] at happend
      rw [happend, h.2]
    · exact run_firstCompound hrest
  rw [← happend] at h
  exact ⟨(h.of_append hrun).1, (h.of_append hrun).2, followsCompound_firstCompound t⟩

/-- What is appended to a clean text is read behind the rest of the text, and belongs to the first
    compound as far as that goes. -/
theorem firstCompound_append_of_clean {t : Text} (h : Clean t) (u : Text) :
    firstCompound (t ++ u) =
      ((firstCompound t).1 ++ (firstCompound ((firstCompound t).2 ++ u)).1,
        (firstCompound ((firstCompound t).2 ++ u)).2) := by
  have havoids : Scan.start.avoids endsCompound (firstCompound t).1 = true :=
    (span_spec endsCompound Scan.start t).1
  have hcut := span_append_eq_of_avoids havoids ((firstCompound t).2 ++ u)
  -- behind the first compound a scan stands where it started
  rw [(clean_firstCompound h).1.2, ← List.append_assoc, firstCompound_append] at hcut
  exact hcut

/-- A single compound that leaves nothing open is cut off from what can follow it. -/
theorem firstCompound_append_of_avoids {t rest : Text}
    (h : Scan.start.avoids endsCompound t = true) (hrun : Scan.start.run t = Scan.start)
    (hrest : FollowsCompound rest) : firstCompound (t ++ rest) = (t, rest) := by
  refine span_append_of_avoids h fun c hc => ?_
  rw [hrun]
  exact ⟨topLevel_of_endsCompound (hrest c hc), hrest c hc⟩

/-- A single compound that leaves nothing open is all of its text. -/
theorem firstCompound_of_avoids {t : Text} (h : Scan.start.avoids endsCompound t = true)
    (hrun : Scan.start.run t = Scan.start) : firstCompound t = (t, []) := by
  rw [← firstCompound_append_of_avoids h hrun followsCompound_nil, List.append_nil]

/-- A clean compound in parentheses is cut off from what can follow it. -/
theorem firstCompound_group {inside rest : Text} (h : Clean inside) (hrest : FollowsCompound rest) :
    firstCompound ('(' :: (inside ++ ')' :: rest)) = ('(' :: (inside ++ [')']), rest) := by
  -- the group is a single compound that leaves nothing open
  have hcut := firstCompound_append_of_avoids (h.avoids_group endsCompound) h.group.2 hrest
  simpa using hcut

end CssTheming.Selector
