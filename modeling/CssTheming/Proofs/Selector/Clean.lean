import CssTheming.Proofs.List
import CssTheming.Selector.Scan

/-!
# Clean selector text

A text is clean if a scan ends where it started: every string, escape and group is closed, and no
closing bracket stands where the innermost open group does not wait for it. Clean text can be put
anywhere into other text without changing how the rest of it is read.

## Main definitions

- `Scan.every`: a condition on each character and the scan that reads it
- `Scan.closesInnermost`, `Scan.avoids`: the conditions that closing brackets match, and that no
  top-level character is of a given kind
- `Scan.within`: a scan inside further open groups
- `Selector.Clean`: clean texts

## Key results

- `Scan.run_within`: clean text is read in the same way inside of any groups
- `Scan.span_append_of_avoids`, `Scan.splitOn_append_of_avoids`: where a text is cut
- `Scan.splitInduction`: induction along the cuts of a text
- `Scan.splitOn_append_cons_of_run`: cutting behind a text that leaves nothing open
- `Scan.avoids_of_mem_splitOn`, `Scan.run_of_mem_dropLast_splitOn`: what the parts of a text look
  like
- `Scan.exists_mem_splitOn`: what is found in the parts of a text
- `Selector.Clean.append`, `Selector.Clean.group`: texts that are put together from clean ones
-/

namespace CssTheming

/-- Only plain code is read. -/
theorem Lexical.eq_code_of_reads {l : Lexical} {c : Char} (h : l.reads c = true) : l = code := by
  simp only [reads, Bool.and_eq_true, beq_iff_eq] at h
  exact h.1.1

namespace Scan

variable {s : Scan} {c : Char} {t u : Text}

/-! ## Conditions on all characters of a text -/

/-- Whether `holds` is true of each character of the text and the scan that reads it. -/
def every (holds : Scan → Char → Bool) (s : Scan) : Text → Bool
  | [] => true
  | c :: t => holds s c && every holds (s.step c) t

@[simp] theorem every_nil (holds : Scan → Char → Bool) (s : Scan) : s.every holds [] = true := rfl

@[simp] theorem every_cons (holds : Scan → Char → Bool) (s : Scan) (c : Char) (t : Text) :
    s.every holds (c :: t) = (holds s c && (s.step c).every holds t) := rfl

/-- A condition holds throughout a text if it does throughout both of its parts. -/
theorem every_append (holds : Scan → Char → Bool) (s : Scan) (t u : Text) :
    s.every holds (t ++ u) = (s.every holds t && (s.run t).every holds u) := by
  induction t generalizing s with
  | nil => simp
  | cons c t ih => simp [ih, Bool.and_assoc]

/-- A closing bracket. -/
def isCloser (c : Char) : Bool :=
  c == ')' || c == ']'

/-- Whether `c`, if it is a closing bracket in plain code, closes the innermost open group. -/
def closesInnermost (s : Scan) (c : Char) : Bool :=
  !(s.lexical.reads c && isCloser c) || s.expected.head? == some c

/-- A character matches just if it is no closing bracket in plain code, or the one that the
    innermost open group waits for. -/
theorem closesInnermost_iff :
    s.closesInnermost c = true ↔
      (s.lexical.reads c = true → isCloser c = true → s.expected.head? = some c) := by
  rw [closesInnermost, Bool.or_eq_true, Bool.not_eq_true', beq_iff_eq, Bool.and_eq_false_imp]
  cases s.lexical.reads c <;> cases isCloser c <;> simp

/-- Whether no top-level character of the text, read from `s` on, satisfies `p`. -/
def avoids (p : Char → Bool) (s : Scan) (t : Text) : Bool :=
  s.every (fun s c => !(s.topLevel c && p c)) t

/-- Top-level characters are read by a scan that stands where it started. -/
theorem eq_start_of_topLevel (h : s.topLevel c = true) : s = start := by
  simp only [topLevel, Bool.and_eq_true, List.isEmpty_iff] at h
  obtain ⟨l, expected⟩ := s
  obtain ⟨⟨hr, rfl⟩, -⟩ := h
  obtain rfl : l = .code := Lexical.eq_code_of_reads hr
  rfl

/-- What closes a group is a closing bracket. -/
private theorem isCloser_of_closer? {d : Char} (h : closer? c = some d) : isCloser d = true := by
  unfold closer? at h
  split at h <;> cases h <;> rfl

/-! ## Scans inside of groups -/

/-- The scan inside of further groups that wait for the closing brackets `outer`. -/
def within (s : Scan) (outer : List Char) : Scan where
  lexical := s.lexical
  expected := s.expected ++ outer

@[simp] theorem lexical_within (s : Scan) (outer : List Char) :
    (s.within outer).lexical = s.lexical := rfl

@[simp] theorem expected_within (s : Scan) (outer : List Char) :
    (s.within outer).expected = s.expected ++ outer := rfl

/-- All open groups wait for closing brackets. -/
def Proper (s : Scan) : Prop :=
  ∀ d ∈ s.expected, isCloser d = true

theorem proper_start : start.Proper := by
  intro d hd
  cases hd

/-- Only closing brackets are put on the stack. -/
theorem Proper.step (h : s.Proper) (c : Char) : (s.step c).Proper := by
  intro d hd
  simp only [Scan.step, stepExpected] at hd
  split at hd
  · split at hd
    · next e he =>
      rcases List.mem_cons.1 hd with rfl | hd
      · exact isCloser_of_closer? he
      · exact h d hd
    · split at hd
      · -- the innermost group has been closed
        exact h d (List.mem_of_mem_tail hd)
      · exact h d hd
  · exact h d hd

/-- All groups that a text leaves open wait for closing brackets. -/
theorem Proper.run (h : s.Proper) (t : Text) : (s.run t).Proper := by
  induction t generalizing s with
  | nil => exact h
  | cons c t ih => exact ih (h.step c)

/-- A character leaves the groups around alone, unless no inner group is open and it is the closing
    bracket that they wait for. -/
theorem step_within_of_ne {outer : List Char}
    (h : s.lexical.reads c = true → s.expected = [] → outer.head? ≠ some c) :
    (s.within outer).step c = (s.step c).within outer := by
  obtain ⟨l, expected⟩ := s
  simp only [step, within]
  congr 1
  by_cases hr : l.reads c
  · simp only [hr, if_true]
    unfold stepExpected
    -- only a character that opens nothing is compared with the stack
    cases hc : closer? c with
    | some d => rfl
    | none =>
      cases expected with
      | cons e expected => by_cases he : e = c <;> simp [he]
      | nil => simp [h hr rfl]
  · simp [hr]

/-- A matching character leaves the groups around alone. -/
theorem step_within {outer : List Char} (houter : ∀ d ∈ outer, isCloser d = true)
    (h : s.closesInnermost c = true) : (s.within outer).step c = (s.step c).within outer := by
  refine step_within_of_ne fun hr he hhead => ?_
  -- with no inner group open, a closing bracket would not match
  have hmatch := closesInnermost_iff.1 h hr (houter c (List.mem_of_mem_head? hhead))
  rw [he] at hmatch
  cases hmatch

/-- What matches by itself matches inside of any groups, since the innermost group is the same. -/
private theorem closesInnermost_within (outer : List Char) (h : s.closesInnermost c = true) :
    (s.within outer).closesInnermost c = true := by
  rw [closesInnermost_iff] at h ⊢
  intro hr hcloser
  rw [expected_within, List.head?_append, h hr hcloser, Option.some_or]

/-- Matching text leaves the groups around alone. -/
theorem run_within {outer : List Char} (houter : ∀ d ∈ outer, isCloser d = true)
    (h : s.every closesInnermost t = true) : (s.within outer).run t = (s.run t).within outer := by
  induction t generalizing s with
  | nil => rfl
  | cons c t ih =>
    simp only [every_cons, Bool.and_eq_true] at h
    rw [run_cons, run_cons, step_within houter h.1, ih h.2]

/-- Matching text matches inside of any groups. -/
theorem every_closesInnermost_within {outer : List Char}
    (houter : ∀ d ∈ outer, isCloser d = true) (h : s.every closesInnermost t = true) :
    (s.within outer).every closesInnermost t = true := by
  induction t generalizing s with
  | nil => rfl
  | cons c t ih =>
    simp only [every_cons, Bool.and_eq_true] at h ⊢
    refine ⟨closesInnermost_within outer h.1, ?_⟩
    -- the scan is still inside of the same groups
    rw [step_within houter h.1]
    exact ih h.2

/-- Inside of a group, matching text has no top-level characters. -/
theorem avoids_within {outer : List Char} (houter : ∀ d ∈ outer, isCloser d = true)
    (hne : outer ≠ []) (h : s.every closesInnermost t = true) (p : Char → Bool) :
    (s.within outer).avoids p t = true := by
  induction t generalizing s with
  | nil => rfl
  | cons c t ih =>
    simp only [every_cons, Bool.and_eq_true] at h
    -- the group around is open all the time, so nothing in it is at the top level
    have htop : (s.within outer).topLevel c = false := by simp [topLevel, hne]
    simp only [avoids, every_cons, htop, Bool.false_and, Bool.not_false, Bool.true_and]
    rw [step_within houter h.1]
    exact ih h.2

/-! ## Cutting a text -/

/-- Up to the place where a text is cut, no top-level character satisfies `p`, and the text behind
    it starts with one that does. -/
theorem span_spec (p : Char → Bool) (s : Scan) (t : Text) :
    s.avoids p (s.span p t).1 = true ∧
      ∀ c ∈ (s.span p t).2.head?, (s.run (s.span p t).1).topLevel c = true ∧ p c = true := by
  induction t generalizing s with
  | nil => simp [span, avoids]
  | cons c t ih =>
    rw [span]
    split
    · next h => simpa [avoids] using h
    · next h =>
      -- the character is passed over, and the place of the cut is found behind it
      refine ⟨?_, (ih (s.step c)).2⟩
      rw [Bool.not_eq_true] at h
      simp only [avoids, every_cons, h, Bool.not_false, Bool.true_and]
      exact (ih (s.step c)).1

/-- Behind a part without top-level characters that satisfy `p`, a text is cut where what stands
    there is cut. -/
theorem span_append_eq_of_avoids {p : Char → Bool} (h : s.avoids p t = true) (u : Text) :
    s.span p (t ++ u) = (t ++ ((s.run t).span p u).1, ((s.run t).span p u).2) := by
  induction t generalizing s with
  | nil => rfl
  | cons c t ih =>
    simp only [avoids, every_cons, Bool.and_eq_true, Bool.not_eq_true'] at h
    rw [List.cons_append, span, if_neg (by simp [h.1]), ih h.2]
    rfl

/-- A text is cut in front of the first top-level character that satisfies `p`. -/
theorem span_append_of_avoids {p : Char → Bool} (h : s.avoids p t = true)
    (hu : ∀ c ∈ u.head?, (s.run t).topLevel c = true ∧ p c = true) :
    s.span p (t ++ u) = (t, u) := by
  have hcut : (s.run t).span p u = ([], u) := by
    cases u with
    | nil => rfl
    | cons c u =>
      obtain ⟨htop, hp⟩ := hu c rfl
      rw [span, htop, hp]
      rfl
  rw [span_append_eq_of_avoids h, hcut, List.append_nil]

/-- A part without top-level characters that satisfy `p` belongs to the first of the parts into
    which the text behind it is cut. -/
theorem splitOn_append_of_avoids {p : Char → Bool} (h : s.avoids p t = true) (u : Text) :
    s.splitOn p (t ++ u) = ((s.run t).splitOn p u).modifyHead (t ++ ·) := by
  induction t generalizing s with
  | nil => exact (congrFun List.modifyHead_id _).symm
  | cons c t ih =>
    simp only [avoids, every_cons, Bool.and_eq_true, Bool.not_eq_true'] at h
    rw [List.cons_append, splitOn, if_neg (by simp [h.1]), ih h.2, List.modifyHead_modifyHead]
    rfl

/-- A text is cut at the first top-level character that satisfies `p`. -/
theorem splitOn_append_cons {p : Char → Bool} (h : s.avoids p t = true)
    (htop : (s.run t).topLevel c = true) (hp : p c = true) (u : Text) :
    s.splitOn p (t ++ c :: u) = t :: start.splitOn p u := by
  rw [splitOn_append_of_avoids h, splitOn, if_pos (by simp [htop, hp]), step_of_topLevel htop,
    List.modifyHead_cons, List.append_nil]

/-- A text without top-level characters that satisfy `p` is a single part. -/
theorem splitOn_of_avoids {p : Char → Bool} (h : s.avoids p t = true) : s.splitOn p t = [t] := by
  rw [← List.append_nil t, splitOn_append_of_avoids h, splitOn, List.modifyHead_cons]

/-- Induction on a text in the way in which it is cut: it has no top-level character that satisfies
    `p`, or it is cut at the first one, and what stands behind that is read from the start again. -/
theorem splitInduction (p : Char → Bool) {motive : Text → Prop}
    (single : ∀ t, start.avoids p t = true → motive t)
    (cut : ∀ t c u, start.avoids p t = true → (start.run t).topLevel c = true → p c = true →
      motive u → motive (t ++ c :: u))
    (t : Text) : motive t := by
  induction t using List.lengthInduction with
  | step t ih =>
    obtain ⟨havoids, hbehind⟩ := span_spec p start t
    have happend := span_append p start t
    cases hrest : (start.span p t).2 with
    | nil =>
      rw [hrest, List.append_nil] at happend
      -- nothing is cut off
      exact happend ▸ single _ havoids
    | cons c u =>
      obtain ⟨htop, hp⟩ := hbehind c (by rw [hrest]; rfl)
      rw [hrest] at happend
      have hlength := congrArg List.length happend
      rw [List.length_append, List.length_cons] at hlength
      -- the text behind the cut is shorter, since the character of the cut is left out
      exact happend ▸ cut _ c u havoids htop hp (ih u (by omega))

private theorem splitOn_ne_nil (p : Char → Bool) (s : Scan) (t : Text) : s.splitOn p t ≠ [] := by
  induction t generalizing s with
  | nil => simp [splitOn]
  | cons c t ih =>
    rw [splitOn]
    split
    · simp
    · simpa using ih (s.step c)

/-- A text that leaves nothing open and what stands behind the next cut are cut on their own. -/
theorem splitOn_append_cons_of_run {p : Char → Bool} (hrun : start.run t = start)
    (htop : start.topLevel c = true) (hp : p c = true) (u : Text) :
    start.splitOn p (t ++ c :: u) = start.splitOn p t ++ start.splitOn p u := by
  induction t using splitInduction p with
  | single t havoids =>
    have hcut : (start.run t).topLevel c = true := by rwa [hrun]
    rw [splitOn_append_cons havoids hcut hp, splitOn_of_avoids havoids, List.singleton_append]
  | cut t d v havoids hcut hd ih =>
    -- behind a cut the text is read from the start, so it leaves nothing open there either
    rw [run_append, run_cons, step_of_topLevel hcut] at hrun
    rw [List.append_assoc, List.cons_append, splitOn_append_cons havoids hcut hd,
      splitOn_append_cons havoids hcut hd, ih hrun, List.cons_append]

/-- No part of a text has a top-level character at which it would be cut. -/
theorem avoids_of_mem_splitOn {p : Char → Bool} {part : Text}
    (h : part ∈ start.splitOn p t) : start.avoids p part = true := by
  induction t using splitInduction p with
  | single t havoids =>
    rw [splitOn_of_avoids havoids, List.mem_singleton] at h
    exact h ▸ havoids
  | cut t d u havoids htop hd ih =>
    rw [splitOn_append_cons havoids htop hd] at h
    rcases List.mem_cons.1 h with rfl | h
    · exact havoids
    · exact ih h

/-- Only the last part of a text may leave something open. -/
theorem run_of_mem_dropLast_splitOn {p : Char → Bool} {part : Text}
    (h : part ∈ (start.splitOn p t).dropLast) : start.run part = start := by
  induction t using splitInduction p with
  | single t havoids =>
    rw [splitOn_of_avoids havoids] at h
    cases h
  | cut t d u havoids htop hd ih =>
    rw [splitOn_append_cons havoids htop hd,
      List.dropLast_cons_of_ne_nil (splitOn_ne_nil p start u)] at h
    rcases List.mem_cons.1 h with rfl | h
    · -- the first part ends where a top-level character is read
      exact eq_start_of_topLevel htop
    · exact ih h

/-- Only characters that satisfy `p` are missing in the parts of a text. -/
theorem exists_mem_splitOn {p : Char → Bool} (hp : p c = false) (hc : c ∈ t) :
    ∃ part ∈ start.splitOn p t, c ∈ part := by
  induction t using splitInduction p with
  | single t havoids => exact ⟨t, by simp [splitOn_of_avoids havoids], hc⟩
  | cut t d u havoids htop hd ih =>
    rw [splitOn_append_cons havoids htop hd]
    rcases List.mem_append.1 hc with hc | hc
    · exact ⟨t, List.mem_cons_self, hc⟩
    · obtain rfl | hc := List.mem_cons.1 hc
      · -- the character of the cut satisfies the condition
        cases hp.symm.trans hd
      · obtain ⟨part, hpart, hmem⟩ := ih hc
        exact ⟨part, List.mem_cons_of_mem _ hpart, hmem⟩

end Scan

namespace Selector

open Scan

variable {s t : Text}

/-- A text whose closing brackets match and after which a scan stands where it started: no string,
    escape or group is left open. -/
def Clean (t : Text) : Prop :=
  Scan.start.every closesInnermost t = true ∧ Scan.start.run t = Scan.start

instance : DecidablePred Clean := fun t =>
  inferInstanceAs (Decidable (Scan.start.every closesInnermost t = true ∧
    Scan.start.run t = Scan.start))

theorem Clean.append (hs : Clean s) (ht : Clean t) : Clean (s ++ t) := by
  constructor
  · rw [every_append, hs.1, hs.2, ht.1, Bool.and_self]
  · rw [run_append, hs.2, ht.2]

/-- The parts of a clean text are clean if the first one leaves nothing open. -/
theorem Clean.of_append (h : Clean (s ++ t)) (hs : Scan.start.run s = Scan.start) :
    Clean s ∧ Clean t := by
  obtain ⟨hevery, hrun⟩ := h
  rw [every_append, hs, Bool.and_eq_true] at hevery
  rw [run_append, hs] at hrun
  exact ⟨⟨hevery.1, hs⟩, ⟨hevery.2, hrun⟩⟩

/-- The scan inside of one group in parentheses. -/
def inGroup : Scan :=
  Scan.start.within [')']

theorem isCloser_of_mem_inGroup : ∀ d ∈ [')'], isCloser d = true :=
  List.forall_mem_singleton.2 rfl

/-- A clean text is read inside of a group as it is outside. -/
private theorem Clean.run_inGroup (h : Clean t) : inGroup.run t = inGroup := by
  rw [inGroup, run_within isCloser_of_mem_inGroup h.1, h.2]

/-- A clean text in parentheses is clean. -/
theorem Clean.group (h : Clean t) : Clean ('(' :: t ++ [')']) := by
  have hevery := every_closesInnermost_within isCloser_of_mem_inGroup h.1
  constructor
  · -- the opening parenthesis matches, then the text inside of the group, then the parenthesis that
    -- closes it
    rw [List.cons_append, every_cons, every_append]
    simp only [Bool.and_eq_true]
    refine ⟨rfl, hevery, ?_⟩
    rw [show Scan.start.step '(' = inGroup from rfl, h.run_inGroup]
    rfl
  · rw [List.cons_append, run_cons, run_append, show Scan.start.step '(' = inGroup from rfl,
      h.run_inGroup]
    rfl

/-- A clean text in parentheses has no top-level characters, its parentheses included. -/
theorem Clean.avoids_group (h : Clean t) (p : Char → Bool) :
    Scan.start.avoids p ('(' :: t ++ [')']) = true := by
  have hinside := avoids_within isCloser_of_mem_inGroup (by decide) h.1 p
  rw [avoids, List.cons_append, every_cons, every_append]
  simp only [Bool.and_eq_true]
  refine ⟨by simp [topLevel, closer?], hinside, ?_⟩
  rw [show Scan.start.step '(' = inGroup from rfl, h.run_inGroup]
  rfl

end Selector

end CssTheming
