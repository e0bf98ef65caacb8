import CssTheming.Proofs.Selector.Group
import Mathlib.Data.List.Basic

/-!
# The two ends of a group

The end of a group is found by counting parentheses. A scan that keeps a stack of closing brackets
may find another one: a closing parenthesis that stands directly in square brackets is counted, but
does not close anything on the stack. So there are never more parentheses counted as open than there
are on the stack, and the group ends no later by the count than by the stack. Both ends are the same
exactly if no closing parenthesis up to there stands directly in square brackets.

## Main definitions

- `Scan.ClosesAt`: where a scan has no open group for the first time
- `Scan.inBrackets`: a closing parenthesis that stands directly in square brackets
- `Group.Inside`: what stands in a group up to the end by the count

## Key results

- `Group.lt_count_step`: the count stays behind the stack
- `Group.exists_cutAt_of_closesAt`, `Group.exists_endOffset?_of_expected_run`: the group ends by the
  count if it ends on the stack
- `Group.Inside.closesAt_iff`: when both ends are the same
- `group_ends_agree_iff`: the same for a parenthesis anywhere in a text
-/

namespace CssTheming

namespace Scan

variable {s : Scan} {c : Char} {t : Text} {n : Nat}

/-- Behind the character at offset `n` no group is open, for the first time. -/
def ClosesAt (s : Scan) (t : Text) (n : Nat) : Prop :=
  n < t.length ∧ (s.run (t.take (n + 1))).expected = [] ∧
    ∀ m < n, (s.run (t.take (m + 1))).expected ≠ []

instance (s : Scan) (t : Text) (n : Nat) : Decidable (s.ClosesAt t n) :=
  inferInstanceAs (Decidable (n < t.length ∧ (s.run (t.take (n + 1))).expected = [] ∧
    ∀ m < n, (s.run (t.take (m + 1))).expected ≠ []))

private theorem not_closesAt_nil : ¬s.ClosesAt [] n := by
  rintro ⟨h, -⟩
  simp at h

private theorem closesAt_zero_iff : s.ClosesAt (c :: t) 0 ↔ (s.step c).expected = [] := by
  simp [ClosesAt]

/-- A later place is the first one if the first character leaves a group open and the place is the
    first one from there. -/
private theorem closesAt_succ_iff :
    s.ClosesAt (c :: t) (n + 1) ↔ (s.step c).expected ≠ [] ∧ (s.step c).ClosesAt t n := by
  simp only [ClosesAt, List.length_cons, List.take_succ_cons, run_cons, Nat.forall_lt_succ_left,
    List.take_zero, run_nil, Nat.add_lt_add_iff_right]
  tauto

/-- If no group is open behind a text, then there is a first place where that is so. -/
private theorem exists_closesAt (h : (s.run (c :: t)).expected = []) :
    ∃ n, s.ClosesAt (c :: t) n := by
  induction t generalizing s c with
  | nil => exact ⟨0, closesAt_zero_iff.2 h⟩
  | cons d t ih =>
    by_cases hclose : (s.step c).expected = []
    · exact ⟨0, closesAt_zero_iff.2 hclose⟩
    · obtain ⟨n, hn⟩ := ih (s := s.step c) h
      exact ⟨n + 1, closesAt_succ_iff.2 ⟨hclose, hn⟩⟩

/-- No group is open behind the character at the place. -/
private theorem ClosesAt.expected_run {u : Text} (h : s.ClosesAt (t ++ c :: u) t.length) :
    (s.run (t ++ [c])).expected = [] := by
  have htake : (t ++ c :: u).take (t.length + 1) = t ++ [c] := List.take_length_add_append 1
  rw [← htake]
  exact h.2.1

theorem ClosesAt.unique {m : Nat} (hm : s.ClosesAt t m) (hn : s.ClosesAt t n) : m = n := by
  rcases Nat.lt_trichotomy m n with hlt | heq | hlt
  · exact absurd hm.2.1 (hn.2.2 m hlt)
  · exact heq
  · exact absurd hn.2.1 (hm.2.2 n hlt)

/-- A search that finds something no later than a scan has no open group finds the place where that
    is so, exactly if it is so at the place that was found. -/
private theorem eq_some_iff_closesAt_iff {found : Option Nat}
    (hle : ∀ n, s.ClosesAt t n → ∃ m ∈ found, m ≤ n) :
    ((∀ n, found = some n ↔ s.ClosesAt t n) ∧ (found = none ↔ ∀ n, ¬s.ClosesAt t n)) ↔
      ∀ n ∈ found, s.ClosesAt t n := by
  cases found with
  | none =>
    -- a search that finds nothing is right, since it would have found something no later than the
    -- place
    have hnever : ∀ n, ¬s.ClosesAt t n := by
      intro n hn
      obtain ⟨m, hm, -⟩ := hle n hn
      cases hm
    simp [hnever]
  | some m =>
    constructor
    · rintro ⟨hsome, -⟩ n hn
      exact (hsome n).1 hn
    · intro h
      have hm := h m rfl
      refine ⟨fun n => ⟨h n, fun hn => congrArg some (hm.unique hn)⟩, ?_⟩
      exact iff_of_false (by simp) fun hnever => hnever m hm

/-- Whether `c` is a closing parenthesis in plain code that stands directly in square brackets. -/
def inBrackets (s : Scan) (c : Char) : Bool :=
  s.lexical.reads c && c == ')' && s.expected.head? == some ']'

/-- With an inner group open, the groups around do not matter for what stands directly in square
    brackets. -/
private theorem inBrackets_within (h : s.expected ≠ []) (outer : List Char) :
    (s.within outer).inBrackets c = s.inBrackets c := by
  rw [inBrackets, inBrackets, expected_within, List.head?_append_of_ne_nil _ h, lexical_within]

/-- Inside of a group, a closing parenthesis that does not stand in square brackets closes it. -/
private theorem head?_of_inBrackets_eq_false (hs : s.Proper) (hne : s.expected ≠ [])
    (hr : s.lexical.reads ')' = true) (h : s.inBrackets ')' = false) :
    s.expected.head? = some ')' := by
  obtain ⟨d, expected, hexpected⟩ := List.exists_cons_of_ne_nil hne
  have hcloser := hs d (by simp [hexpected])
  have hd : d ≠ ']' := by simpa [inBrackets, hr, hexpected] using h
  simpa [isCloser, hd, hexpected] using hcloser

end Scan

namespace Group

open Scan

variable {s : Scan} {c : Char} {t inside rest : Text} {depth lag n : Nat}

/-- Whether `c`, read in state `l`, closes the group in which `depth` inner groups are open. -/
def closes (l : Lexical) (depth : Nat) (c : Char) : Bool :=
  l.reads c && c == ')' && depth == 0

/-- A group is closed by a closing parenthesis in plain code, if no inner group is open. -/
private theorem closes_eq_true_iff {l : Lexical} :
    closes l depth c = true ↔ l.reads c = true ∧ c = ')' ∧ depth = 0 := by
  rw [closes, Bool.and_eq_true, Bool.and_eq_true, beq_iff_eq, beq_iff_eq, and_assoc]

/-- Read from state `l` on, the text stands inside of a group in which `depth` inner groups are
    open, and a parenthesis behind it closes the group by the count. -/
inductive Inside : Lexical → Nat → Text → Prop where
  | close {l : Lexical} {depth : Nat} (h : closes l depth ')' = true) : Inside l depth []
  | inner {l : Lexical} {depth : Nat} {c : Char} {inside : Text} (h : closes l depth c = false)
      (tail : Inside (l.step c) (depthAfter l depth c) inside) : Inside l depth (c :: inside)

/-- What is cut off in front of the closing parenthesis stands inside of the group. -/
private theorem inside_of_cutAt {l : Lexical} (h : cutAt l depth t = some (inside, rest)) :
    Inside l depth inside := by
  induction t generalizing l depth inside with
  | nil => simp [cutAt] at h
  | cons c t ih =>
    rw [cutAt, ← closes] at h
    cases hc : closes l depth c with
    | true =>
      rw [hc, if_pos rfl] at h
      cases h
      obtain ⟨-, rfl, -⟩ := closes_eq_true_iff.1 hc
      exact .close hc
    | false =>
      rw [hc, if_neg Bool.false_ne_true] at h
      -- the character is part of what is cut off
      obtain ⟨⟨inner, rest⟩, hinner, heq⟩ := Option.map_eq_some_iff.1 h
      cases heq
      exact .inner hc (ih hinner)

/-- The parenthesis that closes a group by the count is plain code. -/
theorem Inside.reads (h : Inside s.lexical depth inside) :
    (s.run inside).lexical.reads ')' = true := by
  -- the induction needs the state as a variable, since it changes with each character
  generalize hl : s.lexical = l at h
  induction h generalizing s with
  | close hc =>
    subst hl
    exact (closes_eq_true_iff.1 hc).1
  | @inner l depth c inside hc tail ih => exact ih (s := s.step c) (congrArg (Lexical.step · c) hl)

/-! ## The count and the stack -/

/-- The number of counted parentheses stays behind the number on the stack at least as far as it
    was. -/
theorem lt_count_step (h : depth + lag < s.expected.count ')')
    (hc : closes s.lexical depth c = false) :
    depthAfter s.lexical depth c + lag < (s.step c).expected.count ')' := by
  rw [depthAfter, count_step]
  by_cases hr : s.lexical.reads c = true
  · rw [if_pos hr, if_pos hr]
    by_cases hclose : c = ')'
    · subst hclose
      -- the count goes down only where an inner group is closed, and the stack goes down by no more
      have hdepth : depth ≠ 0 := by simpa [closes, hr] using hc
      simp only [Char.reduceEq, if_false, if_true, true_and]
      split <;> omega
    · simp only [hclose, if_false, false_and]
      split <;> omega
  · rw [if_neg hr, if_neg hr]
    exact h

/-- A closing parenthesis in square brackets is counted, but not taken off the stack. -/
private theorem lt_count_step_of_inBrackets (h : depth < s.expected.count ')')
    (hc : closes s.lexical depth c = false) (hin : s.inBrackets c = true) :
    depthAfter s.lexical depth c + 1 < (s.step c).expected.count ')' := by
  simp only [inBrackets, Bool.and_eq_true, beq_iff_eq] at hin
  obtain ⟨⟨hr, rfl⟩, hhead⟩ := hin
  have hdepth : depth ≠ 0 := by simpa [closes, hr] using hc
  have hstay : ¬(')' = ')' ∧ s.expected.head? = some ')') := by simp [hhead]
  rw [depthAfter, count_step, if_pos hr, if_pos hr, if_neg (by decide), if_pos rfl,
    if_neg (by decide), if_neg hstay]
  omega

/-- If the count is behind the stack, then the stack has a group open where the group is closed by
    the count. -/
private theorem Inside.expected_run_ne_nil (h : Inside s.lexical depth inside)
    (hlag : depth + 1 < s.expected.count ')') : (s.run (inside ++ [')'])).expected ≠ [] := by
  generalize hl : s.lexical = l at h
  induction h generalizing s with
  | close hc =>
    subst hl
    -- one parenthesis is taken off the stack at most
    have hcount := count_step s ')'
    rw [List.nil_append, run_cons, run_nil]
    intro hnil
    rw [hnil, List.count_nil, if_pos (closes_eq_true_iff.1 hc).1, if_neg (by decide)] at hcount
    split at hcount <;> omega
  | inner hc tail ih =>
    subst hl
    exact ih (lt_count_step hlag hc) rfl

/-- A group that ends on the stack ends by the count, no later. -/
theorem exists_cutAt_of_closesAt (h : depth < s.expected.count ')') (hclose : s.ClosesAt t n) :
    ∃ inside rest, cutAt s.lexical depth t = some (inside, rest) ∧ inside.length ≤ n := by
  induction t generalizing s depth n with
  | nil => exact absurd hclose not_closesAt_nil
  | cons c t ih =>
    rw [cutAt, ← closes]
    cases hc : closes s.lexical depth c with
    -- the group ends right here by the count
    | true => exact ⟨[], t, rfl, Nat.zero_le n⟩
    | false =>
      have hlag : depthAfter s.lexical depth c < (s.step c).expected.count ')' :=
        lt_count_step (show depth + 0 < s.expected.count ')' from h) hc
      cases n with
      | zero =>
        -- there are still parentheses on the stack
        rw [closesAt_zero_iff.1 hclose, List.count_nil] at hlag
        omega
      | succ n =>
        obtain ⟨inside, rest, hcut, hle⟩ := ih hlag (closesAt_succ_iff.1 hclose).2
        refine ⟨c :: inside, rest, ?_, by simpa using hle⟩
        rw [if_neg Bool.false_ne_true, show s.lexical.step c = (s.step c).lexical from rfl, hcut]
        rfl

/-- With all inner parentheses closed by the count, the next closing parenthesis ends the group on
    the stack, unless it stands in square brackets that are open there. -/
private theorem expected_step_eq_nil_iff (hs : s.Proper) (hcount : s.expected.count ')' = 0)
    (hr : s.lexical.reads ')' = true) :
    ((s.within [')']).step ')').expected = [] ↔ (s.within [')']).inBrackets ')' = false := by
  cases hexpected : s.expected with
  | nil => simp [step, inBrackets, hr, hexpected, stepExpected, closer?]
  | cons d expected =>
    -- the innermost open group is no group in parentheses, so it is in square brackets
    have hd : d = ']' := by
      have hcloser := hs d (by simp [hexpected])
      have hne : d ≠ ')' := by
        rintro rfl
        simp [hexpected] at hcount
      simpa [isCloser, hne] using hcloser
    simp [step, inBrackets, hr, hexpected, stepExpected, closer?, hd]

/-- Inside of a group in parentheses, the end by the count is the end on the stack exactly if no
    closing parenthesis up to there stands directly in square brackets. -/
theorem Inside.closesAt_iff (h : Inside s.lexical depth inside) (hs : s.Proper)
    (hdepth : depth = s.expected.count ')') (rest : Text) :
    (s.within [')']).ClosesAt (inside ++ ')' :: rest) inside.length ↔
      (s.within [')']).every (fun s c => !s.inBrackets c) (inside ++ [')']) = true := by
  generalize hl : s.lexical = l at h
  induction h generalizing s with
  | close hc =>
    subst hl
    obtain ⟨hr, -, hzero⟩ := closes_eq_true_iff.1 hc
    rw [List.nil_append, List.length_nil, closesAt_zero_iff,
      expected_step_eq_nil_iff hs (hdepth.symm.trans hzero) hr]
    simp
  | @inner l depth c inside hc tail ih =>
    subst hl
    -- a closing parenthesis that does not close this group closes an inner one
    have hnil : s.lexical.reads c = true → c = ')' → s.expected ≠ [] := by
      rintro hr rfl hnil
      rw [hnil, List.count_nil] at hdepth
      rw [closes_eq_true_iff.2 ⟨hr, rfl, hdepth⟩] at hc
      cases hc
    have hstep : (s.within [')']).step c = (s.step c).within [')'] := by
      refine step_within_of_ne fun hr hexpected hhead => ?_
      obtain rfl : ')' = c := by simpa using hhead
      exact hnil hr rfl hexpected
    rw [List.length_cons, List.cons_append, closesAt_succ_iff, List.cons_append, every_cons,
      Bool.and_eq_true]
    cases hin : (s.within [')']).inBrackets c with
    | true =>
      -- from here on the stack has one more parenthesis open than are counted
      have hlag := lt_count_step_of_inBrackets (s := s.within [')']) (by simp [hdepth]) hc hin
      have hopen := Inside.expected_run_ne_nil (s := (s.within [')']).step c) tail hlag
      exact iff_of_false (fun hclose => hopen hclose.2.expected_run) (by simp)
    | false =>
      have hhead : s.lexical.reads c = true → c = ')' → s.expected.head? = some ')' := by
        rintro hr rfl
        rw [inBrackets_within (hnil hr rfl)] at hin
        exact head?_of_inBrackets_eq_false hs (hnil hr rfl) hr hin
      -- here the count and the stack agree, and they do so behind the character
      have hafter : depthAfter s.lexical depth c = (s.step c).expected.count ')' := by
        rw [hdepth, depthAfter_count hhead]
      rw [hstep, ih (hs.step c) hafter rfl]
      simp

/-! ## Groups from their opening parenthesis on -/

/-- The offset of the closing parenthesis of a group, counted from the opening one, if `t` is what
    follows that. -/
def endOffset? (t : Text) : Option Nat :=
  (cut t).map fun cut => cut.1.length + 1

/-- The end of a group by the count stands behind what is inside of it. -/
theorem exists_of_endOffset?_eq_some (h : endOffset? t = some n) :
    ∃ inside rest, Inside .code 0 inside ∧ n = inside.length + 1 ∧
      t = inside ++ ')' :: rest := by
  obtain ⟨⟨inside, rest⟩, hcut, rfl⟩ := Option.map_eq_some_iff.1 h
  exact ⟨inside, rest, inside_of_cutAt hcut, rfl, (append_of_cutAt hcut).symm⟩

/-- A group opens with its parenthesis, so the first place without an open group is looked for
    inside of it. -/
private theorem closesAt_open_iff :
    Scan.start.ClosesAt ('(' :: t) n ↔
      ∃ m, n = m + 1 ∧ (Scan.start.within [')']).ClosesAt t m := by
  have hstep : Scan.start.step '(' = Scan.start.within [')'] := rfl
  cases n with
  | zero => simp [closesAt_zero_iff, hstep]
  | succ n => simp [closesAt_succ_iff, hstep]

/-- A group that ends on the stack ends by the count, no later. -/
private theorem exists_endOffset?_le_of_closesAt (hclose : Scan.start.ClosesAt ('(' :: t) n) :
    ∃ m ∈ endOffset? t, m ≤ n := by
  obtain ⟨m, rfl, hinside⟩ := closesAt_open_iff.1 hclose
  have hdepth : 0 < (Scan.start.within [')']).expected.count ')' := by decide
  obtain ⟨inside, rest, hcut, hle⟩ := exists_cutAt_of_closesAt hdepth hinside
  have hend : endOffset? t = some (inside.length + 1) :=
    Option.map_eq_some_iff.2 ⟨(inside, rest), hcut, rfl⟩
  exact ⟨inside.length + 1, hend, by omega⟩

/-- A group is closed by the count if no group is open behind it on the stack. -/
theorem exists_endOffset?_of_expected_run (h : (Scan.start.run ('(' :: t)).expected = []) :
    ∃ n, endOffset? t = some n := by
  obtain ⟨n, hclose⟩ := exists_closesAt h
  obtain ⟨m, hm, -⟩ := exists_endOffset?_le_of_closesAt hclose
  exact ⟨m, hm⟩

/-- The end of a group by the count is the end on the stack exactly if no closing parenthesis up to
    there stands directly in square brackets. -/
private theorem closesAt_iff_of_endOffset? (h : endOffset? t = some n) :
    Scan.start.ClosesAt ('(' :: t) n ↔
      Scan.start.every (fun s c => !s.inBrackets c) (('(' :: t).take (n + 1)) = true := by
  obtain ⟨inside, rest, hinside, rfl, rfl⟩ := exists_of_endOffset?_eq_some h
  have htake : (inside ++ ')' :: rest).take (inside.length + 1) = inside ++ [')'] :=
    List.take_length_add_append 1
  have hiff := Inside.closesAt_iff (s := Scan.start) hinside proper_start rfl rest
  rw [List.take_succ_cons, htake, every_cons, Bool.and_eq_true,
    show Scan.start.step '(' = Scan.start.within [')'] from rfl, ← hiff, closesAt_open_iff]
  simp [inBrackets, Scan.start]

/-- The end of a group by the count is a closing parenthesis in plain code. -/
private theorem reads_of_endOffset? (h : endOffset? t = some n) :
    ('(' :: t)[n]? = some ')' ∧
      (Scan.start.run (('(' :: t).take n)).lexical.reads ')' = true := by
  obtain ⟨inside, rest, hinside, rfl, rfl⟩ := exists_of_endOffset?_eq_some h
  rw [List.getElem?_cons_succ, List.take_succ_cons, List.take_left]
  exact ⟨by simp, Inside.reads (s := Scan.start.within [')']) hinside⟩

end Group

namespace GroupSpan

open Scan

variable {t rest : Text} {i : Nat}

/-- The group that opens at a position is found by counting from there. -/
theorem find_of_drop_eq (h : t.drop i = '(' :: rest) :
    find t i =
      .ok ((Group.endOffset? rest).map fun n : Nat => { start := i, stop := i + n }) := by
  have hrange : ¬(t.length + (i : Int) < 0) := by omega
  have hread : readFrom t i = '(' :: rest := by
    rw [readFrom, if_neg (by omega), Int.toNat_natCast, h]
  have hstop (cut : Text × Text) : (i : Int) + 1 + cut.1.length = i + (cut.1.length + 1 : Nat) := by
    omega
  rw [find, if_neg hrange, hread, Group.endOffset?, Option.map_map]
  simp [hstop, Function.comp_def]

end GroupSpan

open GroupSpan in
/-- A group that opens at a position ends at the first place behind which a scan from there has no
    group open, and is open if there is no such place, exactly if no closing parenthesis up to its
    end stands directly in square brackets. In any case it ends no later than there, and with a
    parenthesis that is not part of a string or an escape. -/
theorem group_ends_agree_iff {t : Text} {i : Nat} (h : t[i]? = some '(') :
    ∃ found : Option Nat,
      find t i = .ok (found.map fun n : Nat => { start := i, stop := i + n }) ∧
      (((∀ n, found = some n ↔ Scan.start.ClosesAt (t.drop i) n) ∧
          (found = none ↔ ∀ n, ¬Scan.start.ClosesAt (t.drop i) n)) ↔
        ∀ n ∈ found,
          Scan.start.every (fun s c => !s.inBrackets c) ((t.drop i).take (n + 1)) = true) ∧
      (∀ n, Scan.start.ClosesAt (t.drop i) n → ∃ m ∈ found, m ≤ n) ∧
      ∀ n ∈ found, (t.drop i)[n]? = some ')' ∧
        (Scan.start.run ((t.drop i).take n)).lexical.reads ')' = true := by
  obtain ⟨hi, hget⟩ := List.getElem?_eq_some_iff.1 h
  have hdrop : t.drop i = '(' :: t.drop (i + 1) := by rw [List.drop_eq_getElem_cons hi, hget]
  refine ⟨Group.endOffset? (t.drop (i + 1)), find_of_drop_eq hdrop, ?_⟩
  rw [hdrop]
  -- the count is never late, so it is enough to look at the place that it finds
  have hle : ∀ n, Scan.start.ClosesAt ('(' :: t.drop (i + 1)) n →
      ∃ m ∈ Group.endOffset? (t.drop (i + 1)), m ≤ n :=
    fun n => Group.exists_endOffset?_le_of_closesAt
  refine ⟨?_, hle, fun n => Group.reads_of_endOffset?⟩
  rw [Scan.eq_some_iff_closesAt_iff hle]
  exact forall₂_congr fun n hn => Group.closesAt_iff_of_endOffset? hn

open GroupSpan in
/-- Parentheses in a string and behind a backslash, and a bracket that closes nothing. -/
theorem group_ends_agree_of_string_and_escape :
    (":host([a=')'] :not(\\)])) d)" : Text)[5]? = some '(' ∧
      find ":host([a=')'] :not(\\)])) d)" 5 = .ok (some { start := 5, stop := 23 }) ∧
      ∀ n, Scan.start.ClosesAt ((":host([a=')'] :not(\\)])) d)" : Text).drop 5) n ↔ n = 18 := by
  have h : (":host([a=')'] :not(\\)])) d)" : Text)[5]? = some '(' := by decide
  have hspan : find ":host([a=')'] :not(\\)])) d)" 5 =
      .ok (some { start := 5, stop := 23 }) := by decide +kernel
  refine ⟨h, hspan, ?_⟩
  obtain ⟨found, hfind, hagree, -⟩ := group_ends_agree_iff h
  -- the offset is counted from the opening parenthesis
  obtain rfl : found = some 18 := by
    have hmap := Except.ok.inj (hfind.symm.trans hspan)
    obtain ⟨n, hn, hstop⟩ := Option.map_eq_some_iff.1 hmap
    have : ((5 : Nat) : Int) + n = 23 := congrArg GroupSpan.stop hstop
    rw [hn]
    exact congrArg some (by omega)
  intro n
  rw [← (hagree.2 (by decide +kernel)).1 n, Option.some.injEq, eq_comm]

open GroupSpan in
/-- A closing parenthesis in square brackets ends the group around them. -/
theorem group_ends_in_brackets :
    ("([)])" : Text)[0]? = some '(' ∧
      find "([)])" 0 = .ok (some { start := 0, stop := 2 }) ∧
      ¬Scan.start.ClosesAt "([)])" 2 ∧ Scan.start.ClosesAt "([)])" 4 := by
  decide +kernel

end CssTheming
