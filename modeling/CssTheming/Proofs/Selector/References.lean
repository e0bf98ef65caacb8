import CssTheming.Proofs.Selector.Nesting

/-!
# Parent references in parts of a text

Whether an ampersand is a parent reference depends on the text in front of it, but only on whether
that leaves a string or an escape open; groups play no part. So references in what stands behind a
text that leaves neither open are those of that part alone, also if the text in front was put there
in the place of a reference. Blanks are never references, and a scan that is in plain code stays
there while it reads them.

## Main definitions

- `Lexical.run`: where a scan stands behind a text with respect to strings and escapes
- `Selector.EndsInCode`: texts that leave no string and no escape open

## Key results

- `Selector.refersFrom_append`, `Selector.substituteFrom_append`: references in two parts of a text
- `Selector.hasReference_substitute`, `Selector.substitute_substitute`: references in a text that is
  put in the place of references
- `Selector.hasReference_trim`, `Selector.trim_substitute`: references in a text that is trimmed
-/

namespace CssTheming

namespace Lexical

/-- The state after reading `t`. -/
def run (l : Lexical) (t : Text) : Lexical :=
  t.foldl step l

@[simp] theorem run_nil (l : Lexical) : l.run [] = l := rfl

@[simp] theorem run_cons (l : Lexical) (c : Char) (t : Text) : l.run (c :: t) = (l.step c).run t :=
  rfl

end Lexical

/-- Strings and escapes are read in the same way whatever groups are open. -/
theorem Scan.lexical_run (s : Scan) (t : Text) : (s.run t).lexical = s.lexical.run t := by
  induction t generalizing s with
  | nil => rfl
  | cons c t ih => exact ih (s.step c)

namespace Selector

open Scan

variable {b parent t : Text}

/-- All strings of the text are closed, and its last character is not a backslash that would take
    another character with it. -/
def EndsInCode (t : Text) : Prop :=
  Lexical.code.run t = .code

instance : DecidablePred EndsInCode := fun t =>
  inferInstanceAs (Decidable (Lexical.code.run t = .code))

theorem EndsInCode.run (hb : EndsInCode b) : Lexical.code.run b = .code := hb

/-- In front of a top-level character no string and no escape is open. -/
theorem endsInCode_of_topLevel {c : Char} (h : (Scan.start.run t).topLevel c = true) :
    EndsInCode t := by
  rw [EndsInCode, show Lexical.code = Scan.start.lexical from rfl, ← lexical_run,
    eq_start_of_topLevel h]

/-! ## References in parts of a text -/

/-- A text has a reference if one of its parts has one, where the second part is read from where the
    first one ends. -/
theorem refersFrom_append (l : Lexical) (t u : Text) :
    refersFrom l (t ++ u) = (refersFrom l t || refersFrom (l.run t) u) := by
  induction t generalizing l with
  | nil => rfl
  | cons d t ih =>
    rw [List.cons_append, refersFrom, refersFrom, ih, Lexical.run_cons, Bool.or_assoc]

/-- References may be replaced in each part of a text, where the second part is read from where the
    first one ends. -/
theorem substituteFrom_append (parent : Text) (l : Lexical) (t u : Text) :
    substituteFrom parent l (t ++ u) =
      substituteFrom parent l t ++ substituteFrom parent (l.run t) u := by
  induction t generalizing l with
  | nil => rfl
  | cons d t ih =>
    rw [List.cons_append, substituteFrom, substituteFrom, ih, Lexical.run_cons, List.append_assoc]

/-- Behind a text that ends in plain code, the references are those of the part that stands
    there. -/
theorem hasReference_append (hb : EndsInCode b) (t : Text) :
    hasReference (b ++ t) = (hasReference b || hasReference t) := by
  rw [hasReference, refersFrom_append, hb.run, hasReference, hasReference]

/-- Behind a text that ends in plain code, references may be replaced in the part that stands
    there. -/
theorem substitute_append (hb : EndsInCode b) (parent t : Text) :
    substitute parent (b ++ t) = substitute parent b ++ substitute parent t := by
  rw [substitute, substituteFrom_append, hb.run, substitute, substitute]

/-! ## References in the place of references -/

/-- Once references are replaced, there are others just if there are some in what they are replaced
    by. -/
private theorem refersFrom_substituteFrom (hb : EndsInCode b) (l : Lexical) (c : Text) :
    refersFrom l (substituteFrom b l c) = (refersFrom l c && hasReference b) := by
  induction c generalizing l with
  | nil => rfl
  | cons d c ih =>
    rw [substituteFrom]
    by_cases href : (l.reads d && d == '&') = true
    · rw [if_pos href, refersFrom, href, Bool.true_or, Bool.true_and]
      rw [Bool.and_eq_true] at href
      -- references are found in plain code, and behind `b` the scan is in plain code again
      obtain rfl := Lexical.eq_code_of_reads href.1
      rw [refersFrom_append, hb.run, Lexical.step_of_reads href.1, ih]
      show (hasReference b || (refersFrom .code c && hasReference b)) = hasReference b
      cases hasReference b <;> simp
    · rw [if_neg href, List.singleton_append, refersFrom, refersFrom, ih]
      simp [href]

/-- Once references are replaced, there are others just if there are some in what they are replaced
    by. -/
theorem hasReference_substitute (hb : EndsInCode b) (c : Text) :
    hasReference (substitute b c) = (hasReference c && hasReference b) :=
  refersFrom_substituteFrom hb .code c

/-- References that come with what other references are replaced by may be replaced before. -/
private theorem substituteFrom_substituteFrom (hb : EndsInCode b) (a : Text) (l : Lexical)
    (c : Text) :
    substituteFrom a l (substituteFrom b l c) = substituteFrom (substitute a b) l c := by
  induction c generalizing l with
  | nil => rfl
  | cons d c ih =>
    rw [substituteFrom, substituteFrom]
    by_cases href : (l.reads d && d == '&') = true
    · rw [if_pos href, if_pos href]
      rw [Bool.and_eq_true] at href
      obtain rfl := Lexical.eq_code_of_reads href.1
      -- the references in `b` are replaced, and behind `b` the scan is in plain code again
      rw [substituteFrom_append, hb.run, Lexical.step_of_reads href.1, ih,
        substitute]
    · rw [if_neg href, if_neg href, List.singleton_append, substituteFrom, if_neg href, ih]

/-- References may be replaced in a text before it is put in the place of references. -/
theorem substitute_substitute (hb : EndsInCode b) (a c : Text) :
    substitute a (substitute b c) = substitute (substitute a b) c :=
  substituteFrom_substituteFrom hb a .code c

/-! ## Nesting with and without references -/

/-- A child with references has its parent in their places. -/
theorem nest_of_hasReference {child : Text} (h : hasReference child = true) (parent : Text) :
    nest parent child = substitute parent child :=
  if_pos h

/-- A child without references goes behind its parent. -/
theorem nest_of_hasReference_eq_false {child : Text} (h : hasReference child = false)
    (parent : Text) : nest parent child = parent ++ ' ' :: child := by
  rw [nest, if_neg (by rw [h]; decide), List.append_assoc]
  rfl

/-! ## Blanks -/

/-- Blanks are never references. -/
private theorem refersFrom_of_isBlank (l : Lexical) (h : ∀ d ∈ t, Text.isBlank d = true) :
    refersFrom l t = false := by
  induction t generalizing l with
  | nil => rfl
  | cons d t ih =>
    obtain ⟨hd, ht⟩ := List.forall_mem_cons.1 h
    have hne : (d == '&') = false := by
      rw [beq_eq_false_iff_ne]
      rintro rfl
      cases hd
    rw [refersFrom, hne, Bool.and_false, Bool.false_or, ih (l.step d) ht]

/-- Blanks leave no string and no escape open. -/
private theorem endsInCode_of_isBlank (h : ∀ d ∈ t, Text.isBlank d = true) : EndsInCode t := by
  rw [EndsInCode, show Lexical.code = Scan.start.lexical from rfl, ← lexical_run, run_of_isBlank h]

/-- The references of a text are found in its trimmed form. -/
theorem hasReference_trim (t : Text) : hasReference t.trim = hasReference t := by
  obtain ⟨front, back, hfront, hback, ht⟩ := Text.exists_eq_append_trim t
  rw [congrArg hasReference ht, List.append_assoc,
    hasReference_append (endsInCode_of_isBlank hfront), hasReference, hasReference, hasReference,
    refersFrom_append, refersFrom_of_isBlank _ hfront, refersFrom_of_isBlank _ hback,
    Bool.false_or, Bool.or_false]

/-- References may be replaced before or after a text is trimmed. -/
theorem trim_substitute (hparent : Trimmed parent) (t : Text) :
    (substitute parent t).trim = substitute parent t.trim := by
  obtain ⟨front, back, hfront, hback, ht⟩ := Text.exists_eq_append_trim t
  -- the trimmed text has no blanks at its ends, and gets none
  have hcore : (substitute parent t.trim).trim = substitute parent t.trim := by
    have hends := Text.trim_eq_self_iff.1 (Text.trim_trim t)
    exact Text.trim_eq_self_iff.2 ⟨isBlank_head?_substituteFrom hparent .code hends.1,
      isBlank_getLast?_substituteFrom hparent .code hends.2⟩
  -- nothing is replaced in the blanks at both ends
  have hsubstitute : substitute parent t = front ++ substitute parent t.trim ++ back := by
    rw [congrArg (substitute parent) ht, List.append_assoc,
      substitute_append (endsInCode_of_isBlank hfront), substitute, substitute, substitute,
      substituteFrom_append, substituteFrom_of_not_refers parent (refersFrom_of_isBlank _ hfront),
      substituteFrom_of_not_refers parent (refersFrom_of_isBlank _ hback), List.append_assoc]
  rw [hsubstitute, Text.trim_append_append hfront hcore hback]

end Selector

end CssTheming
