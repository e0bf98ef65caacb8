import CssTheming.Text.Basic
import Mathlib.Data.List.DropRight

/-!
# Trimmed texts

A text is trimmed if trimming leaves it as it is. That is the case exactly if neither of its two end
characters is blank, so trimmedness can be read off the ends of a text that is put together from
others.

## Key results

- `trim_eq_self_iff`: the trimmed texts are those without a blank end character
- `trim_trim`: trimming gives a trimmed text
- `trim_eq_nil_iff`: nothing is left of blank texts
- `trim_append`: trimming what is appended to a trimmed text
- `exists_eq_append_trim`, `trim_append_append`: a text is its trimmed form between blanks
- `trim_append_eq_self`: texts that are put together from trimmed ones
-/

namespace CssTheming.Text

/-- Trimming the start keeps a text exactly if it does not start with a blank. -/
private theorem trimStart_eq_self_iff {t : Text} :
    trimStart t = t ↔ ∀ c ∈ t.head?, isBlank c = false := by
  rw [trimStart, List.dropWhile_eq_self_iff]
  cases t <;> simp

/-- Trimming the end is dropping from the right, so all that is known of that holds of it. -/
private theorem trimEnd_eq_rdropWhile (t : Text) : trimEnd t = t.rdropWhile isBlank :=
  rfl

/-- Trimming the end keeps a text exactly if it does not end with a blank. -/
private theorem trimEnd_eq_self_iff {t : Text} :
    trimEnd t = t ↔ ∀ c ∈ t.getLast?, isBlank c = false := by
  rw [trimEnd_eq_rdropWhile, List.rdropWhile_eq_self_iff]
  rcases List.eq_nil_or_concat t with rfl | ⟨t, c, rfl⟩ <;> simp

/-- Trimming keeps a text exactly if neither of its ends is blank. -/
theorem trim_eq_self_iff {t : Text} :
    trim t = t ↔
      (∀ c ∈ t.head?, isBlank c = false) ∧ ∀ c ∈ t.getLast?, isBlank c = false := by
  rw [← trimStart_eq_self_iff, ← trimEnd_eq_self_iff]
  constructor
  · intro h
    -- both steps shorten the text if they change it, so neither does
    have hend := (List.rdropWhile_prefix isBlank (trimStart t)).length_le
    have hlen : (trimEnd (trimStart t)).length = t.length := congrArg List.length h
    rw [trimEnd_eq_rdropWhile] at hlen
    have hsuffix : trimStart t <:+ t := List.dropWhile_suffix isBlank
    have hstart : trimStart t = t := hsuffix.eq_of_length_le (by omega)
    refine ⟨hstart, ?_⟩
    rwa [trim, hstart] at h
  · rintro ⟨hstart, hend⟩
    rw [trim, hstart, hend]

/-- Trimming the end leaves the first character alone, if anything is left. -/
theorem head?_trimEnd {t : Text} {c : Char} (h : c ∈ (trimEnd t).head?) : c ∈ t.head? := by
  obtain ⟨back, hback⟩ := List.rdropWhile_prefix isBlank t
  rw [← hback, List.head?_append, show (t.rdropWhile isBlank).head? = some c from h]
  rfl

/-- What was trimmed is not trimmed any further. -/
@[simp] theorem trim_trim (t : Text) : trim (trim t) = trim t := by
  have hstart := trimStart_eq_self_iff.1 (List.dropWhile_idempotent isBlank t)
  have hend := trimEnd_eq_self_iff.1 (List.rdropWhile_idempotent isBlank (trimStart t))
  exact trim_eq_self_iff.2 ⟨fun c hc => hstart c (head?_trimEnd hc), hend⟩

/-- Trimming leaves nothing exactly of a text that is blank all through. -/
theorem trim_eq_nil_iff {t : Text} : trim t = [] ↔ ∀ c ∈ t, isBlank c = true := by
  rw [trim, trimEnd_eq_rdropWhile, List.rdropWhile_eq_nil_iff]
  constructor
  · intro h
    rw [← List.dropWhile_eq_nil_iff]
    -- a first character that is not blank would have been kept
    cases hstart : t.dropWhile isBlank with
    | nil => rfl
    | cons c rest =>
      have hblank : isBlank c = true := h c (by simp [trimStart, hstart])
      have hc := List.head?_dropWhile_not isBlank t
      rw [hstart] at hc
      cases hblank.symm.trans hc
  · exact fun h c hc => h c ((List.dropWhile_sublist isBlank).mem hc)

/-- A blank in front makes no difference. -/
theorem trim_cons_of_isBlank {c : Char} (h : isBlank c = true) (t : Text) :
    trim (c :: t) = trim t := by
  simp [trim, trimStart, h]

/-- What is appended to a trimmed text is trimmed at its end only. -/
theorem trim_append {s : Text} (hs : trim s = s) (hs' : s ≠ []) (t : Text) :
    trim (s ++ t) = s ++ trimEnd t := by
  obtain ⟨hhead, hlast⟩ := trim_eq_self_iff.1 hs
  -- nothing is trimmed at the start, where the trimmed text begins
  have hstart : trimStart (s ++ t) = s ++ t := by
    rw [trimStart_eq_self_iff]
    obtain ⟨c, s, rfl⟩ := List.exists_cons_of_ne_nil hs'
    simpa using hhead
  -- seen from the end, trimming stops at the trimmed text at the latest
  have hreverse : s.reverse.dropWhile isBlank = s.reverse :=
    trimStart_eq_self_iff.2 (by rwa [List.head?_reverse])
  rw [trim, hstart, trimEnd, trimEnd, List.reverse_append, List.dropWhile_append, hreverse]
  split
  · next h =>
    rw [List.isEmpty_iff] at h
    rw [h, List.reverse_reverse, List.reverse_nil, List.append_nil]
  · rw [List.reverse_append, List.reverse_reverse]

/-- Trimming takes blanks away in front and behind, and nothing else. -/
theorem exists_eq_append_trim (t : Text) :
    ∃ front back, (∀ c ∈ front, isBlank c = true) ∧ (∀ c ∈ back, isBlank c = true) ∧
      t = front ++ trim t ++ back := by
  refine ⟨t.takeWhile isBlank, ((trimStart t).reverse.takeWhile isBlank).reverse, ?_, ?_, ?_⟩
  · exact fun c hc => List.mem_takeWhile_imp hc
  · exact fun c hc => List.mem_takeWhile_imp (List.mem_reverse.1 hc)
  · rw [List.append_assoc, trim, trimEnd, ← List.reverse_append, List.takeWhile_append_dropWhile,
      List.reverse_reverse, trimStart, List.takeWhile_append_dropWhile]

/-- A trimmed text is what is left if blanks are put in front of it and behind it. -/
theorem trim_append_append {front t back : Text} (hfront : ∀ c ∈ front, isBlank c = true)
    (ht : trim t = t) (hback : ∀ c ∈ back, isBlank c = true) : trim (front ++ t ++ back) = t := by
  induction front with
  | nil =>
    rw [List.nil_append]
    by_cases hne : t = []
    · subst hne
      exact trim_eq_nil_iff.2 hback
    · have hend : trimEnd back = [] := List.rdropWhile_eq_nil_iff.2 hback
      rw [trim_append ht hne, hend, List.append_nil]
  | cons c front ih =>
    obtain ⟨hc, hfront⟩ := List.forall_mem_cons.1 hfront
    rw [List.cons_append, List.cons_append, trim_cons_of_isBlank hc, ih hfront]

/-- Texts without a blank end make up a text without one. -/
theorem trim_append_eq_self {s t : Text} (hs : trim s = s) (ht : trim t = t) (hs' : s ≠ [])
    (ht' : t ≠ []) (u : Text) : trim (s ++ u ++ t) = s ++ u ++ t := by
  rw [trim_eq_self_iff] at hs ht ⊢
  obtain ⟨c, s, rfl⟩ := List.exists_cons_of_ne_nil hs'
  refine ⟨by simpa using hs.1, ?_⟩
  obtain ⟨d, hd⟩ := Option.isSome_iff_exists.1 (List.getLast?_isSome.2 ht')
  rw [List.getLast?_append, hd, Option.some_or, ← hd]
  exact ht.2

end CssTheming.Text
