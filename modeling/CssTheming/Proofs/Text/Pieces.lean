import CssTheming.Text.Basic
import Mathlib.Data.List.Basic

/-!
# Texts put together and taken apart

Joined texts, and slices that give a text back from between two others.

## Key results

- `join_append`, `join_map_join`, `join_map_append`: joining in parts
- `notMem_join`: what does not occur in a joined text
- `slice_append_append`: the slice between two texts
-/

namespace CssTheming.Text

variable {separator : Text} {parts parts' : List Text}

/-- A single text is joined with nothing. -/
theorem join_singleton (separator t : Text) : join separator [t] = t :=
  List.intercalate_singleton

/-- A separator stands behind a text that is not the last. -/
theorem join_cons_of_ne_nil (h : parts ≠ []) (t : Text) :
    join separator (t :: parts) = t ++ separator ++ join separator parts :=
  List.intercalate_cons_of_ne_nil h

/-- A joined text is not empty if its first part is not. -/
theorem join_cons_ne_nil {t : Text} (ht : t ≠ []) (parts : List Text) :
    join separator (t :: parts) ≠ [] := by
  by_cases hparts : parts = []
  · subst hparts
    rwa [join_singleton]
  · rw [join_cons_of_ne_nil hparts]
    simp [ht]

/-- A separator stands between two groups of joined texts. -/
theorem join_append (h : parts ≠ []) (h' : parts' ≠ []) :
    join separator (parts ++ parts') =
      join separator parts ++ separator ++ join separator parts' := by
  induction parts with
  | nil => exact absurd rfl h
  | cons t parts ih =>
    by_cases hparts : parts = []
    · subst hparts
      rw [List.singleton_append, join_cons_of_ne_nil h', join_singleton]
    · have hne : parts ++ parts' ≠ [] := by simp [hparts]
      rw [List.cons_append, join_cons_of_ne_nil hne, ih hparts, join_cons_of_ne_nil hparts]
      simp

/-- Joining groups of texts, and then the texts that come of it, is joining all of them. -/
theorem join_map_join {groups : List (List Text)} (h : ∀ group ∈ groups, group ≠ []) :
    join separator (groups.map (join separator)) = join separator groups.flatten := by
  induction groups with
  | nil => rfl
  | cons group groups ih =>
    obtain ⟨hgroup, hgroups⟩ := List.forall_mem_cons.1 h
    by_cases hne : groups = []
    · subst hne
      rw [List.map_singleton, List.flatten_singleton, join_singleton]
    · have hflatten : groups.flatten ≠ [] := by
        obtain ⟨first, groups, rfl⟩ := List.exists_cons_of_ne_nil hne
        simp [hgroups first List.mem_cons_self]
      rw [List.map_cons, join_cons_of_ne_nil (by simpa using hne), List.flatten_cons,
        join_append hgroup hflatten, ih hgroups]

/-- Text behind each of the joined texts is part of the separator, but for the last. -/
theorem join_map_append (h : parts ≠ []) (back : Text) :
    join separator (parts.map (· ++ back)) = join (back ++ separator) parts ++ back := by
  induction parts with
  | nil => exact absurd rfl h
  | cons t parts ih =>
    by_cases hne : parts = []
    · subst hne
      rw [List.map_singleton, join_singleton, join_singleton]
    · -- the text behind the first part stands in front of the separator
      rw [List.map_cons, join_cons_of_ne_nil (by simpa using hne), join_cons_of_ne_nil hne, ih hne]
      simp

/-- A character that is neither in the separator nor in the parts is not in the joined text. -/
theorem notMem_join {c : Char} (hseparator : c ∉ separator) (h : ∀ t ∈ parts, c ∉ t) :
    c ∉ join separator parts := by
  induction parts with
  | nil => exact List.not_mem_nil
  | cons t parts ih =>
    obtain ⟨ht, hparts⟩ := List.forall_mem_cons.1 h
    by_cases hne : parts = []
    · subst hne
      rwa [join_singleton]
    · rw [join_cons_of_ne_nil hne]
      simp [ht, hseparator, ih hparts]

/-- The slice that leaves out as many characters at both ends as there are around a text. -/
theorem slice_append_append (front t : Text) {back : Text} (hback : back ≠ []) :
    (front ++ t ++ back).slice front.length (-back.length) = t := by
  have hpos : 0 < back.length := List.length_pos_iff.2 hback
  have hlength : (front ++ t ++ back).length = front.length + t.length + back.length := by
    rw [List.length_append, List.length_append]
  -- the slice starts behind the first text
  have hfirst : clippedOffset (front ++ t ++ back).length front.length = front.length := by
    rw [clippedOffset, if_neg (by omega), hlength]
    omega
  -- and ends where the last one starts, counted from the end
  have hlast : clippedOffset (front ++ t ++ back).length (-back.length) =
      front.length + t.length := by
    rw [clippedOffset, if_pos (by omega), hlength]
    omega
  rw [slice, hfirst, hlast, Nat.add_sub_cancel_left, List.append_assoc, List.drop_left,
    List.take_left]

end CssTheming.Text
