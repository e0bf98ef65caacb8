import CssTheming.Proofs.Selector.GroupEnds
import CssTheming.Proofs.Selector.HostParts
import CssTheming.Proofs.Text.Pieces

/-!
# Host selectors cut at offsets

The parts of a host selector can also be cut out of its text at the offsets that two scanners find:
where the first compound ends, and where the parentheses of the group stand in it. A search for a
group fails if no parenthesis opens at the offset where it starts. That never happens here, whatever
the text, and the parts that are cut out are the same.

## Main definitions

- `HostSelector.cutAtOffsets`: the parts of a text that starts with `:host`, cut out at offsets
- `HostSelector.readAtOffsets`: the parts of a selector that are read in this way

## Key results

- `Text.slice_natCast`: the slice between two offsets
- `GroupSpan.inner_group`, `GroupSpan.slice_behind_group`: the text in a group and the text behind
  it
- `Selector.take_firstCompoundEnd`, `Selector.drop_firstCompoundEnd`: the text cut at the end of its
  first compound
- `HostSelector.readAtOffsets_eq`: cutting at offsets does not fail, and gives the parts
- `host_parts_lose_nothing`: the parts make up the trimmed selector again
-/

namespace CssTheming

namespace Text

/-- The slice between two offsets that are counted from the start. -/
theorem slice_natCast (t : Text) (i j : Nat) : t.slice i j = (t.drop i).take (j - i) := by
  have hclip (k : Nat) : clippedOffset t.length k = min k t.length := by
    rw [clippedOffset, if_neg (by omega), Int.toNat_natCast]
  rw [slice, hclip, hclip]
  by_cases hi : i ≤ t.length
  · -- what lies behind the end of the text does not count
    rw [Nat.min_eq_left hi, List.take_eq_take_iff, List.length_drop]
    omega
  · rw [List.drop_eq_nil_of_le (by omega), List.drop_eq_nil_of_le (by omega), List.take_nil,
      List.take_nil]

end Text

namespace GroupSpan

variable (front inside behind : Text)

/-- The text between the parentheses of a group somewhere in a text. -/
theorem inner_group :
    inner { start := front.length, stop := front.length + (inside.length + 1 : Nat) }
      (front ++ '(' :: (inside ++ ')' :: behind)) = inside := by
  have hstart : (front.length : Int) + 1 = ((front ++ ['(']).length : Nat) := by simp
  have hstop : (front.length : Int) + (inside.length + 1 : Nat) =
      ((front ++ ['(']).length + inside.length : Nat) := by
    rw [List.length_append, List.length_singleton]
    omega
  -- the text inside starts behind the opening parenthesis
  have htext : front ++ '(' :: (inside ++ ')' :: behind) =
      (front ++ ['(']) ++ (inside ++ ')' :: behind) := by simp
  rw [inner, hstart, hstop, Text.slice_natCast, htext, List.drop_left, Nat.add_sub_cancel_left,
    List.take_left]

/-- The text behind a group somewhere in a text. -/
theorem slice_behind_group :
    Text.slice (front ++ '(' :: (inside ++ ')' :: behind))
      (front.length + (inside.length + 1 : Nat) + 1)
      (front ++ '(' :: (inside ++ ')' :: behind)).length = behind := by
  have hstart : (front.length : Int) + (inside.length + 1 : Nat) + 1 =
      ((front ++ '(' :: (inside ++ [')'])).length : Nat) := by
    rw [List.length_append, List.length_cons, List.length_append, List.length_singleton]
    omega
  have htext : front ++ '(' :: (inside ++ ')' :: behind) =
      (front ++ '(' :: (inside ++ [')'])) ++ behind := by simp
  rw [hstart, Text.slice_natCast, htext, List.drop_left, List.length_append,
    Nat.add_sub_cancel_left, List.take_length]

end GroupSpan

namespace Selector

theorem take_firstCompoundEnd (t : Text) : t.take (firstCompoundEnd t) = (firstCompound t).1 := by
  have h : ((firstCompound t).1 ++ (firstCompound t).2).take (firstCompoundEnd t) =
      (firstCompound t).1 := List.take_left
  rwa [firstCompound_append] at h

theorem drop_firstCompoundEnd (t : Text) : t.drop (firstCompoundEnd t) = (firstCompound t).2 := by
  have h : ((firstCompound t).1 ++ (firstCompound t).2).drop (firstCompoundEnd t) =
      (firstCompound t).2 := List.drop_left
  rwa [firstCompound_append] at h

end Selector

namespace HostSelector

open Selector

/-- Cuts a text that starts with `:host` into parts at offsets: that of the end of the first
    compound, and those of the two parentheses of the group in it. -/
def cutAtOffsets (t : Text) : Except GroupError HostSelector := do
  let compound := t.take (firstCompoundEnd t)
  let rest := t.drop (firstCompoundEnd t)
  if !List.isPrefixOf (keyword ++ ['(']) compound then
    let trailing := compound.drop keyword.length
    return { argument := none, trailing, rest, closed := true }
  -- the group opens right behind `:host`, and it is looked for in the compound alone
  match ← GroupSpan.find compound keyword.length with
  | none =>
    let argument := compound.drop (keyword.length + 1)
    return { argument := some argument, trailing := [], rest, closed := false }
  | some span =>
    let trailing := Text.slice compound (span.stop + 1) compound.length
    return { argument := some (span.inner compound), trailing, rest, closed := true }

/-- Reads the parts of a selector at offsets, if its first compound starts with `:host`. -/
def readAtOffsets (selector : Text) : Except GroupError (Option HostSelector) :=
  let t := selector.trim
  if !keyword.isPrefixOf t then .ok none
  else if (t.drop keyword.length).head?.any continuesName then .ok none
  else (cutAtOffsets t).map some

/-- `:host` belongs to the first compound, and leaves nothing open. -/
theorem firstCompound_keyword_append (after : Text) :
    firstCompound (keyword ++ after) =
      (keyword ++ (firstCompound after).1, (firstCompound after).2) :=
  firstCompound_append_of_clean (t := keyword) (by decide) after

/-- A group right behind `:host` is cut out at its two parentheses. -/
private theorem cutAtOffsets_of_group {after inside rest : Text}
    (hcut : firstCompound after = ('(' :: inside, rest)) :
    cutAtOffsets (keyword ++ after) = .ok (ofAfterKeyword after) := by
  have hfirst := firstCompound_keyword_append after
  rw [hcut] at hfirst
  have hopen : List.isPrefixOf (keyword ++ ['(']) (keyword ++ '(' :: inside) = true := by
    rw [List.isPrefixOf_iff_prefix, List.prefix_append_right_inj]
    exact ⟨inside, rfl⟩
  have hdrop : (keyword ++ '(' :: inside).drop keyword.length = '(' :: inside := List.drop_left
  have hfind := GroupSpan.find_of_drop_eq hdrop
  rw [cutAtOffsets, take_firstCompoundEnd, drop_firstCompoundEnd, hfirst, ofAfterKeyword, hcut]
  simp only [hopen, Bool.not_true, Bool.false_eq_true, if_false, hfind, Group.endOffset?]
  cases hgroup : Group.cut inside with
  -- an open group takes all of the compound
  | none => rfl
  | some cut =>
    obtain ⟨argument, trailing⟩ := cut
    obtain rfl := Group.append_of_cutAt hgroup
    simp only [Option.map_some, bind, Except.bind, GroupSpan.inner_group,
      GroupSpan.slice_behind_group]
    rfl

/-- Without a group, all of the compound is cut off behind `:host`. -/
private theorem cutAtOffsets_of_head?_ne {after compound rest : Text}
    (hcut : firstCompound after = (compound, rest)) (hopen : compound.head? ≠ some '(') :
    cutAtOffsets (keyword ++ after) = .ok (ofAfterKeyword after) := by
  have hfirst := firstCompound_keyword_append after
  rw [hcut] at hfirst
  have hnone : List.isPrefixOf (keyword ++ ['(']) (keyword ++ compound) = false := by
    rw [← Bool.not_eq_true, List.isPrefixOf_iff_prefix, List.prefix_append_right_inj]
    rintro ⟨inside, rfl⟩
    exact hopen rfl
  rw [cutAtOffsets, take_firstCompoundEnd, drop_firstCompoundEnd, hfirst,
    ofAfterKeyword_of_head?_ne hcut hopen]
  simp only [hnone, Bool.not_false, if_true, List.drop_left]
  rfl

/-- Reading a selector at offsets does not fail, and gives its parts. -/
theorem readAtOffsets_eq (selector : Text) : readAtOffsets selector = .ok (parse? selector) := by
  rw [readAtOffsets, parse?]
  cases hfront : keyword.isPrefixOf? selector.trim with
  | none =>
    have hkeyword : keyword.isPrefixOf selector.trim = false := by
      rw [← Bool.not_eq_true, List.isPrefixOf_iff_prefix]
      rintro ⟨after, hafter⟩
      rw [← hafter, List.isPrefixOf?_eq_some_iff_append_eq.2 rfl] at hfront
      cases hfront
    rw [hkeyword]
    rfl
  | some after =>
    rw [List.isPrefixOf?_eq_some_iff_append_eq, eq_comm] at hfront
    -- from here on both look at the same text behind `:host`
    rw [hfront, List.drop_left, List.isPrefixOf_iff_prefix.2 (List.prefix_append _ _)]
    simp only [Bool.not_true, Bool.false_eq_true, if_false]
    split
    · rfl
    · obtain ⟨compound, rest, hcut⟩ :
          ∃ compound rest, firstCompound after = (compound, rest) := ⟨_, _, rfl⟩
      have hok : cutAtOffsets (keyword ++ after) = .ok (ofAfterKeyword after) := by
        by_cases hopen : compound.head? = some '('
        · obtain ⟨inside, rfl⟩ := List.head?_eq_some_iff.1 hopen
          exact cutAtOffsets_of_group hcut
        · exact cutAtOffsets_of_head?_ne hcut hopen
      rw [hok]
      rfl

end HostSelector

open HostSelector Selector in
/-- Reading a host selector loses nothing, also if it is malformed. The parts can be cut out at the
    offsets that the scanners find, which never fails, and they make up the trimmed selector again.
    What follows the first compound is empty, or starts with a blank or a combinator. -/
theorem host_parts_lose_nothing (s : Text) :
    readAtOffsets s = .ok (parse? s) ∧
      ∀ host, parse? s = some host →
        host.toText = s.trim ∧
          (host.rest = [] ∨ ∃ c rest, host.rest = c :: rest ∧
            (Text.isBlank c = true ∨ c = '>' ∨ c = '+' ∨ c = '~')) := by
  refine ⟨readAtOffsets_eq s, fun host hparse => ⟨toText_of_parse? hparse, ?_⟩⟩
  have hfollows := followsCompound_rest hparse
  cases hrest : host.rest with
  | nil => exact .inl rfl
  | cons c rest =>
    have hends : endsCompound c = true := hfollows c (by rw [hrest]; rfl)
    refine .inr ⟨c, rest, rfl, ?_⟩
    simpa [endsCompound, or_assoc] using hends

open HostSelector in
/-- A parenthesis in brackets closes the group, and the brackets trail it. The group of the second
    selector is never closed, so that what looks like a descendant is part of the argument. -/
theorem host_parts_lose_nothing_of_mismatched_groups :
    (readAtOffsets " :host([)].x)\t~ b " = .ok (parse? " :host([)].x)\t~ b ") ∧
      parse? " :host([)].x)\t~ b " =
        some { argument := some "[", trailing := "].x)", rest := "\t~ b", closed := true }) ∧
      parse? ":host(:is(a) > b" =
        some { argument := some ":is(a) > b", trailing := [], rest := [], closed := false } ∧
      toText { argument := some ":is(a) > b", trailing := [], rest := [], closed := false } =
        (":host(:is(a) > b" : Text) := by
  have hopen : parse? ":host(:is(a) > b" =
      some { argument := some ":is(a) > b", trailing := [], rest := [], closed := false } := by
    decide +kernel
  refine ⟨⟨(host_parts_lose_nothing _).1, by decide +kernel⟩, hopen, ?_⟩
  rw [((host_parts_lose_nothing _).2 _ hopen).1]
  decide +kernel

end CssTheming
