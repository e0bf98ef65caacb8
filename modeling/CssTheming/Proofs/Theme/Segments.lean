import CssTheming.Proofs.Entries
import CssTheming.Theme.Replacement

/-!
# The segments of a value

Where names are replaced in a value, the value is read from left to right. At each place the longest
name that stands alone there is taken, and the reading goes on behind it. Where there is none, one
character is kept. So the value falls into segments, which depend on the names alone, and replacing
the names is writing their replacements into these segments.

## Main definitions

- `IsLongest`: the longest name that stands alone at a place
- `Segment`, `Segment.fill`: a name or a character that is kept, and what is written for it
- `Segmented`: how a text is read as segments

## Key results

- `IsLongest.unique`: at each place there is at most one longest name
- `isLongest_of_matchAt?`, `not_isLongest_of_matchAt?_eq_none`: the search for a name finds it
- `exists_segmented`, `Segmented.unique`: every text is read in exactly one way
- `Segmented.replaceAll_eq`: replacing names is writing into the segments
-/

namespace CssTheming.Replacement

variable {names : List Text} {replacements : Entries Text} {before : Option Char} {name t : Text}

/-! ## The longest name at a place -/

/-- A name stands alone at the start of a text that goes on with a character that does not extend
    it. -/
theorem standsAt_iff :
    standsAt name t = true ↔
      ∃ behind, t = name ++ behind ∧ behind.head?.any extendsName = false := by
  unfold standsAt
  cases hfront : name.isPrefixOf? t with
  | none =>
    simp only [Bool.false_eq_true, false_iff, not_exists, not_and]
    intro behind hbehind
    rw [eq_comm, ← List.isPrefixOf?_eq_some_iff_append_eq, hfront] at hbehind
    cases hbehind
  -- the text behind the name is the only one there can be
  | some behind =>
    rw [List.isPrefixOf?_eq_some_iff_append_eq] at hfront
    subst hfront
    simp [List.append_cancel_left_eq]

/-- The longest of several names that stand alone at the start of `t`, where `before` is the
    character in front of `t`. -/
structure IsLongest (names : List Text) (before : Option Char) (t name : Text) : Prop where
  mem : name ∈ names
  before : before.any extendsName = false
  stands : standsAt name t = true
  longest : ∀ other ∈ names, standsAt other t = true → other.length ≤ name.length

/-- The longest name is what the text starts with. -/
private theorem IsLongest.exists_behind (h : IsLongest names before t name) :
    ∃ behind, t = name ++ behind := by
  obtain ⟨behind, hbehind, -⟩ := standsAt_iff.1 h.stands
  exact ⟨behind, hbehind⟩

/-- There is only one longest name at a place, since two names of one length are the same there. -/
theorem IsLongest.unique {name' : Text} (h : IsLongest names before t name)
    (h' : IsLongest names before t name') : name = name' := by
  obtain ⟨behind, hbehind⟩ := h.exists_behind
  obtain ⟨behind', hbehind'⟩ := h'.exists_behind
  have hle := h'.longest name h.mem h.stands
  have hge := h.longest name' h'.mem h'.stands
  -- both are what the text starts with, and they are of one length
  exact List.append_inj_left (hbehind.symm.trans hbehind') (by omega)

/-- Entries with names of one length stay in order when the entries with longer names are put
    first. -/
private theorem filter_longestFirst {p : Text × Text → Bool}
    (hp : ∀ r s, p r = true → p s = true → r.1.length = s.1.length) :
    (longestFirst replacements).filter p = replacements.filter p := by
  -- what the sort finds in order, it keeps in order, and it loses none of it
  have hordered : (replacements.filter p).Pairwise fun r s =>
      decide (s.1.length ≤ r.1.length) = true := by
    refine List.pairwise_iff_forall_sublist.2 fun {r s} hpair => ?_
    have hr := (List.mem_filter.1 (hpair.mem List.mem_cons_self)).2
    have hs := (List.mem_filter.1 (hpair.mem (List.mem_cons_of_mem _ List.mem_cons_self))).2
    simp [hp r s hr hs]
  have hsublist : (replacements.filter p).Sublist (longestFirst replacements) :=
    List.sublist_mergeSort (by grind) (by grind) hordered List.filter_sublist
  have hperm : (longestFirst replacements).Perm replacements := List.mergeSort_perm _ _
  have hfilter := hsublist.filter p
  rw [List.filter_filter] at hfilter
  simp only [Bool.and_self] at hfilter
  exact (hfilter.eq_of_length (hperm.filter p).length_eq.symm).symm

/-- The first entry with a name stays the first one with it. -/
private theorem get?_longestFirst (replacements : Entries Text) (name : Text) :
    (longestFirst replacements).get? name = replacements.get? name := by
  rw [Entries.get?_eq_head?_filter, Entries.get?_eq_head?_filter, filter_longestFirst]
  intro r s hr hs
  rw [eq_of_beq hr, eq_of_beq hs]

/-- No entry comes in front of one with a longer name. -/
private theorem pairwise_longestFirst (replacements : Entries Text) :
    (longestFirst replacements).Pairwise fun r s => s.1.length ≤ r.1.length := by
  have h : (longestFirst replacements).Pairwise fun r s =>
      decide (s.1.length ≤ r.1.length) = true :=
    List.pairwise_mergeSort (by grind) (by grind) replacements
  simpa using h

private theorem mem_longestFirst {r : Text × Text} :
    r ∈ longestFirst replacements ↔ r ∈ replacements :=
  List.mem_mergeSort

/-- The search at a place finds the longest name that stands alone there, with its replacement. -/
theorem isLongest_of_matchAt? {replacement : Text}
    (h : matchAt? (longestFirst replacements) before t = some (name, replacement)) :
    IsLongest replacements.keys before t name ∧ replacements.get? name = some replacement := by
  unfold matchAt? at h
  split at h
  · cases h
  · next hbefore =>
    obtain ⟨hstands, front, behind, hsplit, hfront⟩ := List.find?_eq_some_iff_append.1 h
    have hnone {other : Text} (hother : standsAt other t = true) : ∀ r ∈ front, r.1 ≠ other := by
      rintro r hr rfl
      simpa [hother] using hfront r hr
    constructor
    · refine ⟨?_, by simpa using hbefore, hstands, fun other hmem hother => ?_⟩
      · exact List.mem_map_of_mem (mem_longestFirst.1 (List.mem_of_find?_eq_some h))
      · -- the entry of any other name that stands alone comes no earlier
        obtain ⟨r, hr, rfl⟩ := List.mem_map.1 hmem
        have hpairwise := pairwise_longestFirst replacements
        rw [← mem_longestFirst, hsplit, List.mem_append, List.mem_cons] at hr
        rw [hsplit, List.pairwise_append, List.pairwise_cons] at hpairwise
        rcases hr with hr | rfl | hr
        · exact absurd rfl (hnone hother r hr)
        · exact Nat.le_refl _
        · exact hpairwise.2.1.1 r hr
    · -- the entry is the first one with its name
      rw [← get?_longestFirst, Entries.get?, List.lookup_eq_some_iff]
      refine ⟨front, behind, hsplit, fun r hr => ?_⟩
      simpa using (hnone hstands r hr).symm

/-- Where the search finds nothing, no name stands alone. -/
theorem not_isLongest_of_matchAt?_eq_none
    (h : matchAt? (longestFirst replacements) before t = none) :
    ¬IsLongest replacements.keys before t name := by
  intro hlongest
  obtain ⟨r, hr, rfl⟩ := List.mem_map.1 hlongest.mem
  rw [matchAt?, hlongest.before, if_neg Bool.false_ne_true, List.find?_eq_none] at h
  exact h r (mem_longestFirst.2 hr) hlongest.stands

/-- The longest name at a place is found there. -/
private theorem IsLongest.matchAt?_eq (h : IsLongest replacements.keys before t name) :
    ∃ replacement, replacements.get? name = some replacement ∧
      matchAt? (longestFirst replacements) before t = some (name, replacement) := by
  cases hmatch : matchAt? (longestFirst replacements) before t with
  | none => exact absurd h (not_isLongest_of_matchAt?_eq_none hmatch)
  | some r =>
    obtain ⟨hlongest, hget⟩ := isLongest_of_matchAt? hmatch
    obtain rfl := h.unique hlongest
    exact ⟨r.2, hget, rfl⟩

/-- Where no name stands alone, the search finds nothing. -/
private theorem matchAt?_eq_none (h : ∀ name, ¬IsLongest replacements.keys before t name) :
    matchAt? (longestFirst replacements) before t = none := by
  rw [Option.eq_none_iff_forall_ne_some]
  intro r hr
  exact h r.1 (isLongest_of_matchAt? hr).1

/-! ## Reading a text as segments -/

/-- A part of a text in which names are replaced. -/
inductive Segment where
  /-- A character that belongs to no name. -/
  | kept (c : Char)
  /-- A name that stands alone. -/
  | found (name : Text)
deriving DecidableEq, Repr

namespace Segment

/-- The name that a segment is. -/
def name? : Segment → Option Text
  | kept _ => none
  | found name => some name

/-- What is written for a segment, if `text` is written for names. -/
def fill (text : Text → Text) : Segment → Text
  | kept c => [c]
  | found name => text name

@[simp] theorem fill_kept (text : Text → Text) (c : Char) : (kept c).fill text = [c] := rfl

@[simp] theorem fill_found (text : Text → Text) (name : Text) :
    (found name).fill text = text name := rfl

end Segment

/-- How a text is read as segments, where `before` is the character in front of it. At each place
    the longest name that stands alone there is read, and if there is none, a character is kept. The
    empty name covers no character, so the one behind it is kept. -/
inductive Segmented (names : List Text) : Option Char → Text → List Segment → Prop
  /-- Nothing is left, and no name stands behind the text. -/
  | stop {before : Option Char} (h : ∀ name, ¬IsLongest names before [] name) :
    Segmented names before [] []
  /-- Nothing is left, but the empty name stands behind the text. -/
  | stopEmpty {before : Option Char} (h : IsLongest names before [] []) :
    Segmented names before [] [.found []]
  /-- No name stands in front of a character. -/
  | keep {before : Option Char} {c : Char} {t : Text} {segments : List Segment}
      (h : ∀ name, ¬IsLongest names before (c :: t) name)
      (hrest : Segmented names (some c) t segments) :
    Segmented names before (c :: t) (.kept c :: segments)
  /-- No name but the empty one stands in front of a character. -/
  | keepEmpty {before : Option Char} {c : Char} {t : Text} {segments : List Segment}
      (h : IsLongest names before (c :: t) []) (hrest : Segmented names (some c) t segments) :
    Segmented names before (c :: t) (.found [] :: .kept c :: segments)
  /-- A name stands there, and what is behind it is read with its last character in front. -/
  | found {before : Option Char} {name t : Text} {segments : List Segment} (hname : name ≠ [])
      (h : IsLongest names before (name ++ t) name)
      (hrest : Segmented names name.getLast? t segments) :
    Segmented names before (name ++ t) (.found name :: segments)

/-- Every text can be read as segments. -/
theorem exists_segmented (names : List Text) (before : Option Char) (t : Text) :
    ∃ segments, Segmented names before t segments := by
  -- a name may cover many characters, so the induction is on the length of what is left
  induction t using List.lengthInduction generalizing before with
  | step t ih =>
    by_cases hlongest : ∃ name, IsLongest names before t name
    · obtain ⟨name, hname⟩ := hlongest
      obtain ⟨behind, rfl⟩ := hname.exists_behind
      cases name with
      | nil =>
        cases behind with
        | nil => exact ⟨_, .stopEmpty hname⟩
        | cons c behind =>
          obtain ⟨segments, hsegments⟩ := ih behind (Nat.lt_succ_self _) (some c)
          exact ⟨_, .keepEmpty hname hsegments⟩
      | cons c name =>
        -- the name covers a character, so what is behind it is shorter
        have hlt : behind.length < (c :: name ++ behind).length := by
          rw [List.length_append, List.length_cons]
          omega
        obtain ⟨segments, hsegments⟩ := ih behind hlt (c :: name).getLast?
        exact ⟨_, .found (List.cons_ne_nil c name) hname hsegments⟩
    · have hnone : ∀ name, ¬IsLongest names before t name := not_exists.1 hlongest
      cases t with
      | nil => exact ⟨_, .stop hnone⟩
      | cons c t =>
        obtain ⟨segments, hsegments⟩ := ih t (Nat.lt_succ_self _) (some c)
        exact ⟨_, .keep hnone hsegments⟩

namespace Segmented

variable {segs : List Segment}

/-- There is only one way to read a text. -/
theorem unique {segs' : List Segment} (h : Segmented names before t segs)
    (h' : Segmented names before t segs') : segs = segs' := by
  induction h generalizing segs' with
  -- a name and the text behind it are no pattern, so the text is generalized before the cases
  | stop h =>
    generalize ht : ([] : Text) = t at h'
    cases h' with
    | stop => rfl
    | stopEmpty h' => exact absurd h' (h _)
    | keep | keepEmpty => cases ht
    | found _ h' => exact absurd (ht ▸ h') (h _)
  | stopEmpty h =>
    generalize ht : ([] : Text) = t at h'
    cases h' with
    | stop h' => exact absurd h (h' _)
    | stopEmpty => rfl
    | keep | keepEmpty => cases ht
    | found hne h' => exact absurd (h.unique (ht ▸ h')).symm hne
  | @keep before c t _ h _ ih =>
    generalize ht : c :: t = t' at h'
    cases h' with
    | stop | stopEmpty => cases ht
    | keep h' hrest => cases ht; rw [ih hrest]
    | keepEmpty h' => cases ht; exact absurd h' (h _)
    | found _ h' => exact absurd (ht ▸ h') (h _)
  | @keepEmpty before c t _ h _ ih =>
    generalize ht : c :: t = t' at h'
    cases h' with
    | stop | stopEmpty => cases ht
    | keep h' hrest => cases ht; exact absurd h (h' _)
    | keepEmpty h' hrest => cases ht; rw [ih hrest]
    | found hne h' => exact absurd (h.unique (ht ▸ h')).symm hne
  | @found before name t _ hne h _ ih =>
    generalize ht : name ++ t = t' at h'
    cases h' with
    | stop h' => exact absurd (ht ▸ h) (h' _)
    | stopEmpty h' => exact absurd (h.unique (ht ▸ h')) hne
    | keep h' => exact absurd (ht ▸ h) (h' _)
    | keepEmpty h' => exact absurd (h.unique (ht ▸ h')) hne
    | found hne' h' hrest =>
      obtain rfl := h.unique (ht ▸ h')
      obtain rfl := List.append_cancel_left ht
      rw [ih hrest]

end Segmented

/-! ## Replacing names segment by segment -/

/-- Behind a name of which the first character was read, the others are passed over. -/
private theorem replaceFrom_append (replacements : Entries Text) (c : Char) (u t : Text) :
    replaceFrom replacements (some c) u.length (u ++ t) =
      replaceFrom replacements (c :: u).getLast? 0 t := by
  induction u generalizing c with
  | nil => rfl
  | cons d u ih =>
    rw [List.cons_append, List.length_cons, replaceFrom, ih, List.getLast?_cons_cons]

/-- Replacing names is writing their replacements for the segments that are names. -/
private theorem Segmented.replaceFrom_eq {segs : List Segment}
    (h : Segmented replacements.keys before t segs) :
    replaceFrom (longestFirst replacements) before 0 t =
      segs.flatMap (Segment.fill fun name => (replacements.get? name).getD name) := by
  induction h with
  | stop h =>
    rw [replaceFrom, matchAt?_eq_none h]
    rfl
  | stopEmpty h =>
    obtain ⟨replacement, hget, hmatch⟩ := h.matchAt?_eq
    simp [replaceFrom, hmatch, hget]
  | keep h _ ih =>
    simp only [replaceFrom, matchAt?_eq_none h, ih, List.flatMap_cons, Segment.fill_kept,
      List.singleton_append]
  | keepEmpty h _ ih =>
    obtain ⟨replacement, hget, hmatch⟩ := h.matchAt?_eq
    simp [replaceFrom, hmatch, hget, ih]
  | @found before name t segs hname h _ ih =>
    obtain ⟨replacement, hget, hmatch⟩ := h.matchAt?_eq
    -- the name is taken at its first character, and the others are passed over
    obtain ⟨c, u, rfl⟩ := List.exists_cons_of_ne_nil hname
    rw [List.cons_append] at hmatch ⊢
    simp [replaceFrom, hmatch, hget, replaceFrom_append, ih]

/-- Replacing names in a value is writing their replacements for the segments that are names. -/
theorem Segmented.replaceAll_eq {value : Text} {segs : List Segment}
    (h : Segmented replacements.keys none value segs) :
    replaceAll replacements value =
      segs.flatMap (Segment.fill fun name => (replacements.get? name).getD name) :=
  h.replaceFrom_eq

end CssTheming.Replacement
