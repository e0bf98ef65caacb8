import CssTheming.Proofs.Theme.Segments
import Mathlib.Data.List.SplitBy

/-!
# Replacing whole words

A text falls into words, which are the longest runs of characters that extend names, and the single
characters between them. If all names consist of such characters, then a name stands alone just
where it is a word. So replacing names is replacing the words that are names, all at once.

## Main definitions

- `words`: the words of a text and the characters between them
- `IsRun`: all characters extend names, and there are some

## Key results

- `wordInduction`: induction on a text word by word
- `standsAt_append_iff`: a name stands alone at the start of a word just if it is the word
- `segmented_words`: the segments of a text are the words that are names, and characters
- `replacement_of_whole_words`: replacing names is replacing words
-/

namespace CssTheming.Replacement

variable {names : List Text} {before : Option Char} {name word behind t : Text}

/-! ## Words -/

/-- The longest runs of characters that extend names, and the single characters between them, in
    order. -/
def words (t : Text) : List Text :=
  t.splitBy fun c d => extendsName c && extendsName d

/-- A text that is not empty, and of which all characters extend names. -/
def IsRun (t : Text) : Prop :=
  t ≠ [] ∧ t.all extendsName = true

instance (t : Text) : Decidable (IsRun t) :=
  inferInstanceAs (Decidable (t ≠ [] ∧ t.all extendsName = true))

/-- A character that does not extend names stands between words. -/
private theorem words_cons {c : Char} (hc : extendsName c = false) (t : Text) :
    words (c :: t) = [c] :: words t := by
  have happend : words ([c] ++ t) = words [c] ++ words t :=
    List.splitBy_append (by simp [hc])
  exact happend

/-- A run of characters that extend names is a word if it is not continued. -/
private theorem words_append (hword : IsRun word) (hbehind : behind.head?.any extendsName = false) :
    words (word ++ behind) = word :: words behind := by
  have hchain : word.IsChain fun c d => (extendsName c && extendsName d) = true := by
    have hall := List.all_eq_true.1 hword.2
    refine (List.pairwise_of_forall_mem_list fun c hc d hd => ?_).isChain
    rw [hall c hc, hall d hd, Bool.and_self]
  -- the word ends where a character does not extend it
  have happend : words (word ++ behind) = words word ++ words behind := by
    refine List.splitBy_append fun c _ d hd => ?_
    rw [Option.mem_def.1 hd, Option.any_some] at hbehind
    rw [hbehind, Bool.and_false]
  rw [happend, words, List.splitBy_of_isChain hword.1 hchain, List.singleton_append]

/-- Induction on a text word by word. -/
theorem wordInduction {motive : Text → Prop} (nil : motive [])
    (cons : ∀ c t, extendsName c = false → motive t → motive (c :: t))
    (append : ∀ word behind, IsRun word → behind.head?.any extendsName = false → motive behind →
      motive (word ++ behind))
    (t : Text) : motive t := by
  induction t using List.lengthInduction with
  | step t ih =>
    cases t with
    | nil => exact nil
    | cons c t =>
      cases hc : extendsName c with
      | false => exact cons c t hc (ih t (Nat.lt_succ_self _))
      | true =>
        -- the word goes as far as the characters extend names
        have hbehind : ((c :: t).dropWhile extendsName).head?.any extendsName = false := by
          have hhead := List.head?_dropWhile_not extendsName (c :: t)
          cases h : ((c :: t).dropWhile extendsName).head? with
          | none => rfl
          | some d => rwa [h] at hhead
        have hlt : ((c :: t).dropWhile extendsName).length < (c :: t).length := by
          rw [List.dropWhile_cons_of_pos hc, List.length_cons]
          exact Nat.lt_succ_of_le (List.dropWhile_sublist _).length_le
        rw [← List.takeWhile_append_dropWhile (p := extendsName) (l := c :: t)]
        exact append _ _ ⟨by simp [hc], List.all_takeWhile⟩ hbehind (ih _ hlt)

/-! ## Names that are words -/

/-- Where no character extends names, none of them stands. -/
private theorem standsAt_eq_false (hname : IsRun name) (ht : t.head?.any extendsName = false) :
    standsAt name t = false := by
  rw [← Bool.not_eq_true, standsAt_iff]
  rintro ⟨behind, rfl, -⟩
  obtain ⟨c, u, rfl⟩ := List.exists_cons_of_ne_nil hname.1
  have hc := hname.2
  simp_all

/-- A name stands alone at the start of a word just if it is the word. -/
theorem standsAt_append_iff (hname : IsRun name) (hword : IsRun word)
    (hbehind : behind.head?.any extendsName = false) :
    standsAt name (word ++ behind) = true ↔ name = word := by
  rw [standsAt_iff]
  constructor
  · rintro ⟨behind', happend, hbehind'⟩
    -- the longer one of the two goes on with a character that extends names, and the other one ends
    rcases List.append_eq_append_iff.1 happend with ⟨u, rfl, rfl⟩ | ⟨u, rfl, rfl⟩
    · cases u with
      | nil => rw [List.append_nil]
      | cons c u =>
        have hall := hname.2
        simp_all
    · cases u with
      | nil => rw [List.append_nil]
      | cons c u =>
        have hall := hword.2
        simp_all
  · rintro rfl
    exact ⟨behind, rfl, hbehind⟩

/-! ## The segments of a text with words -/

/-- The segments of a word: the word itself if it is a name, and its characters otherwise. -/
def wordSegments (names : List Text) (word : Text) : List Segment :=
  if word ∈ names then [.found word] else word.map .kept

/-- Inside of a word no name is found, because the character in front of it extends names. -/
private theorem Segmented.keep_run {c : Char} {u : Text} {segs : List Segment}
    (hrun : (c :: u).all extendsName = true) (h : Segmented names (c :: u).getLast? behind segs) :
    Segmented names (some c) (u ++ behind) (u.map .kept ++ segs) := by
  induction u generalizing c with
  | nil => exact h
  | cons d u ih =>
    rw [List.all_cons, Bool.and_eq_true] at hrun
    rw [List.getLast?_cons_cons] at h
    refine .keep (fun name hlongest => ?_) (ih hrun.2 h)
    -- a name would need a character in front that does not extend it
    have hbefore := hlongest.before
    rw [Option.any_some, hrun.1] at hbefore
    cases hbefore

/-- The segments of a text are the words that are names, and the characters of all others. -/
theorem segmented_words (hnames : ∀ name ∈ names, IsRun name)
    (hbefore : before.any extendsName = false ∨ t.head?.any extendsName = false) :
    Segmented names before t ((words t).flatMap (wordSegments names)) := by
  have hnone {before : Option Char} {t : Text} (ht : t.head?.any extendsName = false)
      (name : Text) : ¬IsLongest names before t name := fun h => by
    have hstands := h.stands
    rw [standsAt_eq_false (hnames name h.mem) ht] at hstands
    cases hstands
  induction t using wordInduction generalizing before with
  | nil => exact .stop (hnone rfl)
  | cons c t hc ih =>
    -- the character is no name, since it extends none
    have hmem : [c] ∉ names := fun h => by simpa [hc] using (hnames _ h).2
    rw [words_cons hc, List.flatMap_cons, wordSegments, if_neg hmem]
    exact .keep (hnone hc) (ih (.inl hc))
  | append word behind hword hbehind ih =>
    have hstands {name : Text} (hname : name ∈ names) :
        standsAt name (word ++ behind) = true ↔ name = word :=
      standsAt_append_iff (hnames name hname) hword hbehind
    rw [words_append hword hbehind, List.flatMap_cons, wordSegments]
    obtain ⟨c, u, rfl⟩ := List.exists_cons_of_ne_nil hword.1
    have hc : extendsName c = true := List.all_eq_true.1 hword.2 c List.mem_cons_self
    have hbefore : before.any extendsName = false := by simpa [hc] using hbefore
    -- no name but the word itself stands here, so either it is the longest one or there is none
    by_cases hmem : c :: u ∈ names
    · rw [if_pos hmem]
      refine .found hword.1 ⟨hmem, hbefore, (hstands hmem).2 rfl, fun other hother hother' => ?_⟩
        (ih (.inr hbehind))
      rw [(hstands hother).1 hother']
    · rw [if_neg hmem]
      refine .keep (fun name h => ?_) (.keep_run hword.2 (ih (.inr hbehind)))
      rw [← (hstands h.mem).1 h.stands] at hmem
      exact hmem h.mem

/-- If all names consist of characters that extend names, and none is empty, then replacing them is
    replacing every word that is a name, and keeping all other words and the characters between
    them. What is written for a word depends on nothing but the word, so no part of a word is
    replaced, and no replacement is read again. -/
theorem replacement_of_whole_words {replacements : Entries Text}
    (hnames : ∀ name ∈ replacements.keys, IsRun name) (value : Text) :
    replaceAll replacements value =
      (words value).flatMap fun word => (replacements.get? word).getD word := by
  rw [(segmented_words hnames (.inl rfl)).replaceAll_eq, List.flatMap_assoc]
  refine congrArg (List.flatMap · (words value)) (funext fun word => ?_)
  rw [wordSegments]
  split
  · rw [List.flatMap_singleton, Segment.fill_found]
  · next hmem =>
    rw [Entries.get?_eq_none_iff.2 hmem, List.flatMap_map]
    simp

/-- Two names that are exchanged, and one that they make up. -/
def exchangedNames : Entries Text := [("a", "b"), ("b", "a"), ("a-b", "a b")]

/-- Both names are exchanged at once, but not in the longer name nor in a word that is no name. -/
theorem replacement_of_whole_words_of_exchanged_names :
    (∀ name ∈ exchangedNames.keys, IsRun name) ∧
      words "a*b a-b (a-b-a)" = ["a", "*", "b", " ", "a-b", " ", "(", "a-b-a", ")"] ∧
      replaceAll exchangedNames "a*b a-b (a-b-a)" = ("b*a a b (a-b-a)" : Text) := by
  have hnames : ∀ name ∈ exchangedNames.keys, IsRun name := by decide +kernel
  refine ⟨hnames, by decide +kernel, ?_⟩
  rw [replacement_of_whole_words hnames]
  decide +kernel

end CssTheming.Replacement
