import CssTheming.Proofs.Selector.HostOffsets

/-!
# Host selectors with an open group

If the group of a host selector is never closed, then it takes all that is left of the selector.
That is so although one scanner finds the end of the first compound and another one the end of the
group: a compound ends where the stack of closing brackets is empty, and there the count of open
parentheses has come to an end before.

## Key results

- `Selector.exists_endOffset?_of_rest_ne_nil`: a group at the start of a compound is closed in it,
  if something follows the compound
- `HostSelector.ofAfterKeyword_of_closed_eq_false`: the parts of a selector with an open group
- `HostSelector.exists_span_of_firstCompoundEnd_lt`: the same as a search for the group at its
  offset
- `open_group_takes_all`: such a selector has an argument only, and is corrected at its end
-/

namespace CssTheming

namespace Selector

/-- A group at the start of a first compound is closed in it, if something follows the compound. -/
theorem exists_endOffset?_of_rest_ne_nil {t inside rest : Text}
    (hcut : firstCompound t = ('(' :: inside, rest)) (hrest : rest ≠ []) :
    ∃ n, Group.endOffset? inside = some n := by
  have hrun := run_firstCompound (t := t) (by rwa [hcut])
  rw [hcut] at hrun
  exact Group.exists_endOffset?_of_expected_run (congrArg Scan.expected hrun)

end Selector

namespace HostSelector

open Selector

/-- An open group takes all of the text as its argument. -/
theorem ofAfterKeyword_of_closed_eq_false {after : Text}
    (h : (ofAfterKeyword after).closed = false) :
    ∃ argument, after = '(' :: argument ∧
      ofAfterKeyword after =
        { argument := some argument, trailing := [], rest := [], closed := false } := by
  obtain ⟨compound, rest, hcut⟩ : ∃ compound rest, firstCompound after = (compound, rest) :=
    ⟨_, _, rfl⟩
  by_cases hopen : compound.head? = some '('
  · obtain ⟨inside, rfl⟩ := List.head?_eq_some_iff.1 hopen
    cases hgroup : Group.cut inside with
    | some cut =>
      simp only [ofAfterKeyword, hcut, hgroup] at h
      cases h
    | none =>
      -- if anything followed the compound, then the group would have been closed in it
      have hrest : rest = [] := by
        by_contra hne
        obtain ⟨n, hn⟩ := exists_endOffset?_of_rest_ne_nil hcut hne
        rw [Group.endOffset?, hgroup] at hn
        cases hn
      subst hrest
      have happend := firstCompound_append after
      rw [hcut, List.append_nil] at happend
      refine ⟨inside, happend.symm, ?_⟩
      simp only [ofAfterKeyword, hcut, hgroup]
  · -- without a group there is none to be left open
    rw [ofAfterKeyword_of_head?_ne hcut hopen] at h
    cases h

/-- Where the first compound of a text with a group behind `:host` ends before the text does, the
    search for the group in the compound finds its closing parenthesis. -/
theorem exists_span_of_firstCompoundEnd_lt {after : Text}
    (h : firstCompoundEnd (keyword ++ '(' :: after) < (keyword ++ '(' :: after).length) :
    ∃ span,
      GroupSpan.find ((keyword ++ '(' :: after).take (firstCompoundEnd (keyword ++ '(' :: after)))
        keyword.length = .ok (some span) ∧
      span.stop < firstCompoundEnd (keyword ++ '(' :: after) := by
  obtain ⟨inside, rest, hcut⟩ :
      ∃ inside rest, firstCompound ('(' :: after) = ('(' :: inside, rest) := ⟨_, _, rfl⟩
  have hfirst := firstCompound_keyword_append ('(' :: after)
  rw [hcut] at hfirst
  have hend : firstCompoundEnd (keyword ++ '(' :: after) =
      keyword.length + (inside.length + 1) := by
    rw [firstCompoundEnd, hfirst, List.length_append, List.length_cons]
  have hrest : rest ≠ [] := by
    rintro rfl
    have happend := firstCompound_append (keyword ++ '(' :: after)
    rw [hfirst, List.append_nil] at happend
    rw [firstCompoundEnd, hfirst, happend] at h
    omega
  obtain ⟨n, hn⟩ := exists_endOffset?_of_rest_ne_nil hcut hrest
  have hdrop : (keyword ++ '(' :: inside).drop keyword.length = '(' :: inside := List.drop_left
  -- the search in the copy that is cut off behind the compound sees the same group
  refine ⟨{ start := keyword.length, stop := keyword.length + n }, ?_, ?_⟩
  · rw [take_firstCompoundEnd, hfirst, GroupSpan.find_of_drop_eq hdrop, hn]
    rfl
  · obtain ⟨argument, behind, -, rfl, hinside⟩ := Group.exists_of_endOffset?_eq_some hn
    have hlength := congrArg List.length hinside
    rw [List.length_append, List.length_cons] at hlength
    rw [hend]
    show (keyword.length : Int) + (argument.length + 1 : Nat) < _
    omega

end HostSelector

open HostSelector Selector in
/-- If the group of a host selector is not closed, then nothing trails it and nothing follows the
    compound, so that the corrected selector is the trimmed one with a parenthesis at its end. In
    other words, where the first compound of a selector with a group behind `:host` ends before the
    selector does, the search for the group in that compound finds its closing parenthesis. -/
theorem open_group_takes_all (s : Text) :
    (∀ host, parse? s = some host → host.closed = false →
      host.trailing = [] ∧ host.rest = [] ∧ fixHost s = s.trim ++ ")") ∧
    (keyword ++ ['('] <+: s → firstCompoundEnd s < s.length →
      ∃ span, GroupSpan.find (s.take (firstCompoundEnd s)) keyword.length = .ok (some span) ∧
        span.stop < firstCompoundEnd s) := by
  constructor
  · intro host hparse hopen
    obtain ⟨after, hafter, -, rfl⟩ := parse?_eq_some_iff.1 hparse
    obtain ⟨argument, rfl, hparts⟩ := ofAfterKeyword_of_closed_eq_false hopen
    have hfix := fixHost_of_parse? hparse
    rw [hparts] at hfix ⊢
    refine ⟨rfl, rfl, ?_⟩
    -- the argument is all there is, so the missing parenthesis comes at the end
    rw [hfix, hafter]
    simp [fixed, needsFix]
  · rintro ⟨after, rfl⟩ hlt
    rw [List.append_assoc, List.singleton_append] at hlt ⊢
    exact exists_span_of_firstCompoundEnd_lt hlt

open HostSelector Selector in
/-- The first group is closed by no parenthesis, since one of three stands in a string, one closes
    an inner group and one is escaped. The second group is closed by a parenthesis that the stack
    does not count, long before the compound ends. -/
theorem open_group_takes_all_of_string_and_escape :
    parse? " :host(:not([a=')']) > .b\\)" = some
        { argument := some ":not([a=')']) > .b\\)", trailing := [], rest := [], closed := false } ∧
      fixHost " :host(:not([a=')']) > .b\\)" = (":host(:not([a=')']) > .b\\))" : Text) ∧
      keyword ++ ['('] <+: (":host([)(])]) b" : Text) ∧
      firstCompoundEnd ":host([)(])]) b" < (":host([)(])]) b" : Text).length ∧
      ∃ span, GroupSpan.find ((":host([)(])]) b" : Text).take (firstCompoundEnd ":host([)(])]) b"))
          keyword.length = .ok (some span) ∧
        span.stop < firstCompoundEnd ":host([)(])]) b" := by
  have hopen : parse? " :host(:not([a=')']) > .b\\)" = some
      { argument := some ":not([a=')']) > .b\\)"
        trailing := [], rest := [], closed := false } := by
    decide +kernel
  have hfront : keyword ++ ['('] <+: (":host([)(])]) b" : Text) := by decide +kernel
  have hlt : firstCompoundEnd ":host([)(])]) b" < (":host([)(])]) b" : Text).length := by
    decide +kernel
  refine ⟨hopen, ?_, hfront, hlt, (open_group_takes_all _).2 hfront hlt⟩
  rw [((open_group_takes_all _).1 _ hopen rfl).2.2]
  decide +kernel

end CssTheming
