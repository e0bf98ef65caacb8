import CssTheming.Proofs.Selector.HostParts

/-!
# What follows the first compound

Only the first compound of a selector decides whether it is a host selector and what is corrected in
it. If a text is a single compound that leaves nothing open, then whatever is put behind it, from a
combinator on, is kept as it is, also if it is malformed or holds `:host` itself.

## Key results

- `Text.isAlphanumeric_of_isBlank`: no blank is alphanumeric
- `HostSelector.parse?_append_rest`: the parts of a single compound with a text behind it
- `correction_of_first_compound`: the correction of such a text
-/

namespace CssTheming

namespace Text

/-- The code points of the blank characters. -/
def blankCodePoints : List Nat :=
  [0x09, 0x0A, 0x0B, 0x0C, 0x0D, 0x1C, 0x1D, 0x1E, 0x1F, 0x20, 0x85, 0xA0, 0x1680, 0x2000, 0x2001,
    0x2002, 0x2003, 0x2004, 0x2005, 0x2006, 0x2007, 0x2008, 0x2009, 0x200A, 0x2028, 0x2029, 0x202F,
    0x205F, 0x3000]

/-- The code point of a blank is in the list. -/
private theorem toNat_mem_of_isBlank {c : Char} (h : isBlank c = true) :
    c.toNat ∈ blankCodePoints := by
  simp only [isBlank, Bool.or_eq_true, Bool.and_eq_true, decide_eq_true_eq, beq_iff_eq] at h
  simp only [blankCodePoints, List.mem_cons, List.not_mem_nil, or_false]
  rcases h with (((((((((h | h) | h) | h) | h) | h) | h) | h) | h) | h) | h <;> omega

/-- A blank is neither a letter nor a digit. -/
theorem isAlphanumeric_of_isBlank {c : Char} (h : isBlank c = true) : isAlphanumeric c = false := by
  -- there are few blanks, so each is looked up in the table
  have hnone : ∀ n ∈ blankCodePoints, isAlphanumeric (Char.ofNat n) = false := by decide +kernel
  rw [← Char.ofNat_toNat c]
  exact hnone c.toNat (toNat_mem_of_isBlank h)

end Text

namespace Selector

variable {t : Text}

/-- A text whose first compound ends where it ends has nothing at the top level that would end the
    compound. -/
private theorem avoids_of_firstCompoundEnd_eq (h : firstCompoundEnd t = t.length) :
    Scan.start.avoids endsCompound t = true := by
  have happend := firstCompound_append t
  have hlength := congrArg List.length happend
  rw [List.length_append, ← firstCompoundEnd, h] at hlength
  have hnil : (firstCompound t).2 = [] := List.eq_nil_of_length_eq_zero (by omega)
  rw [hnil, List.append_nil] at happend
  have havoids := (Scan.span_spec endsCompound Scan.start t).1
  rwa [← firstCompound, happend] at havoids

/-- What can follow a compound can do so without the blanks at its end. -/
theorem FollowsCompound.trimEnd {rest : Text} (h : FollowsCompound rest) :
    FollowsCompound rest.trimEnd :=
  fun c hc => h c (Text.head?_trimEnd hc)

end Selector

namespace HostSelector

open Selector

variable {after compound rest : Text}

/-- What ends a compound does not continue the name of a pseudo-class. -/
private theorem continuesName_of_endsCompound {c : Char} (h : endsCompound c = true) :
    continuesName c = false := by
  simp only [endsCompound, Bool.or_eq_true, beq_iff_eq] at h
  rcases h with ((h | rfl) | rfl) | rfl
  · -- a blank is none of the other characters of a name either
    have hdash : c ≠ '-' := by
      rintro rfl
      cases h
    have hscore : c ≠ '_' := by
      rintro rfl
      cases h
    simp [continuesName, Text.isAlphanumeric_of_isBlank h, hdash, hscore]
  all_goals decide

/-- What is put behind a compound does not make it start with `:host`. -/
private theorem isPrefixOf?_keyword_append (hrest : FollowsCompound rest) :
    keyword.isPrefixOf? (compound ++ rest) = (keyword.isPrefixOf? compound).map (· ++ rest) := by
  cases hfront : keyword.isPrefixOf? compound with
  | some after =>
    rw [List.isPrefixOf?_eq_some_iff_append_eq] at hfront
    rw [Option.map_some, List.isPrefixOf?_eq_some_iff_append_eq, ← hfront, List.append_assoc]
  | none =>
    rw [Option.map_none, Option.eq_none_iff_forall_ne_some]
    intro after hafter
    rw [List.isPrefixOf?_eq_some_iff_append_eq, eq_comm, List.append_eq_append_iff] at hafter
    -- either the compound is shorter than `:host`, or it starts with it already
    rcases hafter with ⟨missing, hkeyword, hmissing⟩ | ⟨after', hcompound, -⟩
    · cases missing with
      | nil =>
        rw [List.append_nil] at hkeyword
        subst hkeyword
        exact absurd hfront (by decide)
      | cons c missing =>
        -- a character of `:host` would have to end the compound
        have hends : endsCompound c = true := hrest c (by rw [hmissing]; rfl)
        have hmem : c ∈ keyword := by simp [hkeyword]
        have hnone : keyword.all (fun d => !endsCompound d) = true := by decide
        have hc := List.all_eq_true.1 hnone c hmem
        rw [hends] at hc
        cases hc
    · rw [eq_comm, ← List.isPrefixOf?_eq_some_iff_append_eq, hfront] at hcompound
      cases hcompound

/-- The parts of a single compound with a text behind it: the text is the rest. -/
private theorem ofAfterKeyword_append_rest (h : Scan.start.avoids endsCompound after = true)
    (hrun : Scan.start.run after = Scan.start) (hrest : FollowsCompound rest) :
    ofAfterKeyword (after ++ rest) = { ofAfterKeyword after with rest := rest } := by
  have hcut := firstCompound_append_of_avoids h hrun hrest
  have hcut' := firstCompound_of_avoids h hrun
  by_cases hopen : after.head? = some '('
  · obtain ⟨inside, rfl⟩ := List.head?_eq_some_iff.1 hopen
    rw [ofAfterKeyword, hcut, ofAfterKeyword, hcut']
    simp only
    cases Group.cut inside <;> rfl
  · rw [ofAfterKeyword_of_head?_ne hcut hopen, ofAfterKeyword_of_head?_ne hcut' hopen]

/-- The parts of a single compound with a text behind it, of which blanks at the end do not
    count. -/
theorem parse?_append_rest (hc : Trimmed compound)
    (h : Scan.start.avoids endsCompound compound = true)
    (hrun : Scan.start.run compound = Scan.start) (hrest : FollowsCompound rest) :
    parse? (compound ++ rest) =
      (parse? compound).map fun host => { host with rest := rest.trimEnd } := by
  have htrim : (compound ++ rest).trim = compound ++ rest.trimEnd := Text.trim_append hc.1 hc.2 rest
  rw [parse?, parse?, htrim, hc.1, isPrefixOf?_keyword_append hrest.trimEnd]
  cases hfront : keyword.isPrefixOf? compound with
  | none => rfl
  | some after =>
    rw [List.isPrefixOf?_eq_some_iff_append_eq] at hfront
    subst hfront
    have hkeyword : Scan.start.run keyword = Scan.start := rfl
    rw [Scan.avoids, Scan.every_append, hkeyword, Bool.and_eq_true] at h
    rw [Scan.run_append, hkeyword] at hrun
    have hname :
        (after ++ rest.trimEnd).head?.any continuesName = after.head?.any continuesName := by
      cases after with
      | nil =>
        -- behind `:host` alone the text must not make it another name
        rw [List.nil_append, List.head?_nil, Option.any_none]
        cases hhead : rest.trimEnd.head? with
        | none => rfl
        | some c => exact continuesName_of_endsCompound (hrest.trimEnd c hhead)
      | cons c after => rfl
    simp only [Option.map_some, hname]
    split
    · rfl
    · rw [ofAfterKeyword_append_rest h.2 hrun hrest.trimEnd]
      rfl

/-- What follows the first compound stays where it is. -/
private theorem fixed_append_rest (host : HostSelector) (rest : Text) :
    fixed { host with rest := host.rest ++ rest } = host.fixed ++ rest := by
  have hneeds : needsFix { host with rest := host.rest ++ rest } = host.needsFix := rfl
  rw [fixed, fixed, hneeds]
  split
  · simp
  · simp [toText]

end HostSelector

namespace Selector

open HostSelector

variable {compound rest : Text}

/-- What is put behind a single compound is put behind its corrected form. -/
private theorem hostFix?_append_rest (hc : Trimmed compound)
    (h : Scan.start.avoids endsCompound compound = true)
    (hrun : Scan.start.run compound = Scan.start) (hrest : FollowsCompound rest) :
    hostFix? (compound ++ rest) = (hostFix? compound).map (· ++ rest.trimEnd) := by
  rw [hostFix?, hostFix?, parse?_append_rest hc h hrun hrest]
  cases hparse : parse? compound with
  | none => rfl
  | some host =>
    -- a compound on its own has nothing behind its first compound
    have hhost : host.rest = [] := by
      have hnil := parse?_append_rest hc h hrun followsCompound_nil
      rw [List.append_nil, hparse, Option.map_some] at hnil
      exact congrArg HostSelector.rest (Option.some.inj hnil)
    have hfixed := fixed_append_rest host rest.trimEnd
    rw [hhost, List.nil_append] at hfixed
    have hneeds : needsFix { host with rest := rest.trimEnd } = host.needsFix := rfl
    rw [Option.map_some, Option.filter_some, Option.filter_some, hneeds]
    cases host.needsFix with
    | false => rfl
    | true => exact congrArg some hfixed

end Selector

open Selector in
/-- The first compound alone decides whether a selector is corrected, and it alone is changed. If it
    leaves no string, escape or group open, any text that starts with a blank or a combinator may
    follow it, also one that leaves something open or holds `:host` itself. -/
theorem correction_of_first_compound {compound rest : Text} (hc : Trimmed compound)
    (hend : firstCompoundEnd compound = compound.length)
    (hrun : Scan.start.run compound = Scan.start) (hrest : FollowsCompound rest) :
    needsHostFix (compound ++ rest) = needsHostFix compound ∧
      fixHost (compound ++ rest) = fixHost compound ++ rest.trimEnd := by
  have hfix := hostFix?_append_rest hc (avoids_of_firstCompoundEnd_eq hend) hrun hrest
  constructor
  · rw [needsHostFix, hfix, Option.isSome_map, needsHostFix]
  · rw [fixHost, fixHost, hfix, Text.trim_append hc.1 hc.2, hc.1]
    cases hostFix? compound <;> rfl

open Selector in
/-- The descendant holds `:host` with something trailing it, a group and a string that are left
    open, and a blank at its end. -/
theorem correction_of_first_compound_of_open_string :
    (Trimmed ":host([a=')']):hover" ∧
      firstCompoundEnd ":host([a=')']):hover" = List.length (":host([a=')']):hover" : Text) ∧
      Scan.start.run ":host([a=')']):hover" = Scan.start ∧
      FollowsCompound " > :host:is(b [c='d ") ∧
    needsHostFix (":host([a=')']):hover" ++ " > :host:is(b [c='d ") = true ∧
    fixHost (":host([a=')']):hover" ++ " > :host:is(b [c='d ") =
      (":host([a=')']:hover) > :host:is(b [c='d" : Text) := by
  have hc : Trimmed ":host([a=')']):hover" := by decide +kernel
  have hend : firstCompoundEnd ":host([a=')']):hover" =
      List.length (":host([a=')']):hover" : Text) := by
    decide +kernel
  have hrun : Scan.start.run ":host([a=')']):hover" = Scan.start := by decide +kernel
  have hrest : FollowsCompound " > :host:is(b [c='d " := by
    intro c hmem
    obtain rfl : ' ' = c := by simpa using hmem
    rfl
  obtain ⟨hneeds, hfix⟩ := correction_of_first_compound hc hend hrun hrest
  refine ⟨⟨hc, hend, hrun, hrest⟩, ?_, ?_⟩
  · rw [hneeds]
    decide +kernel
  · rw [hfix]
    decide +kernel

end CssTheming
