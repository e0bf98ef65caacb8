import CssTheming.Proofs.List
import CssTheming.Proofs.Selector.GroupEnds
import CssTheming.Theme.Colour
import Mathlib

/-!
# The grammar of literal colours

A literal colour is a hexadecimal colour, a name, a reference to a variable, or a colour function
whose argument list ends where the value ends. The case of ASCII letters does not matter in it. All
of these are recognized, and so are some values that are no colours: a value may go on behind the
argument list of a function, as long as it ends with some closing parenthesis, and the Kelvin sign
and the long s are taken for the letters `k` and `s`.

## Main definitions

- `Colour.SameUpToCase`: texts that differ in the case of ASCII letters only
- `Colour.GroupEndsText`: the group behind a word is closed by the last character of a text
- `Colour.Literal`: the grammar of literal colours
- `Colour.Tolerated`: the values outside of the grammar that are recognized

## Key results

- `isHex_iff`, `isName_iff`, `isReference_iff`, `isFunction_iff`: what each recognizer accepts
- `Literal.exists_name`, `Literal.var_or_exists_function`: the shapes of literal colours
- `not_literal_of_tolerated`: tolerated values are no literal colours
- `recognized_iff_literal_or_tolerated`: literal colours and tolerated values are recognized, and
  nothing else
-/

namespace CssTheming.Colour

variable {t word name arguments inside : Text} {c d : Char}

/-! ## The grammar -/

/-- The texts differ in the case of ASCII letters only. -/
def SameUpToCase (s t : Text) : Prop :=
  s.map Char.toLower = t.map Char.toLower

instance (s t : Text) : Decidable (SameUpToCase s t) :=
  inferInstanceAs (Decidable (s.map Char.toLower = t.map Char.toLower))

/-- The hexadecimal digits. -/
def hexDigits : Text := "0123456789abcdefABCDEF"

/-- The parenthesis behind `word` opens a group that is closed by the last character of the text. -/
def GroupEndsText (word arguments : Text) : Prop :=
  ∃ span, GroupSpan.find (word ++ '(' :: arguments) word.length = .ok (some span) ∧
    span.stop + 1 = (word ++ '(' :: arguments).length

/-- The literal colours. -/
inductive Literal : Text → Prop
  /-- A hexadecimal colour. -/
  | hex {digits : Text} (hlength : digits.length ∈ [3, 4, 6, 8])
      (hdigits : ∀ c ∈ digits, c ∈ hexDigits) : Literal ('#' :: digits)
  /-- A keyword or a named colour. -/
  | name {name t : Text} (hname : name ∈ keywords ++ names) (h : SameUpToCase t name) : Literal t
  /-- A reference to a variable, whatever follows. -/
  | reference {front behind : Text} (h : SameUpToCase front "var(") : Literal (front ++ behind)
  /-- A colour function, with nothing behind its argument list. -/
  | function {name word arguments : Text} (hname : name ∈ functions) (h : SameUpToCase word name)
      (hgroup : GroupEndsText word arguments) : Literal (word ++ '(' :: arguments)

/-- The letter `k` for the Kelvin sign. -/
def plainKelvin (c : Char) : Char :=
  if c = '\u212A' then 'k' else c

/-- The letters `k` and `s` for the Kelvin sign and the long s. -/
def plainLetter (c : Char) : Char :=
  if c = '\u017F' then 's' else plainKelvin c

/-- The values that are recognized, but are no literal colours. -/
inductive Tolerated : Text → Prop
  /-- A keyword or a named colour that is written with a Kelvin sign. -/
  | name {name t : Text} (hname : name ∈ keywords ++ names) (hsign : '\u212A' ∈ t)
      (h : SameUpToCase (t.map plainKelvin) name) : Tolerated t
  /-- A colour function that is written with a Kelvin sign or a long s, or whose argument list does
      not end with the value, though the value ends with a closing parenthesis. -/
  | function {name word inside : Text} (hname : name ∈ functions)
      (h : SameUpToCase (word.map plainLetter) name)
      (hbad : '\u212A' ∈ word ∨ '\u017F' ∈ word ∨ ¬GroupEndsText word (inside ++ [')'])) :
      Tolerated (word ++ '(' :: (inside ++ [')']))

/-! ## Letters and digits -/

/-- What is no letter has no other form in small letters. -/
private theorem toLower_of_isAlpha_eq_false (h : c.isAlpha = false) : c.toLower = c := by
  rw [Char.isAlpha, Bool.or_eq_false_iff] at h
  exact Char.toLower_eq_of_not_isUpper (by rw [h.1]; exact Bool.false_ne_true)

/-- Only a letter has another form in small letters. -/
private theorem toLower_eq_iff (hd : d.isAlpha = false) : c.toLower = d ↔ c = d := by
  constructor
  · rintro rfl
    rw [Char.isAlpha_toLower_eq_isAlpha] at hd
    exact (toLower_of_isAlpha_eq_false hd).symm
  · rintro rfl
    exact toLower_of_isAlpha_eq_false hd

/-- Small letters are made of the ASCII letters and of the Kelvin sign. -/
private theorem toLower_eq (c : Char) : toLower c = (plainKelvin c).toLower := by
  unfold toLower plainKelvin
  split <;> rfl

/-- Beside that, the long s is folded to a small letter. -/
private theorem foldCase_eq (c : Char) : foldCase c = (plainLetter c).toLower := by
  unfold foldCase plainLetter
  split
  · rfl
  · exact toLower_eq c

private theorem map_toLower_eq (t : Text) :
    t.map toLower = (t.map plainKelvin).map Char.toLower := by
  rw [List.map_map]
  exact List.map_congr_left fun c _ => toLower_eq c

private theorem map_foldCase_eq (t : Text) :
    t.map foldCase = (t.map plainLetter).map Char.toLower := by
  rw [List.map_map]
  exact List.map_congr_left fun c _ => foldCase_eq c

/-- A character that is neither a letter nor taken for one is not folded, and nothing is folded to
    it. -/
private theorem foldCase_eq_iff (hd : d.isAlpha = false) (hplain : plainLetter d = d) :
    foldCase c = d ↔ c = d := by
  rw [foldCase_eq, toLower_eq_iff hd]
  constructor
  · intro h
    unfold plainLetter plainKelvin at h
    split at h
    · subst h
      cases hd
    · split at h
      · subst h
        cases hd
      · exact h
  · rintro rfl
    exact hplain

/-- Without a Kelvin sign there is nothing to write as a letter. -/
private theorem map_plainKelvin (h : '\u212A' ∉ t) : t.map plainKelvin = t := by
  have hkeep : ∀ c ∈ t, plainKelvin c = id c := by
    intro c hc
    rw [plainKelvin, if_neg (by rintro rfl; exact h hc), id]
  rw [List.map_congr_left hkeep, List.map_id]

/-- Without a Kelvin sign and a long s there is nothing to write as letters. -/
private theorem map_plainLetter (h : '\u212A' ∉ t) (h' : '\u017F' ∉ t) : t.map plainLetter = t := by
  have hkeep : ∀ c ∈ t, plainLetter c = plainKelvin c := by
    intro c hc
    rw [plainLetter, if_neg (by rintro rfl; exact h' hc)]
  -- what is left to write as a letter is the Kelvin sign
  rw [List.map_congr_left hkeep, map_plainKelvin h]

/-- The digits that are recognized are those of the grammar. -/
private theorem mem_hexDigits_iff : c ∈ hexDigits ↔ isHexDigit c = true := by
  constructor
  · have hall : hexDigits.all isHexDigit = true := by decide
    exact List.all_eq_true.1 hall c
  · intro h
    -- a digit is found by its code point, of which there are three ranges
    have hcodes : ∀ n ∈ [48, 49, 50, 51, 52, 53, 54, 55, 56, 57, 65, 66, 67, 68, 69, 70, 97, 98, 99,
        100, 101, 102], Char.ofNat n ∈ hexDigits := by decide
    rw [← Char.ofNat_toNat c]
    refine hcodes _ ?_
    simp only [isHexDigit, Char.isDigit, Char.reduceVal, ge_iff_le, UInt32.le_iff_toNat_le,
      UInt32.reduceToNat, Char.toNat_val, Char.le_def, Bool.or_eq_true, Bool.and_eq_true,
      decide_eq_true_eq] at h
    simp only [List.mem_cons, List.not_mem_nil, or_false]
    omega

/-! ## Names -/

/-- All names are in small letters. -/
private theorem isLower_of_mem_names (h : name ∈ keywords ++ names) :
    ∀ c ∈ name, c.isLower = true := by
  have hall : (keywords ++ names).all (fun name => name.all Char.isLower) = true := by
    decide +kernel
  exact List.all_eq_true.1 (List.all_eq_true.1 hall name h)

private theorem isLower_of_mem_functions (h : name ∈ functions) : ∀ c ∈ name, c.isLower = true := by
  have hall : functions.all (fun name => name.all Char.isLower) = true := by decide
  exact List.all_eq_true.1 (List.all_eq_true.1 hall name h)

/-- A text in small letters stays as it is. -/
private theorem map_toLower_of_isLower (h : ∀ c ∈ t, c.isLower = true) :
    t.map Char.toLower = t := by
  have hkeep : ∀ c ∈ t, c.toLower = id c := fun c hc =>
    Char.toLower_eq_of_not_isUpper (Char.not_isUpper_of_isLower (h c hc))
  rw [List.map_congr_left hkeep, List.map_id]

/-- A text is a name up to case if it is the name in small letters. -/
private theorem sameUpToCase_iff (hname : ∀ c ∈ name, c.isLower = true) :
    SameUpToCase t name ↔ t.map Char.toLower = name := by
  rw [SameUpToCase, map_toLower_of_isLower hname]

/-- Only letters stand for the letters of a name. -/
theorem SameUpToCase.notMem (h : SameUpToCase t name) (hname : ∀ c ∈ name, c.isLower = true)
    (hc : c.isAlpha = false) : c ∉ t := by
  intro hmem
  have hlower := hname c.toLower ((sameUpToCase_iff hname).1 h ▸ List.mem_map_of_mem hmem)
  rw [Char.isLower_toLower_eq_isAlpha, hc] at hlower
  cases hlower

/-- Only what is taken for a letter stands for the letters of a name. -/
theorem SameUpToCase.notMem_of_map {f : Char → Char} (h : SameUpToCase (t.map f) name)
    (hname : ∀ c ∈ name, c.isLower = true) (hc : (f c).isAlpha = false) : c ∉ t :=
  fun hmem => h.notMem hname hc (List.mem_map_of_mem hmem)

/-- Names are recognized in any case, also if they are written with Kelvin signs. -/
theorem isName_iff :
    isName t = true ↔ ∃ name ∈ keywords ++ names, SameUpToCase (t.map plainKelvin) name := by
  simp only [isName, Bool.or_eq_true, List.contains_iff_mem, ← List.mem_append, map_toLower_eq]
  constructor
  · intro h
    exact ⟨_, h, (sameUpToCase_iff (isLower_of_mem_names h)).2 rfl⟩
  · rintro ⟨name, hname, h⟩
    -- folded, the text is the name itself
    rwa [(sameUpToCase_iff (isLower_of_mem_names hname)).1 h]

/-! ## References, hexadecimal colours and functions -/

/-- In a text without the letter `k` the Kelvin sign plays no part. -/
private theorem map_toLower_eq_iff {s : Text} (hk : 'k' ∉ s) (hsign : '\u212A' ∉ s) :
    t.map toLower = s ↔ t.map Char.toLower = s := by
  have hmap (h : '\u212A' ∉ t) : t.map toLower = t.map Char.toLower := by
    rw [map_toLower_eq, map_plainKelvin h]
  -- whichever side holds, the text has no Kelvin sign: it would be a `k` in `s`, or itself in `s`
  constructor
  · rintro rfl
    exact (hmap fun h => hk (List.mem_map_of_mem (f := toLower) h)).symm
  · rintro rfl
    exact hmap fun h => hsign (List.mem_map_of_mem (f := Char.toLower) h)

/-- References are recognized by their start, in any case. -/
theorem isReference_iff :
    isReference t = true ↔ ∃ front behind, t = front ++ behind ∧ SameUpToCase front "var(" := by
  rw [isReference, List.isPrefixOf_iff_prefix]
  constructor
  · rintro ⟨rest, hrest⟩
    obtain ⟨front, behind, rfl, hfront, -⟩ := List.map_eq_append_iff.1 hrest.symm
    exact ⟨front, behind, rfl, (map_toLower_eq_iff (by decide) (by decide)).1 hfront⟩
  · rintro ⟨front, behind, rfl, h⟩
    have hfront : front.map toLower = ("var(" : Text) :=
      (map_toLower_eq_iff (by decide) (by decide)).2 h
    rw [List.map_append, hfront]
    exact List.prefix_append _ _

/-- Hexadecimal colours are recognized by the number of their digits. -/
theorem isHex_iff :
    isHex t = true ↔
      ∃ digits, t = '#' :: digits ∧ digits.length ∈ [3, 4, 6, 8] ∧ ∀ c ∈ digits, c ∈ hexDigits := by
  unfold isHex
  split
  · next digits =>
    simp [mem_hexDigits_iff]
  · next hsign =>
    simp only [Bool.false_eq_true, false_iff]
    rintro ⟨digits, rfl, -⟩
    exact hsign digits rfl

/-- A word and something in parentheses behind it, which is not looked at. -/
theorem isFunction_iff :
    isFunction t = true ↔
      ∃ name ∈ functions, ∃ word inside,
        t = word ++ '(' :: (inside ++ [')']) ∧ SameUpToCase (word.map plainLetter) name := by
  have hcase {name : Text} (hname : name ∈ functions) (word : Text) :
      word.map foldCase = name ↔ SameUpToCase (word.map plainLetter) name := by
    rw [sameUpToCase_iff (isLower_of_mem_functions hname), map_foldCase_eq]
  rw [isFunction, List.any_eq_true]
  refine exists_congr fun name => and_congr_right fun hname => ?_
  constructor
  · intro h
    split at h
    · next arguments hfront =>
      rw [List.isPrefixOf?_eq_some_iff_append_eq, eq_comm] at hfront
      -- the text is cut where its folded form is cut
      obtain ⟨front, behind, rfl, hname', rfl⟩ := List.map_eq_append_iff.1 hfront
      obtain ⟨word, opening, rfl, hword, hopening⟩ := List.map_eq_append_iff.1 hname'
      obtain ⟨c, rfl, hc⟩ := List.map_eq_singleton_iff.1 hopening
      obtain rfl := (foldCase_eq_iff (by decide) (by decide)).1 hc
      rw [beq_iff_eq, List.getLast?_map, Option.map_eq_some_iff] at h
      obtain ⟨d, hlast, hd⟩ := h
      obtain rfl := (foldCase_eq_iff (by decide) (by decide)).1 hd
      obtain ⟨inside, rfl⟩ := List.getLast?_eq_some_iff.1 hlast
      exact ⟨word, inside, by simp, (hcase hname word).1 hword⟩
    · cases h
  · rintro ⟨word, inside, rfl, hword⟩
    -- folded, the text starts with the name and a parenthesis, and ends with one
    have hfront : (word ++ '(' :: (inside ++ [')'])).map foldCase =
        name ++ ['('] ++ (inside.map foldCase ++ [')']) := by
      have hopening : foldCase '(' = '(' := by decide
      have hclosing : foldCase ')' = ')' := by decide
      rw [List.map_append, (hcase hname word).2 hword]
      simp [hopening, hclosing]
    rw [List.isPrefixOf?_eq_some_iff_append_eq.2 hfront.symm]
    simp

/-! ## The end of an argument list -/

/-- The group behind a word ends the text if it takes all of what is behind the parenthesis. -/
private theorem groupEndsText_iff :
    GroupEndsText word arguments ↔ Group.endOffset? arguments = some arguments.length := by
  have hdrop : (word ++ '(' :: arguments).drop word.length = '(' :: arguments := List.drop_left
  rw [GroupEndsText, GroupSpan.find_of_drop_eq hdrop]
  cases hend : Group.endOffset? arguments with
  | none => simp
  | some n =>
    rw [Option.map_some, Option.some.injEq, List.length_append, List.length_cons]
    constructor
    · rintro ⟨span, hspan, hstop⟩
      obtain rfl := Option.some.inj (Except.ok.inj hspan)
      simp only at hstop
      omega
    · rintro rfl
      exact ⟨_, rfl, by simp only; omega⟩

instance : Decidable (GroupEndsText word arguments) :=
  decidable_of_iff _ groupEndsText_iff.symm

/-- A text that is ended by a group ends with a closing parenthesis. -/
private theorem GroupEndsText.exists_eq (h : GroupEndsText word arguments) :
    ∃ inside, arguments = inside ++ [')'] := by
  obtain ⟨inside, rest, -, hlength, rfl⟩ :=
    Group.exists_of_endOffset?_eq_some (groupEndsText_iff.1 h)
  -- the closing parenthesis is the last character
  have hrest : rest = [] := by
    rw [List.length_append, List.length_cons] at hlength
    exact List.eq_nil_of_length_eq_zero (by omega)
  exact ⟨inside, by rw [hrest]⟩

/-! ## The grammar and the recognizer -/

private theorem isLower_of_mem_var : ∀ c ∈ ("var" : Text), c.isLower = true :=
  List.all_eq_true.1 (by decide)

/-- A reference starts with a word and a parenthesis. -/
private theorem exists_eq_of_sameUpToCase_reference {front : Text} (h : SameUpToCase front "var(") :
    ∃ word, front = word ++ ['('] ∧ SameUpToCase word "var" := by
  have hsplit : front.map Char.toLower = "var".toList ++ ['('] := h
  obtain ⟨word, opening, rfl, hword, hopening⟩ := List.map_eq_append_iff.1 hsplit
  obtain ⟨c, rfl, hc⟩ := List.map_eq_singleton_iff.1 hopening
  obtain rfl := (toLower_eq_iff (by decide)).1 hc
  exact ⟨word, rfl, (sameUpToCase_iff isLower_of_mem_var).2 hword⟩

/-- Without a parenthesis and a number sign, a literal colour is a name. -/
theorem Literal.exists_name (h : Literal t) (hopen : '(' ∉ t) (hhash : '#' ∉ t) :
    ∃ name ∈ keywords ++ names, SameUpToCase t name := by
  cases h with
  | hex => simp at hhash
  | name hname h => exact ⟨_, hname, h⟩
  | reference h =>
    obtain ⟨word, rfl, -⟩ := exists_eq_of_sameUpToCase_reference h
    simp at hopen
  | function => simp at hopen

/-- With a parenthesis behind a word, a literal colour is a reference or a function. -/
theorem Literal.var_or_exists_function (h : Literal (word ++ '(' :: arguments))
    (hopen : '(' ∉ word) (hhash : '#' ∉ word) :
    SameUpToCase word "var" ∨
      ∃ name ∈ functions, SameUpToCase word name ∧ GroupEndsText word arguments := by
  -- a text is cut at its first parenthesis in one way only
  generalize ht : word ++ '(' :: arguments = t at h
  cases h with
  | hex =>
    cases word with
    | nil => simp at ht
    | cons c word => simp_all
  | name hname h =>
    subst ht
    have hopen' : '(' ∉ word ++ '(' :: arguments :=
      h.notMem (isLower_of_mem_names hname) (by decide)
    simp at hopen'
  | reference h =>
    obtain ⟨word', rfl, hword'⟩ := exists_eq_of_sameUpToCase_reference h
    have hopen' : '(' ∉ word' := hword'.notMem isLower_of_mem_var (by decide)
    rw [List.append_assoc, List.singleton_append,
      List.append_cons_inj_of_notMem_left hopen hopen'] at ht
    obtain ⟨rfl, -⟩ := ht
    exact .inl hword'
  | @function name word' arguments' hname h hgroup =>
    have hopen' : '(' ∉ word' := h.notMem (isLower_of_mem_functions hname) (by decide)
    rw [List.append_cons_inj_of_notMem_left hopen hopen'] at ht
    obtain ⟨rfl, rfl⟩ := ht
    exact .inr ⟨name, hname, h, hgroup⟩

/-- Tolerated values are no literal colours. -/
theorem not_literal_of_tolerated (h : Tolerated t) : ¬Literal t := by
  intro hliteral
  cases h with
  | @name name t hname hsign h =>
    -- the value would be a name without the sign
    have hsmall := isLower_of_mem_names hname
    obtain ⟨name', hname', h'⟩ := hliteral.exists_name (h.notMem_of_map hsmall (by decide))
      (h.notMem_of_map hsmall (by decide))
    exact h'.notMem (isLower_of_mem_names hname') (by decide) hsign
  | @function name word inside hname h hbad =>
    have hsmall := isLower_of_mem_functions hname
    rcases hliteral.var_or_exists_function (h.notMem_of_map hsmall (by decide))
      (h.notMem_of_map hsmall (by decide)) with hvar | ⟨name', hname', h', hgroup⟩
    · -- then `var` would be the name of a function
      rw [map_plainLetter (hvar.notMem isLower_of_mem_var (by decide))
        (hvar.notMem isLower_of_mem_var (by decide)), sameUpToCase_iff hsmall,
        (sameUpToCase_iff isLower_of_mem_var).1 hvar] at h
      subst h
      exact absurd hname (by decide)
    · have hsmall' := isLower_of_mem_functions hname'
      -- the value has only letters in its word, and its argument list ends it
      rcases hbad with hkelvin | hlong | hgroup'
      · exact h'.notMem hsmall' (by decide) hkelvin
      · exact h'.notMem hsmall' (by decide) hlong
      · exact hgroup' hgroup

/-- What is recognized as a name is one, or is tolerated for its Kelvin sign. -/
private theorem literal_or_tolerated_of_isName (hisName : isName t = true) :
    Literal t ∨ Tolerated t := by
  obtain ⟨name, hname, h⟩ := isName_iff.1 hisName
  by_cases hsign : '\u212A' ∈ t
  · exact .inr (.name hname hsign h)
  · rw [map_plainKelvin hsign] at h
    exact .inl (.name hname h)

/-- What is recognized as a function is one, or is tolerated for its letters or its end. -/
private theorem literal_or_tolerated_of_isFunction (hfunction : isFunction t = true) :
    Literal t ∨ Tolerated t := by
  obtain ⟨name, hname, word, inside, rfl, h⟩ := isFunction_iff.1 hfunction
  by_cases hbad : '\u212A' ∈ word ∨ '\u017F' ∈ word ∨ ¬GroupEndsText word (inside ++ [')'])
  · exact .inr (.function hname h hbad)
  · simp only [not_or, not_not] at hbad
    rw [map_plainLetter hbad.1 hbad.2.1] at h
    exact .inl (.function hname h hbad.2.2)

/-- Every kind of literal colours has its recognizer. -/
theorem Literal.recognized (h : Literal t) :
    isName t = true ∨ isReference t = true ∨ isHex t = true ∨ isFunction t = true := by
  cases h with
  | hex hlength hdigits => exact .inr (.inr (.inl (isHex_iff.2 ⟨_, rfl, hlength, hdigits⟩)))
  | name hname h =>
    -- letters are letters in any case, so none of them is a sign
    have hsign := h.notMem (c := '\u212A') (isLower_of_mem_names hname) (by decide)
    exact .inl (isName_iff.2 ⟨_, hname, by rwa [map_plainKelvin hsign]⟩)
  | reference h => exact .inr (.inl (isReference_iff.2 ⟨_, _, rfl, h⟩))
  | function hname h hgroup =>
    have hkelvin := h.notMem (c := '\u212A') (isLower_of_mem_functions hname) (by decide)
    have hlong := h.notMem (c := '\u017F') (isLower_of_mem_functions hname) (by decide)
    obtain ⟨inside, rfl⟩ := hgroup.exists_eq
    exact .inr (.inr (.inr (isFunction_iff.2
      ⟨_, hname, _, inside, rfl, by rwa [map_plainLetter hkelvin hlong]⟩)))

/-- Every kind of tolerated values is recognized. -/
theorem Tolerated.recognized (h : Tolerated t) : isName t = true ∨ isFunction t = true := by
  cases h with
  | name hname _ h => exact .inl (isName_iff.2 ⟨_, hname, h⟩)
  | function hname h => exact .inr (isFunction_iff.2 ⟨_, hname, _, _, rfl, h⟩)

/-- A value is recognized exactly if it is, apart from blanks around it, a literal colour or a
    tolerated value, and no value is both. So the recognizer goes beyond the grammar, and it does so
    for tolerated values only. -/
theorem recognized_iff_literal_or_tolerated (value : Text) :
    (isLiteral value = true ↔ Literal value.trim ∨ Tolerated value.trim) ∧
      ¬(Literal value.trim ∧ Tolerated value.trim) := by
  refine ⟨?_, fun h => not_literal_of_tolerated h.2 h.1⟩
  simp only [isLiteral, Bool.or_eq_true, or_assoc]
  constructor
  · rintro (hname | hreference | hhex | hfunction)
    · exact literal_or_tolerated_of_isName hname
    · obtain ⟨front, behind, heq, h⟩ := isReference_iff.1 hreference
      exact .inl (heq ▸ .reference h)
    · obtain ⟨digits, heq, hlength, hdigits⟩ := isHex_iff.1 hhex
      exact .inl (heq ▸ .hex hlength hdigits)
    · exact literal_or_tolerated_of_isFunction hfunction
  · rintro (hliteral | htolerated)
    · exact hliteral.recognized
    · exact htolerated.recognized.imp_right fun h => .inr (.inr h)

/-- A value that consists of two colours is taken for one, since it ends with a parenthesis, but the
    argument list of the first one ends before. -/
theorem recognized_of_two_colours :
    isLiteral "rgb(0, 0, 0) rgb(1, 1, 1)" = true ∧
      ¬Literal (Text.trim "rgb(0, 0, 0) rgb(1, 1, 1)") := by
  have htrim : Text.trim "rgb(0, 0, 0) rgb(1, 1, 1)" =
      ("rgb" : Text) ++ '(' :: (("0, 0, 0) rgb(1, 1, 1" : Text) ++ [')']) := by decide +kernel
  -- the group is closed by the first parenthesis
  have hgroup : ¬GroupEndsText "rgb" (("0, 0, 0) rgb(1, 1, 1" : Text) ++ [')']) := by
    decide +kernel
  have hname : ("rgb" : Text) ∈ functions := by decide
  have hfunction : isFunction (Text.trim "rgb(0, 0, 0) rgb(1, 1, 1)") = true := by decide +kernel
  refine ⟨?_, ?_⟩
  · simp only [isLiteral, hfunction, Bool.or_true]
  · rw [htrim]
    exact not_literal_of_tolerated (.function hname (by decide) (.inr (.inr hgroup)))

end CssTheming.Colour
