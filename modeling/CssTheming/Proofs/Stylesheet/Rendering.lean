import CssTheming.Proofs.Text.Pieces
import CssTheming.Stylesheet.Basic

/-!
# Reading a stylesheet back

The text of a stylesheet tells all that is written of it, as long as nothing in it goes over several
lines. The last character of a line tells what the line is: a heading ends with an opening brace, an
annotation with a slash, a declaration with a semicolon, and a block with a closing brace. What the
line says stands at fixed offsets from its ends, so it may be any text, even one with braces,
semicolons or comments in it. The lines are read from the last one to the first, since an annotation
belongs to the statement below it.

## Main definitions

- `Stylesheet.outline`: what is written of a stylesheet
- `Stylesheet.SingleLine`: nothing in a stylesheet goes over several lines
- `Block.lines`, `Stylesheet.lines`: the lines that are written
- `Stylesheet.read`: the blocks that a text consists of

## Key results

- `Stylesheet.blocks_eq_outline`: the blocks of a stylesheet
- `Stylesheet.render_eq_nil_iff`: the stylesheets with nothing to write
- `Stylesheet.render_eq_join_lines`: a stylesheet is written line by line
- `Stylesheet.foldr_readLine_lines`: the lines of a stylesheet give its blocks back
- `Stylesheet.read_render`: the text of a stylesheet gives its blocks back
- `outline_eq_of_render_eq`: stylesheets with the same text have the same blocks
-/

namespace CssTheming

/-! ## What is written -/

namespace Stylesheet

/-- What is written of a stylesheet: a block for the root definitions, if there are any, and one for
    each rule that has declarations. The heading of a rule names its selectors. A statement says
    what is declared, and comes with the written annotations of the declaration. -/
def outline (sheet : Stylesheet) : List Block :=
  (if sheet.root.isEmpty then []
    else
      [{ heading := ":root"
         statements := sheet.root.map fun (name, value) =>
           { annotations := [], content := name ++ ": " ++ value } }]) ++
    (sheet.rules.filter fun rule => !rule.declarations.isEmpty).map fun rule =>
      { heading := Text.join ", " rule.selectors
        statements := rule.declarations.map fun d =>
          { annotations := d.annotations.render
            content :=
              d.property ++ ": " ++ d.value ++
                (if d.important then " !important" else "" : String) } }

/-- The blocks of a stylesheet are those of its outline. -/
theorem blocks_eq_outline (sheet : Stylesheet) : sheet.blocks = sheet.outline := by
  have hroot : (rootRule sheet.root).block =
      { heading := ":root"
        statements := sheet.root.map fun (name, value) =>
          { annotations := [], content := name ++ ": " ++ value } } := by
    simp [rootRule, StyleRule.block, Declaration.statement, Annotations.render, Text.join_singleton]
  have hempty : (rootRule sheet.root).declarations.isEmpty = sheet.root.isEmpty := by
    simp [rootRule]
  rw [outline, ← hroot, blocks, List.filter_cons, hempty]
  cases sheet.root.isEmpty with
  | true => rfl
  | false => rfl

/-- Something stands in the braces of every block. -/
private theorem statements_ne_nil_of_mem_blocks {sheet : Stylesheet} {block : Block}
    (h : block ∈ sheet.blocks) : block.statements ≠ [] := by
  obtain ⟨rule, hrule, rfl⟩ := List.mem_map.1 h
  simpa [StyleRule.block] using (List.mem_filter.1 hrule).2

end Stylesheet

/-! ## Lines -/

/-- The lines of a block: that of its heading, those of its statements, and that of the closing
    brace. -/
def Block.lines (block : Block) : List Text :=
  (block.heading ++ " \x7b") ::
    (block.statements.flatMap (Statement.lines indentation) ++ [("\x7d" : Text)])

/-- The lines of a stylesheet: those of its blocks, with an empty line behind each. -/
def Stylesheet.lines (sheet : Stylesheet) : List Text :=
  sheet.blocks.flatMap fun block => block.lines ++ [[]]

/-- The text of a block consists of its lines, unless nothing stands in its braces. -/
theorem Block.render_eq_join_lines {block : Block} (h : block.statements ≠ []) :
    block.render = Text.join "\n" block.lines := by
  have hlines : ∀ group ∈ block.statements.map (Statement.lines indentation), group ≠ [] := by
    intro group hgroup
    obtain ⟨statement, -, rfl⟩ := List.mem_map.1 hgroup
    simp [Statement.lines]
  have hne : block.statements.flatMap (Statement.lines indentation) ≠ [] := by
    obtain ⟨first, rest, hstatements⟩ := List.exists_cons_of_ne_nil h
    simp [hstatements, Statement.lines]
  -- the statements are joined line by line, since each has lines
  have hjoin : Text.join "\n" (block.statements.map (Statement.render indentation)) =
      Text.join "\n" (block.statements.flatMap (Statement.lines indentation)) := by
    rw [List.flatMap_def, ← Text.join_map_join hlines, List.map_map]
    rfl
  rw [Block.render, Block.lines, Text.join_cons_of_ne_nil (by simp),
    Text.join_append hne (by simp), Text.join_singleton, hjoin]
  simp

/-- The text of a stylesheet consists of its lines. -/
theorem Stylesheet.render_eq_join_lines (sheet : Stylesheet) :
    sheet.render = Text.join "\n" sheet.lines := by
  have hblocks : sheet.blocks.map (Text.join "\n" ∘ (·.lines ++ [[]])) =
      sheet.blocks.map (·.render ++ ("\n" : Text)) := by
    refine List.map_congr_left fun block hblock => ?_
    rw [Function.comp_apply, Block.render_eq_join_lines (statements_ne_nil_of_mem_blocks hblock),
      Text.join_append (by simp [Block.lines]) (by simp), Text.join_singleton, List.append_nil]
  -- with the empty line behind it, every block has lines
  have hgroups : ∀ group ∈ sheet.blocks.map (·.lines ++ [[]]), group ≠ [] := by simp
  rw [lines, List.flatMap_def, ← Text.join_map_join hgroups, List.map_map, hblocks, render]
  split
  · next hnil =>
    rw [hnil]
    rfl
  · next hne =>
    have hne : sheet.blocks.map (·.render) ≠ [] := by simpa using hne
    have happend : Text.join "\n" ((sheet.blocks.map (·.render)).map (· ++ ("\n" : Text))) =
        Text.join "\n\n" (sheet.blocks.map (·.render)) ++ "\n" :=
      Text.join_map_append hne "\n"
    rw [List.map_map] at happend
    exact happend.symm

/-! ## Texts that fit on a line -/

/-- Nothing in the heading and the statements goes over several lines. -/
structure Block.SingleLine (block : Block) : Prop where
  heading : '\n' ∉ block.heading
  contents : ∀ statement ∈ block.statements, '\n' ∉ statement.content
  annotations : ∀ statement ∈ block.statements,
    ∀ note ∈ statement.annotations, '\n' ∉ note

/-- No text that a stylesheet is made of goes over several lines. -/
structure Stylesheet.SingleLine (sheet : Stylesheet) : Prop where
  root : ∀ entry ∈ sheet.root, '\n' ∉ entry.1 ∧ '\n' ∉ entry.2
  selectors : ∀ rule ∈ sheet.rules, ∀ s ∈ rule.selectors, '\n' ∉ s
  properties : ∀ rule ∈ sheet.rules, ∀ d ∈ rule.declarations, '\n' ∉ d.property
  values : ∀ rule ∈ sheet.rules, ∀ d ∈ rule.declarations, '\n' ∉ d.value
  annotations : ∀ rule ∈ sheet.rules, ∀ d ∈ rule.declarations,
    ∀ note ∈ d.annotations.render, '\n' ∉ note

/-- No line of such a block goes over several lines. -/
private theorem Block.SingleLine.notMem_of_mem_lines {block : Block} (h : block.SingleLine)
    {line : Text}
    (hline : line ∈ block.lines) : '\n' ∉ line := by
  simp only [Block.lines, Statement.lines, List.mem_cons, List.mem_append,
    List.mem_flatMap, List.mem_map, List.not_mem_nil, or_false] at hline
  rcases hline with rfl | ⟨statement, hstatement, ⟨note, hnote, rfl⟩ | rfl⟩ | rfl
  · simp [h.heading]
  · simp [h.annotations statement hstatement note hnote, indentation]
  · simp [h.contents statement hstatement, indentation]
  · decide

namespace Stylesheet

variable {sheet : Stylesheet}

/-- Nothing in a block goes over several lines if nothing in the stylesheet does. -/
private theorem SingleLine.of_mem_blocks (h : sheet.SingleLine) {block : Block}
    (hblock : block ∈ sheet.blocks) : block.SingleLine := by
  rw [blocks_eq_outline, outline, List.mem_append] at hblock
  rcases hblock with hblock | hblock
  · -- the block of the root definitions, whose statements have no annotations
    split at hblock
    · cases hblock
    · obtain rfl := List.mem_singleton.1 hblock
      have hheading : '\n' ∉ (":root" : Text) := by decide
      refine ⟨hheading, ?_, ?_⟩
      · intro statement hstatement
        obtain ⟨entry, hentry, rfl⟩ := List.mem_map.1 hstatement
        simp [h.root entry hentry]
      · intro statement hstatement
        obtain ⟨entry, -, rfl⟩ := List.mem_map.1 hstatement
        simp
  · obtain ⟨rule, hrule, rfl⟩ := List.mem_map.1 hblock
    have hrule := (List.mem_filter.1 hrule).1
    refine ⟨Text.notMem_join (by decide) (h.selectors rule hrule), ?_, ?_⟩
    · intro statement hstatement
      obtain ⟨d, hd, rfl⟩ := List.mem_map.1 hstatement
      have himportant : '\n' ∉ (if d.important then " !important" else "" : String).toList := by
        cases d.important <;> decide
      simp [h.properties rule hrule d hd, h.values rule hrule d hd, himportant]
    · intro statement hstatement
      obtain ⟨d, hd, rfl⟩ := List.mem_map.1 hstatement
      exact h.annotations rule hrule d hd

/-- No line of such a stylesheet goes over several lines. -/
private theorem SingleLine.notMem_of_mem_lines (h : sheet.SingleLine) {line : Text}
    (hline : line ∈ sheet.lines) : '\n' ∉ line := by
  obtain ⟨block, hblock, hline⟩ := List.mem_flatMap.1 hline
  rcases List.mem_append.1 hline with hline | hline
  · exact (h.of_mem_blocks hblock).notMem_of_mem_lines hline
  · obtain rfl := List.mem_singleton.1 hline
    exact List.not_mem_nil

/-! ## Reading -/

/-- The blocks from a line on, where `below` are those that the lines below it consist of. The first
    of these is still incomplete unless the line is empty or closes a block. -/
def readLine (line : Text) (below : List Block) : List Block :=
  -- the offsets are the lengths of what is written in front of a text and behind it
  match line.getLast? with
  | some '\x7d' => { heading := [], statements := [] } :: below
  | some ';' =>
    below.modifyHead fun block =>
      { block with
        statements := { annotations := [], content := line.slice 2 (-1) } :: block.statements }
  | some '/' =>
    below.modifyHead fun block =>
      { block with
        statements := block.statements.modifyHead fun statement =>
          { statement with annotations := line.slice 5 (-3) :: statement.annotations } }
  | some '\x7b' => below.modifyHead fun block => { block with heading := line.slice 0 (-2) }
  | _ => below

/-- The blocks that a text consists of, read from the last line to the first. -/
def read (t : Text) : List Block :=
  (t.splitOn '\n').foldr readLine []

variable {heading : Text} {statements : List Statement} {below : List Block}

private theorem readLine_closing :
    readLine "\x7d" below = { heading := [], statements := [] } :: below :=
  rfl

/-- A declaration comes in front of the statements below it. -/
private theorem readLine_content (content : Text) :
    readLine (indentation ++ content ++ ";") ({ heading, statements } :: below) =
      { heading, statements := { annotations := [], content } :: statements } :: below := by
  have hslice : (indentation ++ content ++ ";").slice 2 (-1) = content :=
    Text.slice_append_append indentation content (by decide)
  have hlast : (indentation ++ content ++ ";").getLast? = some ';' :=
    List.getLast?_append_of_ne_nil _ (by decide)
  simp only [readLine, hlast, hslice, List.modifyHead_cons]

/-- An annotation belongs to the statement below it. -/
private theorem readLine_annotation (note : Text) (annotations : List Text) (content : Text) :
    readLine (indentation ++ "/* " ++ note ++ " */")
        ({ heading, statements := { annotations, content } :: statements } :: below) =
      { heading
        statements := { annotations := note :: annotations, content } :: statements } ::
        below := by
  have hslice : (indentation ++ "/* " ++ note ++ " */").slice 5 (-3) = note :=
    Text.slice_append_append (indentation ++ "/* ") note (by decide)
  have hlast : (indentation ++ "/* " ++ note ++ " */").getLast? = some '/' :=
    List.getLast?_append_of_ne_nil _ (by decide)
  simp only [readLine, hlast, hslice, List.modifyHead_cons]

/-- A heading belongs to the statements below it. -/
private theorem readLine_heading (heading' : Text) :
    readLine (heading' ++ " \x7b") ({ heading, statements } :: below) =
      { heading := heading', statements } :: below := by
  have hslice : (heading' ++ " \x7b").slice 0 (-2) = heading' :=
    Text.slice_append_append [] heading' (by decide)
  have hlast : (heading' ++ " \x7b").getLast? = some '\x7b' :=
    List.getLast?_append_of_ne_nil _ (by decide)
  simp only [readLine, hlast, hslice, List.modifyHead_cons]

/-- The lines of a statement give it back. -/
private theorem foldr_readLine_statement (statement : Statement) :
    (statement.lines indentation).foldr readLine ({ heading, statements } :: below) =
      { heading, statements := statement :: statements } :: below := by
  obtain ⟨annotations, content⟩ := statement
  rw [Statement.lines, List.foldr_append, List.foldr_cons, List.foldr_nil, readLine_content]
  -- the statement is there, and the annotations above it are added one by one
  induction annotations with
  | nil => rfl
  | cons note annotations ih =>
    rw [List.map_cons, List.foldr_cons, ih, readLine_annotation]

/-- The lines of some statements give them back. -/
private theorem foldr_readLine_statements (above : List Statement) :
    (above.flatMap (Statement.lines indentation)).foldr readLine
        ({ heading, statements } :: below) =
      { heading, statements := above ++ statements } :: below := by
  induction above with
  | nil => rfl
  | cons statement above ih =>
    rw [List.flatMap_cons, List.foldr_append, ih, foldr_readLine_statement, List.cons_append]

/-- The lines of a block give it back. -/
private theorem foldr_readLine_block (block : Block) :
    block.lines.foldr readLine below = block :: below := by
  -- from the closing brace, over the statements, up to the heading
  rw [Block.lines, List.foldr_cons, List.foldr_append, List.foldr_cons, List.foldr_nil,
    readLine_closing, foldr_readLine_statements, readLine_heading, List.append_nil]

/-- The lines of a stylesheet give its blocks back. -/
theorem foldr_readLine_lines (sheet : Stylesheet) :
    sheet.lines.foldr readLine [] = sheet.blocks := by
  rw [lines]
  induction sheet.blocks with
  | nil => rfl
  | cons block blocks ih =>
    -- an empty line stands between two blocks
    have hempty : readLine [] blocks = blocks := rfl
    rw [List.flatMap_cons, List.foldr_append, ih, List.foldr_append, List.foldr_cons,
      List.foldr_nil, hempty, foldr_readLine_block]

/-- The text of a stylesheet gives its blocks back, if nothing in it goes over several lines. -/
theorem read_render (h : sheet.SingleLine) : read sheet.render = sheet.blocks := by
  rw [render_eq_join_lines, ← foldr_readLine_lines, read]
  -- the empty text is split into one empty line, which is not among the lines that were written
  by_cases hnil : sheet.lines = []
  · rw [hnil]
    rfl
  · have hsplit : (Text.join "\n" sheet.lines).splitOn '\n' = sheet.lines :=
      List.splitOn_intercalate '\n' (fun line hline => h.notMem_of_mem_lines hline) hnil
    rw [hsplit]

end Stylesheet

/-- Stylesheets with the same text have the same blocks, if nothing in them goes over several
    lines. -/
theorem outline_eq_of_render_eq {sheet sheet' : Stylesheet} (h : sheet.SingleLine)
    (h' : sheet'.SingleLine) (heq : sheet.render = sheet'.render) :
    sheet.outline = sheet'.outline := by
  rw [← sheet.blocks_eq_outline, ← sheet'.blocks_eq_outline, ← Stylesheet.read_render h,
    ← Stylesheet.read_render h', heq]

/-- A root definition of `--a` as `1`, a rule for `a` and `b`, and one that is left out. -/
def Stylesheet.twoSelectors : Stylesheet where
  root := [("--a", "1")]
  rules :=
    [{ selectors := ["a", "b"]
       declarations :=
         [{ property := "content", value := "'; \x7d c \x7b /* */'", important := true,
            annotations := [("order", .int 2), ("noflip", .bool false)] }] },
     { selectors := ["d"], declarations := [] }]

/-- What is written as `Stylesheet.twoSelectors`, with a rule for the root definition. -/
def Stylesheet.oneSelector : Stylesheet where
  root := []
  rules :=
    [{ selectors := [":root"], declarations := [{ property := "--a", value := "1" }] },
     { selectors := ["a, b"]
       declarations :=
         [{ property := "content", value := "'; \x7d c \x7b /* */' !important",
            annotations := [("order 2", .bool true)] }] }]

/-- Both are written with the same text, which shows the annotation that is switched on. -/
theorem outline_eq_of_render_eq_of_two_selectors :
    (Stylesheet.twoSelectors.SingleLine ∧ Stylesheet.oneSelector.SingleLine ∧
        Stylesheet.twoSelectors.render = Stylesheet.oneSelector.render) ∧
      Stylesheet.twoSelectors.render =
        ":root \x7b\n  --a: 1;\n\x7d\n\na, b \x7b\n  /* @order 2 */\n" ++
          "  content: '; \x7d c \x7b /* */' !important;\n\x7d\n" ∧
      Stylesheet.twoSelectors.outline = Stylesheet.oneSelector.outline := by
  have h : Stylesheet.twoSelectors.SingleLine := by
    constructor <;> decide +kernel
  have h' : Stylesheet.oneSelector.SingleLine := by
    constructor <;> decide +kernel
  have heq : Stylesheet.twoSelectors.render = Stylesheet.oneSelector.render := by decide +kernel
  exact ⟨⟨h, h', heq⟩, by decide +kernel, outline_eq_of_render_eq h h' heq⟩

end CssTheming
