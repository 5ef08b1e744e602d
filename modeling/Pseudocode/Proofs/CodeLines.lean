import Pseudocode.Proofs.Outcome
import Pseudocode.Proofs.Statement
import Pseudocode.Proofs.Text.Lines

/-! The lines of code are the lines of the program: no break is lost on the way, and none is added. -/

namespace Pseudocode

namespace Statement

/-- No template has a line break in it. -/
theorem isLine_template (statement : Statement) : IsLine statement.template.text := by
  -- The templates are fixed texts, so each of them can be looked through.
  cases statement with
  | blank => decide
  | keyed keyword rest =>
    show IsLine keyword.template.text
    cases keyword <;> decide
  | unknown line =>
    show IsLine []
    decide

/-- What is emitted has no line break in it, unless there was one in the line. -/
theorem isLine_emit {statement : Statement} (isLine : IsLine statement.text) :
    IsLine statement.emit := by
  intro c member
  -- A code point comes from the line or from the template, and neither has a break.
  rcases mem_emit member with fromLine | fromTemplate
  · exact isLine c fromLine
  · exact statement.isLine_template c fromTemplate

/-- What is emitted for a line of a program has no line break in it. -/
theorem isLine_emit_ofLine {line : Text} (isLine : IsLine line) : IsLine (ofLine line).emit := by
  apply isLine_emit
  rw [ofLine, parse, text_parseWith]
  intro c member
  -- Leading blanks are left out, and the rest of the line is kept.
  exact isLine c ((List.dropWhile_suffix isBlank).mem member)

end Statement

/-- Indentation adds no line break. -/
theorem isLine_indented (depth : Nat) {text : Text} (isLine : IsLine text) :
    IsLine (indented depth text) := by
  intro c member
  -- A code point in front of the text is one of the blanks of an indent.
  rcases List.mem_append.mp member with inFront | inText
  · obtain ⟨unit, isUnit, inUnit⟩ := List.mem_flatten.mp inFront
    have blanks : IsLine indent := by decide
    rw [List.eq_of_mem_replicate isUnit] at inUnit
    exact blanks c inUnit
  · exact isLine c inText

/-- Placed lines have no line breaks in them, if the lines of the program have none. -/
theorem isLine_of_mem_placed {depth : Nat} {lines : List Text} (areLines : ∀ line ∈ lines, IsLine line)
    {line : Text} (isPlaced : line ∈ placed depth lines) : IsLine line := by
  -- A placed line is what is emitted for some line of the program, indented.
  obtain ⟨index, within, rfl⟩ := List.mem_mapIdx.mp isPlaced
  exact isLine_indented _ (Statement.isLine_emit_ofLine (areLines _ (List.getElem_mem within)))

namespace Outcome

/-- The text of code is its first line with a line feed, and then the text of the others. -/
theorem text_code_cons (line : Text) (lines : List Text) :
    (code (line :: lines)).text = line ++ (LineBreak.lineFeed.text ++ (code lines).text) := by
  simp [text, LineBreak.text]

/-- Splitting code gives its lines, and an empty one after the last line feed. -/
theorem splitLines_text_code {lines : List Text} (areLines : ∀ line ∈ lines, IsLine line) :
    splitLines (code lines).text = lines ++ [[]] := by
  induction lines with
  | nil => rfl
  | cons line lines ih =>
    -- The line feed after a line ends that line, and no other break comes before it.
    obtain ⟨isLine, later⟩ := List.forall_mem_cons.mp areLines
    rw [text_code_cons, splitLines_line_append isLine, splitLines_mark_append (by simp), ih later]
    simp

/-- The line breaks in code are the line feeds after its lines. -/
theorem filter_isLineBreak_text_code {lines : List Text} (areLines : ∀ line ∈ lines, IsLine line) :
    (code lines).text.filter isLineBreak = List.replicate lines.length '\n' := by
  induction lines with
  | nil => rfl
  | cons line lines ih =>
    obtain ⟨isLine, later⟩ := List.forall_mem_cons.mp areLines
    -- Of the first line, only the line feed after it counts.
    have noBreaks : line.filter isLineBreak = [] :=
      List.filter_eq_nil_iff.mpr fun c member => by simp [isLine c member]
    have feed : LineBreak.lineFeed.text.filter isLineBreak = ['\n'] := by decide
    rw [text_code_cons, List.filter_append, List.filter_append, noBreaks, feed, ih later]
    simp [List.replicate_succ]

end Outcome

/-- Splitting the code of an accepted program gives its placed lines, and an empty one after them. -/
theorem splitLines_text_of_accepted {text : Text}
    (accepted : Fault.isText (compileText text).text = false) :
    splitLines (compileText text).text = placed 0 (splitLines text) ++ [[]] := by
  obtain ⟨-, -, compiled⟩ := compile_of_not_isText accepted
  -- What is placed for lines without breaks has none either.
  have areLines : ∀ line ∈ placed 0 (splitLines text), IsLine line :=
    fun line => isLine_of_mem_placed fun _ => isLine_of_mem_splitLines
  rw [compileText, compiled, Outcome.splitLines_text_code areLines]

/--
An accepted program and its code correspond line by line, whatever breaks the program is written with.

Each line of code is what is emitted for the line of the program, at the depth its place says.
The code has no line breaks but the line feeds after its lines.
-/
theorem splitLines_text_compileText (text : Text)
    (accepted : Fault.isText (compileText text).text = false) :
    let source := splitLines text
    let emitted := splitLines (compileText text).text
    emitted.length = source.length + 1 ∧
    (∀ index line, source[index]? = some line →
      countRole .closes (source.take (index + 1)) ≤ countRole .opens (source.take index) ∧
      emitted[index]? = some ((List.replicate
        (countRole .opens (source.take index) - countRole .closes (source.take (index + 1)))
        indent).flatten ++ (Statement.ofLine line).emit)) ∧
    emitted[source.length]? = some [] ∧
    (compileText text).text.filter isLineBreak = List.replicate source.length '\n' := by
  intro source emitted
  obtain ⟨balanced, -, compiled⟩ := compile_of_not_isText accepted
  -- Splitting gives lines, so what is placed for them are lines as well.
  have areLines : ∀ line ∈ placed 0 source, IsLine line :=
    fun line => isLine_of_mem_placed fun _ => isLine_of_mem_splitLines
  have size : (placed 0 source).length = source.length := by simp [placed]
  have code : emitted = placed 0 source ++ [[]] := by
    show splitLines (compile source).text = _
    rw [compiled, Outcome.splitLines_text_code areLines]
  refine ⟨?_, ?_, ?_, ?_⟩
  · rw [code, List.length_append, size, List.length_singleton]
  · intro index line here
    -- Each line of code but the empty one at the end belongs to a line of the program.
    have within : index < source.length := (List.getElem?_eq_some_iff.mp here).1
    refine ⟨balanced.closes_le_opens_before within, ?_⟩
    rw [code, List.getElem?_append_left (by rw [size]; exact within)]
    simp [placed, depthAt, here, indented]
  · rw [code, ← size]
    simp
  · -- Each line of code is followed by a line feed, and no other break is there to be found.
    show (compile source).text.filter isLineBreak = _
    rw [compiled, Outcome.filter_isLineBreak_text_code areLines, size]

/-- Breaks of three kinds become line feeds, and a name that is emitted twice stays on its line. -/
theorem splitLines_text_compileText_mixed_breaks :
    let text := "WHILE x\r\n\u00a0CASTASNUM n\u2028\rENDIF".toList
    (splitLines (compileText text).text).length = 5 ∧
      (splitLines (compileText text).text)[1]? = some "    n = float(n)".toList ∧
      (compileText text).text.filter isLineBreak = ['\n', '\n', '\n', '\n'] := by
  intro text
  -- The blocks match, although the end is one of another kind.
  have accepted : Fault.isText (compileText text).text = false := by decide +kernel
  obtain ⟨size, lines, -, breaks⟩ := splitLines_text_compileText text accepted
  exact ⟨size, (lines 1 _ rfl).2, breaks⟩

end Pseudocode
