import Mathlib.Logic.Function.Iterate
import Pseudocode.Proofs.CodeLines

/-! What becomes of a program when the text it is compiled into is compiled again, and so on. -/

namespace Pseudocode

/-- The text that a program is compiled into. -/
def translation (text : Text) : Text :=
  (compileText text).text

/-- No digit is a line break. -/
theorem isLineBreak_of_isDecimalDigit {c : Char} (digit : isDecimalDigit c = true) :
    isLineBreak c = false := by
  by_contra ends
  obtain ⟨mark, isMark⟩ := exists_mark_of_isLineBreak (Bool.of_not_eq_false ends)
  -- There are few breaks, and each of them can be looked up among the digits.
  cases mark <;> cases isMark <;> exact absurd digit (by decide)

namespace Fault

/-- The text of a fault starts with the mark of one, and has no line breaks. -/
theorem isLine_of_isText {text : Text} (recognised : isText text = true) :
    IsLine text ∧ ∃ rest, text = marker ++ rest := by
  -- A text that is recognised is fixed, or is fixed up to its digits.
  rcases (isText_iff text).mp recognised with rfl | ⟨digits, rfl, -, decimal⟩
  · exact ⟨by decide, _, rfl⟩
  · refine ⟨fun c member => ?_, failedLineMessage ++ digits, List.append_assoc _ _ _⟩
    -- The words before the digits are always the same.
    have words : IsLine (marker ++ failedLineMessage) := by decide
    rcases List.mem_append.mp member with inWords | inDigits
    · exact words c inWords
    · exact isLineBreak_of_isDecimalDigit (decimal c inDigits)

/-- A line that starts with the mark of a fault starts with none of the keywords. -/
theorem ofLine_marker (rest : Text) :
    Statement.ofLine (marker ++ rest) = .unknown (marker ++ rest) := rfl

end Fault

/-- The text of a fault is no program: its only line is unknown. -/
theorem translation_of_isText {text : Text} (recognised : Fault.isText text = true) :
    translation text = "ERROR: FAILED TO PROCESS LINE 1".toList := by
  obtain ⟨isLine, rest, starts⟩ := Fault.isLine_of_isText recognised
  -- Without a line break, the text is a single line.
  have single : splitLines text = [text] := by
    simpa using splitLines_line_append isLine []
  have unknown : Statement.ofLine text = .unknown text := by
    rw [starts, Fault.ofLine_marker]
  -- The only line is the first, so that is the number in the fault.
  have rejected : Outcome.ofStatements [.unknown text] = .rejected (.failedLine 1) := rfl
  rw [translation, compileText, single, compile, List.map_singleton, unknown, rejected]
  decide

/-- An accepted program is compiled into a text with one line more. -/
theorem length_splitLines_translation {text : Text}
    (accepted : Fault.isText (translation text) = false) :
    (splitLines (translation text)).length = (splitLines text).length + 1 := by
  -- One line is placed for each line, and an empty one follows the last line feed.
  rw [translation, splitLines_text_of_accepted accepted]
  simp [placed]

end Pseudocode
