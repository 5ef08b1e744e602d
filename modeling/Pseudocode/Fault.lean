import Pseudocode.Text.Digit

/-! Faults: why a program as a whole has no code. -/

namespace Pseudocode

/-- Why a program has no code. -/
inductive Fault where
  /-- The blocks that are opened are not the blocks that are closed. -/
  | mismatch
  /-- The line with this number, counted from one, starts with none of the keywords. -/
  | failedLine (number : Nat)
deriving DecidableEq, Repr

namespace Fault

/-- What the text of every fault starts with. -/
def marker : Text := "ERROR: ".toList

/-- What the text of a failed line says before the number of the line. -/
def failedLineMessage : Text := "FAILED TO PROCESS LINE ".toList

/-- The text of a failed line, with a hole for the number of the line. -/
def failedLineTemplate : Template :=
  let hole := "\x7bline_num\x7d".toList
  ⟨marker ++ failedLineMessage ++ hole, hole⟩

/-- The text that stands in for the code of a program with a fault. -/
def text : Fault → Text
  | .mismatch => marker ++ "INDENTATION MISMATCH".toList
  | .failedLine number => failedLineTemplate.fill (numeral number)

/-- What is said about a fault, which is its text without the mark of a fault. -/
def message (fault : Fault) : Text :=
  fault.text.drop marker.length

/--
Whether a text is that of a fault.

A line number is one or more decimal digits, of whatever script.
-/
def isText (text : Text) : Bool :=
  text == Fault.mismatch.text ||
    match (marker ++ failedLineMessage).isPrefixOf? text with
    | some digits => !digits.isEmpty && digits.all isDecimalDigit
    | none => false

end Fault

end Pseudocode
