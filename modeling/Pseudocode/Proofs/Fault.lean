import Mathlib.Data.List.Basic
import Pseudocode.Outcome

/-! The texts of faults can be told from each other and from all code. -/

namespace Pseudocode

/-- The digits of a numeral are decimal digits. -/
theorem numeral_digits (number : Nat) : ∀ c ∈ numeral number, isDecimalDigit c = true := by
  intro c member
  have digit := Nat.isDigit_of_mem_toDigits (by omega) (by omega) member
  obtain ⟨low, high⟩ := Char.isDigit_iff_toNat.mp digit
  -- The digits from `0` to `9` are those of the first script in the table.
  refine List.any_eq_true.mpr ⟨0x0030, by simp [decimalZeros], ?_⟩
  simpa using And.intro low high

/-- No two numbers have the same numeral. -/
theorem numeral_injective {number other : Nat} (same : numeral number = numeral other) :
    number = other := by
  -- Reading a numeral gives its number back.
  have read := congrArg (fun digits => Nat.ofDigitChars 10 digits 0) same
  simpa [numeral] using read

namespace Fault

/-- The text of a failed line ends with the numeral of the line. -/
theorem text_failedLine (number : Nat) :
    (failedLine number).text = marker ++ failedLineMessage ++ numeral number := by
  -- The template ends with its only hole, so nothing follows the numeral that is put in.
  rw [← List.append_nil (numeral number)]
  rfl

/-- The text of every fault starts with the mark of a fault, and its message is what follows. -/
theorem text_eq_marker_append (fault : Fault) : fault.text = marker ++ fault.message := by
  -- The message is what dropping the mark leaves, so only the mark itself has to be found.
  cases fault with
  | mismatch => rfl
  | failedLine number =>
    rw [message, text_failedLine, List.append_assoc, List.drop_left]

/-- The text of a failed line is not the text of blocks that do not match. -/
theorem text_failedLine_ne_mismatch (number : Nat) :
    (failedLine number).text ≠ mismatch.text := by
  -- The two messages differ in their first letter, which comes before the numeral.
  intro same
  rw [text_failedLine] at same
  have letters : some 'F' = some 'I' := congrArg (fun text => text[marker.length]?) same
  exact absurd letters (by decide)

/-- No two faults have the same text. -/
theorem text_injective {fault other : Fault} (same : fault.text = other.text) : fault = other := by
  -- The kind of a fault shows in its message, and the number of a line in its numeral.
  cases fault with
  | mismatch =>
    cases other with
    | mismatch => rfl
    | failedLine number => exact absurd same.symm (text_failedLine_ne_mismatch number)
  | failedLine number =>
    cases other with
    | mismatch => exact absurd same (text_failedLine_ne_mismatch number)
    | failedLine otherNumber =>
      -- What comes before the numerals is the same, so the numerals are too.
      rw [text_failedLine, text_failedLine] at same
      rw [numeral_injective (List.append_cancel_left same)]

/-- A text is taken for a fault's exactly when it is a mismatch's or ends with decimal digits. -/
theorem isText_iff (text : Text) :
    isText text = true ↔ text = mismatch.text ∨
      ∃ digits, text = marker ++ failedLineMessage ++ digits ∧ digits ≠ [] ∧
        ∀ c ∈ digits, isDecimalDigit c = true := by
  unfold isText
  rw [Bool.or_eq_true, beq_iff_eq]
  refine or_congr Iff.rfl ?_
  cases found : (marker ++ failedLineMessage).isPrefixOf? text with
  | none =>
    -- A text that starts otherwise cannot be split after the words.
    simp only [Bool.false_eq_true, false_iff]
    intro split
    obtain ⟨digits, rfl, -, -⟩ := split
    rw [List.isPrefixOf?_eq_some_iff_append_eq.mpr rfl] at found
    contradiction
  | some rest =>
    -- There is only one way to split the text after the words.
    rw [List.isPrefixOf?_eq_some_iff_append_eq] at found
    subst found
    simp

/-- The text of every fault is recognised, whatever the number of a failed line is. -/
theorem isText_text (fault : Fault) : isText fault.text = true := by
  -- The digits of the line are those of a numeral, which has at least one.
  rw [isText_iff]
  cases fault with
  | mismatch => exact Or.inl rfl
  | failedLine number =>
    exact Or.inr ⟨numeral number, text_failedLine number, Nat.toDigits_ne_nil, numeral_digits number⟩

/-- A text that is taken for a fault's does not end with a line feed, and is not empty. -/
theorem getLast?_of_isText {text : Text} (recognised : isText text = true) :
    ∃ c, text.getLast? = some c ∧ c ≠ '\n' := by
  rcases (isText_iff text).mp recognised with rfl | ⟨digits, rfl, anyDigits, decimal⟩
  · -- The one text that is fixed ends with a letter.
    exact ⟨'H', rfl, by decide⟩
  · -- The text ends with the last of its digits, and a line feed is no digit.
    refine ⟨digits.getLast anyDigits, ?_, ?_⟩
    · rw [List.getLast?_append_of_ne_nil _ anyDigits, List.getLast?_eq_some_getLast anyDigits]
    · intro feed
      have digit := decimal _ (List.getLast_mem anyDigits)
      rw [feed] at digit
      exact absurd digit (by decide)

end Fault

namespace Outcome

/-- The text of code is never taken for a fault's, whatever the lines of the code say. -/
theorem isText_code (lines : List Text) : Fault.isText (code lines).text = false := by
  -- Code is empty or ends with the line feed after its last line.
  by_contra taken
  obtain ⟨c, last, noFeed⟩ := Fault.getLast?_of_isText (Bool.of_not_eq_false taken)
  rcases List.eq_nil_or_concat lines with rfl | ⟨front, line, rfl⟩
  · simp [text] at last
  · have feed : '\n' = c := by simpa [text] using last
    exact noFeed feed.symm

/-- The recogniser of fault texts finds out whether a program was rejected. -/
theorem isText_text_eq (outcome : Outcome) :
    Fault.isText outcome.text = outcome.fault?.isSome := by
  -- No code is taken for a fault's text, and no fault's text is missed.
  cases outcome with
  | code lines => simpa [fault?] using isText_code lines
  | rejected fault => simpa [fault?, text] using Fault.isText_text fault

/-- The text of an outcome is that of a fault exactly when the program was rejected for it. -/
theorem text_eq_fault_iff (outcome : Outcome) (fault : Fault) :
    outcome.text = fault.text ↔ outcome = rejected fault := by
  cases outcome with
  | code lines =>
    -- The recogniser takes the fault's text for one, and no code's.
    simp only [reduceCtorEq, iff_false]
    intro same
    have taken := Fault.isText_text fault
    rw [← same, isText_code] at taken
    contradiction
  | rejected other =>
    simp only [rejected.injEq]
    -- Two faults with one text are one fault.
    exact ⟨Fault.text_injective, fun same => by rw [same, text]⟩

end Outcome

end Pseudocode
