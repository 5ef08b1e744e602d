import Mathlib.Data.List.Forall2
import Pseudocode.Outcome
import Pseudocode.Proofs.Text.Lines

/-! Neither the breaks between the lines of a program nor the blanks in front of them matter. -/

namespace Pseudocode

/-- Blanks that can be put in front of a line, since none of them breaks it. -/
def IsMargin (text : Text) : Prop :=
  ∀ c ∈ text, isBlank c = true ∧ isLineBreak c = false

/-- Whether a text can be a margin is found out by going through it. -/
instance (text : Text) : Decidable (IsMargin text) :=
  List.decidableBAll (fun c => isBlank c = true ∧ isLineBreak c = false) text

/-- The second line is the first with a margin in front of it. -/
def Shifted (line shifted : Text) : Prop :=
  ∃ margin, IsMargin margin ∧ shifted = margin ++ line

/-- Blanks in front of a line are left out with those that it starts with. -/
theorem trimStart_append {margin : Text} (blank : ∀ c ∈ margin, isBlank c = true) (line : Text) :
    trimStart (margin ++ line) = trimStart line :=
  -- Leaving out blanks does not stop before the first code point that is none.
  List.dropWhile_append_of_pos blank

/-- A line with a margin starts, after its blanks, where the line does. -/
theorem Shifted.trimStart_eq {line shifted : Text} (shift : Shifted line shifted) :
    trimStart shifted = trimStart line := by
  obtain ⟨margin, isMargin, rfl⟩ := shift
  -- The margin is nothing but blanks.
  exact trimStart_append (fun c member => (isMargin c member).1) line

/-- A line with a margin is still a line. -/
theorem Shifted.isLine {line shifted : Text} (shift : Shifted line shifted) (isLine : IsLine line) :
    IsLine shifted := by
  obtain ⟨margin, isMargin, rfl⟩ := shift
  intro c member
  -- Neither the margin nor the line has a break in it.
  rcases List.mem_append.mp member with inMargin | inLine
  · exact (isMargin c inMargin).2
  · exact isLine c inLine

/-- Lines with margins are still lines. -/
theorem isLine_of_mem_shifted {lines shifted : List Text} (shifts : List.Forall₂ Shifted lines shifted)
    (areLines : ∀ line ∈ lines, IsLine line) : ∀ line ∈ shifted, IsLine line := by
  -- Each line has a margin of its own.
  induction shifts with
  | nil => simp
  | cons shift _ ih =>
    obtain ⟨isLine, later⟩ := List.forall_mem_cons.mp areLines
    exact List.forall_mem_cons.mpr ⟨shift.isLine isLine, ih later⟩

/-- Lines with margins start, after their blanks, where the lines do. -/
theorem map_trimStart_shifted {lines shifted : List Text}
    (shifts : List.Forall₂ Shifted lines shifted) :
    shifted.map trimStart = lines.map trimStart := by
  -- Each margin goes with the blanks of its own line.
  induction shifts with
  | nil => rfl
  | cons shift _ ih => rw [List.map_cons, List.map_cons, shift.trimStart_eq, ih]

/-- What becomes of a program depends on what its lines say after the blanks they start with. -/
theorem compile_congr {lines others : List Text}
    (same : lines.map trimStart = others.map trimStart) : compile lines = compile others := by
  -- A line is read only after its blanks have been left out.
  have statements : lines.map Statement.ofLine = others.map Statement.ofLine := by
    have read := congrArg (List.map Statement.parse) same
    rw [List.map_map, List.map_map] at read
    exact read
  rw [compile, compile, statements]

/--
A program becomes the same with other breaks between its lines and with margins in front of them.

This includes its fault and the number of the line at fault, if it has one.
The new breaks may be mixed, as long as no return and feed with nothing in between become one.
-/
theorem compileText_joinLines_shifted (text first : Text) (others : List (LineBreak × Text))
    (shifts : List.Forall₂ Shifted (splitLines text) (first :: others.map (·.2)))
    (apart : others.IsChain fun before after => ¬ Fuses before after) :
    compileText (joinLines first others) = compileText text := by
  -- Splitting the new text gives the lines with their margins, and no more or fewer lines.
  have areLines := isLine_of_mem_shifted shifts fun _ => isLine_of_mem_splitLines
  have separated : Separated first others := by
    obtain ⟨isFirst, later⟩ := List.forall_mem_cons.mp areLines
    exact ⟨isFirst, List.forall_mem_map.mp later, apart⟩
  rw [compileText, compileText, splitLines_joinLines separated]
  exact compile_congr (map_trimStart_shifted shifts)

/-- A margin keeps a return and a feed apart, so that the line at fault keeps its number. -/
theorem compileText_joinLines_shifted_blank_line :
    compileText "\tIF x\r \nWHAT\u2028 ENDIF".toList
        = compileText "IF x\n\nWHAT\r\nENDIF".toList ∧
      compileText "IF x\n\nWHAT\r\nENDIF".toList = .rejected (.failedLine 3) := by
  have lines : splitLines "IF x\n\nWHAT\r\nENDIF".toList
      = ["IF x".toList, [], "WHAT".toList, "ENDIF".toList] := by decide
  -- The margin on the second line stands between the return and the feed.
  have made : joinLines "\tIF x".toList [(.carriageReturn, [' ']), (.lineFeed, "WHAT".toList),
      (.lineSeparator, " ENDIF".toList)] = "\tIF x\r \nWHAT\u2028 ENDIF".toList := by decide
  constructor
  · rw [← made]
    apply compileText_joinLines_shifted
    · rw [lines]
      exact .cons ⟨['\t'], by decide, rfl⟩ (.cons ⟨[' '], by decide, rfl⟩
        (.cons ⟨[], by decide, rfl⟩ (.cons ⟨[' '], by decide, rfl⟩ .nil)))
    · decide
  · rw [compileText, lines]
    decide

end Pseudocode
