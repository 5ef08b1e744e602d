import Pseudocode.Proofs.CodeLines
import Pseudocode.Proofs.Parsing

/-! A program can be recovered from its code and the kinds of its lines, but for leading blanks. -/

namespace Pseudocode

/-- The name of the kind of a line of a program, which an unknown line has none of. -/
def lineKind (line : Text) : Option String :=
  (Statement.ofLine line).label?

/-- What is emitted for a keyword that need not stand alone tells what follows the keyword. -/
theorem Keyword.fill_template_injective {keyword : Keyword} (followed : keyword.standsAlone = false) :
    Function.Injective keyword.template.fill := by
  -- Every such template has a place for the rest of the line, and one of them has two.
  have places : ∀ keyword : Keyword, keyword.standsAlone = false →
      restHole <:+: keyword.template.text := by decide
  have written : restHole ≠ [] := by decide
  exact Template.fill_injective written (places keyword followed)

namespace Statement

/-- Statements of the same kind do the same to the nesting of blocks. -/
theorem role_eq_of_label? {statement other : Statement} (same : statement.label? = other.label?) :
    statement.role = other.role := by
  -- The kind settles the keyword, and the keyword settles the role.
  rcases label?_cases same with ⟨rfl, rfl⟩ | ⟨_, _, _, rfl, rfl⟩ | ⟨_, _, rfl, rfl⟩ <;> rfl

/-- Of two known lines of the same kind, what is emitted for them tells them apart. -/
theorem parse_emit_inj {line other : Text} (sameKind : (parse line).label? = (parse other).label?)
    (known : (parse line).role ≠ .unknown) (same : (parse line).emit = (parse other).emit) :
    line = other := by
  apply parse_injective
  -- Lines of the same kind are read alike, so only their rests have to be compared.
  rcases label?_cases sameKind with
    ⟨blank, otherBlank⟩ | ⟨keyword, rest, otherRest, read, otherRead⟩ | ⟨left, _, unknown, -⟩
  · rw [blank, otherBlank]
  · rw [read, otherRead] at same
    have sameRest : rest = otherRest := by
      cases alone : keyword.standsAlone with
      | true =>
        -- Nothing is emitted for the keyword, but nothing can follow it either.
        obtain ⟨fits, made⟩ := parse_eq_keyed_iff.mp read
        obtain ⟨otherFits, otherMade⟩ := parse_eq_keyed_iff.mp otherRead
        rw [made] at fits
        rw [otherMade] at otherFits
        rw [fits.eq_nil alone, otherFits.eq_nil alone]
      | false => exact Keyword.fill_template_injective alone same
    rw [read, otherRead, sameRest]
  · rw [unknown] at known
    exact absurd rfl known

end Statement

/-- Known lines of the same kinds that are placed alike are alike after the blanks they start with. -/
theorem map_trimStart_of_placed {depth : Nat} {lines others : List Text}
    (sameKinds : lines.map lineKind = others.map lineKind) (covers : Covers depth lines)
    (known : ∀ line ∈ lines, lineRole line ≠ .unknown)
    (same : placed depth lines = placed depth others) :
    lines.map trimStart = others.map trimStart := by
  -- Each line changes the depth for the lines after it, and equally in both programs.
  induction lines generalizing depth others with
  | nil =>
    cases others with
    | nil => rfl
    | cons other others => contradiction
  | cons line lines ih =>
    cases others with
    | nil => contradiction
    | cons other others =>
      obtain ⟨sameKind, laterKinds⟩ := List.cons.inj sameKinds
      obtain ⟨closable, laterCovers⟩ := (covers_cons depth line lines).mp covers
      obtain ⟨isKnown, laterKnown⟩ := List.forall_mem_cons.mp known
      have sameRole : lineRole line = lineRole other := Statement.role_eq_of_label? sameKind
      -- Lines of the same kind open and close as many blocks.
      have sameCount (role : Role) : countRole role [other] = countRole role [line] := by
        rw [countRole_singleton, countRole_singleton, sameRole]
      have alsoClosable : countRole .closes [other] ≤ depth := by
        rw [sameCount]
        exact closable
      rw [placed_cons lines closable, placed_cons others alsoClosable, sameCount, sameCount] at same
      obtain ⟨sameFirst, sameLater⟩ := List.cons.inj same
      -- The two lines stand at the same depth, so their indentation can be taken off.
      have sameLine : trimStart line = trimStart other :=
        Statement.parse_emit_inj sameKind isKnown (List.append_cancel_left sameFirst)
      rw [List.map_cons, List.map_cons, sameLine, ih laterKinds laterCovers laterKnown sameLater]

/--
Compiling a program loses nothing but the blanks its lines start with.

If the lines of two programs are of the same kinds one by one, and the programs become the same code,
then after those blanks their lines are the same.
-/
theorem map_trimStart_of_compileText (text other : Text)
    (sameKinds : (splitLines text).map lineKind = (splitLines other).map lineKind)
    (accepted : Fault.isText (compileText text).text = false)
    (same : (compileText text).text = (compileText other).text) :
    (splitLines text).map trimStart = (splitLines other).map trimStart := by
  -- The two texts are one, so neither is that of a fault.
  have alsoAccepted : Fault.isText (compileText other).text = false := by
    rw [← same]
    exact accepted
  obtain ⟨balanced, known, -⟩ := compile_of_not_isText accepted
  -- Splitting the code gives the emitted lines back, since none of them has a break in it.
  have sameCode := congrArg splitLines same
  rw [splitLines_text_of_accepted accepted, splitLines_text_of_accepted alsoAccepted] at sameCode
  exact map_trimStart_of_placed sameKinds ((balanced_iff_covers _).mp balanced).1 known
    (List.append_cancel_right sameCode)

/-- Margins and breaks differ, and the rest that is emitted twice looks like its own surroundings. -/
theorem map_trimStart_of_compileText_repeated_rest :
    let text := "IF x\n\tCASTASNUM a = float(a\nENDIF".toList
    let other := "  IF x\r\nCASTASNUM a = float(a\u2028\u00a0ENDIF".toList
    (compileText text).text = (compileText other).text ∧
      (splitLines text).map trimStart = (splitLines other).map trimStart := by
  intro text other
  have same : (compileText text).text = (compileText other).text := by decide +kernel
  have sameKinds : (splitLines text).map lineKind = (splitLines other).map lineKind := by
    decide +kernel
  have accepted : Fault.isText (compileText text).text = false := by decide +kernel
  exact ⟨same, map_trimStart_of_compileText text other sameKinds accepted same⟩

end Pseudocode
