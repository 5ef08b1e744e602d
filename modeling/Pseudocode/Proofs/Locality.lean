import Mathlib.Data.List.Forall2
import Pseudocode.Proofs.Outcome
import Pseudocode.Proofs.Statement

/-! An edit that keeps what each line does to the nesting of blocks shows in the edited lines only. -/

namespace Pseudocode

/-- The lines of two programs do the same to the nesting of blocks, one by one. -/
def SameRoles (lines others : List Text) : Prop :=
  lines.map lineRole = others.map lineRole

/-- Whether two programs have the same roles is found out by listing the roles. -/
instance : DecidableRel SameRoles :=
  fun lines others => inferInstanceAs (Decidable (lines.map lineRole = others.map lineRole))

/-- An edit of a line that does not show in the code: of leading blanks, or of an end of a block. -/
def Unseen (line other : Text) : Prop :=
  trimStart line = trimStart other ∨ lineRole line = .closes

/-- How many lines have a role can be counted in the roles alone. -/
theorem countRole_eq_count (role : Role) (lines : List Text) :
    countRole role lines = (lines.map lineRole).count role := by
  -- Counting lines by role is counting in the list of the roles.
  rw [countRole, List.count, List.countP_map]
  rfl

/-- Which lines are unknown can be read off the roles alone. -/
theorem unknownAt_iff_role (lines : List Text) (number : Nat) :
    UnknownAt lines number ↔
      ∃ index, (lines.map lineRole)[index]? = some .unknown ∧ number = index + 1 := by
  -- At each place, the role is listed exactly when there is a line.
  simp only [UnknownAt, List.getElem?_map, Option.map_eq_some_iff]
  constructor
  · intro unknownAt
    obtain ⟨index, line, here, unknown, numbered⟩ := unknownAt
    exact ⟨index, ⟨line, here, unknown⟩, numbered⟩
  · intro found
    obtain ⟨index, ⟨line, here, unknown⟩, numbered⟩ := found
    exact ⟨index, line, here, unknown, numbered⟩

namespace SameRoles

variable {lines others : List Text}

/-- What holds of two programs holds of them the other way round. -/
theorem symm (same : SameRoles lines others) : SameRoles others lines :=
  Eq.symm same

/-- The two programs have as many lines. -/
theorem length_eq (same : SameRoles lines others) : lines.length = others.length := by
  -- The roles are listed one for each line.
  simpa using congrArg List.length same

/-- Up to any line, the two programs open and close as many blocks. -/
theorem countRole_take (same : SameRoles lines others) (role : Role) (count : Nat) :
    countRole role (lines.take count) = countRole role (others.take count) := by
  -- The lists of roles agree, and so do their beginnings.
  rw [countRole_eq_count, countRole_eq_count, List.map_take, List.map_take, same]

/-- If the blocks of one of the programs match, so do those of the other. -/
theorem balanced (same : SameRoles lines others) (balanced : Balanced lines) : Balanced others := by
  constructor
  · -- Nothing but counts of roles is asked for, up to each line and in all.
    intro count within
    rw [← same.countRole_take, ← same.countRole_take]
    exact balanced.covered count (same.length_eq ▸ within)
  · rw [countRole_eq_count, countRole_eq_count, ← same, ← countRole_eq_count, ← countRole_eq_count]
    exact balanced.settled

/-- Lines in the same place of the two programs are at the same depth. -/
theorem depthAt_eq (same : SameRoles lines others) (depth index : Nat) :
    depthAt depth lines index = depthAt depth others index := by
  -- The depth is made up of two counts of roles.
  rw [depthAt, depthAt, same.countRole_take, same.countRole_take]

/-- The unknown lines stand in the same places. -/
theorem unknownAt_iff (same : SameRoles lines others) (number : Nat) :
    UnknownAt lines number ↔ UnknownAt others number := by
  rw [unknownAt_iff_role, unknownAt_iff_role, same]

/-- Lines in the same place of the two programs have the same role. -/
theorem lineRole_eq (same : SameRoles lines others) {index : Nat} {line other : Text}
    (here : lines[index]? = some line) (otherHere : others[index]? = some other) :
    lineRole line = lineRole other := by
  -- The two lists of roles agree at this place.
  have role := congrArg (·[index]?) same
  simpa [here, otherHere] using role

/-- Both programs are rejected for the same fault, or both are placed line by line. -/
theorem compile_cases (same : SameRoles lines others) :
    (∃ fault, compile lines = .rejected fault ∧ compile others = .rejected fault) ∨
    (compile lines = .code (placed 0 lines) ∧ compile others = .code (placed 0 others)) := by
  rcases Pseudocode.compile_cases lines with
    ⟨unbalanced, compiled⟩ | ⟨balanced, number, last, compiled⟩ | ⟨balanced, known, compiled⟩
  · -- If the blocks of the other program matched, so would those of this one.
    have otherUnbalanced : ¬ Balanced others :=
      fun balanced => unbalanced (same.symm.balanced balanced)
    exact Or.inl ⟨.mismatch, compiled, compile_of_not_balanced otherUnbalanced⟩
  · -- The unknown lines stand in the same places, so the last of them does.
    simp only [same.unknownAt_iff] at last
    exact Or.inl ⟨.failedLine number, compiled, compile_of_unknown (same.balanced balanced) last⟩
  · -- That no line is unknown can be read off the roles.
    have noUnknown : Role.unknown ∉ lines.map lineRole := by simpa using known
    have otherKnown : ∀ other ∈ others, lineRole other ≠ .unknown := by
      rw [same] at noUnknown
      simpa using noUnknown
    exact Or.inr ⟨compiled, compile_of_known (same.balanced balanced) otherKnown⟩

/-- A line is placed alike after an edit that does not show. -/
theorem getElem?_placed_eq (same : SameRoles lines others) {index : Nat} {line other : Text}
    (here : lines[index]? = some line) (otherHere : others[index]? = some other)
    (unseen : Unseen line other) :
    (placed 0 lines)[index]? = (placed 0 others)[index]? := by
  have sameEmit : (Statement.ofLine line).emit = (Statement.ofLine other).emit := by
    rcases unseen with sameStart | closes
    · rw [Statement.ofLine, Statement.ofLine, sameStart]
    · -- Nothing is emitted for the end of a block, of whichever kind.
      have otherCloses : lineRole other = .closes := by
        rw [← same.lineRole_eq here otherHere]
        exact closes
      rw [Statement.emit_of_closes closes, Statement.emit_of_closes otherCloses]
  rw [getElem?_placed, getElem?_placed, here, otherHere, same.depthAt_eq, Option.map_some,
    Option.map_some, sameEmit]

/-- Programs that differ only in what does not show are placed alike. -/
theorem placed_eq (same : SameRoles lines others) (unseen : List.Forall₂ Unseen lines others) :
    placed 0 lines = placed 0 others := by
  obtain ⟨size, unseenAt⟩ := List.forall₂_iff_get.mp unseen
  -- The placed lines are compared one by one.
  apply List.ext_getElem?
  intro index
  by_cases within : index < lines.length
  · have otherWithin : index < others.length := size ▸ within
    exact same.getElem?_placed_eq (List.getElem?_eq_getElem within)
      (List.getElem?_eq_getElem otherWithin) (unseenAt index within otherWithin)
  · -- After the last line there is nothing in both programs.
    rw [getElem?_placed, getElem?_placed, List.getElem?_eq_none (by omega),
      List.getElem?_eq_none (by omega), Option.map_none, Option.map_none]

end SameRoles

/--
An edit that keeps what each line does to the nesting of blocks stays where it is made.

The program is rejected as before and with the same text, or becomes code with its lines in the same
places and at the same depths.
Then a line of code changes only where the line of the program does, and not if that ends a block.
So it does not matter with which kind of end a block is closed.
-/
theorem compile_of_sameRoles (lines others : List Text) (same : SameRoles lines others) :
    (Fault.isText (compile lines).text = true ↔ Fault.isText (compile others).text = true) ∧
    (Fault.isText (compile lines).text = true → (compile lines).text = (compile others).text) ∧
    (Fault.isText (compile lines).text = false →
      ∃ code otherCode, compile lines = .code code ∧ compile others = .code otherCode ∧
        code.length = lines.length ∧ otherCode.length = others.length ∧
        ∀ (index : Nat) line other, lines[index]? = some line → others[index]? = some other →
          code[index]? = some ((List.replicate (depthAt 0 lines index) indent).flatten
            ++ (Statement.ofLine line).emit) ∧
          otherCode[index]? = some ((List.replicate (depthAt 0 lines index) indent).flatten
            ++ (Statement.ofLine other).emit) ∧
          (Unseen line other → code[index]? = otherCode[index]?)) ∧
    (List.Forall₂ Unseen lines others → (compile lines).text = (compile others).text) := by
  rcases same.compile_cases with ⟨fault, compiled, otherCompiled⟩ | ⟨compiled, otherCompiled⟩
  · rw [compiled, otherCompiled]
    refine ⟨Iff.rfl, fun _ => rfl, fun accepted => ?_, fun _ => rfl⟩
    -- The text of a fault is never taken for code.
    rw [Outcome.text, Fault.isText_text] at accepted
    contradiction
  · rw [compiled, otherCompiled, Outcome.isText_code, Outcome.isText_code]
    refine ⟨Iff.rfl, fun rejected => by contradiction, fun _ => ?_, fun unseen => ?_⟩
    · -- Both codes are the placed lines, and the depths are those of the first program.
      refine ⟨placed 0 lines, placed 0 others, rfl, rfl, length_placed 0 lines,
        length_placed 0 others, ?_⟩
      intro index line other here otherHere
      refine ⟨?_, ?_, same.getElem?_placed_eq here otherHere⟩
      · rw [getElem?_placed, here, Option.map_some, indented]
      · rw [getElem?_placed, otherHere, same.depthAt_eq, Option.map_some, indented]
    · -- No line shows its edit, so no line of code changes.
      rw [same.placed_eq unseen]

/-- Another beginning of a block leaves what is inside, and another end of it leaves everything. -/
theorem compile_of_sameRoles_block :
    let lines := ["IF x".toList, "SET y".toList, "ENDIF".toList]
    let begun := ["WHILE z".toList, "\tSET y".toList, "ENDFUNC".toList]
    let ended := ["IF x".toList, "SET y".toList, "ENDWHILE".toList]
    (∃ code otherCode, compile lines = .code code ∧ compile begun = .code otherCode ∧
      code[1]? = otherCode[1]? ∧ code[2]? = otherCode[2]?) ∧
    (compile lines).text = (compile ended).text := by
  intro lines begun ended
  -- The roles agree, although the first program has other keywords.
  have same : SameRoles lines begun := by decide
  have alsoSame : SameRoles lines ended := by decide
  have accepted : Fault.isText (compile lines).text = false := by decide
  have unseen : List.Forall₂ Unseen lines ended :=
    .cons (Or.inl rfl) (.cons (Or.inl rfl) (.cons (Or.inr rfl) .nil))
  constructor
  · obtain ⟨-, -, edited, -⟩ := compile_of_sameRoles lines begun same
    obtain ⟨code, otherCode, compiled, otherCompiled, -, -, each⟩ := edited accepted
    exact ⟨code, otherCode, compiled, otherCompiled, (each 1 _ _ rfl rfl).2.2 (Or.inl rfl),
      (each 2 _ _ rfl rfl).2.2 (Or.inr rfl)⟩
  · exact (compile_of_sameRoles lines ended alsoSame).2.2.2 unseen

end Pseudocode
