import Pseudocode.Proofs.Outcome
import Pseudocode.Proofs.Statement

/-! A program whose blocks match is the flattening of one forest, and its code is that forest. -/

namespace Pseudocode

/-- One more level of nesting is one more indent in front of the text. -/
theorem indented_succ (depth : Nat) (text : Text) :
    indented (depth + 1) text = indented depth (indent ++ text) := by
  -- The new indent can be the last of the row, right before the text.
  simp [indented, List.replicate_succ']

namespace Forest

/-- The lines of code of a forest that is nested at a depth. -/
def renderAt (depth : Nat) : Forest → List Text
  | .empty => []
  | .leaf line _ after => indented depth (Statement.ofLine line).emit :: after.renderAt depth
  | .block first _ body _ _ after =>
    -- The end of a block is as deep as its beginning, and nothing but the indentation.
    indented depth (Statement.ofLine first).emit ::
      (body.renderAt (depth + 1) ++ indented depth [] :: after.renderAt depth)

/-- A nested forest is the forest by itself with an indent for each level in front of its lines. -/
theorem map_indented_render (forest : Forest) (depth : Nat) :
    forest.render.map (indented depth) = forest.renderAt depth := by
  -- The inside of a block is nested one level deeper, so the depth stays quantified over.
  induction forest generalizing depth with
  | empty => rfl
  | leaf line single after ih => simp [render, renderAt, ih]
  | block first opens body last closes after bodyIh afterIh =>
    have deeper : (body.render.map (indent ++ ·)).map (indented depth)
        = body.renderAt (depth + 1) := by
      rw [← bodyIh, List.map_map]
      refine List.map_congr_left fun line _ => ?_
      rw [Function.comp_apply, indented_succ]
    simp [render, renderAt, afterIh, ← deeper]

/-- A forest that is not nested is rendered as it is. -/
theorem renderAt_zero (forest : Forest) : forest.renderAt 0 = forest.render := by
  -- No indent is put in front of any line.
  have same : indented 0 = id := by
    funext text
    simp [indented]
  rw [← map_indented_render, same, List.map_id]

/-- Laying out the lines of a forest leaves the depth alone and emits the forest at it. -/
theorem addLines_flatten (forest : Forest) (depth : Nat) (emitted : List Text) :
    Layout.addLines ⟨depth, emitted⟩ forest.flatten
      = some ⟨depth, (forest.renderAt depth).reverse ++ emitted⟩ := by
  induction forest generalizing depth emitted with
  | empty => rfl
  | leaf line single after ih =>
    -- The line neither opens nor closes a block, so it is added on the level it is on.
    obtain ⟨notOpens, notCloses⟩ := single
    rw [flatten, Layout.addLines_cons, Layout.add_ofLine]
    simp [countRole_singleton, notOpens, notCloses, ih, renderAt]
  | block first opens body last closes after bodyIh afterIh =>
    -- The body starts and ends one level deeper, and its end brings the level back.
    have beginning : Layout.add ⟨depth, emitted⟩ (Statement.ofLine first)
        = some ⟨depth + 1, indented depth (Statement.ofLine first).emit :: emitted⟩ := by
      simp [Layout.add_ofLine, countRole_singleton, opens]
    have ending (inside : List Text) : Layout.add ⟨depth + 1, inside⟩ (Statement.ofLine last)
        = some ⟨depth, indented depth [] :: inside⟩ := by
      simp [Layout.add_ofLine, countRole_singleton, closes, Statement.emit_of_closes closes]
    rw [flatten, Layout.addLines_cons, beginning, Option.bind_some, Layout.addLines_append, bodyIh,
      Option.bind_some, Layout.addLines_cons, ending, Option.bind_some, afterIh]
    simp [renderAt]

/-- The lines of every forest are balanced. -/
theorem balanced_flatten (forest : Forest) : Balanced forest.flatten := by
  -- They can be laid out, which lines that are not balanced cannot.
  by_contra unbalanced
  have stopped := layOut_of_not_balanced unbalanced
  simp [layOut_map_ofLine, Layout.start, forest.addLines_flatten] at stopped

/-- The lines of a forest are placed as the forest is rendered. -/
theorem placed_flatten (forest : Forest) : placed 0 forest.flatten = forest.render := by
  have laid := forest.addLines_flatten 0 []
  have covers := ((balanced_iff_covers _).mp forest.balanced_flatten).1
  -- The lines are laid out in only one way, and both descriptions are of it.
  rw [Layout.addLines_of_covers covers, Option.some.injEq, Layout.mk.injEq] at laid
  simpa [renderAt_zero] using laid.2

end Forest

/-- The lines close a number of open blocks, with forests before, between and after the ends. -/
inductive Finishes : Nat → List Text → Prop where
  /-- No block is open, and what is left is a forest. -/
  | outermost (forest : Forest) : Finishes 0 forest.flatten
  /-- The innermost block is closed after a forest. -/
  | innermost (forest : Forest) {last : Text} (closes : lineRole last = .closes) {depth : Nat}
      {rest : List Text} (outer : Finishes depth rest) :
      Finishes (depth + 1) (forest.flatten ++ last :: rest)

namespace Finishes

variable {depth : Nat} {lines : List Text}

/-- A single line in front joins the first forest. -/
theorem leaf (finishes : Finishes depth lines) {line : Text}
    (single : lineRole line ≠ .opens ∧ lineRole line ≠ .closes) : Finishes depth (line :: lines) := by
  -- There is a first forest whether or not a block is open.
  cases finishes with
  | outermost forest => exact outermost (.leaf line single forest)
  | innermost forest closes outer => exact innermost (.leaf line single forest) closes outer

/-- A line in front that opens a block makes one of the first forest, its end, and the next forest. -/
theorem block (finishes : Finishes (depth + 1) lines) {first : Text}
    (opens : lineRole first = .opens) : Finishes depth (first :: lines) := by
  -- The block that the line opens is the innermost one, so the first end in the lines is its end.
  cases finishes with
  | innermost body closes outer =>
    cases outer with
    | outermost after => exact outermost (.block first opens body _ closes after)
    | innermost after outerCloses outer =>
      have finished := innermost (.block first opens body _ closes after) outerCloses outer
      simpa [Forest.flatten] using finished

/-- Covered lines that close all that is open or opened do so with forests in between. -/
theorem of_covers (covers : Covers depth lines)
    (settled : depth + countRole .opens lines = countRole .closes lines) :
    Finishes depth lines := by
  -- Each line changes how many blocks are left to close, so the depth stays quantified over.
  induction lines generalizing depth with
  | nil =>
    -- Nothing closes a block any more, so none is open.
    have closed : depth = 0 := by simpa using settled
    subst closed
    exact outermost .empty
  | cons line rest ih =>
    obtain ⟨closable, later⟩ := (covers_cons depth line rest).mp covers
    rw [countRole_cons .opens, countRole_cons .closes] at settled
    have finishes := ih later (by omega)
    simp only [countRole_singleton] at closable finishes
    cases role : lineRole line with
    | opens => exact block (by simpa [role] using finishes) role
    | closes =>
      -- The line can only close a block if one is open.
      cases depth with
      | zero => simp [role] at closable
      | succ depth => exact innermost .empty role (by simpa [role] using finishes)
    | plain => exact leaf (by simpa [role] using finishes) (by simp [role])
    | unknown => exact leaf (by simpa [role] using finishes) (by simp [role])

end Finishes

/-- The lines of a program are balanced exactly when they are those of a forest. -/
theorem balanced_iff_exists_forest (lines : List Text) :
    Balanced lines ↔ ∃ forest : Forest, forest.flatten = lines := by
  constructor
  · intro balanced
    obtain ⟨covers, settled⟩ := (balanced_iff_covers lines).mp balanced
    -- With no block open at the start, one forest is all that there is.
    cases Finishes.of_covers covers (by omega) with
    | outermost forest => exact ⟨forest, rfl⟩
  · intro flattened
    obtain ⟨forest, rfl⟩ := flattened
    exact forest.balanced_flatten

/-- The lines are at their end, or the next of them closes a block. -/
def EndsBlock (lines : List Text) : Prop :=
  ∀ line, lines.head? = some line → lineRole line = .closes

/-- A forest that has lines does not start where a block ends. -/
theorem Forest.eq_empty_of_endsBlock {forest : Forest} {rest lines : List Text}
    (ends : EndsBlock lines) (same : forest.flatten ++ rest = lines) : forest = .empty := by
  subst same
  -- The first line of a forest stands alone or opens a block, so it closes none.
  cases forest with
  | empty => rfl
  | leaf line single after => exact absurd (ends line rfl) single.2
  | block first opens body last closes after =>
    have closesFirst := ends first rfl
    rw [opens] at closesFirst
    contradiction

/-- Where a forest ends is decided by the lines, and so is the forest. -/
theorem Forest.flatten_append_inj {forest other : Forest} {rest otherRest : List Text}
    (ends : EndsBlock rest) (otherEnds : EndsBlock otherRest)
    (same : forest.flatten ++ rest = other.flatten ++ otherRest) :
    forest = other ∧ rest = otherRest := by
  -- What follows a forest changes with each part of it, so it stays quantified over.
  induction forest generalizing other rest otherRest with
  | empty =>
    have empty := eq_empty_of_endsBlock ends same.symm
    subst empty
    exact ⟨rfl, same⟩
  | leaf line single after ih =>
    cases other with
    | empty => exact absurd (eq_empty_of_endsBlock otherEnds same) (by simp)
    | leaf otherLine otherSingle otherAfter =>
      simp only [flatten, List.cons_append, List.cons.injEq] at same
      obtain ⟨rfl, same⟩ := same
      obtain ⟨rfl, rests⟩ := ih ends otherEnds same
      exact ⟨rfl, rests⟩
    | block first opens body last closes otherAfter =>
      -- The same line cannot both stand alone and open a block.
      simp only [flatten, List.cons_append, List.cons.injEq] at same
      rw [same.1] at single
      exact absurd opens single.1
  | block first opens body last closes after bodyIh afterIh =>
    cases other with
    | empty => exact absurd (eq_empty_of_endsBlock otherEnds same) (by simp)
    | leaf line single otherAfter =>
      simp only [flatten, List.cons_append, List.cons.injEq] at same
      rw [← same.1] at single
      exact absurd opens single.1
    | block otherFirst otherOpens otherBody otherLast otherCloses otherAfter =>
      simp only [flatten, List.cons_append, List.append_assoc, List.cons.injEq] at same
      obtain ⟨rfl, same⟩ := same
      -- Both bodies are followed by a line that closes a block, so they are one body.
      have atLast : EndsBlock (last :: (after.flatten ++ rest)) := by
        intro line first
        cases first
        exact closes
      have atOtherLast : EndsBlock (otherLast :: (otherAfter.flatten ++ otherRest)) := by
        intro line first
        cases first
        exact otherCloses
      obtain ⟨rfl, ending⟩ := bodyIh atLast atOtherLast same
      obtain ⟨rfl, following⟩ := List.cons.inj ending
      obtain ⟨rfl, rests⟩ := afterIh ends otherEnds following
      exact ⟨rfl, rests⟩

/-- No two forests have the same lines. -/
theorem Forest.flatten_injective {forest other : Forest}
    (same : forest.flatten = other.flatten) : forest = other := by
  -- Nothing follows the two forests, so both end at the end of the lines.
  have atEnd : EndsBlock [] := fun line first => by contradiction
  exact (flatten_append_inj atEnd atEnd (by rw [same])).1

/--
The blocks of a program match exactly when it is the flattening of a forest, which is then unique.

If all lines are known, the text of the program is that forest with a line feed after each line.
Nested at a depth, the end of a block is that many indents and nothing else.
-/
theorem compile_text_of_forest (lines : List Text) :
    ((compile lines).text ≠ Fault.mismatch.text ↔ ∃ forest : Forest, forest.flatten = lines) ∧
    ∀ forest : Forest, forest.flatten = lines →
      (∀ other : Forest, other.flatten = lines → other = forest) ∧
      ((∀ line ∈ lines, lineRole line ≠ .unknown) →
        (compile lines).text = forest.render.flatMap (· ++ ['\n'])) ∧
      ∀ depth, forest.render.map (indented depth) = forest.renderAt depth := by
  constructor
  · -- Both sides say that the lines are balanced.
    rw [← balanced_iff_exists_forest, Ne, compile_text_eq_mismatch_iff, not_not]
  · intro forest flattened
    subst flattened
    -- The lines belong to one forest only, and its rendering is how they are placed.
    refine ⟨fun other same => Forest.flatten_injective same, fun known => ?_,
      forest.map_indented_render⟩
    rw [compile_of_known forest.balanced_flatten known, forest.placed_flatten, Outcome.text]

/-- A block may be closed by the end of another kind of block, at any depth. -/
theorem compile_text_of_forest_mixed_ends :
    (compile ["WHILE x".toList, "IF y".toList, "  SET z".toList, "ENDWHILE".toList,
        "ENDFUNC".toList]).text
      = "while (x):\n    if (y):\n        z\n    \n\n".toList :=
  -- The inner block is in the body of the outer one, and each end is that of another kind.
  ((compile_text_of_forest _).2
    (.block _ (by decide)
      (.block _ (by decide) (.leaf _ (by decide) .empty) _ (by decide) .empty)
      _ (by decide) .empty) rfl).2.1 (by decide)

end Pseudocode
