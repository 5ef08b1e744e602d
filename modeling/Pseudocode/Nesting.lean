import Pseudocode.Outcome

/-! The nesting of a program: which lines open and close blocks, and what blocks they make up. -/

namespace Pseudocode

/-- What a line of a program does to the nesting of blocks. -/
def lineRole (line : Text) : Role :=
  (Statement.ofLine line).role

/-- How many of the lines have a role. -/
def countRole (role : Role) (lines : List Text) : Nat :=
  lines.countP fun line => lineRole line = role

/-- No end of a block comes before a beginning to go with it, and no block is left open. -/
structure Balanced (lines : List Text) : Prop where
  /-- From the start to any line, at least as many blocks are opened as are closed. -/
  covered : ∀ count ≤ lines.length,
    countRole .closes (lines.take count) ≤ countRole .opens (lines.take count)
  /-- In the whole program, as many blocks are opened as are closed. -/
  settled : countRole .opens lines = countRole .closes lines

/--
The lines of a program as a sequence of single lines and blocks.

Any end of a block can close any block.
-/
inductive Forest where
  | empty
  /-- A line that neither opens nor closes a block, and what comes after it. -/
  | leaf (line : Text) (single : lineRole line ≠ .opens ∧ lineRole line ≠ .closes) (after : Forest)
  /-- A block with all that is in it, and what comes after it. -/
  | block (first : Text) (opens : lineRole first = .opens) (body : Forest) (last : Text)
      (closes : lineRole last = .closes) (after : Forest)

namespace Forest

/-- The lines of a forest, in order. -/
def flatten : Forest → List Text
  | .empty => []
  | .leaf line _ after => line :: after.flatten
  | .block first _ body last _ after => first :: (body.flatten ++ last :: after.flatten)

/-- The lines of code of a forest, where the lines inside a block are one level deeper. -/
def render : Forest → List Text
  | .empty => []
  | .leaf line _ after => (Statement.ofLine line).emit :: after.render
  | .block first _ body _ _ after =>
    -- All that is left of the end of a block is an empty line.
    (Statement.ofLine first).emit :: (body.render.map (indent ++ ·) ++ [] :: after.render)

end Forest

end Pseudocode
