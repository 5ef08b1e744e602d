import Pseudocode.Keyword
import Pseudocode.Text.Blank

/-! Statements: what a single line says, and what is emitted for it. -/

namespace Pseudocode

/-- What one line says. -/
inductive Statement where
  /-- Nothing at all. -/
  | blank
  /-- A keyword and what follows it. -/
  | keyed (keyword : Keyword) (rest : Text)
  /-- A line that starts with none of the keywords. -/
  | unknown (line : Text)
deriving DecidableEq, Repr

namespace Statement

/-- Reads a line without leading blanks by the first keyword of a table that fits it. -/
def parseWith (table : List Keyword) (line : Text) : Statement :=
  if line.isEmpty then .blank
  else
    let found := table.findSome? fun keyword => (keyword.rest? line).map (keyed keyword)
    found.getD (.unknown line)

/-- Reads a line without leading blanks. -/
def parse (line : Text) : Statement :=
  parseWith Keyword.all line

/-- Reads a line of a program, where leading blanks mean nothing. -/
def ofLine (line : Text) : Statement :=
  parse (trimStart line)

/-- The line that says a statement. -/
def text : Statement → Text
  | .blank => []
  | .keyed keyword rest => keyword.spelling ++ rest
  | .unknown line => line

/-- The name of the kind of line, which an unknown line has none of. -/
def label? : Statement → Option String
  | .blank => some "blank"
  | .keyed keyword _ => some keyword.label
  | .unknown _ => none

/-- The part of the line that the keyword does not account for. -/
def rest : Statement → Text
  | .blank => []
  | .keyed _ rest => rest
  | .unknown line => line

/-- What the statement does to the nesting of blocks. -/
def role : Statement → Role
  | .blank => .plain
  | .keyed keyword _ => keyword.role
  | .unknown _ => .unknown

/-- The template of what is emitted for the statement. -/
def template : Statement → Template
  | .keyed keyword _ => keyword.template
  -- A line that says nothing, or nothing known, leaves nothing to emit.
  | .blank | .unknown _ => ⟨[], Keyword.restHole⟩

/-- What is emitted for the statement, before indentation. -/
def emit (statement : Statement) : Text :=
  statement.template.fill statement.rest

end Statement

end Pseudocode
