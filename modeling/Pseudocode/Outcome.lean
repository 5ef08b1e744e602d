import Pseudocode.Fault
import Pseudocode.Statement
import Pseudocode.Text.Lines

/-! The outcome of compiling a program: its code, or the fault that leaves it without any. -/

namespace Pseudocode

/-- What one level of nesting adds in front of an emitted line. -/
def indent : Text := "    ".toList

/-- An emitted text at a depth of nesting. -/
def indented (depth : Nat) (text : Text) : Text :=
  (List.replicate depth indent).flatten ++ text

/-- How far a program has been laid out. -/
structure Layout where
  /-- How many blocks are open. -/
  depth : Nat
  /-- The lines emitted so far, latest first. -/
  emitted : List Text
deriving DecidableEq, Repr

namespace Layout

/-- Nothing has been laid out. -/
def start : Layout := ⟨0, []⟩

/-- Lays out one more statement, unless it closes a block and none is open. -/
def add (layout : Layout) (statement : Statement) : Option Layout :=
  match statement.role, layout.depth with
  | .closes, 0 => none
  -- The end of a block stands on the level of its beginning.
  | .closes, depth + 1 => some ⟨depth, indented depth statement.emit :: layout.emitted⟩
  | .opens, depth => some ⟨depth + 1, indented depth statement.emit :: layout.emitted⟩
  | .plain, depth | .unknown, depth =>
    some ⟨depth, indented depth statement.emit :: layout.emitted⟩

end Layout

/-- The emitted lines of a program, if its blocks are all closed and it closes no others. -/
def layOut (program : List Statement) : Option (List Text) :=
  match program.foldlM Layout.add Layout.start with
  | some ⟨0, emitted⟩ => some emitted.reverse
  | _ => none

/-- The number, counted from one, of the last statement that is unknown. -/
def lastUnknown (program : List Statement) : Option Nat :=
  ((program.zipIdx 1).filter fun (statement, _) => statement.role == .unknown).getLast?.map (·.2)

/-- What becomes of a program. -/
inductive Outcome where
  /-- The lines of its code. -/
  | code (lines : List Text)
  /-- It has no code. -/
  | rejected (fault : Fault)
deriving DecidableEq, Repr

namespace Outcome

/-- What becomes of a program, where blocks that do not match count before an unknown statement. -/
def ofStatements (program : List Statement) : Outcome :=
  match layOut program, lastUnknown program with
  | none, _ => .rejected .mismatch
  | some _, some number => .rejected (.failedLine number)
  | some lines, none => .code lines

/-- The outcome as one text: each line of code with a line feed after it, or the fault's text. -/
def text : Outcome → Text
  | .code lines => lines.flatMap (· ++ ['\n'])
  | .rejected fault => fault.text

/-- The fault of a rejected program. -/
def fault? : Outcome → Option Fault
  | .code _ => none
  | .rejected fault => some fault

end Outcome

/-- Compiles the lines of a program. -/
def compile (lines : List Text) : Outcome :=
  .ofStatements (lines.map Statement.ofLine)

/-- Compiles a program given as one text. -/
def compileText (text : Text) : Outcome :=
  compile (splitLines text)

/-- The outcomes of the programs made of the first lines, from none of them to all. -/
def compilePrefixes (lines : List Text) : List Outcome :=
  (List.range (lines.length + 1)).map fun count => compile (lines.take count)

end Pseudocode
