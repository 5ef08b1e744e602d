/-! What the tool says when something is wrong. -/

namespace Pseudocode

/-- A message about something wrong, with the number of the line it is about if it is about one. -/
structure Diagnostic where
  message : String
  line : Option Int
deriving DecidableEq, Repr

/-- Where the trouble is; lines are counted from one, so that line zero is no line. -/
def Diagnostic.place (diagnostic : Diagnostic) : String :=
  match diagnostic.line with
  | none => ""
  | some number => if number = 0 then "" else "[Line " ++ toString number ++ "] "

/-- The line printed for a diagnostic. -/
def Diagnostic.text (diagnostic : Diagnostic) : String :=
  "Error: " ++ diagnostic.place ++ diagnostic.message ++ "\n"

/-- Why a job cannot be done. -/
inductive Problem where
  | cannotOpen (path : String)
  /-- What the file holds is not text. -/
  | cannotConvert (path : String)
  | writingFailed
deriving DecidableEq, Repr

/-- What is said about a problem. -/
def Problem.message : Problem → String
  | .cannotOpen path => "CANNOT OPEN " ++ path
  | .cannotConvert path => "CANNOT CONVERT " ++ path ++ " DATA TO A STRING"
  | .writingFailed => "WRITING FAILED"

end Pseudocode
