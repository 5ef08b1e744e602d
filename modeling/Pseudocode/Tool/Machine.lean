import Pseudocode.FileSystem.Output
import Pseudocode.Tool.Plan

/-! A model of the machine a tool runs on, and what carrying out a plan does to it. -/

namespace Pseudocode

/-- The part of a machine that a tool can see or change. -/
@[ext]
structure Machine where
  files : FileSystem
  /-- Whether something has gone wrong since the flag was last lowered. -/
  flag : Bool
  /-- What has been printed to the standard output. -/
  output : String
  /-- What has been printed to the standard error output. -/
  errors : String

/-- The machine with nothing on its two outputs. -/
def Machine.silent (machine : Machine) : Machine :=
  { machine with output := "", errors := "" }

/-- How a plan ends when it is carried out on a machine, and the machine afterwards. -/
def Plan.exec : Plan Location Output → Machine → Ending × Machine
  | .print text next, machine => next.exec { machine with output := machine.output ++ text }
  | .printError text next, machine => next.exec { machine with errors := machine.errors ++ text }
  | .setFlag flag next, machine => next.exec { machine with flag }
  | .openInput path next, machine => (next (machine.files.openInput path)).exec machine
  | .openOutput path next, machine =>
    match machine.files.openOutput path with
    | .granted (place, files) => (next (.granted ⟨place, .empty⟩)).exec { machine with files }
    | .refused => (next .refused).exec machine
    | .malformed => (next .malformed).exec machine
  | .readAll input next, machine => (next (machine.files.contents? input)).exec machine
  -- Every output here can be rewound, but what is written to it is added at its end all the same.
  | .rewind _ next, machine => (next true).exec machine
  | .cut output next, machine =>
    match machine.files.cut output.place with
    | some files => (next true).exec { machine with files }
    | none => (next false).exec machine
  | .write output content next, machine =>
    let (answer, files) := output.write content machine.files
    (next answer).exec { machine with files }
  | .close output next, machine =>
    let (answer, files) := output.close machine.files
    (next answer).exec { machine with files }
  | .finish ending, machine => (ending, machine)

end Pseudocode
