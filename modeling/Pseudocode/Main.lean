import Pseudocode.Tool.Job

/-! The command line: plans are carried out on the machine itself. -/

namespace Pseudocode

/-- Tries an action that asks for access by path. -/
def Access.ofAction {α : Type} (path : String) (action : IO α) : IO (Access α) := do
  unless Path.isWellFormed path do
    return .malformed
  try
    return .granted (← action)
  catch _ => return .refused

/-- Whether an action succeeds. -/
def succeeds (action : IO Unit) : IO Bool := do
  try
    action
    return true
  catch _ => return false

/-- Carries out a plan. -/
def Plan.perform : Plan IO.FS.Handle IO.FS.Handle → IO Ending
  | .print text next => do
    (← IO.getStdout).putStr text
    next.perform
  | .printError text next => do
    (← IO.getStderr).putStr text
    next.perform
  -- The exit status is all that is seen of the flag.
  | .setFlag _ next => next.perform
  | .openInput path next => do
    let answer ← Access.ofAction path do
      -- A directory can be opened, but that is of no use.
      if ← (← IO.FS.realPath path).isDir then
        throw (IO.userError "directory")
      IO.FS.Handle.mk path .read
    (next answer).perform
  | .openOutput path next => do
    let answer ← Access.ofAction path <| IO.FS.Handle.mk path .append
    (next answer).perform
  | .readAll input next => do
    let answer ← try pure (some (← input.readBinToEnd)) catch _ => pure none
    (next answer).perform
  | .rewind output next => do
    (next (← succeeds output.rewind)).perform
  | .cut output next => do
    (next (← succeeds output.truncate)).perform
  | .write output content next => do
    let written ← succeeds (output.write content)
    (next (if written then some output else none)).perform
  | .close output next => do
    (next (← succeeds output.flush)).perform
  | .finish ending => return ending

end Pseudocode

/-- Compiles the program in the file named first into the file named second. -/
def main (arguments : List String) : IO UInt32 := do
  match ← (Pseudocode.commandPlan arguments).perform with
  | .success => return 0
  | .failure | .brokenOff => return 1
  | .malformedPath =>
    IO.eprintln Pseudocode.malformedPathMessage
    return 1
