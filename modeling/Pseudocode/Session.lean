import Pseudocode.Tool.Job
import Pseudocode.Tool.Machine

/-! Sessions: using the tool several times in one working directory. -/

namespace Pseudocode

/-- One thing that happens in a session. -/
inductive Step where
  /-- A file is put into the file system. -/
  | putFile (path : String) (content : ByteArray)
  /-- A directory is made. -/
  | makeDirectories (path : String)
  /-- The tool does a job. -/
  | job (job : Job)
  /-- The tool is called with arguments. -/
  | command (arguments : List String)
  /-- A tool of its own, with a flag of its own, is called with arguments. -/
  | separateCommand (arguments : List String)
  /-- Arguments are read but nothing is done for them. -/
  | readArguments (arguments : List String)
  /-- A diagnostic is given. -/
  | complain (diagnostic : Diagnostic)
deriving DecidableEq

/-- What comes back from a step. -/
inductive Reply where
  | nothing
  /-- The tool is ready for the next step. -/
  | returned (status : Nat)
  /-- The tool has ended. -/
  | exited (status : Nat)
  /-- The job that arguments ask for. -/
  | job (job : Job)
  /-- A path was given that no file system could be asked for. -/
  | malformedPath
  /-- The tool was broken off by something that it is not prepared for. -/
  | brokenOff
deriving DecidableEq, Repr

/-- The reply at the end of a plan, where `wrap` says what becomes of the status. -/
def Ending.reply (wrap : Nat → Reply) : Ending → Reply
  | .success => wrap 0
  | .failure => wrap 1
  | .malformedPath => .malformedPath
  | .brokenOff => .brokenOff

namespace Session

/-- The machine a session starts on. -/
def start : Machine := ⟨.initial, false, "", ""⟩

/-- The reply to a step, and the machine after it with what was printed during the step. -/
def step (before : Machine) (step : Step) : Reply × Machine :=
  let machine := before.silent
  match step with
  | .putFile path content =>
    (.nothing, { machine with files := machine.files.putFile path content })
  | .makeDirectories path =>
    (.nothing, { machine with files := machine.files.makeDirectories path })
  | .job job =>
    let (ending, after) := job.plan.exec machine
    (ending.reply .returned, after)
  | .command arguments =>
    let (ending, after) := (commandPlan arguments).exec machine
    (ending.reply .exited, after)
  | .separateCommand arguments =>
    let (ending, after) := (commandPlan arguments).exec machine
    -- The flag that this tool saw and changed was not the flag of the session.
    (ending.reply .exited, { after with flag := machine.flag })
  | .readArguments arguments =>
    match Job.ofArguments? arguments with
    | none => (.exited 1, { machine with errors := usage })
    | some job => (.job job, machine)
  | .complain diagnostic => (.nothing, { machine with errors := diagnostic.text, flag := true })

/-- The replies to steps taken one after the other, each with the machine after the step. -/
def play (machine : Machine) : List Step → List (Reply × Machine)
  | [] => []
  | first :: others =>
    let (reply, after) := step machine first
    (reply, after) :: play after others

/-- The machine after all steps. -/
def final (machine : Machine) (steps : List Step) : Machine :=
  steps.foldl (fun machine next => (step machine next).2) machine

end Session

end Pseudocode
