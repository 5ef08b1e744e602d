import Pseudocode.Outcome
import Pseudocode.Tool.Diagnostic
import Pseudocode.Tool.Plan

/-! Jobs: compiling the program in one file into another. -/

namespace Pseudocode

/-- A program to compile and the place for its code, both given by path. -/
structure Job where
  input : String
  output : String
deriving DecidableEq, Repr

/-- How the tool is to be called. -/
def usage : String := "Usage: pseudopy <input_file> <output_file>\n"

namespace Job

/-- The job that arguments ask for: the first is the input and the second the output. -/
def ofArguments? : List String → Option Job
  | input :: output :: _ => some ⟨input, output⟩
  | _ => none

variable {InHandle OutHandle : Type}

/-- Prints a diagnostic and notes that something has gone wrong. -/
def complain (diagnostic : Diagnostic) (next : Plan InHandle OutHandle) : Plan InHandle OutHandle :=
  .printError diagnostic.text (.setFlag true next)

/-- Gives up because of a problem. -/
def giveUp (problem : Problem) : Plan InHandle OutHandle :=
  complain ⟨problem.message, none⟩ (.finish .failure)

/-- Tells of the fault of a program, if it has one. -/
def tell (outcome : Outcome) (next : Plan InHandle OutHandle) : Plan InHandle OutHandle :=
  match outcome.fault? with
  | none => next
  | some fault => complain ⟨String.ofList fault.message, none⟩ next

/-- Replaces all that an opened output holds by some bytes. -/
def replace (output : OutHandle) (content : ByteArray) : Plan InHandle OutHandle :=
  .rewind output fun
    | false => giveUp .writingFailed
    | true => .cut output fun
      | false => giveUp .writingFailed
      | true => .write output content fun
        | none => giveUp .writingFailed
        | some output => .close output fun
          -- Nobody is prepared for what an output refuses only when it is closed.
          | false => .finish .brokenOff
          | true => .print "DONE!\n" (.finish .success)

/-- Compiles the bytes of a program into an opened output, left alone if they are no text. -/
def compileInto (job : Job) (source : ByteArray) (output : OutHandle) : Plan InHandle OutHandle :=
  match String.fromUTF8? source with
  | none => giveUp (.cannotConvert job.input)
  | some program =>
    let outcome := compileText program.toList
    -- A program with a fault is told of, but the text of the fault is still written.
    tell outcome <| replace output (String.ofList outcome.text).toUTF8

/-- All that is done for a job. -/
def plan (job : Job) : Plan InHandle OutHandle :=
  .setFlag false <|
  .print ("Input file: " ++ job.input ++ "\n") <|
  .print ("Output file: " ++ job.output ++ "\n") <|
  .openInput job.input fun
    | .malformed => .finish .malformedPath
    | .refused => giveUp (.cannotOpen job.input)
    | .granted input =>
      .openOutput job.output fun
        | .malformed => .finish .malformedPath
        | .refused => giveUp (.cannotOpen job.output)
        | .granted output =>
          .readAll input fun
            -- That an opened input cannot be read is nothing the tool is prepared for either.
            | none => .finish .brokenOff
            | some source => job.compileInto source output

end Job

/-- All that is done for a command line, given by its arguments. -/
def commandPlan {InHandle OutHandle : Type} (arguments : List String) : Plan InHandle OutHandle :=
  match Job.ofArguments? arguments with
  | none => .printError usage (.finish .failure)
  | some job => job.plan

end Pseudocode
