import Pseudocode.FileSystem.Basic

/-!
Plans: what a tool asks of the machine it runs on, one request after the other.

A plan is data, so that the same plan can be carried out on a model of a machine and on a real one.
-/

namespace Pseudocode

/-- How a tool comes to its end. -/
inductive Ending where
  | success
  | failure
  /-- It was given a path that no file system could be asked for. -/
  | malformedPath
  /-- Something went wrong on the machine that the tool is not prepared for. -/
  | brokenOff
deriving DecidableEq, Repr

/-- What is said about a path that no file system could be asked for. -/
def malformedPathMessage : String := "embedded null byte"

/-- The requests of a tool, on a machine that knows opened inputs and outputs by their handles. -/
inductive Plan (InHandle OutHandle : Type) where
  /-- Prints to the standard output. -/
  | print (text : String) (next : Plan InHandle OutHandle)
  /-- Prints to the standard error output. -/
  | printError (text : String) (next : Plan InHandle OutHandle)
  /-- Notes whether something has gone wrong. -/
  | setFlag (flag : Bool) (next : Plan InHandle OutHandle)
  /-- Opens a file as input. -/
  | openInput (path : String) (next : Access InHandle → Plan InHandle OutHandle)
  /-- Opens a file as output, and makes it if there is none, but leaves alone what it holds. -/
  | openOutput (path : String) (next : Access OutHandle → Plan InHandle OutHandle)
  /-- Reads all of an opened input, unless that is not possible. -/
  | readAll (input : InHandle) (next : Option ByteArray → Plan InHandle OutHandle)
  /-- Goes back to the start of an opened output, and tells whether that was possible. -/
  | rewind (output : OutHandle) (next : Bool → Plan InHandle OutHandle)
  /-- Cuts off all that an opened output holds, and tells whether that was possible. -/
  | cut (output : OutHandle) (next : Bool → Plan InHandle OutHandle)
  /-- Adds to the end of an opened output, unless that is not possible. -/
  | write (output : OutHandle) (content : ByteArray)
      (next : Option OutHandle → Plan InHandle OutHandle)
  /-- Closes an opened output, and tells whether it has taken all that was written to it. -/
  | close (output : OutHandle) (next : Bool → Plan InHandle OutHandle)
  /-- Ends. -/
  | finish (ending : Ending)

end Pseudocode
