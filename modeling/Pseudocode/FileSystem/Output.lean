import Pseudocode.FileSystem.Basic

/-! Outputs: files opened to add to them, which are passed what is written to them with some delay. -/

namespace Pseudocode

/-- A file opened to add to it, and what has been written but not passed on to the file yet. -/
structure Output where
  place : Location
  waiting : ByteArray

namespace Output

/-- Fewer bytes than this are not passed on to the file before the output is closed. -/
def chunkSize : Nat := 8192

/-- No more bytes than this can wait for the output to be closed once others have been passed on. -/
def blockSize : Nat := 4096

/--
Writes bytes to an output.

The answer is the output afterwards, unless the file does not take what it is passed, and the files.
-/
def write (output : Output) (bytes : ByteArray) (files : FileSystem) :
    Option Output × FileSystem :=
  let offered := output.waiting ++ bytes
  if offered.size < chunkSize then (some { output with waiting := offered }, files)
  else
    let (left, after) := files.append output.place offered
    -- A short rest is tried again when the output is closed.
    (if left.size ≤ blockSize then some { output with waiting := left } else none, after)

/-- Closes an output: whether the file takes what is still waiting, and the files afterwards. -/
def close (output : Output) (files : FileSystem) : Bool × FileSystem :=
  let (left, after) := files.append output.place output.waiting
  (left.isEmpty, after)

end Output

end Pseudocode
