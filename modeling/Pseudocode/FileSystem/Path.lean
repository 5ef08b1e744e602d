/-! Paths, and the places in a file system that they name. -/

namespace Pseudocode

/-- A place in a file system, given by the names that lead to it from the root. -/
abbrev Location := List String

/-- The place reached by following one name of a path. -/
def Location.enter (here : Location) (name : String) : Location :=
  -- Doubled slashes and single dots stay where they are.
  if name = "" ∨ name = "." then here
  -- Above the root there is only the root.
  else if name = ".." then here.dropLast
  else here ++ [name]

namespace Path

/-- The names that a path follows, which are what stands between its slashes. -/
def names (path : String) : List String :=
  (path.toList.splitOn '/').map String.ofList

/-- No name that a path follows has a slash in it. -/
theorem slash_not_mem {path name : String} (followed : name ∈ names path) : '/' ∉ name.toList := by
  -- A slash in front ends a name, and anything else in front joins the name after it.
  have general : ∀ (text part : List Char), part ∈ text.splitOn '/' → '/' ∉ part := by
    intro text
    simp only [List.splitOn_eq_splitOnP]
    induction text with
    | nil => simp [List.splitOnP_nil]
    | cons c rest ih =>
      rw [List.splitOnP_cons_eq_if_modifyHead]
      cases split : rest.splitOnP (· == '/') with
      | nil => exact absurd split (List.splitOnP_ne_nil _ _)
      | cons first others => grind [List.modifyHead_cons]
  obtain ⟨part, isPart, rfl⟩ := List.mem_map.mp followed
  simpa using general _ _ isPart

/-- Whether a path starts at the root, whatever the working directory is. -/
def isAbsolute (path : String) : Bool :=
  path.toList.head? == some '/'

/-- Where the first name of a path is looked for. -/
def start (workDir : Location) (path : String) : Location :=
  if isAbsolute path then [] else workDir

/-- The place a path names when followed from a working directory, by the names alone. -/
def locate (workDir : Location) (path : String) : Location :=
  (names path).foldl Location.enter (start workDir path)

/-- Whether a path can be handed to a file system at all: the null character ends every path. -/
def isWellFormed (path : String) : Bool :=
  !path.toList.contains '\x00'

/-- Whether a path is short enough to be followed. -/
def isShort (path : String) : Bool :=
  path.utf8ByteSize ≤ 4095

/-- Whether a name is short enough for an entry of a directory. -/
def isShortName (name : String) : Bool :=
  name.utf8ByteSize ≤ 255

/-- Whether the last name of a path is one that a file can have, not a way to say a directory. -/
def endsInName (path : String) : Bool :=
  match (names path).getLast? with
  | none => false
  | some name => name != "" && name != "." && name != ".."

end Path

end Pseudocode
