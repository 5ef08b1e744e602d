import Pseudocode.FileSystem.Path
import Std.Data.ExtTreeMap

/-! A file system with a working directory, and opening, reading, cutting and adding to its files. -/

namespace Pseudocode

/-- Bytes are compared in one way, whichever other comparisons are in scope. -/
instance (priority := 1100) decidableEqBytes : DecidableEq ByteArray := ByteArray.instDecidableEq

/-- A special file, which keeps nothing: it takes no bytes, and nothing changes what is read from it. -/
structure Device where
  /-- All that is read from it, unless it cannot be read to an end. -/
  content : Option ByteArray
  /-- Whether it lets itself be cut to a length, although that cuts nothing off. -/
  canBeCut : Bool
deriving DecidableEq

/-- What can be found at a place in a file system. -/
inductive Node where
  | directory
  /-- A file with the bytes it holds. -/
  | file (content : ByteArray)
  | device (device : Device)
deriving DecidableEq

/-- What a file system answers when asked for access by path. -/
inductive Access (α : Type) where
  | granted (value : α)
  /-- The file system does not allow it. -/
  | refused
  /-- The path is none that a file system could be asked for. -/
  | malformed
deriving DecidableEq

/-- A file system as seen from a working directory. -/
@[ext]
structure FileSystem where
  /-- Where paths start that do not start at the root. -/
  workDir : Location
  /-- How many bytes a file at a place can hold; a place without an entry has no such limit. -/
  limits : Std.ExtTreeMap Location Nat
  /-- What is at each place; a place without an entry is empty. -/
  nodes : Std.ExtTreeMap Location Node

namespace FileSystem

/-- What is at a place, if anything is. -/
def node? (files : FileSystem) (place : Location) : Option Node :=
  files.nodes[place]?

/-- Whether there is a directory at a place. -/
def isDirectory (files : FileSystem) (place : Location) : Bool :=
  files.node? place == some .directory

/-- The file system with something put at a place. -/
def set (files : FileSystem) (place : Location) (node : Node) : FileSystem :=
  { files with nodes := files.nodes.insert place node }

/-- What was put at a place is what is there, and all other places are as they were. -/
@[simp] theorem node?_set (files : FileSystem) (place other : Location) (node : Node) :
    (files.set place node).node? other
      = if place = other then some node else files.node? other := by
  -- Places are compared name by name, so equal ones are the same place.
  simp [set, node?, Std.ExtTreeMap.getElem?_insert]

/-- Putting something at a place does not move the working directory. -/
@[simp] theorem workDir_set (files : FileSystem) (place : Location) (node : Node) :
    (files.set place node).workDir = files.workDir := rfl

/-- Putting something at a place does not change how much any file can hold. -/
@[simp] theorem limits_set (files : FileSystem) (place : Location) (node : Node) :
    (files.set place node).limits = files.limits := rfl

/-- The place a path names, by the names alone. -/
def locate (files : FileSystem) (path : String) : Location :=
  Path.locate files.workDir path

/-- Whether every name can be followed in turn, each from a directory that exists. -/
def canFollow (files : FileSystem) (here : Location) : List String → Bool
  | [] => true
  | name :: names =>
    files.isDirectory here && Path.isShortName name && files.canFollow (here.enter name) names

/-- The place where the file of a path is or would be, if there can be a file with this path. -/
def filePlace? (files : FileSystem) (path : String) : Option Location :=
  if Path.isShort path && Path.endsInName path &&
      files.canFollow (Path.start files.workDir path) (Path.names path) then
    some (files.locate path)
  else none

/-- The file of a path can only be at the place that its names say. -/
theorem filePlace?_eq_some {files : FileSystem} {path : String} {place : Location}
    (found : files.filePlace? path = some place) : place = files.locate path := by
  -- Following the names decides whether there is a place, but not which.
  simp only [filePlace?] at found
  split at found <;> simp_all

/-- Opens the file with a path to read it; the answer is the place of the file. -/
def openInput (files : FileSystem) (path : String) : Access Location :=
  if Path.isWellFormed path then
    match files.filePlace? path with
    | none => .refused
    | some place =>
      match files.node? place with
      | some (.file _) | some (.device _) => .granted place
      | some .directory | none => .refused
  else .malformed

/-- All that is read from what is at a place, if it can be read to an end. -/
def contents? (files : FileSystem) (place : Location) : Option ByteArray :=
  match files.node? place with
  | some (.file content) => some content
  | some (.device device) => device.content
  | some .directory | none => none

/--
Opens the file with a path to add to it, which makes an empty file if there is none.

The answer is the place of the file and the file system afterwards.
-/
def openOutput (files : FileSystem) (path : String) : Access (Location × FileSystem) :=
  if Path.isWellFormed path then
    match files.filePlace? path with
    | none => .refused
    | some place =>
      match files.node? place with
      | some .directory => .refused
      | some (.file _) | some (.device _) => .granted (place, files)
      | none => .granted (place, files.set place (.file .empty))
  else .malformed

/-- Cuts what is at a place to nothing, if it lets itself be cut to a length. -/
def cut (files : FileSystem) (place : Location) : Option FileSystem :=
  match files.node? place with
  | some (.file _) => some (files.set place (.file .empty))
  | some (.device device) => if device.canBeCut then some files else none
  | some .directory | none => none

/-- How many bytes out of a number of them still fit into a file that holds some already. -/
def fitting (files : FileSystem) (place : Location) (held offered : Nat) : Nat :=
  match files.limits[place]? with
  | none => offered
  | some limit => min (limit - held) offered

/--
Adds bytes at the end of a file, as many as still fit into it.

The answer is the bytes that did not fit, and the file system afterwards.
-/
def append (files : FileSystem) (place : Location) (bytes : ByteArray) : ByteArray × FileSystem :=
  match files.node? place with
  | some (.file content) =>
    let count := files.fitting place content.size bytes.size
    (bytes.extract count bytes.size, files.set place (.file (content ++ bytes.extract 0 count)))
  -- What is no file takes nothing.
  | some .directory | some (.device _) | none => (bytes, files)

/-- Puts a file with the given bytes where a path says, if there can be a file with this path. -/
def putFile (files : FileSystem) (path : String) (content : ByteArray) : FileSystem :=
  match files.openOutput path with
  | .granted (place, opened) =>
    match opened.cut place with
    | some empty => (empty.append place content).2
    | none => opened
  | .refused | .malformed => files

/-- Makes the directory with a path and, in turn, every directory that the path leads through. -/
def makeDirectories (files : FileSystem) (path : String) : FileSystem :=
  go files (Path.start files.workDir path) (Path.names path)
where
  /-- Makes the directories that the names lead through from a place. -/
  go (files : FileSystem) (here : Location) : List String → FileSystem
    | [] => files
    | name :: names =>
      -- Only a directory can be gone through, and only a short name can be given to one.
      if files.isDirectory here && Path.isShortName name then
        let next := here.enter name
        go (if (files.node? next).isNone then files.set next .directory else files) next names
      else files

/--
Everything below the working directory, with the path to it from there.

The paths are in the order of their code points, so a slash counts like any other code point.
-/
def listing (files : FileSystem) : List (String × Node) :=
  let below := files.nodes.toList.filterMap fun (place, node) =>
    if files.workDir.isPrefixOf place && place != files.workDir then
      some ("/".intercalate (place.drop files.workDir.length), node)
    else none
  below.mergeSort fun (path, _) (other, _) => path ≤ other

/-- The directories that are at the root of every machine. -/
def rootDirectories : List String :=
  ["bin", "boot", "dev", "etc", "home", "lib", "media", "mnt", "opt", "proc", "root", "run", "sbin",
    "srv", "sys", "tmp", "usr", "var"]

/--
The place of a directory made for one session.

Nobody can know the name of such a directory before it is made. So it is a name with a slash in it,
which no path follows: the directory is a place to start from, and not one to be found.
-/
def freshDirectory : Location := ["tmp", "/"]

/-- The special files that are on every machine. -/
def devices : List (Location × Device) :=
  [(["dev", "null"], ⟨some .empty, false⟩),
    -- There is no end to the zeros that are read here.
    (["dev", "full"], ⟨none, false⟩),
    -- A setting of the running program, which is a number and takes no other text.
    (["proc", "self", "oom_score_adj"], ⟨some "0\n".toUTF8, true⟩)]

/-- A machine's files before anything is done: directories, devices, and a fresh working directory. -/
def initial : FileSystem :=
  let directories : List Location :=
    [] :: freshDirectory :: ["proc", "self"] :: rootDirectories.map ([·])
  { workDir := freshDirectory
    limits := ∅
    nodes := .ofList
      (directories.map (·, Node.directory)
        ++ devices.map fun (place, device) => (place, Node.device device)) }

end FileSystem

end Pseudocode
