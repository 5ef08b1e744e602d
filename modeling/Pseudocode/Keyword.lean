import Pseudocode.Text.Basic

/-! The keywords a line can start with, and what each of them stands for. -/

namespace Pseudocode

/-- A keyword, which says what kind of line it starts. -/
inductive Keyword where
  | func
  | endFunc
  | giveBack
  | branch
  | endBranch
  | loop
  | endLoop
  | assign
  | print
  | readText
  | toNumber
  | comment
deriving DecidableEq, Repr

/-- What a line does to the nesting of blocks. -/
inductive Role where
  /-- The lines after it are one level deeper. -/
  | opens
  /-- It and the lines after it are one level less deep. -/
  | closes
  /-- It stays on the level it is on. -/
  | plain
  /-- It stays on its level, but nothing can be made of it. -/
  | unknown
deriving DecidableEq, Repr

namespace Keyword

/-- All keywords, in the order in which a line is tried against them. -/
def all : List Keyword :=
  [.func, .endFunc, .giveBack, .branch, .endBranch, .loop, .endLoop, .assign, .print, .readText,
    .toNumber, .comment]

/-- How a keyword is written, with the space that must follow it if there is one. -/
def spelling : Keyword → Text
  | .func => "FUNC ".toList
  | .endFunc => "ENDFUNC".toList
  -- A bare return gives nothing back, so no space is asked for.
  | .giveBack => "RETURN".toList
  | .branch => "IF ".toList
  | .endBranch => "ENDIF".toList
  | .loop => "WHILE ".toList
  | .endLoop => "ENDWHILE".toList
  | .assign => "SET ".toList
  | .print => "PRINT ".toList
  | .readText => "GETSTRING ".toList
  | .toNumber => "CASTASNUM ".toList
  | .comment => "#".toList

/-- The name of the kind of line that a keyword starts. -/
def label : Keyword → String
  | .func => "func"
  | .endFunc => "endfunc"
  | .giveBack => "return"
  | .branch => "if"
  | .endBranch => "endif"
  | .loop => "while"
  | .endLoop => "endwhile"
  | .assign => "set"
  | .print => "print"
  | .readText => "getstring"
  | .toNumber => "castasnum"
  | .comment => "comment"

/-- What a line that starts with the keyword does to the nesting of blocks. -/
def role : Keyword → Role
  | .func | .branch | .loop => .opens
  | .endFunc | .endBranch | .endLoop => .closes
  | .giveBack | .assign | .print | .readText | .toNumber | .comment => .plain

/-- Whether the keyword has to be the whole line. -/
def standsAlone : Keyword → Bool
  -- Nothing may follow the end of a block, not even a blank.
  | .endFunc | .endBranch | .endLoop => true
  | .func | .giveBack | .branch | .loop | .assign | .print | .readText | .toNumber | .comment => false

/-- How the place for the rest of a line is written in a template. -/
def restHole : Text := "\x7brest\x7d".toList

/-- What is emitted for a line with the keyword, where a hole takes the rest of the line. -/
def template (keyword : Keyword) : Template :=
  ⟨body.toList, restHole⟩
where
  /-- The text of the template. -/
  body : String :=
    match keyword with
    | .func => "def \x7brest\x7d:"
    | .giveBack => "return\x7brest\x7d"
    | .branch => "if (\x7brest\x7d):"
    | .loop => "while (\x7brest\x7d):"
    | .assign => "\x7brest\x7d"
    | .print => "print(\x7brest\x7d, end=\"\")"
    | .readText => "\x7brest\x7d = input()"
    | .toNumber => "\x7brest\x7d = float(\x7brest\x7d)"
    | .comment => "#\x7brest\x7d"
    -- The end of a block shows in the indentation alone.
    | .endFunc | .endBranch | .endLoop => ""

/-- What follows the keyword on a line, if the line is one that the keyword starts. -/
def rest? (keyword : Keyword) (line : Text) : Option Text :=
  if keyword.standsAlone then
    if line = keyword.spelling then some [] else none
  else keyword.spelling.isPrefixOf? line

end Keyword

end Pseudocode
