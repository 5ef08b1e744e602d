/-! Texts as sequences of code points, and the exchange of one text for another inside a third. -/

namespace Pseudocode

/-- A text is a sequence of code points. -/
abbrev Text := List Char

/--
The text with every occurrence of a pattern exchanged for a replacement.

Occurrences are found from left to right and do not overlap. What is put in is not searched again.
An empty pattern occurs nowhere.
-/
def replaceAll (pattern replacement text : Text) : Text :=
  go 0 text
where
  /-- The exchange in what is left, where an occurrence reaches over the first `covered` places. -/
  go : Nat → Text → Text
    | _, [] => []
    -- The code point belongs to an occurrence whose replacement has been put in.
    | covered + 1, _ :: rest => go covered rest
    | 0, c :: rest =>
      if !pattern.isEmpty && pattern.isPrefixOf (c :: rest) then
        replacement ++ go (pattern.length - 1) rest
      else c :: go 0 rest

/-- A text with a hole in it, which stands wherever the hole is written out. -/
structure Template where
  /-- The text, holes included. -/
  text : Text
  /-- How the hole is written. -/
  hole : Text
deriving DecidableEq, Repr

/-- The template's text with the given text in place of every hole. -/
def Template.fill (template : Template) (content : Text) : Text :=
  replaceAll template.hole content template.text

end Pseudocode
