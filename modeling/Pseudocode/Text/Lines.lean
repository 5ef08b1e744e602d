import Pseudocode.Text.Basic

/-! The lines of a text: what stands between its line breaks. -/

namespace Pseudocode

/-- A line break. -/
inductive LineBreak where
  | lineFeed
  | verticalTab
  | formFeed
  | carriageReturn
  | nextLine
  | lineSeparator
  | paragraphSeparator
  /-- A carriage return and the line feed right after it, which end one line together. -/
  | returnAndFeed
deriving DecidableEq, Repr

/-- How a line break is written. -/
def LineBreak.text : LineBreak → Text
  | .lineFeed => ['\n']
  | .verticalTab => ['\x0b']
  | .formFeed => ['\x0c']
  | .carriageReturn => ['\r']
  | .nextLine => ['\u0085']
  | .lineSeparator => ['\u2028']
  | .paragraphSeparator => ['\u2029']
  | .returnAndFeed => ['\r', '\n']

/-- Whether a code point is part of a line break wherever it stands. -/
def isLineBreak (c : Char) : Bool :=
  c == '\n' || c == '\x0b' || c == '\x0c' || c == '\r' || c == '\u0085' || c == '\u2028' ||
    c == '\u2029'

/--
The lines of a text, in order.

There is always one line more than there are line breaks, so a text that ends with a break has an
empty last line.
-/
def splitLines (text : Text) : List Text :=
  go [] [] text
where
  /-- The lines after those in `done` and the beginning `line` of one, both kept latest first. -/
  go (line : Text) (done : List Text) : Text → List Text
    | [] => (line.reverse :: done).reverse
    -- A line feed right after a carriage return does not end a line of its own.
    | '\r' :: '\n' :: rest => go [] (line.reverse :: done) rest
    | c :: rest =>
      if isLineBreak c then go [] (line.reverse :: done) rest
      else go (c :: line) done rest

/-- A code point is read on its own unless it begins a carriage return and line feed. -/
private theorem splitLines_go_cons (line : Text) (done : List Text) {c : Char} {rest : Text}
    (apart : c = '\r' → rest.head? ≠ some '\n') :
    splitLines.go line done (c :: rest)
      = if isLineBreak c then splitLines.go [] (line.reverse :: done) rest
        else splitLines.go (c :: line) done rest := by
  rw [splitLines.go]
  -- The two places read at once would begin with a return and a feed.
  intro tail isReturn isFeed
  exact apart isReturn (by simp [isFeed])

/-- Lines already read stay in front, and a line begun goes on with the first line of the rest. -/
private theorem splitLines_go (line : Text) (done : List Text) (text : Text) :
    splitLines.go line done text
      = done.reverse ++ (splitLines text).modifyHead (line.reverse ++ ·) := by
  -- The rest is read with other lines in front, so those stay quantified over.
  induction length : text.length using Nat.strongRecOn generalizing line done text with
  | ind size ih =>
    subst length
    cases text with
    | nil => simp [splitLines, splitLines.go]
    | cons c rest =>
      by_cases pair : c = '\r' ∧ rest.head? = some '\n'
      · -- The break is read at once on both sides, and ends the line begun.
        obtain ⟨rfl, feed⟩ := pair
        obtain ⟨tail, rfl⟩ := List.head?_eq_some_iff.mp feed
        have shorter : tail.length < ('\r' :: '\n' :: tail).length := by
          simp only [List.length_cons]
          omega
        rw [splitLines, splitLines.go, splitLines.go, ih _ shorter _ _ tail rfl,
          ih _ shorter _ _ tail rfl]
        simp
      · -- The code point is read on its own on both sides.
        have apart : c = '\r' → rest.head? ≠ some '\n' := fun isReturn feed => pair ⟨isReturn, feed⟩
        rw [splitLines, splitLines_go_cons _ _ apart, splitLines_go_cons _ _ apart]
        split <;>
          rw [ih rest.length (by simp) _ _ rest rfl, ih rest.length (by simp) _ _ rest rfl] <;>
          cases splitLines rest <;> simp

/-- A text without code points is one empty line. -/
@[simp] theorem splitLines_nil : splitLines [] = [[]] := rfl

/-- A carriage return and a line feed end one line together. -/
@[simp] theorem splitLines_returnAndFeed (rest : Text) :
    splitLines ('\r' :: '\n' :: rest) = [] :: splitLines rest := by
  -- Nothing stands before the break, so the line it ends is empty.
  rw [splitLines, splitLines.go, splitLines_go]
  cases splitLines rest <;> simp

/-- Any other line break ends a line on its own. -/
theorem splitLines_break {c : Char} {rest : Text} (ends : isLineBreak c = true)
    (apart : c = '\r' → rest.head? ≠ some '\n') :
    splitLines (c :: rest) = [] :: splitLines rest := by
  -- Nothing stands before the break here either.
  rw [splitLines, splitLines_go_cons _ _ apart, if_pos ends, splitLines_go]
  cases splitLines rest <;> simp

/-- A code point that is no line break belongs to the first line. -/
theorem splitLines_inside {c : Char} {rest : Text} (inside : isLineBreak c = false) :
    splitLines (c :: rest) = (splitLines rest).modifyHead (c :: ·) := by
  -- A carriage return is a line break, so none is read here.
  have apart : c = '\r' → rest.head? ≠ some '\n' := by
    rintro rfl
    exact absurd inside (by decide)
  rw [splitLines, splitLines_go_cons _ _ apart, if_neg (by simp [inside]), splitLines_go]
  simp

/-- The text that starts with a line and goes on with breaks, each followed by a line. -/
def joinLines (first : Text) (others : List (LineBreak × Text)) : Text :=
  first ++ others.flatMap fun (mark, line) => mark.text ++ line

end Pseudocode
