import Mathlib.Data.List.Chain
import Pseudocode.Text.Lines

/-! Every text is made of lines and line breaks in exactly one way, and splitting it gives the lines. -/

namespace Pseudocode

/-- No part of a line break stands in the text, so it can be a line. -/
def IsLine (text : Text) : Prop :=
  ∀ c ∈ text, isLineBreak c = false

/-- Whether a text can be a line is found out by going through it. -/
instance (text : Text) : Decidable (IsLine text) :=
  -- The code points of the text are gone through, and not all code points that there are.
  List.decidableBAll (fun c => isLineBreak c = false) text

/-- The second break is written right after the first, and the two are read as one. -/
def Fuses (before after : LineBreak × Text) : Prop :=
  -- Only a carriage return and a line feed are one break together.
  before = (.carriageReturn, []) ∧ after.1 = .lineFeed

/-- Whether two breaks are read as one is found out by looking at them. -/
instance : DecidableRel Fuses :=
  fun before after => inferInstanceAs (Decidable (before = (.carriageReturn, []) ∧ after.1 = _))

/-- A first line, and breaks with a line after each, that can be read off the text they make up. -/
structure Separated (first : Text) (others : List (LineBreak × Text)) : Prop where
  /-- The first line has no break in it. -/
  firstLine : IsLine first
  /-- No line after a break has one in it. -/
  laterLines : ∀ other ∈ others, IsLine other.2
  /-- No two breaks in a row are read as one. -/
  apart : others.IsChain fun before after => ¬ Fuses before after

/-- A first line that no break follows is the whole text. -/
@[simp] theorem joinLines_nil (first : Text) : joinLines first [] = first := by
  simp [joinLines]

/-- A first line is followed by its break, and then by the text of the other lines. -/
@[simp] theorem joinLines_cons (first line : Text) (mark : LineBreak)
    (others : List (LineBreak × Text)) :
    joinLines first ((mark, line) :: others) = first ++ (mark.text ++ joinLines line others) := by
  simp [joinLines]

/-- Lines make up a text that starts with a line feed only if the first break is one. -/
theorem head?_joinLines_eq_feed_iff {line : Text} (isLine : IsLine line)
    (others : List (LineBreak × Text)) :
    (joinLines line others).head? = some '\n' ↔
      line = [] ∧ ∃ after ∈ others.head?, after.1 = .lineFeed := by
  cases line with
  | nil =>
    cases others with
    | nil => simp
    | cons other others =>
      -- The text starts as the first break does, and only one break starts with a line feed.
      obtain ⟨mark, after⟩ := other
      cases mark <;> simp [LineBreak.text]
  | cons c line =>
    -- A line feed is a break, so it is not the first code point of a line.
    have inside : isLineBreak c = false := isLine c (by simp)
    have noFeed : c ≠ '\n' := by
      intro feed
      rw [feed] at inside
      exact absurd inside (by decide)
    simp [joinLines, noFeed]

/--
Lines with one more break in front are separated exactly when that break is read on its own.

Whether it is shows in the text: a line feed right after a carriage return is read with it.
-/
theorem separated_cons_iff (first line : Text) (mark : LineBreak)
    (others : List (LineBreak × Text)) :
    Separated first ((mark, line) :: others) ↔
      IsLine first ∧ Separated line others ∧
        (mark = .carriageReturn → (joinLines line others).head? ≠ some '\n') := by
  constructor
  · intro separated
    obtain ⟨isLine, areLines⟩ := List.forall_mem_cons.mp separated.laterLines
    obtain ⟨next, later⟩ := List.isChain_cons.mp separated.apart
    refine ⟨separated.firstLine, ⟨isLine, areLines, later⟩, ?_⟩
    -- A feed in front of the rest would be a break of its own that the return fuses with.
    intro isReturn feed
    obtain ⟨empty, after, isNext, isFeed⟩ := (head?_joinLines_eq_feed_iff isLine others).mp feed
    exact next after isNext ⟨Prod.ext isReturn empty, isFeed⟩
  · intro parts
    obtain ⟨isFirst, ⟨isLine, areLines, later⟩, noFeed⟩ := parts
    refine ⟨isFirst, List.forall_mem_cons.mpr ⟨isLine, areLines⟩, List.isChain_cons.mpr ⟨?_, later⟩⟩
    -- Breaks that fuse would show in the text as a return and a feed.
    intro after isNext fuses
    obtain ⟨isReturn, empty⟩ := Prod.mk.inj fuses.1
    exact noFeed isReturn
      ((head?_joinLines_eq_feed_iff isLine others).mpr ⟨empty, after, isNext, fuses.2⟩)

/-- A line in front of a text joins the first line of that text. -/
theorem splitLines_line_append {line : Text} (isLine : IsLine line) (rest : Text) :
    splitLines (line ++ rest) = (splitLines rest).modifyHead (line ++ ·) := by
  induction line with
  | nil => cases lines : splitLines rest <;> simp [lines]
  | cons c line ih =>
    -- Each code point of the line is read on its own, the last of them first.
    obtain ⟨inside, isRest⟩ := List.forall_mem_cons.mp isLine
    rw [List.cons_append, splitLines_inside inside, ih isRest]
    cases splitLines rest <;> simp

/-- A break in front of a text ends an empty line, unless it is read together with the text. -/
theorem splitLines_mark_append {mark : LineBreak} {rest : Text}
    (apart : mark = .carriageReturn → rest.head? ≠ some '\n') :
    splitLines (mark.text ++ rest) = [] :: splitLines rest := by
  cases mark with
  | returnAndFeed => exact splitLines_returnAndFeed rest
  | carriageReturn => exact splitLines_break (by decide) fun _ => apart rfl
  -- The other breaks are single code points, and none of them is a return.
  | _ => exact splitLines_break (by decide) fun isReturn => absurd isReturn (by decide)

/-- Splitting a text made of separated lines gives these lines. -/
theorem splitLines_joinLines {first : Text} {others : List (LineBreak × Text)}
    (separated : Separated first others) :
    splitLines (joinLines first others) = first :: others.map (·.2) := by
  -- The line after a break is the first line of the rest, so it stays quantified over.
  induction others generalizing first with
  | nil =>
    have alone := splitLines_line_append separated.firstLine []
    simpa using alone
  | cons other others ih =>
    -- The break ends the first line, and the lines after it are split on their own.
    obtain ⟨mark, line⟩ := other
    obtain ⟨isLine, later, apart⟩ := (separated_cons_iff first line mark others).mp separated
    rw [joinLines_cons, splitLines_line_append isLine, splitLines_mark_append apart, ih later]
    simp

/-- Every code point that belongs to a line break can be one on its own. -/
theorem exists_mark_of_isLineBreak {c : Char} (ends : isLineBreak c = true) :
    ∃ mark : LineBreak, mark.text = [c] := by
  simp only [isLineBreak, Bool.or_eq_true, beq_iff_eq] at ends
  -- The seven code points are those of the seven breaks that have only one.
  rcases ends with (((((rfl | rfl) | rfl) | rfl) | rfl) | rfl) | rfl
  · exact ⟨.lineFeed, rfl⟩
  · exact ⟨.verticalTab, rfl⟩
  · exact ⟨.formFeed, rfl⟩
  · exact ⟨.carriageReturn, rfl⟩
  · exact ⟨.nextLine, rfl⟩
  · exact ⟨.lineSeparator, rfl⟩
  · exact ⟨.paragraphSeparator, rfl⟩

/-- Every text is made of separated lines. -/
theorem exists_separated (text : Text) :
    ∃ first others, Separated first others ∧ joinLines first others = text := by
  -- The cases are those in which a text is read from its start.
  refine splitLines.go.induct
    (motive := fun _ _ text => ∃ first others, Separated first others ∧ joinLines first others = text)
    ?_ ?_ ?_ ?_ [] [] text
  · intro _ _
    exact ⟨[], [], ⟨by simp [IsLine], by simp, by simp⟩, rfl⟩
  · intro _ _ rest ih
    obtain ⟨first, others, separated, rfl⟩ := ih
    -- The two code points are one break, which fuses with nothing.
    refine ⟨[], (.returnAndFeed, first) :: others, ?_, rfl⟩
    exact (separated_cons_iff _ _ _ _).mpr ⟨by simp [IsLine], separated, by simp⟩
  · intro _ _ c rest apart ends ih
    obtain ⟨first, others, separated, rfl⟩ := ih
    obtain ⟨mark, isMark⟩ := exists_mark_of_isLineBreak ends
    refine ⟨[], (mark, first) :: others, ?_, by simp [isMark]⟩
    refine (separated_cons_iff _ _ _ _).mpr ⟨by simp [IsLine], separated, ?_⟩
    -- A feed after a return would have been read together with it.
    intro isReturn feed
    obtain ⟨tail, isTail⟩ := List.head?_eq_some_iff.mp feed
    subst isReturn
    obtain ⟨rfl, -⟩ := List.cons.inj isMark
    exact apart tail rfl isTail
  · -- Any other code point goes to the front of the first line.
    intro _ _ c rest _ inside ih
    obtain ⟨first, others, separated, rfl⟩ := ih
    refine ⟨c :: first, others, ⟨?_, separated.laterLines, separated.apart⟩, by simp [joinLines]⟩
    exact List.forall_mem_cons.mpr ⟨by simpa using inside, separated.firstLine⟩

/-- A break can be read off the start of a text, unless it is read together with what follows. -/
theorem LineBreak.text_append_inj {mark other : LineBreak} {rest otherRest : Text}
    (apart : mark = .carriageReturn → rest.head? ≠ some '\n')
    (otherApart : other = .carriageReturn → otherRest.head? ≠ some '\n')
    (same : mark.text ++ rest = other.text ++ otherRest) : mark = other ∧ rest = otherRest := by
  -- Different breaks start differently, but for the two that start with a carriage return.
  cases mark <;> cases other <;> simp_all [text]
  -- A lone carriage return would be followed by the feed of the other break.
  exact otherApart (by rw [← same]; rfl)

/-- A text is made of separated lines in no more than one way. -/
theorem joinLines_inj {first otherFirst : Text} {others otherOthers : List (LineBreak × Text)}
    (separated : Separated first others) (otherSeparated : Separated otherFirst otherOthers)
    (same : joinLines first others = joinLines otherFirst otherOthers) :
    first = otherFirst ∧ others = otherOthers := by
  -- The lines are those that splitting gives, so only the breaks have to be compared.
  have lines : first :: others.map (·.2) = otherFirst :: otherOthers.map (·.2) := by
    rw [← splitLines_joinLines separated, same, splitLines_joinLines otherSeparated]
  obtain ⟨rfl, laterLines⟩ := List.cons.inj lines
  refine ⟨rfl, ?_⟩
  clear lines
  induction others generalizing first otherOthers with
  | nil => simpa using laterLines.symm
  | cons other others ih =>
    cases otherOthers with
    | nil => simp at laterLines
    | cons otherOther otherOthers =>
      obtain ⟨mark, line⟩ := other
      obtain ⟨otherMark, otherLine⟩ := otherOther
      obtain ⟨rfl, tails⟩ := List.cons.inj laterLines
      obtain ⟨-, later, apart⟩ := (separated_cons_iff _ _ _ _).mp separated
      obtain ⟨-, otherLater, otherApart⟩ := (separated_cons_iff _ _ _ _).mp otherSeparated
      rw [joinLines_cons, joinLines_cons] at same
      -- After the same line, both texts go on with a break that can be read off.
      obtain ⟨rfl, rest⟩ :=
        LineBreak.text_append_inj apart otherApart (List.append_cancel_left same)
      rw [ih later tails otherLater rest]

/-- Splitting gives lines, which have no breaks in them. -/
theorem isLine_of_mem_splitLines {text line : Text} (isPiece : line ∈ splitLines text) :
    IsLine line := by
  obtain ⟨first, others, separated, rfl⟩ := exists_separated text
  -- The text is made of separated lines, and those are what splitting gives.
  rw [splitLines_joinLines separated] at isPiece
  rcases List.mem_cons.mp isPiece with rfl | later
  · exact separated.firstLine
  · obtain ⟨other, member, rfl⟩ := List.mem_map.mp later
    exact separated.laterLines other member

/--
Every text is made of lines and line breaks in exactly one way, and its lines are what splitting gives.

A carriage return, an empty line and a line feed would be read as one break, and are not allowed.
-/
theorem splitLines_existsUnique (text : Text) :
    (∃! parts : Text × List (LineBreak × Text),
      Separated parts.1 parts.2 ∧ joinLines parts.1 parts.2 = text) ∧
    ∀ first others, Separated first others → joinLines first others = text →
      splitLines text = first :: others.map (·.2) := by
  constructor
  · obtain ⟨first, others, separated, made⟩ := exists_separated text
    refine ⟨(first, others), ⟨separated, made⟩, ?_⟩
    -- Any other way to make up the text is this one.
    intro parts otherMade
    obtain ⟨otherSeparated, same⟩ := otherMade
    obtain ⟨sameFirst, sameOthers⟩ := joinLines_inj otherSeparated separated (same.trans made.symm)
    exact Prod.ext sameFirst sameOthers
  · intro first others separated made
    -- However the text is made up, splitting it gives the lines that it was made of.
    rw [← made]
    exact splitLines_joinLines separated

/-- Returns and feeds in a row are read pairwise from the left, and a unit separator is no break. -/
theorem splitLines_existsUnique_mixed_breaks :
    splitLines "a\r\r\n\n\u2028b\x1fc\x0b".toList
      = ["a".toList, [], [], [], "b\x1fc".toList, []] :=
  -- The first return stands alone, and the second is read with the feed after it.
  (splitLines_existsUnique _).2 "a".toList
    [(.carriageReturn, []), (.returnAndFeed, []), (.lineFeed, []), (.lineSeparator, "b\x1fc".toList),
      (.verticalTab, [])]
    ⟨by decide, by decide, by decide⟩ rfl

end Pseudocode
