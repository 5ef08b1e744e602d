import Pseudocode.Proofs.Text.Lines

/-! The lines of a text that comes in two parts follow from the lines of the parts. -/

namespace Pseudocode

/-- A carriage return and the line feed right after it stand in different parts of a text. -/
def CutsBreak (front rest : Text) : Prop :=
  front.getLast? = some '\r' ∧ rest.head? = some '\n'

/-- Whether a break is cut shows in the code points on both sides. -/
instance : DecidableRel CutsBreak :=
  fun front rest => inferInstanceAs (Decidable (front.getLast? = some '\r' ∧ rest.head? = some '\n'))

variable {front rest : Text}

/-- A text has at least one line. -/
theorem splitLines_ne_nil (text : Text) : splitLines text ≠ [] := by
  obtain ⟨first, others, separated, rfl⟩ := exists_separated text
  -- Before the first break there is a line, even if it is empty.
  rw [splitLines_joinLines separated]
  exact List.cons_ne_nil _ _

/-- The lines of a text are the last of them and those before it. -/
theorem exists_splitLines_eq_concat (text : Text) :
    ∃ before last, splitLines text = before ++ [last] :=
  ⟨_, _, (List.dropLast_append_getLast (splitLines_ne_nil text)).symm⟩

/-- What is put in front of a first part does not change where that part ends. -/
theorem CutsBreak.append_left (cut : CutsBreak front rest) (before : Text) :
    CutsBreak (before ++ front) rest := by
  refine ⟨?_, cut.2⟩
  -- A part that ends with a return is not empty, so it is its own end that counts.
  rw [List.getLast?_append, cut.1, Option.some_or]

/-- A break at the start of lines is still read on its own when an uncut rest comes after them. -/
theorem head?_joinLines_append_ne_feed {mark : LineBreak} {line : Text}
    {others : List (LineBreak × Text)}
    (apart : mark = .carriageReturn → (joinLines line others).head? ≠ some '\n')
    (uncut : ¬ CutsBreak (mark.text ++ joinLines line others) rest) :
    mark = .carriageReturn → (joinLines line others ++ rest).head? ≠ some '\n' := by
  intro isReturn feed
  -- The feed is either the start of the lines, or that of the rest with nothing before it.
  cases lines : joinLines line others with
  | nil =>
    rw [lines, List.nil_append] at feed
    refine uncut ⟨?_, feed⟩
    rw [lines, isReturn]
    rfl
  | cons c more =>
    rw [lines] at feed
    exact apart isReturn (by rw [lines]; exact feed)

/-- Where no break is cut, the last line of the first part goes on with the first line of the rest. -/
theorem splitLines_append (uncut : ¬ CutsBreak front rest) {before after : List Text}
    {last first : Text} (frontLines : splitLines front = before ++ [last])
    (restLines : splitLines rest = first :: after) :
    splitLines (front ++ rest) = before ++ (last ++ first) :: after := by
  obtain ⟨line, others, separated, rfl⟩ := exists_separated front
  rw [splitLines_joinLines separated] at frontLines
  -- The induction is on the breaks of the first part, and each has one line less after it.
  induction others generalizing line before with
  | nil =>
    -- The first part is a single line, which is then its last one too.
    obtain ⟨rfl, rfl⟩ : before = [] ∧ line = last := by
      cases before with
      | nil => exact ⟨rfl, (List.cons.inj frontLines).1⟩
      | cons other before => simp at frontLines
    rw [joinLines_nil, splitLines_line_append separated.firstLine, restLines]
    rfl
  | cons other others ih =>
    obtain ⟨mark, next⟩ := other
    obtain ⟨isLine, later, apart⟩ := (separated_cons_iff line next mark others).mp separated
    rw [joinLines_cons] at uncut
    have uncutMark : ¬ CutsBreak (mark.text ++ joinLines next others) rest :=
      fun cut => uncut (cut.append_left line)
    have uncutLater : ¬ CutsBreak (joinLines next others) rest :=
      fun cut => uncutMark (cut.append_left mark.text)
    -- The line before the break is not the last one, since the break has a line after it.
    obtain ⟨tail, rfl, laterLines⟩ :
        ∃ tail, before = line :: tail ∧ next :: others.map (·.2) = tail ++ [last] := by
      cases before with
      | nil => simp at frontLines
      | cons start tail =>
        obtain ⟨rfl, laterLines⟩ := List.cons.inj frontLines
        exact ⟨tail, rfl, laterLines⟩
    rw [joinLines_cons, List.append_assoc, List.append_assoc, splitLines_line_append isLine,
      splitLines_mark_append (head?_joinLines_append_ne_feed apart uncutMark),
      ih next later uncutLater laterLines]
    simp

/-- Where a break is cut, it is one of the breaks of the whole, with no line inside of it. -/
theorem splitLines_append_of_cut (before after : Text) :
    splitLines (before ++ ['\r']) = splitLines before ++ [[]] ∧
    splitLines (before ++ ['\r'] ++ '\n' :: after) = splitLines before ++ splitLines after := by
  obtain ⟨lines, last, made⟩ := exists_splitLines_eq_concat before
  -- What comes after the first part starts with a return in both cases, so no break is cut there.
  have uncut (tail : Text) : ¬ CutsBreak before ('\r' :: tail) := by simp [CutsBreak]
  constructor
  · -- The return ends the last line, and an empty line comes after it.
    have alone : splitLines ['\r'] = [[], []] := rfl
    rw [splitLines_append (uncut []) made alone, made]
    simp
  · -- With the feed behind it, the return is read as one break of the rest.
    rw [List.append_assoc, List.singleton_append,
      splitLines_append (uncut _) made (splitLines_returnAndFeed after), made]
    simp

/--
The lines of a text in two parts follow from the lines of the parts.

If the parts come between a carriage return and its line feed, the empty line that each of them has
there is no line of the whole.
In any other case the last line of the first part and the first line of the rest are one line.
-/
theorem splitLines_of_parts (front rest : Text) :
    (CutsBreak front rest →
      (splitLines front).getLast? = some [] ∧ (splitLines rest).head? = some [] ∧
        splitLines (front ++ rest) = (splitLines front).dropLast ++ (splitLines rest).tail) ∧
    (¬ CutsBreak front rest →
      ∃ last first, (splitLines front).getLast? = some last ∧ (splitLines rest).head? = some first ∧
        splitLines (front ++ rest)
          = (splitLines front).dropLast ++ (last ++ first) :: (splitLines rest).tail) := by
  constructor
  · intro cut
    obtain ⟨endsFront, startsRest⟩ := cut
    obtain ⟨before, rfl⟩ := List.getLast?_eq_some_iff.mp endsFront
    obtain ⟨after, rfl⟩ := List.head?_eq_some_iff.mp startsRest
    obtain ⟨frontLines, lines⟩ := splitLines_append_of_cut before after
    -- The feed on its own ends an empty line of the rest.
    have feed : splitLines ('\n' :: after) = [] :: splitLines after :=
      splitLines_break (by decide) fun isReturn => absurd isReturn (by decide)
    rw [lines, frontLines, feed]
    simp
  · intro uncut
    -- Both parts have lines, so there is a last line to go on with a first one.
    obtain ⟨before, last, frontLines⟩ := exists_splitLines_eq_concat front
    obtain ⟨first, after, restLines⟩ := List.exists_cons_of_ne_nil (splitLines_ne_nil rest)
    refine ⟨last, first, by simp [frontLines], by simp [restLines], ?_⟩
    rw [splitLines_append uncut frontLines restLines, frontLines, restLines, List.dropLast_concat,
      List.tail_cons]

/-- Two returns and a feed are two breaks, wherever between them the text is cut. -/
theorem splitLines_of_parts_returns :
    (CutsBreak "a\r\r".toList "\nb".toList ∧
      splitLines "a\r\r\nb".toList
        = (splitLines "a\r\r".toList).dropLast ++ (splitLines "\nb".toList).tail) ∧
    (¬ CutsBreak "a\r".toList "\r\nb".toList ∧
      ∃ last first, (splitLines "a\r".toList).getLast? = some last ∧
        (splitLines "\r\nb".toList).head? = some first ∧
        splitLines "a\r\r\nb".toList
          = (splitLines "a\r".toList).dropLast
            ++ (last ++ first) :: (splitLines "\r\nb".toList).tail) ∧
    splitLines "a\r\r\nb".toList = ["a".toList, [], "b".toList] := by
  -- The same text is cut inside of its second break, and then right before it.
  have cut : CutsBreak "a\r\r".toList "\nb".toList := by decide
  have uncut : ¬ CutsBreak "a\r".toList "\r\nb".toList := by decide
  exact ⟨⟨cut, ((splitLines_of_parts _ _).1 cut).2.2⟩, ⟨uncut, (splitLines_of_parts _ _).2 uncut⟩,
    by decide⟩

end Pseudocode
