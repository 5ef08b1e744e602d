import Pseudocode.Proofs.Statement

/-! A line is read in one way only, in whatever order the keywords are tried. -/

namespace Pseudocode

namespace Statement

variable {table : List Keyword} {keyword : Keyword} {line rest : Text}

/-- Tables with the same keywords read every line in the same way, whatever their order is. -/
theorem parseWith_congr {other : List Keyword}
    (same : ∀ keyword, keyword ∈ other ↔ keyword ∈ table) (line : Text) :
    parseWith other line = parseWith table line := by
  -- What decides how a line is read is which keywords there are, not their order.
  rcases parseWith_cases table line with
    ⟨rfl, -⟩ | ⟨keyword, member, rest, fits, made, read⟩ | ⟨filled, misfit, read⟩
  · rfl
  · rw [read, parseWith_of_fits ((same keyword).mpr member) fits made]
  · rw [read, parseWith_of_misfit filled fun keyword member => misfit keyword ((same keyword).mp member)]

/-- A line is read by a keyword exactly when the keyword fits it and the rest is what follows. -/
theorem parse_eq_keyed_iff :
    parse line = .keyed keyword rest ↔ keyword.Fits line ∧ line = keyword.spelling ++ rest := by
  constructor
  · intro read
    -- Of the three ways to read a line, only one gives a keyword.
    rcases parseWith_cases Keyword.all line with
      ⟨-, blank⟩ | ⟨other, -, otherRest, fits, made, found⟩ | ⟨-, -, unknown⟩
    · rw [parse, blank] at read
      contradiction
    · rw [parse, found] at read
      cases read
      exact ⟨fits, made⟩
    · rw [parse, unknown] at read
      contradiction
  · intro both
    exact parseWith_of_fits keyword.mem_all both.1 both.2

/-- A line is unknown exactly when it is not empty and no keyword fits it. -/
theorem parse_eq_unknown_iff :
    parse line = .unknown line ↔ line ≠ [] ∧ ∀ keyword ∈ Keyword.all, ¬ keyword.Fits line := by
  constructor
  · intro read
    -- Of the three ways to read a line, only one leaves it unknown.
    rcases parseWith_cases Keyword.all line with
      ⟨-, blank⟩ | ⟨keyword, -, rest, -, -, found⟩ | ⟨filled, misfit, -⟩
    · rw [parse, blank] at read
      contradiction
    · rw [parse, found] at read
      contradiction
    · exact ⟨filled, misfit⟩
  · intro both
    exact parseWith_of_misfit both.1 both.2

/-- The name of the kind of a line, and the part of the line that its keyword leaves. -/
def parts (statement : Statement) : Option String × Text :=
  (statement.label?, statement.rest)

/-- Statements of the same kind are both blank, both unknown, or begin with the same keyword. -/
theorem label?_cases {statement other : Statement} (same : statement.label? = other.label?) :
    (statement = .blank ∧ other = .blank) ∨
    (∃ keyword rest otherRest, statement = .keyed keyword rest ∧ other = .keyed keyword otherRest) ∨
    (∃ line otherLine, statement = .unknown line ∧ other = .unknown otherLine) := by
  -- The names of the kinds are all different, and only an unknown line has none.
  cases statement with
  | blank =>
    cases other with
    | blank => exact Or.inl ⟨rfl, rfl⟩
    | keyed keyword rest => exact absurd (Option.some.inj same).symm keyword.label_ne_blank
    | unknown line => contradiction
  | keyed keyword rest =>
    cases other with
    | blank => exact absurd (Option.some.inj same) keyword.label_ne_blank
    | keyed otherKeyword otherRest =>
      obtain rfl := Keyword.label_injective (Option.some.inj same)
      exact Or.inr (Or.inl ⟨keyword, rest, otherRest, rfl, rfl⟩)
    | unknown line => contradiction
  | unknown line =>
    cases other with
    | blank => contradiction
    | keyed keyword rest => contradiction
    | unknown otherLine => exact Or.inr (Or.inr ⟨line, otherLine, rfl, rfl⟩)

/-- The kind of a line and what its keyword leaves are all that the line says. -/
theorem parts_injective : Function.Injective parts := by
  intro statement other same
  obtain ⟨sameKind, sameRest⟩ := Prod.mk.inj same
  -- The kinds agree first, and then only the rests are left to compare.
  rcases label?_cases sameKind with
    ⟨rfl, rfl⟩ | ⟨keyword, left, otherLeft, rfl, rfl⟩ | ⟨line, otherLine, rfl, rfl⟩
  · rfl
  · rw [show left = otherLeft from sameRest]
  · rw [show line = otherLine from sameRest]

/-- No two lines are read as the same. -/
theorem parse_injective : Function.Injective parse := by
  intro line other same
  -- The line that says a statement is the line that the statement was read from.
  rw [← text_parseWith Keyword.all line, ← text_parseWith Keyword.all other]
  exact congrArg text same

/--
A line is read in one way only, and nothing of it is lost.

No two keywords of the table fit the same line, so the order in which they are tried does not matter.
A line that a keyword fits is the keyword and the rest, and a keyword and any rest are read as that.
The lines that are neither empty nor fitted by a keyword, and no others, are left as they are.
-/
theorem parse_unambiguous (line : Text) :
    (Keyword.all.Pairwise fun keyword other => ¬ (keyword.Fits line ∧ other.Fits line)) ∧
    (∀ table : List Keyword, table.Perm Keyword.all → parseWith table line = parse line) ∧
    (∀ kind rest, (parse line).parts = (some kind, rest) → kind ≠ "blank" →
      ∃ keyword : Keyword, kind = keyword.label ∧ line = keyword.spelling ++ rest ∧
        (keyword.standsAlone = true → rest = [])) ∧
    (∀ (keyword : Keyword) rest, keyword.standsAlone = false →
      (parse (keyword.spelling ++ rest)).parts = (some keyword.label, rest)) ∧
    ((parse line).parts = (none, line) ↔
      line ≠ [] ∧ ∀ keyword ∈ Keyword.all, ¬ keyword.Fits line) ∧
    Function.Injective fun line => (parse line).parts := by
  refine ⟨?_, fun table reordered => ?_, fun kind rest found named => ?_,
    fun keyword rest followed => ?_, ?_, parts_injective.comp parse_injective⟩
  · -- Every keyword is in the table only once.
    have distinct : Keyword.all.Nodup := by decide
    exact distinct.imp fun different both => different (both.1.unique both.2)
  · -- A table in another order has the same keywords.
    exact parseWith_congr (fun keyword => reordered.mem_iff) line
  · -- A line of a kind with a name is blank or begins with a keyword.
    cases read : parse line with
    | blank =>
      rw [read] at found
      cases found
      contradiction
    | keyed keyword left =>
      rw [read] at found
      cases found
      obtain ⟨fits, made⟩ := parse_eq_keyed_iff.mp read
      rw [made] at fits
      exact ⟨keyword, rfl, made, fits.eq_nil⟩
    | unknown left =>
      rw [read] at found
      cases found
  · -- A keyword that need not stand alone fits, whatever follows it.
    rw [parse_eq_keyed_iff.mpr ⟨Keyword.fits_append followed rest, rfl⟩]
    rfl
  · -- Nothing else has no kind, so the line is left as it is.
    rw [← parse_eq_unknown_iff]
    exact parts_injective.eq_iff (b := .unknown line)

/-- A keyword in the rest of a line is left there, even if it is tried before the one in front. -/
theorem parse_unambiguous_keyword_in_rest :
    parseWith Keyword.all.reverse "IF ENDIF".toList = parse "IF ENDIF".toList ∧
      (parse "IF ENDIF".toList).parts = (some "if", "ENDIF".toList) := by
  obtain ⟨-, reordered, -, read, -⟩ := parse_unambiguous "IF ENDIF".toList
  -- In the table turned round, the end of the block is tried before the beginning.
  exact ⟨reordered _ (List.reverse_perm _), read .branch "ENDIF".toList rfl⟩

end Statement

end Pseudocode
