import Mathlib.Data.List.Infix
import Pseudocode.Keyword

/-! Keywords can be told apart by how they are spelled, so at most one of them fits a line. -/

namespace Pseudocode

namespace Keyword

/-- Every keyword is in the table. -/
theorem mem_all (keyword : Keyword) : keyword ∈ all := by
  -- The table is written out, so each keyword is looked up in it.
  cases keyword <;> decide

/-- What is said of all keywords can be found out by going through the table. -/
instance (holds : Keyword → Prop) [DecidablePred holds] : Decidable (∀ keyword, holds keyword) :=
  decidable_of_iff (∀ keyword ∈ all, holds keyword)
    ⟨fun found keyword => found keyword keyword.mem_all, fun given keyword _ => given keyword⟩

/-- The keyword starts the line, or is the whole of it if it has to stand alone. -/
def Fits (keyword : Keyword) (line : Text) : Prop :=
  if keyword.standsAlone then line = keyword.spelling else keyword.spelling <+: line

/-- Whether a keyword fits a line can be found out by comparing them. -/
instance (keyword : Keyword) (line : Text) : Decidable (keyword.Fits line) :=
  inferInstanceAs (Decidable (if keyword.standsAlone then _ else _))

variable {keyword other : Keyword} {line rest : Text}

/-- No keyword is spelled as the beginning of another. -/
theorem eq_of_spelling_starts (starts : keyword.spelling <+: other.spelling) : keyword = other := by
  -- There are few enough keywords to compare every two of them.
  have compared : ∀ keyword other : Keyword,
      keyword.spelling <+: other.spelling → keyword = other := by decide
  exact compared keyword other starts

/-- No keyword is spelled with nothing. -/
theorem spelling_ne_nil : ∀ keyword : Keyword, keyword.spelling ≠ [] := by
  decide

/-- No two keywords start lines of a kind with the same name. -/
theorem label_injective : Function.Injective label := by
  -- The names of the kinds are compared two by two, as the spellings are.
  have compared : ∀ keyword other : Keyword, keyword.label = other.label → keyword = other := by
    decide
  exact compared

/-- No keyword starts lines of the kind that says nothing. -/
theorem label_ne_blank : ∀ keyword : Keyword, keyword.label ≠ "blank" := by
  decide

/-- Whether or not it stands alone, a keyword that fits a line is how the line begins. -/
theorem Fits.starts (fits : keyword.Fits line) : keyword.spelling <+: line := by
  unfold Fits at fits
  split at fits
  · -- A line that is nothing but the keyword begins with it as well.
    subst fits
    exact List.prefix_rfl
  · exact fits

/-- At most one keyword fits a line. -/
theorem Fits.unique (fits : keyword.Fits line) (otherFits : other.Fits line) : keyword = other := by
  -- Of two beginnings of one line, the shorter one is the beginning of the other.
  rcases List.prefix_or_prefix_of_prefix fits.starts otherFits.starts with starts | starts
  · exact eq_of_spelling_starts starts
  · exact (eq_of_spelling_starts starts).symm

/-- A keyword that need not stand alone fits all that it is put in front of. -/
theorem fits_append (followed : keyword.standsAlone = false) (rest : Text) :
    keyword.Fits (keyword.spelling ++ rest) := by
  -- Such a keyword only has to be the beginning.
  simp [Fits, followed]

/-- Nothing follows a keyword that stands alone. -/
theorem Fits.eq_nil (fits : keyword.Fits (keyword.spelling ++ rest))
    (alone : keyword.standsAlone = true) : rest = [] := by
  -- The line is the keyword, so nothing has been put behind it.
  simpa [Fits, alone] using fits

/-- What follows a keyword is found exactly on the lines that the keyword fits. -/
theorem rest?_eq_some_iff :
    keyword.rest? line = some rest ↔ keyword.Fits line ∧ line = keyword.spelling ++ rest := by
  unfold rest? Fits
  split
  · -- Nothing follows a keyword that stands alone.
    split
    · rename_i whole
      simp [whole, eq_comm]
    · rename_i longer
      simp [longer]
  · -- Behind any other keyword, the rest is whatever is left of the line.
    rw [List.isPrefixOf?_eq_some_iff_append_eq, eq_comm]
    exact ⟨fun made => ⟨⟨rest, made.symm⟩, made⟩, fun both => both.2⟩

/-- Nothing is found exactly on the lines that the keyword does not fit. -/
theorem rest?_eq_none_iff : keyword.rest? line = none ↔ ¬ keyword.Fits line := by
  constructor
  · intro missing fits
    -- A keyword that fits leaves some rest, if only an empty one.
    obtain ⟨rest, made⟩ := fits.starts
    rw [rest?_eq_some_iff.mpr ⟨fits, made.symm⟩] at missing
    contradiction
  · intro misfit
    cases found : keyword.rest? line with
    | none => rfl
    | some rest => exact absurd (rest?_eq_some_iff.mp found).1 misfit

end Keyword

end Pseudocode
