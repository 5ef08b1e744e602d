import Pseudocode.Proofs.Keyword
import Pseudocode.Proofs.Text.Template
import Pseudocode.Statement

/-! Reading a line loses nothing of it, and what is emitted for it adds only what the template says. -/

namespace Pseudocode

namespace Statement

variable {table : List Keyword} {keyword : Keyword} {line rest : Text}

/-- A line that is not empty is read by the first keyword of the table that fits it. -/
theorem parseWith_of_ne_nil (table : List Keyword) (filled : line ≠ []) :
    parseWith table line
      = (table.findSome? fun keyword => (keyword.rest? line).map (keyed keyword)).getD
          (.unknown line) := by
  -- Only an empty line is told apart before the table is searched.
  simp [parseWith, filled]

/-- A keyword of the table that fits a line is the one that the line is read by. -/
theorem parseWith_of_fits (member : keyword ∈ table) (fits : keyword.Fits line)
    (made : line = keyword.spelling ++ rest) : parseWith table line = .keyed keyword rest := by
  -- The keyword has letters, so the line is not empty.
  have filled : line ≠ [] := by
    rw [made]
    exact List.append_ne_nil_of_left_ne_nil keyword.spelling_ne_nil rest
  have isRest := Keyword.rest?_eq_some_iff.mpr ⟨fits, made⟩
  rw [parseWith_of_ne_nil table filled]
  -- The search passes over the keywords before it, since no other one fits.
  induction table with
  | nil => contradiction
  | cons first table ih =>
    rw [List.findSome?_cons]
    by_cases here : first.Fits line
    · obtain rfl := here.unique fits
      rw [isRest]
      rfl
    · have later : keyword ∈ table := by
        rcases List.mem_cons.mp member with rfl | later
        · exact absurd fits here
        · exact later
      rw [Keyword.rest?_eq_none_iff.mpr here]
      exact ih later

/-- A line that is not empty and that no keyword of the table fits is unknown. -/
theorem parseWith_of_misfit (filled : line ≠ []) (misfit : ∀ keyword ∈ table, ¬ keyword.Fits line) :
    parseWith table line = .unknown line := by
  -- No keyword finds a rest, so the search comes to the end of the table.
  have missing : table.findSome? (fun keyword => (keyword.rest? line).map (keyed keyword)) = none := by
    rw [List.findSome?_eq_none_iff]
    intro keyword member
    rw [Keyword.rest?_eq_none_iff.mpr (misfit keyword member), Option.map_none]
  rw [parseWith_of_ne_nil table filled, missing, Option.getD_none]

/-- Everything that a line can be read as, with what decides it. -/
theorem parseWith_cases (table : List Keyword) (line : Text) :
    (line = [] ∧ parseWith table line = .blank) ∨
    (∃ keyword ∈ table, ∃ rest, keyword.Fits line ∧ line = keyword.spelling ++ rest ∧
      parseWith table line = .keyed keyword rest) ∨
    (line ≠ [] ∧ (∀ keyword ∈ table, ¬ keyword.Fits line) ∧
      parseWith table line = .unknown line) := by
  by_cases empty : line = []
  · -- An empty line is blank, whatever is in the table.
    subst empty
    exact Or.inl ⟨rfl, rfl⟩
  · by_cases fit : ∃ keyword ∈ table, keyword.Fits line
    · -- The rest is what the keyword that fits leaves of the line.
      obtain ⟨keyword, member, fits⟩ := fit
      obtain ⟨rest, made⟩ := fits.starts
      exact Or.inr (Or.inl ⟨keyword, member, rest, fits, made.symm,
        parseWith_of_fits member fits made.symm⟩)
    · have misfit : ∀ keyword ∈ table, ¬ keyword.Fits line :=
        fun keyword member fits => fit ⟨keyword, member, fits⟩
      exact Or.inr (Or.inr ⟨empty, misfit, parseWith_of_misfit empty misfit⟩)

/-- Reading a line loses nothing of it, whatever the table of keywords is. -/
theorem text_parseWith (table : List Keyword) (line : Text) : (parseWith table line).text = line := by
  -- The line is kept as it is unless a keyword is found, and a keyword found is its beginning.
  rcases parseWith_cases table line with
    ⟨rfl, -⟩ | ⟨keyword, -, rest, -, made, read⟩ | ⟨-, -, read⟩
  · rfl
  · rw [read, text, made]
  · rw [read, text]

/-- What a keyword does not account for is part of the line that says the statement. -/
theorem mem_text_of_mem_rest {statement : Statement} {c : Char} (member : c ∈ statement.rest) :
    c ∈ statement.text := by
  -- Only a line that a keyword fits has more to it than its rest.
  cases statement with
  | blank => exact member
  | keyed keyword rest => exact List.mem_append_right _ member
  | unknown line => exact member

/-- A code point of what is emitted comes from the line or from the template. -/
theorem mem_emit {statement : Statement} {c : Char} (member : c ∈ statement.emit) :
    c ∈ statement.text ∨ c ∈ statement.template.text :=
  -- All that is put into the template is what the keyword does not account for.
  (mem_replaceAll member).imp_left mem_text_of_mem_rest

/-- Nothing is emitted for the end of a block. -/
theorem emit_of_closes {statement : Statement} (closes : statement.role = .closes) :
    statement.emit = [] := by
  cases statement with
  | blank => contradiction
  | keyed keyword rest =>
    -- The templates of the three ends are empty, so the rest has nowhere to go.
    cases keyword <;> cases closes <;> rfl
  | unknown line => contradiction

end Statement

end Pseudocode
