import Pseudocode.Proofs.Outcome

/-! A program in two parts: what becomes of it follows from what becomes of each part. -/

namespace Pseudocode

/-- Roles are counted part by part. -/
theorem countRole_append (role : Role) (front rest : List Text) :
    countRole role (front ++ rest) = countRole role front + countRole role rest := by
  simp [countRole]

/-- The depth after lines can be reached in two steps, the first line being the first of them. -/
theorem depth_after_cons {depth : Nat} {line : Text} (closable : countRole .closes [line] ≤ depth)
    (rest : List Text) :
    depth + countRole .opens [line] - countRole .closes [line] + countRole .opens rest
        - countRole .closes rest
      = depth + countRole .opens (line :: rest) - countRole .closes (line :: rest) := by
  -- Nothing is cut off at zero after the first line, so the two steps add up.
  rw [countRole_cons .opens line rest, countRole_cons .closes line rest]
  omega

/-- Lines are covered when a first part is, and the others are at the depth after it. -/
theorem covers_append (depth : Nat) (front rest : List Text) :
    Covers depth (front ++ rest) ↔ Covers depth front ∧
      Covers (depth + countRole .opens front - countRole .closes front) rest := by
  -- Each line of the first part changes the depth for the others, so it stays quantified over.
  induction front generalizing depth with
  | nil =>
    have trivially : Covers depth [] := fun count within => by simp
    simp [trivially]
  | cons line front ih =>
    -- The first line is covered alike in both, and the rest at the depth after it.
    rw [List.cons_append, covers_cons, covers_cons, ih, and_assoc]
    refine and_congr_right fun closable => and_congr_right fun _ => ?_
    rw [depth_after_cons closable]

/-- After a balanced program, no block is open. -/
theorem Balanced.depth_after {lines : List Text} (balanced : Balanced lines) :
    0 + countRole .opens lines - countRole .closes lines = 0 := by
  rw [balanced.settled]
  omega

/-- After a balanced part, a program is balanced exactly when the rest of it is. -/
theorem balanced_append_iff {front : List Text} (balanced : Balanced front) (rest : List Text) :
    Balanced (front ++ rest) ↔ Balanced rest := by
  obtain ⟨covers, settled⟩ := (balanced_iff_covers front).mp balanced
  have totals : countRole .opens (front ++ rest) = countRole .closes (front ++ rest) ↔
      countRole .opens rest = countRole .closes rest := by
    rw [countRole_append, countRole_append]
    omega
  -- The first part leaves no block open, so the rest starts as the whole program does.
  rw [balanced_iff_covers, balanced_iff_covers, covers_append, balanced.depth_after, totals,
    and_assoc]
  exact and_iff_right covers

/-- The lines of a covered first part are placed as without the rest, which starts at its end. -/
theorem placed_append {depth : Nat} {front : List Text} (covers : Covers depth front)
    (rest : List Text) :
    placed depth (front ++ rest)
      = placed depth front
        ++ placed (depth + countRole .opens front - countRole .closes front) rest := by
  -- Each line of the first part changes the depth for the others, so it stays quantified over.
  induction front generalizing depth with
  | nil => simp [placed]
  | cons line front ih =>
    obtain ⟨closable, later⟩ := (covers_cons depth line front).mp covers
    rw [List.cons_append, placed_cons _ closable, placed_cons _ closable, ih later,
      depth_after_cons closable, List.cons_append]

/-- The last unknown line is that of the rest, numbered on from the first part, if there is one. -/
theorem lastUnknown_append (front rest : List Text) :
    lastUnknown ((front ++ rest).map Statement.ofLine)
      = ((lastUnknown (rest.map Statement.ofLine)).map (front.length + ·)).or
          (lastUnknown (front.map Statement.ofLine)) := by
  -- A line added at the end of the rest is a line added at the end of the whole.
  induction rest using List.reverseRecOn with
  | nil => simp [lastUnknown]
  | append_singleton rest line ih =>
    rw [← List.append_assoc, lastUnknown_concat, lastUnknown_concat]
    split
    · -- The new line is the last unknown one in both, with the first part before it.
      simp [Nat.add_assoc]
    · exact ih

/--
What becomes of a program whose first part is balanced and has a number of lines.

Whatever is wrong with the rest comes before what is wrong with the first part.
-/
def Outcome.followedBy (before : Outcome) (count : Nat) (after : Outcome) : Outcome :=
  match before, after with
  | _, .rejected .mismatch => .rejected .mismatch
  -- The lines of the rest are numbered on from those of the first part.
  | _, .rejected (.failedLine number) => .rejected (.failedLine (count + number))
  | .rejected fault, .code _ => .rejected fault
  | .code lines, .code others => .code (lines ++ others)

/-- What becomes of a balanced program depends on whether any of its lines is unknown. -/
theorem compile_of_balanced {lines : List Text} (balanced : Balanced lines) :
    compile lines
      = match lastUnknown (lines.map Statement.ofLine) with
        | some number => .rejected (.failedLine number)
        | none => .code (placed 0 lines) := by
  simp only [compile, Outcome.ofStatements, layOut_of_balanced balanced]
  -- The layout has been decided, and only the search for unknown lines is left.
  cases lastUnknown (lines.map Statement.ofLine) <;> rfl

/-- What becomes of a program with a balanced first part follows from what becomes of the two. -/
theorem compile_append {front : List Text} (balanced : Balanced front) (rest : List Text) :
    compile (front ++ rest) = (compile front).followedBy front.length (compile rest) := by
  by_cases matched : Balanced rest
  · -- Both parts are laid out, and so is the whole, with the rest on the level it starts on.
    have whole := (balanced_append_iff balanced rest).mpr matched
    have covers := ((balanced_iff_covers front).mp balanced).1
    rw [compile_of_balanced whole, compile_of_balanced balanced, compile_of_balanced matched,
      lastUnknown_append, placed_append covers, balanced.depth_after]
    -- An unknown line of the rest is later than any in the first part.
    cases lastUnknown (rest.map Statement.ofLine) <;>
      cases lastUnknown (front.map Statement.ofLine) <;> rfl
  · -- The blocks of the rest do not match, and the first part cannot make them.
    have unmatched : ¬ Balanced (front ++ rest) :=
      fun whole => matched ((balanced_append_iff balanced rest).mp whole)
    rw [compile_of_not_balanced unmatched, compile_of_not_balanced matched]
    cases compile front <;> rfl

/-- A program with a first part in which an end comes too early is never balanced. -/
theorem not_balanced_append {front : List Text} {count : Nat} (within : count ≤ front.length)
    (early : countRole .opens (front.take count) < countRole .closes (front.take count))
    (rest : List Text) : ¬ Balanced (front ++ rest) := by
  intro balanced
  -- The lines up to the early end are the same in the whole program.
  have covered := balanced.covered count (by rw [List.length_append]; omega)
  rw [List.take_append_of_le_length within] at covered
  omega

/--
The text of a program in two parts follows from the texts of the parts.

If the blocks of the first part match, the rest decides unless it is code, and code is appended.
So if the first part and the whole are code, the rest is what has been added.
An end that comes too early in the first part is a mismatch, whatever is added.
-/
theorem compile_text_append (front rest : List Text) :
    ((compile front).text ≠ Fault.mismatch.text →
      ((compile rest).text = Fault.mismatch.text →
        (compile (front ++ rest)).text = Fault.mismatch.text) ∧
      (∀ number, (compile rest).text = (Fault.failedLine number).text →
        (compile (front ++ rest)).text = (Fault.failedLine (front.length + number)).text) ∧
      (∀ number, Fault.isText (compile rest).text = false →
        (compile front).text = (Fault.failedLine number).text →
        (compile (front ++ rest)).text = (compile front).text) ∧
      (Fault.isText (compile rest).text = false → Fault.isText (compile front).text = false →
        (compile (front ++ rest)).text = (compile front).text ++ (compile rest).text)) ∧
    (Fault.isText (compile front).text = false → Fault.isText (compile (front ++ rest)).text = false →
      Fault.isText (compile rest).text = false ∧
        (compile (front ++ rest)).text = (compile front).text ++ (compile rest).text) ∧
    ((∃ count ≤ front.length,
        countRole .opens (front.take count) < countRole .closes (front.take count)) →
      (compile (front ++ rest)).text = Fault.mismatch.text) := by
  have ofCode (accepted : Fault.isText (compile front).text = false)
      (alsoAccepted : Fault.isText (compile rest).text = false) :
      (compile (front ++ rest)).text = (compile front).text ++ (compile rest).text := by
    -- Both parts are code, so the lines of one follow those of the other.
    obtain ⟨balanced, -, code⟩ := compile_of_not_isText accepted
    obtain ⟨-, -, restCode⟩ := compile_of_not_isText alsoAccepted
    rw [compile_append balanced, code, restCode]
    simp [Outcome.followedBy, Outcome.text]
  refine ⟨fun matched => ?_, fun accepted whole => ?_, fun tooEarly => ?_⟩
  · -- The first part is no mismatch, so its blocks match.
    have balanced : Balanced front := by
      by_contra unbalanced
      exact matched ((compile_text_eq_mismatch_iff front).mpr unbalanced)
    have joined := compile_append balanced rest
    refine ⟨fun mismatch => ?_, fun number failed => ?_, fun number code failed => ?_,
      fun restAccepted accepted => ofCode accepted restAccepted⟩
    · -- A text says which fault it is, so the rest has been rejected for that.
      rw [Outcome.text_eq_fault_iff] at mismatch
      rw [joined, mismatch]
      rfl
    · rw [Outcome.text_eq_fault_iff] at failed
      rw [joined, failed]
      rfl
    · rw [Outcome.text_eq_fault_iff] at failed
      -- The rest has nothing to say, so the fault of the first part stands.
      obtain ⟨-, -, restCode⟩ := compile_of_not_isText code
      rw [joined, failed, restCode]
      rfl
  · -- The blocks of the whole and of its first part match, so those of the rest do.
    have restAccepted : Fault.isText (compile rest).text = false := by
      obtain ⟨balanced, -, code⟩ := compile_of_not_isText accepted
      rw [compile_append balanced, code] at whole
      -- Were the rest rejected, the whole program would be.
      cases compiled : compile rest with
      | code others => exact Outcome.isText_code others
      | rejected fault =>
        rw [compiled] at whole
        cases fault <;> simp [Outcome.followedBy, Outcome.text, Fault.isText_text] at whole
    exact ⟨restAccepted, ofCode accepted restAccepted⟩
  · -- The end that comes too early is still in the whole program.
    obtain ⟨count, within, early⟩ := tooEarly
    exact (compile_text_eq_mismatch_iff _).mpr (not_balanced_append within early rest)

/-- A line that fails in the rest is numbered on from the first part, where another line fails. -/
theorem compile_text_append_renumbered :
    let front := ["IF x".toList, "WHAT".toList, "ENDWHILE".toList]
    let rest := ["SET y".toList, "HUH".toList]
    (compile front).text = "ERROR: FAILED TO PROCESS LINE 2".toList ∧
      (compile rest).text = "ERROR: FAILED TO PROCESS LINE 2".toList ∧
      (compile (front ++ rest)).text = "ERROR: FAILED TO PROCESS LINE 5".toList := by
  intro front rest
  have frontFailed : (compile front).text = (Fault.failedLine 2).text := by decide
  have restFailed : (compile rest).text = (Fault.failedLine 2).text := by decide
  have matched : (compile front).text ≠ Fault.mismatch.text := by
    rw [frontFailed]
    exact Fault.text_failedLine_ne_mismatch 2
  -- The line of the rest is the later of the two, so it is the one that is named.
  have renumbered := ((compile_text_append front rest).1 matched).2.1 2 restFailed
  have fifth : (Fault.failedLine 5).text = "ERROR: FAILED TO PROCESS LINE 5".toList := by decide
  exact ⟨frontFailed, restFailed, renumbered.trans fifth⟩

end Pseudocode
