import Mathlib.Data.List.Induction
import Mathlib.Order.Bounds.Basic
import Pseudocode.Proofs.Fault
import Pseudocode.Proofs.Layout

/-! What becomes of a program is decided by which of its lines open, close or are unknown. -/

namespace Pseudocode

/-- The line with this number, counted from one, starts with none of the keywords. -/
def UnknownAt (lines : List Text) (number : Nat) : Prop :=
  ∃ index line, lines[index]? = some line ∧ lineRole line = .unknown ∧ number = index + 1

/-- One more line at the end adds its own number, if it is unknown. -/
theorem unknownAt_concat (lines : List Text) (line : Text) (number : Nat) :
    UnknownAt (lines ++ [line]) number ↔
      UnknownAt lines number ∨ lineRole line = .unknown ∧ number = lines.length + 1 := by
  constructor
  · intro unknownAt
    obtain ⟨index, other, here, unknown, rfl⟩ := unknownAt
    -- The line is either one of those before, or the one at the end.
    rcases Nat.lt_or_ge index lines.length with before | after
    · rw [List.getElem?_append_left before] at here
      exact Or.inl ⟨index, other, here, unknown, rfl⟩
    · rw [List.getElem?_append_right after, List.getElem?_singleton] at here
      split at here
      · rename_i last
        cases here
        exact Or.inr ⟨unknown, by omega⟩
      · contradiction
  · intro either
    rcases either with ⟨index, other, here, unknown, rfl⟩ | ⟨unknown, rfl⟩
    · have before := (List.getElem?_eq_some_iff.mp here).1
      exact ⟨index, other, by rw [List.getElem?_append_left before, here], unknown, rfl⟩
    · exact ⟨lines.length, line, by simp, unknown, rfl⟩

/-- One more line at the end is the last unknown one, if it is unknown. -/
theorem lastUnknown_concat (lines : List Text) (line : Text) :
    lastUnknown ((lines ++ [line]).map Statement.ofLine)
      = if lineRole line = .unknown then some (lines.length + 1)
        else lastUnknown (lines.map Statement.ofLine) := by
  -- The numbers of the lines before do not change, so the search goes on as before.
  unfold lastUnknown lineRole
  simp only [List.map_append, List.map_cons, List.map_nil, List.zipIdx_append, List.zipIdx_singleton,
    List.filter_append, List.length_map]
  split
  · rename_i unknown
    simp [unknown, Nat.add_comm]
  · rename_i known
    simp [known]

/-- The last unknown line is found, and it is the one with the greatest number. -/
theorem lastUnknown_eq_some_iff (lines : List Text) (number : Nat) :
    lastUnknown (lines.map Statement.ofLine) = some number ↔
      IsGreatest {position | UnknownAt lines position} number := by
  -- The numbers of the lines stay the same when a line is added at the end.
  induction lines using List.reverseRecOn with
  | nil =>
    simp [lastUnknown, IsGreatest, UnknownAt]
  | append_singleton lines line ih =>
    rw [lastUnknown_concat]
    split
    · rename_i unknown
      rw [Option.some.injEq]
      -- No line before this one has a number as great.
      have greatest : IsGreatest {position | UnknownAt (lines ++ [line]) position}
          (lines.length + 1) := by
        refine ⟨(unknownAt_concat lines line _).mpr (Or.inr ⟨unknown, rfl⟩), ?_⟩
        intro position unknownAt
        obtain ⟨index, other, here, -, rfl⟩ := unknownAt
        have within := (List.getElem?_eq_some_iff.mp here).1
        rw [List.length_append, List.length_singleton] at within
        omega
      exact ⟨fun same => same ▸ greatest, fun other => greatest.unique other⟩
    · rename_i known
      have same : {position | UnknownAt (lines ++ [line]) position}
          = {position | UnknownAt lines position} := by
        ext position
        simp [unknownAt_concat, known]
      rw [ih, same]

/-- No unknown line is found exactly when there is none. -/
theorem lastUnknown_eq_none_iff (lines : List Text) :
    lastUnknown (lines.map Statement.ofLine) = none ↔ ∀ line ∈ lines, lineRole line ≠ .unknown := by
  -- A line added at the end is found if it is unknown, and else changes nothing.
  induction lines using List.reverseRecOn with
  | nil => simp [lastUnknown]
  | append_singleton lines line ih =>
    rw [lastUnknown_concat]
    split
    · rename_i unknown
      simp [unknown]
    · rename_i known
      rw [ih, List.forall_mem_append, List.forall_mem_singleton]
      exact ⟨fun earlier => ⟨earlier, known⟩, fun all => all.1⟩

/-- A program whose blocks do not match is rejected for that, whatever else it says. -/
theorem compile_of_not_balanced {lines : List Text} (unbalanced : ¬ Balanced lines) :
    compile lines = .rejected .mismatch := by
  -- Whether a line is unknown is not asked where the lines cannot be laid out.
  simp only [compile, Outcome.ofStatements, layOut_of_not_balanced unbalanced]

/-- A balanced program with unknown lines is rejected for the last of them. -/
theorem compile_of_unknown {lines : List Text} (balanced : Balanced lines) {number : Nat}
    (last : IsGreatest {position | UnknownAt lines position} number) :
    compile lines = .rejected (.failedLine number) := by
  have found := (lastUnknown_eq_some_iff lines number).mpr last
  simp only [compile, Outcome.ofStatements, layOut_of_balanced balanced, found]

/-- A balanced program without unknown lines is compiled into its lines, each at its depth. -/
theorem compile_of_known {lines : List Text} (balanced : Balanced lines)
    (known : ∀ line ∈ lines, lineRole line ≠ .unknown) :
    compile lines = .code (placed 0 lines) := by
  have notFound := (lastUnknown_eq_none_iff lines).mpr known
  simp only [compile, Outcome.ofStatements, layOut_of_balanced balanced, notFound]

/-- The unknown lines of a program that has some include a last one. -/
theorem exists_last_unknown {lines : List Text}
    (anyUnknown : ∃ line ∈ lines, lineRole line = .unknown) :
    ∃ number, IsGreatest {position | UnknownAt lines position} number := by
  -- The search for the last one finds none only where there is none.
  cases found : lastUnknown (lines.map Statement.ofLine) with
  | none =>
    obtain ⟨line, member, unknown⟩ := anyUnknown
    exact absurd unknown ((lastUnknown_eq_none_iff lines).mp found line member)
  | some number => exact ⟨number, (lastUnknown_eq_some_iff lines number).mp found⟩

/-- Everything that can become of a program, with what decides it. -/
theorem compile_cases (lines : List Text) :
    (¬ Balanced lines ∧ compile lines = .rejected .mismatch) ∨
    (Balanced lines ∧ ∃ number, IsGreatest {position | UnknownAt lines position} number ∧
      compile lines = .rejected (.failedLine number)) ∨
    (Balanced lines ∧ (∀ line ∈ lines, lineRole line ≠ .unknown) ∧
      compile lines = .code (placed 0 lines)) := by
  -- The blocks are asked about first, and the unknown lines only if the blocks match.
  by_cases balanced : Balanced lines
  · by_cases anyUnknown : ∃ line ∈ lines, lineRole line = .unknown
    · obtain ⟨number, last⟩ := exists_last_unknown anyUnknown
      exact Or.inr (Or.inl ⟨balanced, number, last, compile_of_unknown balanced last⟩)
    · have known : ∀ line ∈ lines, lineRole line ≠ .unknown :=
        fun line member unknown => anyUnknown ⟨line, member, unknown⟩
      exact Or.inr (Or.inr ⟨balanced, known, compile_of_known balanced known⟩)
  · exact Or.inl ⟨balanced, compile_of_not_balanced balanced⟩

/-- A program is rejected exactly when a line is unknown or the blocks do not match. -/
theorem fault?_compile_isSome_iff (lines : List Text) :
    (compile lines).fault?.isSome = true ↔
      (∃ line ∈ lines, lineRole line = .unknown) ∨ ¬ Balanced lines := by
  -- Of the three things that can become of a program, two are faults.
  rcases compile_cases lines with
    ⟨unbalanced, compiled⟩ | ⟨-, number, last, compiled⟩ | ⟨balanced, known, compiled⟩
  · simp [compiled, Outcome.fault?, unbalanced]
  · -- The last unknown line is one of the lines.
    obtain ⟨index, line, here, unknown, -⟩ := last.1
    have anyUnknown : ∃ line ∈ lines, lineRole line = .unknown :=
      ⟨line, List.mem_of_getElem? here, unknown⟩
    simp [compiled, Outcome.fault?, anyUnknown]
  · simpa [compiled, Outcome.fault?, balanced] using known

/-- A program whose text is not taken for a fault's is balanced and known, and becomes code. -/
theorem compile_of_not_isText {lines : List Text}
    (accepted : Fault.isText (compile lines).text = false) :
    Balanced lines ∧ (∀ line ∈ lines, lineRole line ≠ .unknown) ∧
      compile lines = .code (placed 0 lines) := by
  -- The recogniser does not miss a rejected program.
  rw [Outcome.isText_text_eq] at accepted
  rcases compile_cases lines with ⟨-, compiled⟩ | ⟨-, number, -, compiled⟩ | code
  · simp [compiled, Outcome.fault?] at accepted
  · simp [compiled, Outcome.fault?] at accepted
  · exact code

/-- The text of a program is a mismatch's exactly when its blocks do not match. -/
theorem compile_text_eq_mismatch_iff (lines : List Text) :
    (compile lines).text = Fault.mismatch.text ↔ ¬ Balanced lines := by
  -- A balanced program becomes code, or is rejected for one of its lines.
  rw [Outcome.text_eq_fault_iff]
  rcases compile_cases lines with
    ⟨unbalanced, compiled⟩ | ⟨balanced, number, -, compiled⟩ | ⟨balanced, -, compiled⟩
  · simp [compiled, unbalanced]
  · simp [compiled, balanced]
  · simp [compiled, balanced]

/-- In a balanced program, a line closes no more blocks than are open before it. -/
theorem Balanced.closes_le_opens_before {lines : List Text} (balanced : Balanced lines)
    {index : Nat} (within : index < lines.length) :
    countRole .closes (lines.take (index + 1)) ≤ countRole .opens (lines.take index) := by
  have before := balanced.covered index (by omega)
  have after := balanced.covered (index + 1) within
  have disjoint := countRole_singleton_disjoint lines[index]
  -- The line itself either opens a block or closes one, if it does any of the two.
  simp only [List.take_succ_eq_append_getElem within, countRole, List.countP_append] at after disjoint ⊢
  simp only [countRole] at before
  omega

/-- The text of placed lines is made of one piece for each line of the program. -/
theorem text_code_placed (lines : List Text) :
    (Outcome.code (placed 0 lines)).text
      = (lines.mapIdx fun index line =>
          (List.replicate
            (countRole .opens (lines.take index) - countRole .closes (lines.take (index + 1)))
            indent).flatten ++ (Statement.ofLine line).emit ++ ['\n']).flatten := by
  -- A line feed can be added as each line is placed, or after all of them have been.
  simp only [Outcome.text, placed, depthAt, Nat.zero_add, List.flatMap_def,
    List.mapIdx_eq_zipIdx_map, List.map_map]
  rfl

/--
The text of a program follows from the number of blocks opened and closed up to each line.

Blocks that do not match come first, then the last unknown line, and only then the code.
-/
theorem compile_text_of_counts (lines : List Text) :
    ((∃ count ≤ lines.length,
        countRole .opens (lines.take count) < countRole .closes (lines.take count)) ∨
      countRole .opens lines ≠ countRole .closes lines →
        (compile lines).text = "ERROR: INDENTATION MISMATCH".toList) ∧
    (Balanced lines → (∃ line ∈ lines, lineRole line = .unknown) →
      ∃ number, IsGreatest {position | UnknownAt lines position} number ∧
        (compile lines).text = "ERROR: FAILED TO PROCESS LINE ".toList ++ Nat.toDigits 10 number) ∧
    (Balanced lines → (∀ line ∈ lines, lineRole line ≠ .unknown) →
      (compile lines).text
        = (lines.mapIdx fun index line =>
            (List.replicate
              (countRole .opens (lines.take index) - countRole .closes (lines.take (index + 1)))
              indent).flatten ++ (Statement.ofLine line).emit ++ ['\n']).flatten ∧
      ∀ index < lines.length,
        countRole .closes (lines.take (index + 1)) ≤ countRole .opens (lines.take index)) := by
  refine ⟨fun unmatched => ?_, fun balanced anyUnknown => ?_, fun balanced known => ⟨?_, ?_⟩⟩
  · -- Unknown lines are not looked at here, so they may be anywhere.
    exact (compile_text_eq_mismatch_iff lines).mpr ((not_balanced_iff lines).mpr unmatched)
  · -- The last unknown line is the one that the search finds.
    obtain ⟨number, last⟩ := exists_last_unknown anyUnknown
    refine ⟨number, last, ?_⟩
    rw [compile_of_unknown balanced last, Outcome.text, Fault.text_failedLine]
    rfl
  · rw [compile_of_known balanced known, text_code_placed]
  · -- Before each line, enough blocks are open for all that have been closed.
    exact fun index within => balanced.closes_le_opens_before within

/--
Unknown lines do not count beside a stray end, and the last of them does in blocks that match.

Blocks of known lines become code, with what is inside each of them a level deeper.
-/
theorem compile_text_of_counts_each_case :
    (compile ["WHAT".toList, "ENDIF".toList, "IF x".toList, "WHAT".toList]).text
        = "ERROR: INDENTATION MISMATCH".toList ∧
      (compile ["WHAT".toList, "IF x".toList, "WHAT".toList, "ENDIF".toList]).text
        = "ERROR: FAILED TO PROCESS LINE 3".toList ∧
      (compile ["IF x".toList, "WHILE y".toList, "PRINT z".toList, "ENDIF".toList,
        "ENDWHILE".toList]).text
        = "if (x):\n    while (y):\n        print(z, end=\"\")\n    \n\n".toList := by
  refine ⟨?_, ?_, ?_⟩
  · -- The totals agree here, but the end comes before the beginning.
    exact (compile_text_of_counts _).1 (Or.inl ⟨2, by decide, by decide⟩)
  · obtain ⟨number, last, text⟩ := (compile_text_of_counts
      ["WHAT".toList, "IF x".toList, "WHAT".toList, "ENDIF".toList]).2.1
      ⟨by decide, by decide⟩ ⟨"WHAT".toList, by decide, by decide⟩
    -- The greatest number of an unknown line is the one that is found.
    obtain rfl : number = 3 := last.unique ((lastUnknown_eq_some_iff _ 3).mp (by decide))
    exact text
  · -- The ends are of the wrong kinds, which does not matter.
    obtain ⟨text, -⟩ := (compile_text_of_counts
      ["IF x".toList, "WHILE y".toList, "PRINT z".toList, "ENDIF".toList, "ENDWHILE".toList]).2.2
      ⟨by decide, by decide⟩ (by decide)
    exact text.trans (by decide)

/--
The recogniser of fault texts is exact on the text of every program.

It finds an unknown line or blocks that do not match, and is never misled by what the lines say.
-/
theorem isText_compile_iff (lines : List Text) :
    (Fault.isText (compile lines).text = true ↔
      (∃ line ∈ lines, lineRole line = .unknown) ∨
      (∃ count ≤ lines.length,
        countRole .opens (lines.take count) < countRole .closes (lines.take count)) ∨
      countRole .opens lines ≠ countRole .closes lines) ∧
    (∀ code, compile lines = .code code → Fault.isText (compile lines).text = false) ∧
    ∀ fault : Fault, Fault.isText fault.text = true := by
  refine ⟨?_, fun code compiled => ?_, Fault.isText_text⟩
  · -- Being recognised is being rejected, and that is decided by the lines.
    rw [Outcome.isText_text_eq, fault?_compile_isSome_iff, not_balanced_iff]
  · rw [compiled, Outcome.isText_code]

end Pseudocode
