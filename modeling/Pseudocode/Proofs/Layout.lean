import Pseudocode.Nesting

/-! Balanced lines, and no others, can be laid out, each line at the depth that its place says. -/

namespace Pseudocode

/-- Where there are no lines, none has a role. -/
@[simp] theorem countRole_nil (role : Role) : countRole role [] = 0 := rfl

/-- The first line counts on its own, and the others as they count without it. -/
theorem countRole_cons (role : Role) (line : Text) (rest : List Text) :
    countRole role (line :: rest) = countRole role [line] + countRole role rest := by
  -- Both sides add the same two numbers, in a different order.
  simp only [countRole, List.countP_cons, List.countP_nil]
  omega

/-- A line counts once for its own role, and not at all for another. -/
theorem countRole_singleton (role : Role) (line : Text) :
    countRole role [line] = if lineRole line = role then 1 else 0 := by
  simp [countRole]

/-- A line that closes a block opens none. -/
theorem countRole_singleton_disjoint (line : Text) :
    countRole .opens [line] + countRole .closes [line] ≤ 1 := by
  -- A line has one role only.
  cases role : lineRole line <;> simp [countRole_singleton, role]

/-- From the start to any line, no more blocks are closed than are opened or were open before. -/
def Covers (depth : Nat) (lines : List Text) : Prop :=
  ∀ count ≤ lines.length,
    countRole .closes (lines.take count) ≤ depth + countRole .opens (lines.take count)

/-- Lines are covered when the first of them is, and the others are at the depth after it. -/
theorem covers_cons (depth : Nat) (line : Text) (rest : List Text) :
    Covers depth (line :: rest) ↔ countRole .closes [line] ≤ depth ∧
      Covers (depth + countRole .opens [line] - countRole .closes [line]) rest := by
  have disjoint := countRole_singleton_disjoint line
  constructor
  · -- A first line that closes a block opens none, so a block must be open before it.
    intro covers
    have first := covers 1 (by simp)
    simp only [List.take_succ_cons, List.take_zero] at first
    refine ⟨by omega, fun count within => ?_⟩
    -- Up to a line of the rest, the first line is counted as well.
    have later := covers (count + 1) (by simpa using within)
    rw [List.take_succ_cons, countRole_cons .closes, countRole_cons .opens] at later
    omega
  · intro parts count within
    obtain ⟨first, covers⟩ := parts
    -- A beginning is empty, or is the first line and a beginning of the rest.
    cases count with
    | zero => simp
    | succ count =>
      have later := covers count (by simpa using within)
      rw [List.take_succ_cons, countRole_cons .closes, countRole_cons .opens]
      omega

/-- Covered lines close no more blocks in all than are opened or were open before. -/
theorem Covers.total {depth : Nat} {lines : List Text} (covers : Covers depth lines) :
    countRole .closes lines ≤ depth + countRole .opens lines := by
  -- All the lines are one of the beginnings that the condition is about.
  simpa using covers lines.length (Nat.le_refl _)

/-- Lines are balanced when they are covered with no block open, and leave none open. -/
theorem balanced_iff_covers (lines : List Text) :
    Balanced lines ↔ Covers 0 lines ∧ countRole .opens lines = countRole .closes lines := by
  -- With no block open before, the depth adds nothing to what is opened.
  constructor
  · intro balanced
    exact ⟨fun count within => by simpa using balanced.covered count within, balanced.settled⟩
  · intro parts
    obtain ⟨covers, settled⟩ := parts
    exact ⟨fun count within => by simpa using covers count within, settled⟩

/-- Lines are not balanced when some end of a block comes too early, or the totals differ. -/
theorem not_balanced_iff (lines : List Text) :
    ¬ Balanced lines ↔
      (∃ count ≤ lines.length,
        countRole .opens (lines.take count) < countRole .closes (lines.take count)) ∨
      countRole .opens lines ≠ countRole .closes lines := by
  constructor
  · intro unbalanced
    by_cases settled : countRole .opens lines = countRole .closes lines
    · -- The totals agree, so it is the condition on the beginnings that fails.
      refine Or.inl ?_
      have uncovered : ¬ ∀ count ≤ lines.length,
          countRole .closes (lines.take count) ≤ countRole .opens (lines.take count) :=
        fun covered => unbalanced ⟨covered, settled⟩
      simpa using uncovered
    · exact Or.inr settled
  · intro unmatched balanced
    -- Each of the two goes against one of the conditions for being balanced.
    rcases unmatched with ⟨count, within, early⟩ | different
    · exact absurd (balanced.covered count within) (Nat.not_le.mpr early)
    · exact different balanced.settled

/-- The depth at which a line stands, when some blocks are open before the first line. -/
def depthAt (depth : Nat) (lines : List Text) (index : Nat) : Nat :=
  -- The line itself counts if it closes a block, but not if it opens one.
  depth + countRole .opens (lines.take index) - countRole .closes (lines.take (index + 1))

/-- The emitted lines, each at its depth. -/
def placed (depth : Nat) (lines : List Text) : List Text :=
  lines.mapIdx fun index line => indented (depthAt depth lines index) (Statement.ofLine line).emit

/-- One line is placed for each line of the program. -/
theorem length_placed (depth : Nat) (lines : List Text) :
    (placed depth lines).length = lines.length := by
  simp [placed]

/-- Each placed line is what is emitted for the line of the program, at its depth. -/
theorem getElem?_placed (depth : Nat) (lines : List Text) (index : Nat) :
    (placed depth lines)[index]?
      = lines[index]?.map fun line =>
          indented (depthAt depth lines index) (Statement.ofLine line).emit := by
  simp [placed]

/-- The first line is placed on its own, and the others as they are at the depth after it. -/
theorem placed_cons {depth : Nat} {line : Text} (rest : List Text)
    (closable : countRole .closes [line] ≤ depth) :
    placed depth (line :: rest)
      = indented (depth - countRole .closes [line]) (Statement.ofLine line).emit ::
        placed (depth + countRole .opens [line] - countRole .closes [line]) rest := by
  simp only [placed, List.mapIdx_cons]
  congr 1
  -- Each later line has the first line before it, once opened and once closed.
  refine congrArg (fun place => rest.mapIdx place) (funext fun index => funext fun other => ?_)
  have same : depthAt depth (line :: rest) (index + 1)
      = depthAt (depth + countRole .opens [line] - countRole .closes [line]) rest index := by
    simp only [depthAt, List.take_succ_cons]
    rw [countRole_cons .opens line (rest.take index),
      countRole_cons .closes line (rest.take (index + 1))]
    omega
  rw [same]

namespace Layout

/-- Lays out more lines of a program. -/
def addLines (layout : Layout) (lines : List Text) : Option Layout :=
  (lines.map Statement.ofLine).foldlM add layout

/-- With no more lines, the layout stays as it is. -/
@[simp] theorem addLines_nil (layout : Layout) : layout.addLines [] = some layout := rfl

/-- The first line is laid out before the others, unless that stops everything. -/
@[simp] theorem addLines_cons (layout : Layout) (line : Text) (rest : List Text) :
    layout.addLines (line :: rest)
      = (layout.add (Statement.ofLine line)).bind fun next => next.addLines rest := rfl

/-- Lines can be laid out in two parts. -/
theorem addLines_append (layout : Layout) (front rest : List Text) :
    layout.addLines (front ++ rest)
      = (layout.addLines front).bind fun next => next.addLines rest := by
  -- The statements of the two parts follow each other as the lines do.
  simp only [addLines, List.map_append, List.foldlM_append]
  rfl

/-- A line can be added unless it closes a block and none is open. -/
theorem add_ofLine (layout : Layout) (line : Text) :
    layout.add (Statement.ofLine line)
      = if countRole .closes [line] ≤ layout.depth then
          some ⟨layout.depth + countRole .opens [line] - countRole .closes [line],
            indented (layout.depth - countRole .closes [line]) (Statement.ofLine line).emit ::
              layout.emitted⟩
        else none := by
  obtain ⟨depth, emitted⟩ := layout
  -- The role decides which of the two counts is one, if any of them is.
  cases role : (Statement.ofLine line).role with
  | closes => cases depth <;> simp [add, countRole_singleton, lineRole, role]
  | opens => simp [add, countRole_singleton, lineRole, role]
  | plain => simp [add, countRole_singleton, lineRole, role]
  | unknown => simp [add, countRole_singleton, lineRole, role]

/-- Covered lines are all laid out, each at its depth. -/
theorem addLines_of_covers {depth : Nat} {lines : List Text} (covers : Covers depth lines)
    (emitted : List Text) :
    addLines ⟨depth, emitted⟩ lines
      = some ⟨depth + countRole .opens lines - countRole .closes lines,
          (placed depth lines).reverse ++ emitted⟩ := by
  -- Each line changes the depth for the lines after it, so the depth stays quantified over.
  induction lines generalizing depth emitted with
  | nil => simp [placed]
  | cons line rest ih =>
    obtain ⟨closable, later⟩ := (covers_cons depth line rest).mp covers
    rw [addLines_cons, add_ofLine, if_pos closable, Option.bind_some, ih later,
      placed_cons rest closable, countRole_cons .opens line rest,
      countRole_cons .closes line rest]
    -- The depths at the end differ only in the order of adding up.
    have depths : depth + countRole .opens [line] - countRole .closes [line]
          + countRole .opens rest - countRole .closes rest
        = depth + (countRole .opens [line] + countRole .opens rest)
          - (countRole .closes [line] + countRole .closes rest) := by
      omega
    simp [depths]

/-- Lines that are not covered cannot all be laid out. -/
theorem addLines_of_not_covers {depth : Nat} {lines : List Text} (uncovered : ¬ Covers depth lines)
    (emitted : List Text) : addLines ⟨depth, emitted⟩ lines = none := by
  -- The first line that closes too much stops everything, whatever comes after it.
  induction lines generalizing depth emitted with
  | nil =>
    -- There is no line here that could come too early.
    exact absurd (fun count within => by simp) uncovered
  | cons line rest ih =>
    rw [addLines_cons, add_ofLine]
    -- The first line passes or stops everything, and if it passes the rest is to blame.
    by_cases closable : countRole .closes [line] ≤ depth
    · rw [if_pos closable, Option.bind_some]
      exact ih (fun later => uncovered ((covers_cons depth line rest).mpr ⟨closable, later⟩)) _
    · rw [if_neg closable, Option.bind_none]

end Layout

/-- Lines are laid out when they can all be added and no block is open after them. -/
theorem layOut_map_ofLine (lines : List Text) :
    layOut (lines.map Statement.ofLine)
      = match Layout.start.addLines lines with
        | some ⟨0, emitted⟩ => some emitted.reverse
        | _ => none := rfl

/-- Balanced lines are laid out, each at its depth. -/
theorem layOut_of_balanced {lines : List Text} (balanced : Balanced lines) :
    layOut (lines.map Statement.ofLine) = some (placed 0 lines) := by
  obtain ⟨covers, settled⟩ := (balanced_iff_covers lines).mp balanced
  have laid := Layout.addLines_of_covers covers []
  -- As many blocks are opened as are closed, so none is open at the end.
  rw [settled, Nat.zero_add, Nat.sub_self, List.append_nil] at laid
  simp [layOut_map_ofLine, Layout.start, laid]

/-- Lines that are not balanced cannot be laid out. -/
theorem layOut_of_not_balanced {lines : List Text} (unbalanced : ¬ Balanced lines) :
    layOut (lines.map Statement.ofLine) = none := by
  rw [layOut_map_ofLine, Layout.start]
  by_cases covers : Covers 0 lines
  · -- The lines go through, but some block is still open after them.
    have total := covers.total
    have different : countRole .opens lines ≠ countRole .closes lines :=
      fun settled => unbalanced ((balanced_iff_covers lines).mpr ⟨covers, settled⟩)
    obtain ⟨left, isLeft⟩ :
        ∃ left, 0 + countRole .opens lines - countRole .closes lines = left + 1 :=
      Nat.exists_eq_succ_of_ne_zero (by omega)
    simp only [Layout.addLines_of_covers covers, isLeft]
  · -- Some line closes a block where none is open.
    rw [Layout.addLines_of_not_covers covers]

end Pseudocode
