import Mathlib.Data.List.Infix
import Pseudocode.Text.Basic

/-!
Filling a template adds only what is put in, and what was put in can be read off the result.

What is put in stands there as it is, whatever it looks like next to the rest of the template.
-/

namespace Pseudocode

variable {pattern replacement other text : Text}

/-- After an exchange, every code point was there before or was put in. -/
theorem mem_replaceAll {c : Char} (member : c ∈ replaceAll pattern replacement text) :
    c ∈ replacement ∨ c ∈ text := by
  -- How much is covered by an occurrence changes along the text, so it stays quantified over.
  have general : ∀ (rest : Text) (covered : Nat),
      c ∈ replaceAll.go pattern replacement covered rest → c ∈ replacement ∨ c ∈ rest := by
    intro rest
    induction rest with
    | nil =>
      intro covered member
      simp [replaceAll.go] at member
    | cons first rest ih =>
      intro covered member
      cases covered with
      | succ covered =>
        rw [replaceAll.go] at member
        exact (ih covered member).imp_right (List.mem_cons_of_mem first)
      | zero =>
        rw [replaceAll.go] at member
        split at member
        · -- An occurrence starts here: the replacement is put in, and the search goes on after it.
          rcases List.mem_append.mp member with putIn | later
          · exact Or.inl putIn
          · exact (ih _ later).imp_right (List.mem_cons_of_mem first)
        · rcases List.mem_cons.mp member with kept | later
          · exact Or.inr (kept ▸ List.mem_cons_self)
          · exact (ih 0 later).imp_right (List.mem_cons_of_mem first)
  exact general text 0 member

/-- With a text put in that is no longer than another, the whole is no longer either. -/
theorem length_replaceAll_go_le (pattern : Text) (shorter : replacement.length ≤ other.length)
    (covered : Nat) (text : Text) :
    (replaceAll.go pattern replacement covered text).length
      ≤ (replaceAll.go pattern other covered text).length := by
  -- Both exchanges find the same occurrences, so they are at the same place all along.
  induction text generalizing covered with
  | nil => exact Nat.le_refl _
  | cons c rest ih =>
    cases covered with
    | succ covered => exact ih covered
    | zero =>
      rw [replaceAll.go, replaceAll.go]
      split
      · -- What is put in here is no longer either, and then the rest is compared.
        have later := ih (pattern.length - 1)
        simp only [List.length_append]
        omega
      · have later := ih 0
        simp only [List.length_cons]
        omega

/-- An exchange that finds an occurrence gives different texts for different replacements. -/
theorem replaceAll_inj (filled : pattern ≠ []) (occurs : pattern <:+: text)
    (same : replaceAll pattern replacement text = replaceAll pattern other text) :
    replacement = other := by
  unfold replaceAll at same
  -- Only the first occurrence is needed, so the induction stops there.
  induction text with
  | nil => exact absurd (List.eq_nil_of_infix_nil occurs) filled
  | cons c rest ih =>
    rw [replaceAll.go, replaceAll.go] at same
    split at same
    · -- What was put in comes first in both results, and its length shows in that of the whole.
      have total := congrArg List.length same
      simp only [List.length_append] at total
      have lengths : replacement.length = other.length := by
        rcases Nat.le_total replacement.length other.length with shorter | longer
        · have later := length_replaceAll_go_le pattern shorter (pattern.length - 1) rest
          omega
        · have later := length_replaceAll_go_le pattern longer (pattern.length - 1) rest
          omega
      exact (List.append_inj same lengths).1
    · -- No occurrence starts here, so there is one in the rest.
      rename_i elsewhere
      have later : pattern <:+: rest := by
        rcases List.infix_cons_iff.mp occurs with here | later
        · simp [filled, here] at elsewhere
        · exact later
      exact ih later (List.cons.inj same).2

/-- What fills a template that has a hole can be read off the filled template. -/
theorem Template.fill_injective {template : Template} (filled : template.hole ≠ [])
    (occurs : template.hole <:+: template.text) : Function.Injective template.fill :=
  -- Filling a template is an exchange for its hole.
  fun _ _ => replaceAll_inj filled occurs

/--
A pattern that stands right after a piece of text does not begin any earlier.

One that began inside the piece would end before the last place of the one that stands there.
-/
def BeginsAfter (pattern piece : Text) : Prop :=
  ¬ pattern <:+: piece ++ pattern.dropLast

/-- Whether a pattern begins after a piece can be found out by looking for it there. -/
instance : DecidableRel BeginsAfter :=
  fun pattern piece => inferInstanceAs (Decidable (¬ pattern <:+: piece ++ pattern.dropLast))

/--
The second text is the first with every occurrence of a pattern exchanged for a replacement.

The occurrences are taken from left to right, each of them in what is left after the one before.
-/
inductive Exchanges (pattern replacement : Text) : Text → Text → Prop
  /-- The pattern does not occur, and everything stays as it is. -/
  | none {text : Text} (absent : ¬ pattern <:+: text) : Exchanges pattern replacement text text
  /-- The first occurrence comes after a piece that stays as it is. -/
  | next {before after result : Text} (begins : BeginsAfter pattern before)
      (later : Exchanges pattern replacement after result) :
      Exchanges pattern replacement (before ++ (pattern ++ after)) (before ++ (replacement ++ result))

/-- A pattern that is not empty begins after a piece that is. -/
theorem beginsAfter_nil (filled : pattern ≠ []) : BeginsAfter pattern [] := by
  intro occurs
  -- The pattern does not fit into itself without its last place.
  have shorter := occurs.length_le
  have positive := List.length_pos_iff.mpr filled
  rw [List.nil_append, List.length_dropLast] at shorter
  omega

/-- A pattern begins after a longer piece when it begins after the piece, and not at its front. -/
theorem beginsAfter_cons_iff {c : Char} {piece after : Text} :
    BeginsAfter pattern (c :: piece) ↔
      BeginsAfter pattern piece ∧ ¬ pattern <+: c :: (piece ++ (pattern ++ after)) := by
  -- An occurrence at the front has the length of the pattern, so it ends before the last place.
  have front : pattern <+: c :: (piece ++ pattern.dropLast) ↔
      pattern <+: c :: (piece ++ (pattern ++ after)) := by
    have starts : c :: (piece ++ pattern.dropLast) <+: c :: (piece ++ (pattern ++ after)) := by
      rw [List.prefix_cons_inj, List.prefix_append_right_inj]
      exact (List.dropLast_prefix pattern).trans (List.prefix_append pattern after)
    refine ⟨fun here => here.trans starts, fun here => ?_⟩
    apply List.prefix_of_prefix_length_le here starts
    simp only [List.length_cons, List.length_append, List.length_dropLast]
    omega
  rw [BeginsAfter, BeginsAfter, List.cons_append, List.infix_cons_iff, front, not_or, and_comm]

/-- A text without the pattern stays as it is. -/
theorem replaceAll_of_absent (absent : ¬ pattern <:+: text) :
    replaceAll pattern replacement text = text := by
  unfold replaceAll
  -- The pattern begins nowhere, so code point after code point is kept.
  induction text with
  | nil => rfl
  | cons c rest ih =>
    rw [List.infix_cons_iff, not_or] at absent
    rw [replaceAll.go, if_neg (by simp [absent.1]), ih absent.2]

/-- The exchange goes on right after the places that an occurrence covers. -/
theorem replaceAll_go_covered (covered rest : Text) :
    replaceAll.go pattern replacement covered.length (covered ++ rest)
      = replaceAll pattern replacement rest := by
  -- One place after the other is passed over, until none is covered any more.
  induction covered with
  | nil => rfl
  | cons c covered ih => exact ih

/-- The replacement is put in for the first occurrence, and the exchange goes on behind it. -/
theorem replaceAll_of_first (filled : pattern ≠ []) {before : Text}
    (begins : BeginsAfter pattern before) (after : Text) :
    replaceAll pattern replacement (before ++ (pattern ++ after))
      = before ++ (replacement ++ replaceAll pattern replacement after) := by
  -- The search passes through the piece in front before it comes to the pattern.
  induction before with
  | nil =>
    -- The pattern begins here, and the places after its first one are covered.
    obtain ⟨c, tail, rfl⟩ := List.exists_cons_of_ne_nil filled
    rw [List.nil_append, List.nil_append, List.cons_append, replaceAll, replaceAll.go,
      if_pos (by simp)]
    exact congrArg (replacement ++ ·) (replaceAll_go_covered tail after)
  | cons c before ih =>
    -- The pattern does not begin here, so the code point is kept.
    obtain ⟨later, notHere⟩ := beginsAfter_cons_iff.mp begins
    rw [List.cons_append, List.cons_append, ← ih later, replaceAll, replaceAll.go,
      if_neg (by simpa using fun _ => notHere), replaceAll]

/-- A pattern that occurs in a text has a first occurrence. -/
theorem exists_first_occurrence (filled : pattern ≠ []) (occurs : pattern <:+: text) :
    ∃ before after, BeginsAfter pattern before ∧ text = before ++ (pattern ++ after) := by
  -- The first occurrence is at the front, or it is the first one of what follows.
  induction text with
  | nil => exact absurd (List.eq_nil_of_infix_nil occurs) filled
  | cons c rest ih =>
    by_cases here : pattern <+: c :: rest
    · obtain ⟨after, made⟩ := here
      exact ⟨[], after, beginsAfter_nil filled, made.symm⟩
    · obtain ⟨before, after, begins, rfl⟩ := ih ((List.infix_cons_iff.mp occurs).resolve_left here)
      exact ⟨c :: before, after, beginsAfter_cons_iff.mpr ⟨begins, here⟩, rfl⟩

/-- The exchange that is computed is one from left to right. -/
theorem exchanges_replaceAll (filled : pattern ≠ []) (text : Text) :
    Exchanges pattern replacement text (replaceAll pattern replacement text) := by
  -- What is left after an occurrence is shorter, since the pattern has at least one place.
  induction length : text.length using Nat.strongRecOn generalizing text with
  | ind size ih =>
    subst length
    by_cases occurs : pattern <:+: text
    · obtain ⟨before, after, begins, rfl⟩ := exists_first_occurrence filled occurs
      have shorter : after.length < (before ++ (pattern ++ after)).length := by
        have positive := List.length_pos_iff.mpr filled
        simp only [List.length_append]
        omega
      rw [replaceAll_of_first filled begins]
      exact .next begins (ih _ shorter after rfl)
    · -- Without an occurrence, nothing is exchanged.
      rw [replaceAll_of_absent occurs]
      exact .none occurs

/-- Texts are exchanged from left to right in the computed way, and in no other. -/
theorem exchanges_iff (filled : pattern ≠ []) {result : Text} :
    Exchanges pattern replacement text result ↔ replaceAll pattern replacement text = result := by
  constructor
  · intro exchanges
    -- Each step of the relation is one that the computation takes.
    induction exchanges with
    | none absent => exact replaceAll_of_absent absent
    | next begins _ ih => rw [replaceAll_of_first filled begins, ih]
  · intro computed
    rw [← computed]
    exact exchanges_replaceAll filled text

/-- The template has one hole only, and the two texts stand before it and after it. -/
def Template.HasHoleBetween (template : Template) (before after : Text) : Prop :=
  template.text = before ++ (template.hole ++ after) ∧ BeginsAfter template.hole before ∧
    ¬ template.hole <:+: after

/-- Whether a template has its only hole there can be found out by comparing texts. -/
instance (template : Template) (before after : Text) :
    Decidable (template.HasHoleBetween before after) :=
  inferInstanceAs (Decidable (_ ∧ BeginsAfter _ _ ∧ ¬ _))

/-- What fills the only hole of a template stands between the texts around the hole. -/
theorem Template.HasHoleBetween.exchanges {template : Template} {before after : Text}
    (between : template.HasHoleBetween before after) (content : Text) :
    Exchanges template.hole content template.text (before ++ content ++ after) := by
  obtain ⟨made, begins, absent⟩ := between
  rw [made, List.append_assoc]
  -- One exchange is made, and there is no hole behind it.
  exact .next begins (.none absent)

end Pseudocode
