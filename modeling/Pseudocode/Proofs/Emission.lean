import Pseudocode.Proofs.Parsing

/-! What is emitted for a line is a fixed text around the rest of the line, which is copied as it is. -/

namespace Pseudocode

namespace Statement

/-- What is emitted for a keyword and its rest is the template with the rest for every hole. -/
theorem emit_parse_eq_iff {keyword : Keyword} (followed : keyword.standsAlone = false)
    (rest emitted : Text) :
    (parse (keyword.spelling ++ rest)).emit = emitted ↔
      Exchanges Keyword.restHole rest keyword.template.text emitted := by
  have written : Keyword.restHole ≠ [] := by decide
  -- The template is filled by an exchange, and every exchange is the computed one.
  rw [exchanges_iff written, parse_eq_keyed_iff.mpr ⟨Keyword.fits_append followed rest, rfl⟩]
  rfl

/-- The rest stands between the texts around the hole, if the template has only one. -/
theorem emit_parse_of_hole (keyword : Keyword) (before after : Text)
    (followed : keyword.standsAlone = false)
    (between : keyword.template.HasHoleBetween before after) (rest : Text) :
    (parse (keyword.spelling ++ rest)).emit = before ++ rest ++ after :=
  -- With only one hole, there is only one exchange to make.
  (emit_parse_eq_iff followed rest _).mpr (between.exchanges rest)

/--
The rest of a line is copied into the template of its keyword, and is not searched for holes.

Holes are found in the template from left to right, whatever the rest looks like in their places.
-/
theorem emit_parse_verbatim (rest : Text) :
    (∀ (keyword : Keyword) (emitted : Text), keyword.standsAlone = false →
      ((parse (keyword.spelling ++ rest)).emit = emitted ↔
        Exchanges Keyword.restHole rest keyword.template.text emitted)) ∧
    (parse ("FUNC ".toList ++ rest)).emit = "def ".toList ++ rest ++ ":".toList ∧
    (parse ("RETURN".toList ++ rest)).emit = "return".toList ++ rest ∧
    (parse ("IF ".toList ++ rest)).emit = "if (".toList ++ rest ++ "):".toList ∧
    (parse ("WHILE ".toList ++ rest)).emit = "while (".toList ++ rest ++ "):".toList ∧
    (parse ("SET ".toList ++ rest)).emit = rest ∧
    (parse ("PRINT ".toList ++ rest)).emit = "print(".toList ++ rest ++ ", end=\"\")".toList ∧
    (parse ("GETSTRING ".toList ++ rest)).emit = rest ++ " = input()".toList ∧
    (parse ("CASTASNUM ".toList ++ rest)).emit
      = rest ++ " = float(".toList ++ rest ++ ")".toList ∧
    (parse ("#".toList ++ rest)).emit = "#".toList ++ rest := by
  refine ⟨fun keyword emitted followed => emit_parse_eq_iff followed rest emitted,
    ?_, ?_, ?_, ?_, ?_, ?_, ?_, ?_, ?_⟩
  · exact emit_parse_of_hole .func "def ".toList ":".toList rfl (by decide) rest
  · -- Nothing stands after the hole, so nothing follows the rest.
    have ends := emit_parse_of_hole .giveBack "return".toList [] rfl (by decide) rest
    exact ends.trans (List.append_nil _)
  · exact emit_parse_of_hole .branch "if (".toList "):".toList rfl (by decide) rest
  · exact emit_parse_of_hole .loop "while (".toList "):".toList rfl (by decide) rest
  · -- The hole is the whole template, so the rest is all that is emitted.
    have alone := emit_parse_of_hole .assign [] [] rfl (by decide) rest
    exact alone.trans (List.append_nil _)
  · exact emit_parse_of_hole .print "print(".toList ", end=\"\")".toList rfl (by decide) rest
  · exact emit_parse_of_hole .readText [] " = input()".toList rfl (by decide) rest
  · -- The second hole is looked for in the template behind the first, not behind what is put in.
    have made : Keyword.toNumber.template.text = [] ++ (Keyword.restHole ++
        (" = float(".toList ++ (Keyword.restHole ++ ")".toList))) := rfl
    have twoHoles : Exchanges Keyword.restHole rest Keyword.toNumber.template.text
        ([] ++ (rest ++ (" = float(".toList ++ (rest ++ ")".toList)))) := by
      rw [made]
      exact .next (by decide) (.next (by decide) (.none (by decide)))
    rw [List.append_assoc, List.append_assoc]
    exact (emit_parse_eq_iff rfl rest _).mpr twoHoles
  · have ends := emit_parse_of_hole .comment "#".toList [] rfl (by decide) rest
    exact ends.trans (List.append_nil _)

/-- A rest that begins like a hole, and has a hole in it, is left as it is in both places. -/
theorem emit_parse_verbatim_holes_in_rest :
    (parse "CASTASNUM \x7bre\x7brest\x7d".toList).emit
        = "\x7bre\x7brest\x7d = float(\x7bre\x7brest\x7d)".toList ∧
      Exchanges Keyword.restHole "\x7bre\x7brest\x7d".toList Keyword.toNumber.template.text
        "\x7bre\x7brest\x7d = float(\x7bre\x7brest\x7d)".toList := by
  have verbatim := emit_parse_verbatim "\x7bre\x7brest\x7d".toList
  -- The keyword with two holes is the last but one in the list.
  obtain ⟨-, -, -, -, -, -, -, emitted, -⟩ := verbatim.2
  exact ⟨emitted, (verbatim.1 .toNumber _ rfl).mp emitted⟩

end Statement

end Pseudocode
