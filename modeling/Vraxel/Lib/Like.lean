import Mathlib.Data.List.Infix
/-
  SQL's `LIKE`: in a pattern `%` stands for any text, `_` for any character, and a backslash makes
  the character after it stand for itself.
-/

namespace Relational

/-- `text LIKE pattern`. A backslash at the end of a pattern, which a database refuses, matches
nothing here. -/
def like : List Char → List Char → Bool
  | [], text => text.isEmpty
  | '%' :: pattern, text => text.tails.any (like pattern)
  | '_' :: pattern, text => match text with
    | [] => false
    | _ :: text => like pattern text
  | '\\' :: pattern, text => match pattern, text with
    | c :: pattern, d :: text => c = d && like pattern text
    | _, _ => false
  | c :: pattern, text => match text with
    | [] => false
    | d :: text => c = d && like pattern text

/-- How a pattern spells one character of a text. -/
def literal (c : Char) : List Char := if c ∈ ['\\', '%', '_'] then ['\\', c] else [c]

theorem like_literal (c : Char) (pattern text : List Char) :
    like (literal c ++ pattern) text = true ↔ ∃ text', text = c :: text' ∧ like pattern text' = true := by
  by_cases hc : c ∈ ['\\', '%', '_']
  · simp only [literal, hc, if_true, List.cons_append, List.nil_append]
    cases text with
    | nil => simp [like]
    | cons d text => simp [like, eq_comm (a := d)]
  · simp only [List.mem_cons, List.not_mem_nil, or_false, not_or] at hc
    obtain ⟨hb, hp, hu⟩ := hc
    cases text with
    | nil => simp [literal, like, hb, hp, hu]
    | cons d text => simp [literal, like, hb, hp, hu, eq_comm (a := d)]

theorem like_literals_any (s text : List Char) : like (s.flatMap literal ++ ['%']) text = true ↔ s <+: text := by
  induction s generalizing text with
  | nil => simp [like]
  | cons c s ih =>
    rw [List.flatMap_cons, List.append_assoc, like_literal, List.cons_prefix_iff]
    simp only [ih]

theorem like_any_literals_any (s text : List Char) :
    like ('%' :: (s.flatMap literal ++ ['%'])) text = true ↔ s <:+: text := by
  rw [like, List.any_eq_true, List.infix_iff_prefix_suffix]
  simp only [like_literals_any, List.mem_tails]
  exact exists_congr fun t => and_comm

end Relational
