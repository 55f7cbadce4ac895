import AgentOperator.Text.Case
import Mathlib.Data.List.Count

/-!
# The length of a lower-case form

Every character has a lower-case form of one character except the dotted capital I, whose form has
two: the small i and a combining dot. So the lower-case form of a text is longer than the text by
the number of these capitals in it (`length_lowercase`).
-/

namespace AgentOperator.Text

/-- The character whose lower-case form has two characters. -/
def dottedI : Char := 'İ'

/-- The dotted capital I is the only character in the table of expansions. -/
theorem lookup_lower_expansions (c : Char) :
    lowerExpansions.lookup c.toNat = if c = dottedI then some [0x69, 0x307] else none := by
  by_cases hc : c = dottedI
  · rw [if_pos hc, hc]
    rfl
  · have hne : c.toNat ≠ 0x130 := fun heq => hc (Char.toNat_inj.1 heq)
    rw [if_neg hc, lowerExpansions, List.lookup_cons, beq_eq_false_iff_ne.2 hne]
    rfl

/-- The lower-case form of a character has one character, or two for the dotted capital I. -/
theorem length_lower_char (c : Char) : (lowerChar c).length = if c = dottedI then 2 else 1 := by
  unfold lowerChar
  split
  · next hascii =>
      have hc : c ≠ dottedI := by
        rintro rfl
        exact absurd hascii (by decide)
      rw [if_neg hc, List.length_singleton]
  · rw [mapped, lookup_lower_expansions]
    by_cases hc : c = dottedI
    · simp only [if_pos hc, List.map_cons, List.map_nil, List.length_cons, List.length_nil]
    · simp only [if_neg hc, List.length_singleton]

/-- The lower-case form of a text is longer than the text by the number of dotted capital I in it,
in every context. -/
theorem length_lower_after (before cs : List Char) :
    (lowerAfter before cs).length = cs.length + cs.count dottedI := by
  induction cs generalizing before with
  | nil => rfl
  | cons c cs ih =>
      -- a sigma has one of two forms, and both have one character
      have hfirst : (if c = 'Σ' then [if endsWord before cs then 'ς' else 'σ']
          else lowerChar c).length = 1 + if c == dottedI then 1 else 0 := by
        split
        · next hsigma =>
            subst hsigma
            rfl
        · rw [length_lower_char]
          by_cases hc : c = dottedI
          · simp [hc]
          · simp [hc]
      rw [lowerAfter, List.length_append, ih, hfirst, List.length_cons, List.count_cons]
      omega

/-- The lower-case form of a text is longer than the text by the number of dotted capital I in
it. -/
theorem length_lowercase (s : String) :
    (lowercase s).toList.length = s.toList.length + s.toList.count dottedI := by
  rw [to_list_lowercase, length_lower_after]

end AgentOperator.Text
