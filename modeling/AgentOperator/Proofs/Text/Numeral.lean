import AgentOperator.Text.Numeral
import Mathlib.Data.Nat.Digits.Defs
import Mathlib.Tactic.IntervalCases

/-!
# Numerals and numbers

The denotation of numerals. `Denotes` is defined by the decimal digits of the number, and reading a
text gives the number that it denotes (`read?_eq_some_iff`). A text that denotes no number, or one
that is too great, is not read (`read_below?_eq_some_iff`).
-/

namespace AgentOperator.Numeral

/-- Some characters are the digits of a number, from the highest to the lowest, with zeros in
front. -/
def AreDigitsOf (cs : List Char) (n : Nat) : Prop :=
  ∃ digits : List Nat, digits ≠ [] ∧ (∀ digit ∈ digits, digit < 10) ∧
    cs = digits.map Nat.digitChar ∧ n = Nat.ofDigits 10 digits.reverse

/-- A text is a numeral of a number: its digits, and perhaps a plus sign in front. -/
def Denotes (text : String) (n : Nat) : Prop :=
  AreDigitsOf text.toList n ∨ ∃ cs, text.toList = '+' :: cs ∧ AreDigitsOf cs n

/-- The digit of a number below ten has the value of that number. -/
theorem digit_value_digit_char {digit : Nat} (h : digit < 10) :
    digitValue (Nat.digitChar digit) = digit := by
  interval_cases digit <;> rfl

/-- The digits are those of the numbers below ten. -/
theorem is_digit_iff {c : Char} : isDigit c = true ↔ ∃ digit < 10, Nat.digitChar digit = c := by
  constructor
  · intro hc
    have hrange : 48 ≤ c.toNat ∧ c.toNat ≤ 57 := by
      rw [isDigit, Bool.and_eq_true, decide_eq_true_eq, decide_eq_true_eq] at hc
      exact hc
    refine ⟨c.toNat - 48, by omega, Char.toNat_inj.1 ?_⟩
    rw [Nat.toNat_digitChar_of_lt_ten (by omega)]
    omega
  · rintro ⟨digit, hdigit, rfl⟩
    interval_cases digit <;> rfl

/-- Digits are the characters of numbers below ten. -/
theorem all_is_digit_iff {cs : List Char} :
    cs.all isDigit = true ↔
      ∃ digits : List Nat, (∀ digit ∈ digits, digit < 10) ∧ cs = digits.map Nat.digitChar := by
  rw [List.all_eq_true]
  constructor
  · intro h
    induction cs with
    | nil => exact ⟨[], List.forall_mem_nil _, rfl⟩
    | cons c cs ih =>
        rw [List.forall_mem_cons] at h
        obtain ⟨digit, hdigit, rfl⟩ := is_digit_iff.1 h.1
        obtain ⟨digits, hdigits, rfl⟩ := ih h.2
        exact ⟨digit :: digits, List.forall_mem_cons.2 ⟨hdigit, hdigits⟩, rfl⟩
  · rintro ⟨digits, hdigits, rfl⟩
    exact List.forall_mem_map.2 fun digit hdigit =>
      is_digit_iff.2 ⟨digit, hdigits digit hdigit, rfl⟩

/-- The value of digits behind those of a number: that number is shifted by their count and
added. -/
theorem value_map_digit_char (high : Nat) {digits : List Nat}
    (hdigits : ∀ digit ∈ digits, digit < 10) :
    value high (digits.map Nat.digitChar) =
      high * 10 ^ digits.length + Nat.ofDigits 10 digits.reverse := by
  induction digits generalizing high with
  | nil => simp [value]
  | cons digit digits ih =>
      rw [List.forall_mem_cons] at hdigits
      calc value high ((digit :: digits).map Nat.digitChar)
          = value (10 * high + digit) (digits.map Nat.digitChar) := by
            rw [List.map_cons, value, List.foldl_cons, digit_value_digit_char hdigits.1]
            rfl
        _ = (10 * high + digit) * 10 ^ digits.length + Nat.ofDigits 10 digits.reverse :=
            ih _ hdigits.2
        _ = high * 10 ^ (digit :: digits).length + Nat.ofDigits 10 (digit :: digits).reverse := by
            rw [List.reverse_cons, Nat.ofDigits_append, Nat.ofDigits_singleton,
              List.length_reverse, List.length_cons, pow_succ]
            ring

/-- Digits are read as the number that they are the digits of. -/
theorem read_digits?_eq_some_iff {cs : List Char} {n : Nat} :
    readDigits? cs = some n ↔ AreDigitsOf cs n := by
  unfold readDigits? AreDigitsOf
  constructor
  · intro h
    split at h
    · cases h
    · next hdigits =>
        rw [Bool.or_eq_true, not_or, List.isEmpty_iff, Bool.not_eq_true', Bool.not_eq_false,
          all_is_digit_iff] at hdigits
        obtain ⟨hne, digits, hsmall, rfl⟩ := hdigits
        refine ⟨digits, fun hnil => hne (by rw [hnil]; rfl), hsmall, rfl, ?_⟩
        rw [← Option.some.inj h, value_map_digit_char 0 hsmall, Nat.zero_mul, Nat.zero_add]
  · rintro ⟨digits, hne, hsmall, rfl, rfl⟩
    have hall : (digits.map Nat.digitChar).all isDigit = true :=
      all_is_digit_iff.2 ⟨digits, hsmall, rfl⟩
    rw [if_neg (by simp [hne, hall]), value_map_digit_char 0 hsmall, Nat.zero_mul, Nat.zero_add]

/-- A plus sign is no digit. -/
theorem not_are_digits_of_plus_cons (cs : List Char) (n : Nat) : ¬ AreDigitsOf ('+' :: cs) n := by
  rw [← read_digits?_eq_some_iff]
  nofun

/-- A text is read as the number that it denotes. -/
theorem read?_eq_some_iff {text : String} {n : Nat} : read? text = some n ↔ Denotes text n := by
  unfold read? Denotes
  split
  · next digits htext =>
      rw [htext, read_digits?_eq_some_iff, or_iff_right (not_are_digits_of_plus_cons digits n)]
      constructor
      · exact fun h => ⟨digits, rfl, h⟩
      · rintro ⟨cs, hcs, h⟩
        exact (List.cons.inj hcs).2 ▸ h
  · next hunsigned =>
      rw [read_digits?_eq_some_iff, or_iff_left]
      rintro ⟨cs, hcs, -⟩
      exact hunsigned cs hcs

/-- A numeral denotes one number only. -/
theorem Denotes.eq {text : String} {m n : Nat} (h : Denotes text m) (h' : Denotes text n) :
    m = n := by
  rw [← read?_eq_some_iff] at h h'
  exact Option.some.inj (h.symm.trans h')

/-- A text is read below a bound as the number that it denotes, if that is below the bound. -/
theorem read_below?_eq_some_iff {bound : Nat} {text : String} {n : Nat} :
    readBelow? bound text = some n ↔ Denotes text n ∧ n < bound := by
  rw [readBelow?, Option.filter_eq_some_iff, read?_eq_some_iff, decide_eq_true_eq]

instance (text : String) (n : Nat) : Decidable (Denotes text n) :=
  decidable_of_iff _ read?_eq_some_iff

/-- Zeros and one plus sign may stand before a number, and nothing else. -/
example : Denotes "+007" 7 ∧ ¬ Denotes "++7" 7 ∧ ¬ Denotes " 7" 7 ∧ ¬ Denotes "-0" 0 := by decide

end AgentOperator.Numeral
