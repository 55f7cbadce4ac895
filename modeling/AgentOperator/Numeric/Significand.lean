import AgentOperator.Numeric.Binary64
import AgentOperator.Text.Numeral

/-!
# Significands

What a reader keeps of a numeral: as many of its digits as fit a 64-bit word, and the power of ten
that the word is scaled by. `Significand.toBinary64?` rounds the word to a double and scales it by a
rounded power of ten, so the double is close to the numeral but not always the nearest one.
-/

namespace AgentOperator

/-- The number `word · 10 ^ exponent`, the word being below `2 ^ 64`. -/
structure Significand where
  word : Nat
  exponent : Int
deriving DecidableEq, Repr

namespace Significand

/-- Appends digits to a word for as long as it stays one, and gives back the word and how many
digits are left over. -/
def append (word : Nat) : List Char → Nat × Nat
  | [] => (word, 0)
  | digit :: digits =>
    let longer := 10 * word + Numeral.digitValue digit
    if longer < UInt64.size then append longer digits else (word, digits.length + 1)

/-- What is kept of a numeral with some digits before and behind its point. The digits that are left
over count as places before the point, and for nothing behind it. -/
def ofDigits (whole places : List Char) (exponent : Int) : Significand :=
  let (high, unread) := append 0 whole
  let (word, dropped) := append high places
  ⟨word, exponent + unread - (places.length - dropped : Nat)⟩

/-- The largest power of ten that a double is scaled by at once. -/
def maxPower : Nat := 308

/-- The double nearest to a power of ten. -/
def powerOfTen (n : Nat) : Binary64 :=
  (Binary64.ofFraction? false (Nat.pow 10 n) 1).getD ⟨false, 0, Binary64.minExponent⟩

/-- Scales a double by a power of ten, down in several steps if one is too small for it. There is
nothing if the result is too large for a double. -/
def scale? (x : Binary64) (exponent : Int) : Option Binary64 :=
  if exponent < -(maxPower : Int) then
    if x.mantissa = 0 then some x
    else (x.div? (powerOfTen maxPower)).bind fun smaller => scale? smaller (exponent + maxPower)
  else if exponent < 0 then x.div? (powerOfTen exponent.natAbs)
  else if exponent ≤ maxPower then x.mul? (powerOfTen exponent.natAbs)
  else if x.mantissa = 0 then some x
  else none
termination_by exponent.natAbs
decreasing_by simp only [maxPower] at *; omega

/-- The double that a numeral is read as, or nothing if it is too large for one. -/
def toBinary64? (s : Significand) : Option Binary64 :=
  (Binary64.ofFraction? false s.word 1).bind fun x => scale? x s.exponent

end Significand

end AgentOperator
