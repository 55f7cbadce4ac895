/-!
# Numerals

Unsigned decimal numerals as settings give them: an optional plus sign and then one or more ASCII
digits, leading zeros allowed. Nothing else is accepted: no minus sign, blank, separator or digit
of another script. Beside them the numerals of real numbers are told from other texts.
-/

namespace AgentOperator.Numeral

/-- Whether a character is an ASCII digit. -/
def isDigit (c : Char) : Bool := '0' ≤ c && c ≤ '9'

/-- The value of an ASCII digit. -/
def digitValue (c : Char) : Nat := c.toNat - '0'.toNat

/-- The number that a row of digits stands for, after the digits of `high` were read. -/
def value (high : Nat) (digits : List Char) : Nat :=
  digits.foldl (fun n c => 10 * n + digitValue c) high

/-- Reads a row of one or more digits. -/
def readDigits? (digits : List Char) : Option Nat :=
  if digits.isEmpty || !digits.all isDigit then none else some (value 0 digits)

/-- Reads an unsigned numeral with an optional plus sign. -/
def read? (s : String) : Option Nat :=
  match s.toList with
  | '+' :: digits => readDigits? digits
  | digits => readDigits? digits

/-- Reads an unsigned numeral whose value is below `bound`. -/
def readBelow? (bound : Nat) (s : String) : Option Nat :=
  (read? s).filter (· < bound)

/-- The value of a hexadecimal digit. -/
def hexValue? (c : Char) : Option Nat :=
  if isDigit c then some (digitValue c)
  else if 'a' ≤ c && c ≤ 'f' then some (c.toNat - 'a'.toNat + 10)
  else if 'A' ≤ c && c ≤ 'F' then some (c.toNat - 'A'.toNat + 10)
  else none

/-- A text without the sign at its front. -/
def withoutSign : List Char → List Char
  | '+' :: cs | '-' :: cs => cs
  | cs => cs

/-- Whether a text is nothing or the power of ten by which a numeral is multiplied. -/
def isScale (cs : List Char) : Bool :=
  match cs with
  | [] => true
  | c :: exponent => c.toLower = 'e' && (readDigits? (withoutSign exponent)).isSome

/-- Whether a text is the numeral of a real number: digits with at most one point among or beside
them, maybe a sign before and a power of ten behind them, or a word for what is no finite number. -/
def isReal (cs : List Char) : Bool :=
  let unsigned := withoutSign cs
  let whole := unsigned.takeWhile isDigit
  let behind := unsigned.dropWhile isDigit
  let (places, rest) :=
    match behind with
    | '.' :: cs => (cs.takeWhile isDigit, cs.dropWhile isDigit)
    | cs => ([], cs)
  (!(whole ++ places).isEmpty && isScale rest)
    || ["inf", "infinity", "nan"].contains (String.ofList (unsigned.map Char.toLower))

end AgentOperator.Numeral
