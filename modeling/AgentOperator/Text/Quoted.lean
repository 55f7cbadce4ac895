import AgentOperator.Text.DisplayTables
import AgentOperator.Text.Case

/-!
# Quoted text

Text between double quotes, as messages show names and texts that came from elsewhere. A quote and
a backslash carry a backslash, the common controls have short escapes, and every other character
that has no glyph of its own, or is a mark that belongs to the one before it, is written as its code
point in hexadecimal.
-/

namespace AgentOperator.Text

/-- Whether a quoted text shows a character as it is. -/
def isShown (c : Char) : Bool :=
  !inRanges attachedMarkRanges c && !inRanges unprintableRanges c

/-- The lower-case hexadecimal digits of a number, without leading zeros. -/
def hexDigits (n : Nat) : List Char := Nat.toDigits 16 n

/-- The form that a character has between double quotes. -/
def quoteChar (c : Char) : List Char :=
  if c = '"' then ['\\', '"']
  else if c = '\\' then ['\\', '\\']
  else if c = '\x00' then ['\\', '0']
  else if c = '\t' then ['\\', 't']
  else if c = '\n' then ['\\', 'n']
  else if c = '\r' then ['\\', 'r']
  else if isShown c then [c]
  else ['\\', 'u', '{'] ++ hexDigits c.toNat ++ ['}']

/-- A text between double quotes, with what a reader could not see or tell apart escaped. -/
def quote (s : String) : String :=
  String.ofList (['"'] ++ s.toList.flatMap quoteChar ++ ['"'])

end AgentOperator.Text
