import AgentOperator.Json.Basic

/-!
# Writing JSON

The compact text of a document: no blanks between tokens, and in a string only the quote, the
backslash and the control characters are escaped.
-/

namespace AgentOperator.Json

/-- A lower-case hexadecimal digit. -/
def hexDigit (n : Nat) : Char :=
  if n < 10 then Char.ofNat ('0'.toNat + n) else Char.ofNat ('a'.toNat + (n - 10))

/-- The form that a character has in a string. -/
def escape (c : Char) : List Char :=
  if c = '"' then ['\\', '"']
  else if c = '\\' then ['\\', '\\']
  else if c = '\x08' then ['\\', 'b']
  else if c = '\x0c' then ['\\', 'f']
  else if c = '\n' then ['\\', 'n']
  else if c = '\r' then ['\\', 'r']
  else if c = '\t' then ['\\', 't']
  else if c.toNat < 0x20 then
    ['\\', 'u', '0', '0', hexDigit (c.toNat / 16), hexDigit (c.toNat % 16)]
  else [c]

/-- A text as a string of a document. -/
def writeString (s : String) : List Char := ['"'] ++ s.toList.flatMap escape ++ ['"']

mutual

/-- The characters of a document. -/
def writeValue : Json → List Char
  | .null => ['n', 'u', 'l', 'l']
  | .bool true => ['t', 'r', 'u', 'e']
  | .bool false => ['f', 'a', 'l', 's', 'e']
  | .int value => (toString value).toList
  | .float value => value.text.toList
  | .str value => writeString value
  | .arr items => ['['] ++ writeItems items ++ [']']
  | .obj entries => ['{'] ++ writeEntries entries ++ ['}']

/-- The characters of the items of an array, with commas between them. -/
def writeItems : List Json → List Char
  | [] => []
  | [item] => writeValue item
  | item :: rest => writeValue item ++ [','] ++ writeItems rest

/-- The characters of the entries of an object, with commas between them. -/
def writeEntries : List (String × Json) → List Char
  | [] => []
  | [(key, value)] => writeString key ++ [':'] ++ writeValue value
  | (key, value) :: rest =>
    writeString key ++ [':'] ++ writeValue value ++ [','] ++ writeEntries rest

end

/-- The compact text of a document. -/
def write (j : Json) : String := String.ofList j.writeValue

end AgentOperator.Json
