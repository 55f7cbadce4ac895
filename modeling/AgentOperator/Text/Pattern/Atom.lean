import AgentOperator.Text.Blank
import AgentOperator.Text.Case
import AgentOperator.Text.Numeral

/-!
# Atoms of patterns

A pattern is a regular expression: it says which texts it matches. Its smallest parts are atoms: a
character, any character, a set of characters with a short name, or a place between characters.
Modes, which may change from part to part, settle how the text of a pattern is read and which atoms
it may have.
-/

namespace AgentOperator.Text.Pattern

/-- How a part of a pattern is read: whether blanks and remarks are passed over, and whether it is
about the characters of all scripts and not about single bytes. -/
structure Modes where
  isSpaced : Bool := false
  isUnicode : Bool := true

/-- A text without the blanks and remarks at its front, from inside a remark or not. A remark goes
from a number sign to the end of the line. -/
def skipRemarks : Bool → List Char → List Char
  | _, [] => []
  | true, c :: cs => skipRemarks (c ≠ '\n') cs
  | false, c :: cs =>
    if c = '#' then skipRemarks true cs
    else if isBlank c then skipRemarks false cs
    else c :: cs

namespace Modes

/-- A text without what is passed over at its front. -/
def skip (modes : Modes) (cs : List Char) : List Char :=
  if modes.isSpaced then skipRemarks false cs else cs

/-- The character that comes next in a text. Of what is passed over, only blanks and the beginning
of a remark are looked through. -/
def peek? (modes : Modes) (cs : List Char) : Option Char :=
  if modes.isSpaced then
    let next :=
      match skipBlanks cs with
      | '#' :: rest => skipBlanks rest
      | rest => rest
    (if next.isEmpty then cs else next).head?
  else cs.head?

/-- The modes with the one of a letter switched on or off, if there is such a mode. Some modes make
no difference for the form of a pattern. -/
def switch? (modes : Modes) (letter : Char) (isOn : Bool) : Option Modes :=
  match letter with
  | 'x' => some { modes with isSpaced := isOn }
  | 'u' => some { modes with isUnicode := isOn }
  | 'i' | 'm' | 's' | 'U' | 'R' => some modes
  | _ => none

end Modes

/-- A smallest part of a pattern: a character, which may be given as a byte; any character; the
digits, blanks or characters of words, or all others; the characters of a category, or all others;
or a place, maybe one that is known by the words around it. -/
inductive Atom where
  | char (c : Char) (isByte : Bool := false)
  | any
  | shorthand (isNegated : Bool)
  | category
  | place (isOfWords : Bool)

/-- Whether an atom may stand in a pattern. Bytes are to make whole characters, so what takes single
ones may take those of ASCII only, and where words of all scripts begin and end is not known. -/
def Atom.isAllowed (modes : Modes) : Atom → Bool
  | char c isByte => modes.isUnicode || !isByte || isAscii c
  | any | category => modes.isUnicode
  | shorthand isNegated => modes.isUnicode || !isNegated
  | place isOfWords => !(isOfWords && modes.isUnicode)

/-- The number of digits of a character's code behind a letter. -/
def codeLength? : Char → Option Nat
  | 'x' => some 2
  | 'u' => some 4
  | 'U' => some 8
  | _ => none

/-- Reads a row of hexadecimal digits, among which something may be passed over. -/
def readHex (modes : Modes) : Nat → Nat → List Char → Option (Nat × List Char)
  | 0, high, cs => some (high, cs)
  | _ + 1, _, [] => none
  | count + 1, high, c :: cs =>
    (Numeral.hexValue? c).bind fun digit => readHex modes count (16 * high + digit) (modes.skip cs)

/-- Reads the code of a character. -/
def readCode (modes : Modes) (count : Nat) (cs : List Char) : Option (Atom × List Char) :=
  match readHex modes count 0 (modes.skip cs) with
  | some (code, rest) =>
    if code.isValidChar then some (.char (Char.ofNat code) (count = 2), rest) else none
  | none => none

/-- Reads the letter of a category: controls, letters, marks, numbers, punctuation, symbols or
separators. -/
def readCategory (modes : Modes) (cs : List Char) : Option (Atom × List Char) :=
  match modes.skip cs with
  | c :: rest =>
    if ['c', 'l', 'm', 'n', 'p', 's', 'z'].contains c.toLower then
      some (.category, modes.skip rest)
    else none
  | [] => none

/-- The atom that a backslash and a character stand for. A mark of ASCII stands for itself. -/
def escaped? (c : Char) : Option Atom :=
  match c with
  | 'd' | 's' | 'w' => some (.shorthand false)
  | 'D' | 'S' | 'W' => some (.shorthand true)
  | 'A' | 'z' => some (.place false)
  | 'b' | 'B' | '<' | '>' => some (.place true)
  | 'a' => some (.char '\x07')
  | 'f' => some (.char '\x0c')
  | 't' => some (.char '\t')
  | 'n' => some (.char '\n')
  | 'r' => some (.char '\r')
  | 'v' => some (.char '\x0b')
  | c => if isAscii c && !c.isAlphanum then some (.char c) else none

/-- Reads what follows a backslash. -/
def readEscape (modes : Modes) : List Char → Option (Atom × List Char)
  | [] => none
  | c :: rest =>
    match codeLength? c with
    | some count => readCode modes count rest
    | none =>
      if c.toLower = 'p' then readCategory modes rest
      else (escaped? c).map fun atom => (atom, rest)

end AgentOperator.Text.Pattern
