import AgentOperator.Json.Basic
import AgentOperator.Json.ReadError
import AgentOperator.Numeric.Significand

/-!
# Tokens

The numerals and strings of JSON texts. A token is found first and its value is worked out
afterwards, because a text that is only passed over has to have tokens of the right form, whatever
their values are: a numeral may be too large for a number, and a string may hold half of a surrogate
pair.
-/

namespace AgentOperator.Json

/-- Whether a character may stand between two tokens. -/
def isBlank (c : Char) : Bool := c = ' ' || c = '\n' || c = '\t' || c = '\r'

/-- Passes over blanks. -/
def skipBlanks (cs : List Char) : List Char := cs.dropWhile isBlank

/-- Reads the rest of a literal whose first character was read, and gives back the text behind
it. -/
def readIdent : List Char → List Char → Except ReadError (List Char)
  | [], cs => .ok cs
  | _ :: _, [] => .error .endInValue
  | expected :: ident, c :: cs => if c = expected then readIdent ident cs else .error .identExpected

/-- A numeral: its sign, the digits before the point, those behind it if there is one, and the
exponent if there is one. -/
structure Number where
  negative : Bool
  whole : List Char
  places : Option (List Char)
  exponent : Option Int

namespace Number

/-- Reads one or more digits. -/
def readDigits (cs : List Char) : Except ReadError (List Char × List Char) :=
  match cs.takeWhile Numeral.isDigit, cs.dropWhile Numeral.isDigit with
  | [], [] => .error .endInValue
  | [], _ :: _ => .error .invalidNumber
  | digits, rest => .ok (digits, rest)

/-- Reads the digits of a whole part, which has a leading zero only if it is zero. -/
def readWhole (cs : List Char) : Except ReadError (List Char × List Char) := do
  let (digits, rest) ← readDigits cs
  match digits with
  | '0' :: _ :: _ => .error .invalidNumber
  | _ => .ok (digits, rest)

/-- Reads the digits behind the point of a numeral that has one. -/
def readPlaces : List Char → Except ReadError (Option (List Char) × List Char)
  | '.' :: cs => (readDigits cs).map fun (digits, rest) => (some digits, rest)
  | cs => .ok (none, cs)

/-- Reads the digits of an exponent and puts its sign before them. -/
def readSignedExponent (negative : Bool) (cs : List Char) :
    Except ReadError (Option Int × List Char) :=
  (readDigits cs).map fun (digits, rest) =>
    let size : Int := Numeral.value 0 digits
    (some (if negative then -size else size), rest)

/-- Reads the exponent of a numeral that has one. -/
def readExponent : List Char → Except ReadError (Option Int × List Char)
  | [] => .ok (none, [])
  | c :: cs =>
    if c = 'e' || c = 'E' then
      match cs with
      | '+' :: cs => readSignedExponent false cs
      | '-' :: cs => readSignedExponent true cs
      | cs => readSignedExponent false cs
    else .ok (none, c :: cs)

/-- Reads a numeral whose sign was read, and gives back the text behind it. -/
def read (negative : Bool) (cs : List Char) : Except ReadError (Number × List Char) := do
  let (whole, cs) ← readWhole cs
  let (places, cs) ← readPlaces cs
  let (exponent, cs) ← readExponent cs
  return (⟨negative, whole, places, exponent⟩, cs)

/-- The number as a double. -/
def asFloat (number : Number) : Except ReadError Json :=
  let significand :=
    Significand.ofDigits number.whole (number.places.getD []) (number.exponent.getD 0)
  match significand.toBinary64? with
  | some x => .ok (.float { x with negative := number.negative })
  | none => .error .numberOutOfRange

/-- The number of a numeral: a whole number if the numeral has neither point nor exponent and fits
a signed or an unsigned 64-bit word, and else a double. Zero has a sign only as a double. -/
def value (number : Number) : Except ReadError Json :=
  let size := Numeral.value 0 number.whole
  if number.places.isSome || number.exponent.isSome then number.asFloat
  else if number.negative then
    if size = 0 || -(size : Int) < Int64.minValue.toInt then number.asFloat
    else .ok (.int (-(size : Int)))
  else if size < UInt64.size then .ok (.int size)
  else number.asFloat

end Number

/-- A part of a string: a character, written as it is or with a backslash, or a code unit in
hexadecimal. -/
inductive StringPart where
  | char (c : Char)
  | codeUnit (value : Nat)
deriving DecidableEq, Repr

/-- How a string ends: with a quote, with the text, at a control character, at a backslash before a
character that is not escaped with one, or at a code unit whose digits are not hexadecimal. -/
inductive StringEnding where
  | closed
  | ended
  | control
  | unknownEscape
  | badCodeUnit
deriving DecidableEq, Repr

namespace StringEnding

/-- What is wrong with the end of a string. -/
def fault? : StringEnding → Option ReadError
  | closed => none
  | ended => some .endInString
  | control => some .controlInString
  | unknownEscape | badCodeUnit => some .invalidEscape

/-- What is wrong with a string that ends behind the first half of a surrogate pair. -/
def faultInPair : StringEnding → ReadError
  | ended => .endInString
  | badCodeUnit => .invalidEscape
  | closed | control | unknownEscape => .endOfHexEscape

end StringEnding

/-- A string: its parts and how it ends. -/
structure StringToken where
  parts : List StringPart
  ending : StringEnding
deriving DecidableEq, Repr

/-- The value of four hexadecimal digits. -/
def codeUnit? (a b c d : Char) : Option Nat := do
  let high := (← Numeral.hexValue? a) * 16 + (← Numeral.hexValue? b)
  let low := (← Numeral.hexValue? c) * 16 + (← Numeral.hexValue? d)
  return high * 256 + low

/-- The character that a backslash and a letter stand for. -/
def escaped? : Char → Option Char
  | '"' => some '"'
  | '\\' => some '\\'
  | '/' => some '/'
  | 'b' => some '\x08'
  | 'f' => some '\x0c'
  | 'n' => some '\n'
  | 'r' => some '\r'
  | 't' => some '\t'
  | _ => none

namespace StringToken

/-- Reads a string whose opening quote was read, and gives back the text behind it; `done` holds the
parts read so far, the last one first. The digits of a code unit are the next four bytes of the
text, so a text that is shorter than that ends within the string. -/
def read (done : List StringPart) : List Char → StringToken × List Char
  | [] => (⟨done.reverse, .ended⟩, [])
  | ['\\'] => (⟨done.reverse, .ended⟩, [])
  | '\\' :: 'u' :: a :: b :: c :: d :: cs =>
    match codeUnit? a b c d with
    | some value => read (.codeUnit value :: done) cs
    | none => (⟨done.reverse, .badCodeUnit⟩, [])
  | '\\' :: 'u' :: cs =>
    (⟨done.reverse, if (String.ofList cs).utf8ByteSize < 4 then .ended else .badCodeUnit⟩, [])
  | '\\' :: c :: cs =>
    match escaped? c with
    | some c => read (.char c :: done) cs
    | none => (⟨done.reverse, .unknownEscape⟩, [])
  | c :: cs =>
    if c = '"' then (⟨done.reverse, .closed⟩, cs)
    else if c.toNat < 0x20 then (⟨done.reverse, .control⟩, [])
    else read (.char c :: done) cs

/-- Whether a code unit is the first half of a surrogate pair. -/
def isHigh (value : Nat) : Bool := 0xD800 ≤ value && value ≤ 0xDBFF

/-- Whether a code unit is the second half of a surrogate pair. -/
def isLow (value : Nat) : Bool := 0xDC00 ≤ value && value ≤ 0xDFFF

/-- The character of a surrogate pair. -/
def ofPair (high low : Nat) : Char :=
  Char.ofNat (0x10000 + (high - 0xD800) * 0x400 + (low - 0xDC00))

/-- What is wrong with the first faulty part of a string, or with its end. -/
def partsFault? (ending : StringEnding) : List StringPart → Option ReadError
  | [] => ending.fault?
  | .char _ :: parts => partsFault? ending parts
  | .codeUnit value :: parts =>
    if isLow value then some .loneSurrogate
    else if isHigh value then
      match parts with
      | [] => some ending.faultInPair
      | .char _ :: _ => some .endOfHexEscape
      | .codeUnit low :: parts =>
        if isLow low then partsFault? ending parts else some .loneSurrogate
    else partsFault? ending parts

/-- What is wrong with a string. -/
def fault? (token : StringToken) : Option ReadError := partsFault? token.ending token.parts

/-- The characters that the parts of a string stand for, behind those in `done`, whose last one is
first. -/
def chars (done : List Char) : List StringPart → List Char
  | [] => done.reverse
  | .char c :: parts => chars (c :: done) parts
  | .codeUnit high :: .codeUnit low :: parts =>
    if isHigh high then chars (ofPair high low :: done) parts
    else chars (Char.ofNat high :: done) (.codeUnit low :: parts)
  | .codeUnit value :: parts => chars (Char.ofNat value :: done) parts

/-- The text of a string. -/
def value (token : StringToken) : Except ReadError String :=
  match token.fault? with
  | some fault => .error fault
  | none => .ok (String.ofList (chars [] token.parts))

end StringToken

end AgentOperator.Json
