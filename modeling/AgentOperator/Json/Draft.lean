import AgentOperator.Json.Token

/-!
# Drafts

What a text holds where a document is due. A draft keeps the entries of objects as they stand in the
text, repeated keys included, and where the text is no document it keeps everything up to the fault.
So a draft can be walked in the order of the text, and the first fault in that order depends on
what is wanted from each place: `found` is what a reader of a value learns there, and `skipFault?`
is what is wrong for a reader who only passes over the place.
-/

namespace AgentOperator.Json

/-- A fault in a text, as it is for one who wants the value and for one who passes over it. -/
structure Flaw where
  read : ReadError
  skipped : ReadError
deriving DecidableEq, Repr

namespace Flaw

/-- A fault that is the same for both. -/
def of (fault : ReadError) : Flaw := ⟨fault, fault⟩

end Flaw

/-- How an array ends: with its bracket, with the text, with its bracket behind a comma, or at
something else than a comma or the bracket. The ending is `unread` if the last item has a fault
itself. -/
inductive ListEnding where
  | closed
  | ended
  | trailingComma
  | misplaced
  | unread
deriving DecidableEq, Repr

namespace ListEnding

/-- The fault of an ending, if there is one. -/
def flaw? : ListEnding → Option Flaw
  | closed | unread => none
  | ended => some (.of .endInList)
  | trailingComma => some ⟨.trailingComma, .valueExpected⟩
  | misplaced => some (.of .listCommaOrEndExpected)

end ListEnding

/-- How an object ends: with its brace, with the text, with the text or its brace behind a comma, at
something else than a comma or the brace, at something that is no string where a key is due, or in a
key. The ending is `unread` if the value of the last entry has a fault itself. -/
inductive ObjectEnding where
  | closed
  | ended
  | endedAfterComma
  | trailingComma
  | misplaced
  | noKey
  | inKey (flaw : Flaw)
  | unread

namespace ObjectEnding

/-- The fault of an ending, if there is one. -/
def flaw? : ObjectEnding → Option Flaw
  | closed | unread => none
  | ended => some (.of .endInObject)
  | endedAfterComma => some ⟨.endInValue, .endInObject⟩
  | trailingComma => some ⟨.trailingComma, .keyNotString⟩
  | misplaced => some (.of .objectCommaOrEndExpected)
  | noKey => some (.of .keyNotString)
  | inKey flaw => some flaw

end ObjectEnding

/-- What a text holds where a document is due. A numeral may be none of a number, a string none of a
text. There is `nothing` where the text ends, and what has no colon before it is `unreached`; a
string that breaks off is `brokenString`, and whatever else is no value is `broken`. -/
inductive Draft where
  | null
  | bool (value : Bool)
  | number (value : Except ReadError Json)
  | str (value : Except ReadError String)
  | arr (items : List Draft) (ending : ListEnding)
  | obj (entries : List (Except ReadError String × Draft)) (ending : ObjectEnding)
  | nothing
  | unreached (fault : ReadError)
  | brokenString (flaw : Flaw)
  | broken (flaw : Flaw)
deriving Inhabited

namespace Draft

/-- Whether the text goes on behind a draft. -/
def isWhole : Draft → Bool
  | null | bool _ | number _ | str _ | arr _ .closed | obj _ .closed => true
  | arr _ _ | obj _ _ | nothing | unreached _ | brokenString _ | broken _ => false

/-- What a reader of a value learns at a place before it looks into an array or an object, which
stand for themselves without what is in them. -/
def found : Draft → Except ReadError Json
  | null => .ok .null
  | bool value => .ok (.bool value)
  | number value => value
  | str value => value.map .str
  | arr _ _ => .ok (.arr [])
  | obj _ _ => .ok .emptyObject
  | nothing => .error .endInValue
  | unreached fault => .error fault
  | brokenString flaw | broken flaw => .error flaw.read

mutual

/-- What is wrong with a draft for one who passes over it: only the form of its tokens and their
order count. -/
def skipFault? : Draft → Option ReadError
  | null | bool _ | number _ | str _ => none
  | arr items ending => skipItemsFault? items <|> ending.flaw?.map Flaw.skipped
  | obj entries ending => skipEntriesFault? entries <|> ending.flaw?.map Flaw.skipped
  | nothing => some .endInValue
  | unreached fault => some fault
  | brokenString flaw | broken flaw => some flaw.skipped

/-- What is wrong with the first faulty one of some items that are passed over. -/
def skipItemsFault? : List Draft → Option ReadError
  | [] => none
  | item :: items => skipFault? item <|> skipItemsFault? items

/-- What is wrong with the first faulty one of some entries that are passed over. -/
def skipEntriesFault? : List (Except ReadError String × Draft) → Option ReadError
  | [] => none
  | (_, value) :: entries => skipFault? value <|> skipEntriesFault? entries

end

mutual

/-- The document that a draft stands for if its faults are passed over: the last of several values
of a key stays. -/
def document : Draft → Json
  | null => .null
  | bool value => .bool value
  | number value => value.toOption.getD .null
  | str value => (value.toOption.map Json.str).getD .null
  | arr items _ => .arr (documents items)
  | obj entries _ => .ofEntries (documentEntries entries)
  | nothing | unreached _ | brokenString _ | broken _ => .null

/-- The documents that some drafts stand for. -/
def documents : List Draft → List Json
  | [] => []
  | item :: items => document item :: documents items

/-- The entries that some entries of drafts stand for. -/
def documentEntries : List (Except ReadError String × Draft) → List (String × Json)
  | [] => []
  | (.ok key, value) :: entries => (key, document value) :: documentEntries entries
  | (.error _, _) :: entries => documentEntries entries

end

mutual

/-- What is wrong with a draft for one who wants all of it, where it may be nested `depth` deep. -/
def fault? (depth : Nat) : Draft → Option ReadError
  | null | bool _ => none
  | number (.ok _) | str (.ok _) => none
  | number (.error fault) | str (.error fault) => some fault
  | arr items ending =>
    match depth with
    | 0 => some .tooDeep
    | depth + 1 => itemsFault? depth items <|> ending.flaw?.map Flaw.read
  | obj entries ending =>
    match depth with
    | 0 => some .tooDeep
    | depth + 1 => entriesFault? depth entries <|> ending.flaw?.map Flaw.read
  | nothing => some .endInValue
  | unreached fault => some fault
  | brokenString flaw | broken flaw => some flaw.read

/-- What is wrong with the first faulty one of some items. -/
def itemsFault? (depth : Nat) : List Draft → Option ReadError
  | [] => none
  | item :: items => fault? depth item <|> itemsFault? depth items

/-- What is wrong with the first faulty one of some entries. -/
def entriesFault? (depth : Nat) : List (Except ReadError String × Draft) → Option ReadError
  | [] => none
  | (.error fault, _) :: _ => some fault
  | (.ok _, value) :: entries => fault? depth value <|> entriesFault? depth entries

end

/-- A literal whose first character was read. -/
def ofIdent (literal : Draft) (ident cs : List Char) : Draft × List Char :=
  match readIdent ident cs with
  | .ok rest => (literal, rest)
  | .error fault => (.broken (.of fault), [])

/-- A numeral whose sign was read. -/
def ofNumber (negative : Bool) (cs : List Char) : Draft × List Char :=
  match Number.read negative cs with
  | .ok (numeral, rest) => (.number numeral.value, rest)
  | .error fault => (.broken ⟨fault, .invalidNumber⟩, [])

/-- The fault in a string that breaks off. -/
def stringFlaw (token : StringToken) : Flaw :=
  let fault := token.ending.fault?.getD .endInString
  ⟨token.fault?.getD fault, fault⟩

/-- A string whose opening quote was read. -/
def ofString (cs : List Char) : Draft × List Char :=
  let (token, rest) := StringToken.read [] cs
  if token.ending = .closed then (.str token.value, rest)
  else (.brokenString (stringFlaw token), [])

mutual

/-- The draft at the front of a text, and the text behind it; `fuel` bounds the tokens still to
come. -/
def ofChars (fuel : Nat) (cs : List Char) : Draft × List Char :=
  match fuel with
  | 0 => (.nothing, [])
  | fuel + 1 =>
    match skipBlanks cs with
    | [] => (.nothing, [])
    | 'n' :: cs => ofIdent .null ['u', 'l', 'l'] cs
    | 't' :: cs => ofIdent (.bool true) ['r', 'u', 'e'] cs
    | 'f' :: cs => ofIdent (.bool false) ['a', 'l', 's', 'e'] cs
    | '"' :: cs => ofString cs
    | '[' :: cs =>
      let (items, ending, rest) := readItems fuel true [] cs
      (.arr items ending, rest)
    | '{' :: cs =>
      let (entries, ending, rest) := readEntries fuel true [] cs
      (.obj entries ending, rest)
    | '-' :: cs => ofNumber true cs
    | c :: cs =>
      if Numeral.isDigit c then ofNumber false (c :: cs)
      else (.broken (.of .valueExpected), [])

/-- The items of an array up to its end; `done` holds those read so far, the last one first. -/
def readItems (fuel : Nat) (isFirst : Bool) (done : List Draft) (cs : List Char) :
    List Draft × ListEnding × List Char :=
  match fuel with
  | 0 => (done.reverse, .ended, [])
  | fuel + 1 =>
    let next (cs : List Char) : List Draft × ListEnding × List Char :=
      let (item, rest) := ofChars fuel cs
      if item.isWhole then readItems fuel false (item :: done) rest
      else ((item :: done).reverse, .unread, [])
    match skipBlanks cs with
    | [] => (done.reverse, .ended, [])
    | ']' :: cs => (done.reverse, .closed, cs)
    | c :: cs =>
      if isFirst then next (c :: cs)
      else if c = ',' then
        match skipBlanks cs with
        | ']' :: _ => (done.reverse, .trailingComma, [])
        | cs => next cs
      else (done.reverse, .misplaced, [])

/-- The entries of an object up to its end; `done` holds those read so far, the last one first. -/
def readEntries (fuel : Nat) (isFirst : Bool) (done : List (Except ReadError String × Draft))
    (cs : List Char) : List (Except ReadError String × Draft) × ObjectEnding × List Char :=
  match fuel with
  | 0 => (done.reverse, .ended, [])
  | fuel + 1 =>
    let stop (ending : ObjectEnding) :
        List (Except ReadError String × Draft) × ObjectEnding × List Char :=
      (done.reverse, ending, [])
    let next (cs : List Char) :
        List (Except ReadError String × Draft) × ObjectEnding × List Char :=
      match cs with
      | '"' :: cs =>
        let (token, rest) := StringToken.read [] cs
        if token.ending ≠ .closed then stop (.inKey (stringFlaw token))
        else
          let (value, rest) : Draft × List Char :=
            match skipBlanks rest with
            | [] => (.unreached .endInObject, [])
            | ':' :: cs => ofChars fuel cs
            | _ => (.unreached .colonExpected, [])
          if value.isWhole then readEntries fuel false ((token.value, value) :: done) rest
          else (((token.value, value) :: done).reverse, .unread, [])
      | _ => stop .noKey
    match skipBlanks cs with
    | [] => stop .ended
    | '}' :: cs => (done.reverse, .closed, cs)
    | c :: cs =>
      if isFirst then next (c :: cs)
      else if c = ',' then
        match skipBlanks cs with
        | [] => stop .endedAfterComma
        | '}' :: _ => stop .trailingComma
        | cs => next cs
      else stop .misplaced

end

/-- The draft at the front of a text, and what is wrong with the text behind it. -/
def ofText (s : String) : Draft × Option ReadError :=
  let cs := s.toList
  let (draft, rest) := ofChars (2 * cs.length + 2) cs
  (draft, if (skipBlanks rest).isEmpty then none else some .trailingCharacters)

end Draft

end AgentOperator.Json
