import AgentOperator.Codec.Basic

/-!
# Codecs of choices

A choice between some named values is written as the name. It is read from the name, or from an
object with the name as its only key and null under it.
-/

namespace AgentOperator

open Json (Draft)

/-- A choice between values that have names. -/
structure Choice (α : Type) where
  options : List α
  name : α → String

namespace Choice

variable {α : Type}

/-- The value of a name. -/
def ofName (choice : Choice α) (name : String) : Except DecodeError α :=
  match choice.options.find? fun option => choice.name option = name with
  | some option => .ok option
  | none => .error (.unknownVariant name (choice.options.map choice.name))

/-- The value of a document. -/
def decode (choice : Choice α) : Json → Except DecodeError α
  | .str name => choice.ofName name
  | .obj [(name, content)] => do
    let option ← choice.ofName name
    match content with
    | .null => .ok option
    | j => Codec.refuse "unit" j
  | .obj _ => .error .notSingleKey
  | j => .error (.notVariant (.ofJson j))

/-- What is wrong with a name. -/
def nameFault? (choice : Choice α) (name : String) : Option TextFault :=
  match choice.ofName name with
  | .ok _ => none
  | .error cause => some (.undecodable cause)

/-- What is wrong with what stands under a name: it has to be null. -/
def contentFault? (content : Draft) : Option TextFault :=
  inspectFound (fun
    | .null => .ok ()
    | j => Codec.refuse "unit" j) content

/-- What is wrong with the end of an object in which no name was found. -/
def unnamedFault : Json.ObjectEnding → Json.ReadError
  | .ended => .endInObject
  | .noKey => .keyNotString
  | .inKey flaw => flaw.read
  | _ => .valueExpected

/-- What is wrong with the end of an object behind a name and what stands under it. -/
def endFault? : Json.ObjectEnding → Option TextFault
  | .closed | .unread => none
  | .ended => some (.unreadable .endInObject)
  | _ => some (.unreadable .valueExpected)

/-- What is wrong with a text in which a choice is wanted. -/
def inspect (choice : Choice α) : Draft → Option TextFault
  | .str (.ok name) => choice.nameFault? name
  | .str (.error cause) => some (.unreadable cause)
  | .brokenString flaw => some (.unreadable flaw.read)
  | .nothing => some (.unreadable .endInValue)
  | .unreached fault => some (.unreadable fault)
  | .obj [] ending => some (.unreadable (unnamedFault ending))
  | .obj ((.error cause, _) :: _) _ => some (.unreadable cause)
  | .obj ((.ok name, content) :: rest) ending =>
    choice.nameFault? name <|> contentFault? content <|>
      if rest.isEmpty then endFault? ending else some (.unreadable .valueExpected)
  | _ => some (.unreadable .valueExpected)

/-- The codec of a choice. -/
def codec (choice : Choice α) : Codec α where
  encode option := .str (choice.name option)
  decode := choice.decode
  inspect := choice.inspect

end Choice

end AgentOperator
