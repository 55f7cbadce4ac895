import AgentOperator.Codec.Error
import AgentOperator.Dict
import AgentOperator.Json.Reader

/-!
# Codecs

A codec says how the values of a type are written as documents and which documents are read as
values of it. It also says what is wrong with a text from which a value is wanted: there the first
fault in the order of the text counts, whether it is one of the text or one of the document. This
module holds the codecs of plain values, lists and string maps; record types are put together from
their fields in `AgentOperator.Codec.Fields`. Reading what was written gives the value back for
every codec of the project.
-/

namespace AgentOperator

open Json (Draft)

/-- What is wrong with a text for one who decodes what is found at its front, and does not look into
an array or an object. -/
def inspectFound {α : Type} (decode : Json → Except DecodeError α) (draft : Draft) :
    Option TextFault :=
  match draft.found with
  | .error cause => some (.unreadable cause)
  | .ok j =>
    match decode j with
    | .error cause => some (.undecodable cause)
    | .ok _ => none

/-- How values of a type are written as documents and read from them, and what is wrong with a text
from which a value is wanted. -/
structure Codec (α : Type) where
  encode : α → Json
  decode : Json → Except DecodeError α
  inspect : Draft → Option TextFault := inspectFound decode

namespace Codec

variable {α β : Type}

/-- The value that a text holds. What is wrong with the value comes before what follows it. -/
def decodeText (codec : Codec α) (s : String) : Except TextFault α :=
  let (draft, after) := Draft.ofText s
  match codec.inspect draft <|> after.map .unreadable with
  | some fault => .error fault
  | none => (codec.decode draft.document).mapError .undecodable

/-- The refusal of a document of another type than expected. -/
def refuse (expected : String) (j : Json) : Except DecodeError α :=
  .error (.wrongType (.ofJson j) expected)

/-- What is wrong with a text that holds something of another type than expected. -/
def inspectMisfit (expected : String) : Draft → Option TextFault :=
  inspectFound fun j => (refuse expected j : Except DecodeError Unit)

/-- Texts. -/
def text : Codec String where
  encode := .str
  decode
    | .str value => .ok value
    | j => refuse "a string" j

/-- Truth values. -/
def boolean : Codec Bool where
  encode := .bool
  decode
    | .bool value => .ok value
    | j => refuse "a boolean" j

/-- Whole numbers of a fixed range, read by `narrow`. -/
def integer (expected : String) (widen : α → Int) (narrow : Int → Option α) : Codec α where
  encode value := .int (widen value)
  decode
    | .int value =>
      match narrow value with
      | some narrowed => .ok narrowed
      | none => .error (.wrongValue (.int value) expected)
    | j => refuse expected j

/-- A whole number as a signed 32-bit number, if it is in range. -/
def int32OfInt? (value : Int) : Option Int32 :=
  if Int32.minValue.toInt ≤ value && value ≤ Int32.maxValue.toInt then some (Int32.ofInt value)
  else none

/-- Signed 32-bit numbers. -/
def int32 : Codec Int32 :=
  integer "i32" Int32.toInt int32OfInt?

/-- Signed 64-bit numbers. -/
def int64 : Codec Int64 :=
  integer "i64" Int64.toInt fun value =>
    if Int64.minValue.toInt ≤ value && value ≤ Int64.maxValue.toInt then
      some (Int64.ofInt value)
    else none

/-- Unsigned 16-bit numbers. -/
def uint16 : Codec UInt16 :=
  integer "u16" (fun value => value.toNat) fun value =>
    if 0 ≤ value && value.toNat < UInt16.size then some (UInt16.ofNat value.toNat) else none

/-- Unsigned 32-bit numbers. -/
def uint32 : Codec UInt32 :=
  integer "u32" (fun value => value.toNat) fun value =>
    if 0 ≤ value && value.toNat < UInt32.size then some (UInt32.ofNat value.toNat) else none

/-- Unsigned 64-bit numbers. -/
def uint64 : Codec UInt64 :=
  integer "u64" (fun value => value.toNat) fun value =>
    if 0 ≤ value && value.toNat < UInt64.size then some (UInt64.ofNat value.toNat) else none

/-- Lists, the first faulty item deciding the fault. -/
def list (item : Codec α) : Codec (List α) where
  encode values := .arr (values.map item.encode)
  decode
    | .arr items => items.mapM item.decode
    | j => refuse "a sequence" j
  inspect
    | .arr items ending =>
      items.findSome? item.inspect <|> ending.flaw?.map fun flaw => .unreadable flaw.read
    | draft => inspectMisfit "a sequence" draft

/-- What is wrong with an entry of a string map. -/
def inspectEntry (value : Codec α) (entry : Except Json.ReadError String × Draft) :
    Option TextFault :=
  match entry.1 with
  | .error cause => some (.unreadable cause)
  | .ok _ => value.inspect entry.2

/-- String maps, the first faulty entry deciding the fault. -/
def dict (value : Codec α) : Codec (Dict α) where
  encode d := .obj (d.entries.map fun entry => (entry.1, value.encode entry.2))
  decode
    | .obj entries =>
      (entries.mapM fun entry => (value.decode entry.2).map fun v => (entry.1, v)).map Dict.ofList
    | j => refuse "a map" j
  inspect
    | .obj entries ending =>
      entries.findSome? (inspectEntry value) <|>
        ending.flaw?.map fun flaw => .unreadable flaw.read
    | draft => inspectMisfit "a map" draft

end Codec

end AgentOperator
