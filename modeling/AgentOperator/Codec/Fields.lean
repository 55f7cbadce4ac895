import AgentOperator.Codec.Basic

/-!
# Codecs of records

A record type is written as an object with a key for each of its fields. `Fields` collects the
fields of a type one by one, in the order of the constructor, each with a `FieldRule` that says how
the field is written, how it is read, and what stands for it where it is absent.

Two families of records differ in their rules. The resource and what belongs to it take an absent
field as its default and null only where the type has a place for it, and may also be given as an
array of their fields in order. The Kubernetes types take null for absent throughout and are given
as objects only. Of several faults in an object the first one in order of the keys is reported, and
a missing field only where all that are there are right. In a text the first fault in order of the
text counts, and the text of a record may give each field once only.
-/

namespace AgentOperator

open Json (Draft)

variable {α β σ : Type}

/-- How one field of a record is written, read, and looked for in a text. `write` gives nothing for
a field that is left out. `absent` is the value where an object does not have the key, and
`absentInRow` the one where an array of fields ends before the field. -/
structure FieldRule (α : Type) where
  write : α → Option Json
  read : Json → Except DecodeError α
  inspect : Draft → Option TextFault
  absent : Option α
  absentInRow : Option α

namespace FieldRule

/-- A field that may be unset, written only if it is set; null is unset too. -/
def optional (codec : Codec α) : FieldRule (Option α) where
  write value := value.map codec.encode
  read
    | .null => .ok none
    | j => (codec.decode j).map some
  inspect
    | .null => none
    | draft => codec.inspect draft
  absent := some none
  absentInRow := some none

/-- A field that may be unset and is then written as null. -/
def nullable (codec : Codec α) : FieldRule (Option α) where
  write value := some ((value.map codec.encode).getD .null)
  read := (optional codec).read
  inspect := (optional codec).inspect
  absent := some none
  absentInRow := some none

/-- A field that may be unset, written only if it is set, and needs a place in an array. -/
def optionalInObject (codec : Codec α) : FieldRule (Option α) :=
  { optional codec with absentInRow := none }

/-- A field that is always written; absent and null are read as its empty value. -/
def required (codec : Codec α) (empty : α) : FieldRule α where
  write value := some (codec.encode value)
  read
    | .null => .ok empty
    | j => codec.decode j
  inspect
    | .null => none
    | draft => codec.inspect draft
  absent := some empty
  absentInRow := some empty

/-- A field that is always written and has a default where it is absent, but not where it is
null. -/
def defaulted (codec : Codec α) (default : α) : FieldRule α where
  write value := some (codec.encode value)
  read := codec.decode
  inspect := codec.inspect
  absent := some default
  absentInRow := some default

/-- A field that is always written and must be there. -/
def mandatory (codec : Codec α) : FieldRule α where
  write value := some (codec.encode value)
  read := codec.decode
  inspect := codec.inspect
  absent := none
  absentInRow := none

end FieldRule

/-- A fault in one field of an object: what stands under its key cannot be read, or the key is
missing and the field has no default. -/
inductive FieldFault where
  | wrong (key : String) (cause : DecodeError)
  | missing (key : String)

namespace FieldFault

/-- The unreadable fields among some faults. -/
def wrongFields (faults : List FieldFault) : List (String × DecodeError) :=
  faults.filterMap fun
    | .wrong key cause => some (key, cause)
    | .missing _ => none

/-- The first of some unreadable fields in order of the keys. -/
def leastKey (field : String × DecodeError) : List (String × DecodeError) → String × DecodeError
  | [] => field
  | other :: rest => leastKey (if other.1 < field.1 then other else field) rest

/-- The fault that is reported of the faults of an object: the first unreadable field in order of
the keys, and a missing field only if all that are there can be read. -/
def reported (faults : List FieldFault) : DecodeError :=
  match wrongFields faults, faults with
  | field :: rest, _ => (leastKey field rest).2
  | [], .missing key :: _ => .missingField key
  | [], _ => .missingField ""

end FieldFault

/-- What one field asks of the text of a record; it may be mandatory in an object, and in an array
of fields. -/
structure FieldCheck where
  key : String
  inspect : Draft → Option TextFault
  isMandatory : Bool := false
  isMandatoryInRow : Bool := false

namespace FieldCheck

/-- What is wrong with the first faulty entry of an object. Entries with other keys are passed over.
An entry with a key of `seen` is a fault unless a field may be given again. -/
def entriesFault? (checks : List FieldCheck) (mayRepeat : Bool) (seen : List String) :
    List (Except Json.ReadError String × Draft) → Option TextFault
  | [] => none
  | (.error cause, _) :: _ => some (.unreadable cause)
  | (.ok key, value) :: entries =>
    match checks.find? fun check => check.key = key with
    | none =>
      value.skipFault?.map .unreadable <|> entriesFault? checks mayRepeat seen entries
    | some check =>
      if !mayRepeat && seen.contains key then some (.undecodable (.duplicateField key))
      else check.inspect value <|> entriesFault? checks mayRepeat (key :: seen) entries

/-- Whether an object has a key. -/
def hasKey (key : String) (entries : List (Except Json.ReadError String × Draft)) : Bool :=
  entries.any fun entry => entry.1.toOption = some key

/-- What is wrong with an object for not having a key. -/
def missingFault? (checks : List FieldCheck)
    (entries : List (Except Json.ReadError String × Draft)) : Option TextFault :=
  (checks.find? fun check => check.isMandatory && !hasKey check.key entries).map fun check =>
    .undecodable (.missingField check.key)

/-- What is wrong with the text of an object. -/
def objectFault? (checks : List FieldCheck) (mayRepeat : Bool)
    (entries : List (Except Json.ReadError String × Draft)) (ending : Json.ObjectEnding) :
    Option TextFault :=
  entriesFault? checks mayRepeat [] entries <|>
    (ending.flaw?.map fun flaw => .unreadable flaw.read) <|> missingFault? checks entries

/-- What is wrong with the end of an array of fields, once all fields were there. -/
def rowEndFault? : Json.ListEnding → Option TextFault
  | .closed | .unread => none
  | .ended => some (.unreadable .endInList)
  | .trailingComma => some (.unreadable .trailingComma)
  | .misplaced => some (.unreadable .trailingCharacters)

/-- What is wrong with the text of an array of fields, of which `taken` were there before; the
number of a field goes into the fault of an array that ends before it. -/
def rowFault? (tooShort : Nat → DecodeError) (taken : Nat) (ending : Json.ListEnding) :
    List FieldCheck → List Draft → Option TextFault
  | [], [] => rowEndFault? ending
  | [], _ :: _ => some (.unreadable .trailingCharacters)
  | check :: checks, item :: items =>
    check.inspect item <|> rowFault? tooShort (taken + 1) ending checks items
  | check :: checks, [] =>
    (ending.flaw?.map fun flaw => .unreadable flaw.read) <|>
      if check.isMandatoryInRow then some (.undecodable (tooShort taken))
      else rowFault? tooShort (taken + 1) ending checks []

end FieldCheck

/-- The fields of a record type `σ` that make up a part `α` of it. `decode` reads them from what
stands under each key; `decodeRow` reads them from the front of an array and gives back the rest,
where the number of a field goes into the fault of an array that ends before it. -/
structure Fields (σ α : Type) where
  encode : σ → List (String × Json)
  decode : (String → Option Json) → Except (List FieldFault) α
  decodeRow : (Nat → DecodeError) → List Json → Except DecodeError (α × List Json)
  checks : List FieldCheck

namespace Fields

/-- The fields of a record before its first one: the constructor is still to be applied. -/
def build (σ : Type) (make : α) : Fields σ α where
  encode _ := []
  decode _ := .ok make
  decodeRow _ row := .ok (make, row)
  checks := []

/-- The number of fields. -/
def size (fields : Fields σ α) : Nat := fields.checks.length

/-- Reads one field from an object. -/
def readField (key : String) (rule : FieldRule α) (lookup : String → Option Json) :
    Except (List FieldFault) α :=
  match lookup key with
  | some j => (rule.read j).mapError fun cause => [.wrong key cause]
  | none =>
    match rule.absent with
    | some value => .ok value
    | none => .error [.missing key]

/-- Two readings side by side; the faults of both are kept. -/
def both (f : Except (List FieldFault) (α → β)) (x : Except (List FieldFault) α) :
    Except (List FieldFault) β :=
  match f, x with
  | .ok f, .ok x => .ok (f x)
  | .ok _, .error faults => .error faults
  | .error faults, .ok _ => .error faults
  | .error faults, .error more => .error (faults ++ more)

/-- Adds a field to the fields of a record. -/
def field (fields : Fields σ (α → β)) (key : String) (get : σ → α) (rule : FieldRule α) :
    Fields σ β where
  encode value :=
    fields.encode value ++ (((rule.write (get value)).map fun j => (key, j)).toList)
  decode lookup := both (fields.decode lookup) (readField key rule lookup)
  decodeRow tooShort row := do
    let (f, row) ← fields.decodeRow tooShort row
    match row with
    | j :: row => (rule.read j).map fun value => (f value, row)
    | [] =>
      match rule.absentInRow with
      | some value => .ok (f value, [])
      | none => .error (tooShort fields.size)
  checks := fields.checks ++
    [{ key := key, inspect := rule.inspect, isMandatory := rule.absent.isNone
       isMandatoryInRow := rule.absentInRow.isNone }]

/-- Reads the fields of a record from the entries of an object. -/
def decodeEntries (fields : Fields σ α) (entries : List (String × Json)) :
    Except DecodeError α :=
  (fields.decode fun key => entries.lookup key).mapError FieldFault.reported

end Fields

namespace Codec

/-- The codec of a Kubernetes type, which is given as an object only. -/
def kubernetes (name : String) (fields : Fields α α) : Codec α where
  encode value := .ofEntries (fields.encode value)
  decode
    | .obj entries => fields.decodeEntries entries
    | j => refuse name j
  inspect
    | .obj entries ending => FieldCheck.objectFault? fields.checks true entries ending
    | draft => inspectMisfit name draft

/-- Refuses a text other than the expected one. -/
def decodeName (expected : String) : Json → Except DecodeError Unit
  | .str value =>
    if value = expected then .ok () else .error (.wrongValue (.str value) expected)
  | j => refuse "a string" j

/-- Refuses a document in which a key that names the type stands for something else. -/
def checkName (key expected : String) (entries : List (String × Json)) :
    Except DecodeError Unit :=
  match entries.lookup key with
  | none => .ok ()
  | some j => decodeName expected j

/-- What a key that names the type asks of a text. -/
def nameCheck (key expected : String) : FieldCheck :=
  { key := key, inspect := inspectFound (decodeName expected) }

/-- The codec of a Kubernetes kind, whose documents name their version and kind. Where a document
names them, they have to be those of the kind. -/
def kind (apiVersion kind : String) (fields : Fields α α) : Codec α where
  encode value :=
    .ofEntries ([("apiVersion", .str apiVersion), ("kind", .str kind)] ++ fields.encode value)
  decode
    | .obj entries => do
      checkName "apiVersion" apiVersion entries
      checkName "kind" kind entries
      fields.decodeEntries entries
    | j => refuse kind j
  inspect
    | .obj entries ending =>
      let checks := nameCheck "apiVersion" apiVersion :: nameCheck "kind" kind :: fields.checks
      FieldCheck.objectFault? checks true entries ending
    | draft => inspectMisfit kind draft

/-- The fault of an array of fields that ends before a field. -/
def tooShort (name : String) (fields : Fields α α) (field : Nat) : DecodeError :=
  .tooFewItems field ("struct " ++ name ++ " with " ++ toString fields.size ++ " elements")

/-- The codec of a record that may also be given as an array of its fields. -/
def record (name : String) (fields : Fields α α) : Codec α where
  encode value := .ofEntries (fields.encode value)
  decode
    | .obj entries => fields.decodeEntries entries
    | .arr row => do
      let (value, rest) ← fields.decodeRow (tooShort name fields) row
      if rest.isEmpty then .ok value
      else .error (.tooManyItems row.length)
    | j => refuse ("struct " ++ name) j
  inspect
    | .obj entries ending => FieldCheck.objectFault? fields.checks false entries ending
    | .arr items ending =>
      FieldCheck.rowFault? (tooShort name fields) 0 ending fields.checks items
    | draft => inspectMisfit ("struct " ++ name) draft

end Codec

end AgentOperator
