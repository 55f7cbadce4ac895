import AgentOperator.Json.Basic

/-!
# Schemas

What a resource definition says about the documents of a resource: for each place the type of what
may stand there, and beside it a description, a default, and whether null may stand there too. A
schema is a document itself, built from the schemas of its parts.
-/

namespace AgentOperator.Schema

/-- A schema that names a type only. -/
def ofType (type : String) : Json := .ofEntries [("type", .str type)]

/-- Texts. -/
def text : Json := ofType "string"

/-- Truth values. -/
def boolean : Json := ofType "boolean"

/-- Whole numbers of a width that the format names. -/
def integer (format : String) : Json := (ofType "integer").set "format" (.str format)

/-- Signed 32-bit numbers. -/
def int32 : Json := integer "int32"

/-- Signed 64-bit numbers. -/
def int64 : Json := integer "int64"

/-- Points in time. -/
def time : Json := text.set "format" (.str "date-time")

/-- Numbers or texts, such as port numbers or port names. -/
def intOrString : Json := .ofEntries [("x-kubernetes-int-or-string", .bool true)]

/-- Objects of any properties. -/
def anyObject : Json := ofType "object"

/-- One of some words. -/
def words (options : List String) : Json := text.set "enum" (.arr (options.map .str))

/-- Lists of items of one schema. -/
def list (item : Json) : Json := (ofType "array").set "items" item

/-- String maps with values of one schema. -/
def dict (value : Json) : Json := (ofType "object").set "additionalProperties" value

/-- Objects with some properties, of which those in `required` must be there. -/
def object (properties : List (String × Json)) (required : List String) : Json :=
  let schema := (ofType "object").set "properties" (.ofEntries properties)
  if required.isEmpty then schema else schema.set "required" (.arr (required.map .str))

/-- A schema with a description. -/
def described (description : String) (schema : Json) : Json :=
  schema.set "description" (.str description)

/-- A property with a description. -/
def field (name description : String) (schema : Json) : String × Json :=
  (name, described description schema)

/-- The address of a page of the web. -/
def address (scheme page : String) : String := scheme ++ "://" ++ page

/-- The address of a page that is sent encrypted. -/
def page (name : String) : String := address "https" name

/-- A description that ends with where to read more. -/
def moreInfo (description name : String) : String := description ++ " More info: " ++ page name

/-- Amounts of a resource. -/
def quantity : Json :=
  described
    ("Quantity is a fixed-point representation of a number. It provides convenient " ++
      "marshaling/unmarshaling in JSON and YAML, in addition to String() and AsInt64() " ++
      "accessors.\n\nThe serialization format is:\n\n``` <quantity>        ::= " ++
      "<signedNumber><suffix>\n\n\t(Note that <suffix> may be empty, from the \"\" case in " ++
      "<decimalSI>.)\n\n<digit>           ::= 0 | 1 | ... | 9 <digits>          ::= <digit> " ++
      "| <digit><digits> <number>          ::= <digits> | <digits>.<digits> | <digits>. | " ++
      ".<digits> <sign>            ::= \"+\" | \"-\" <signedNumber>    ::= <number> | " ++
      "<sign><number> <suffix>          ::= <binarySI> | <decimalExponent> | <decimalSI> " ++
      "<binarySI>        ::= Ki | Mi | Gi | Ti | Pi | Ei\n\n\t(International System of " ++
      "units; See: " ++
      address "http" "physics.nist.gov/cuu/Units/binary.html" ++
      ")\n\n<decimalSI>       ::= m | \"\" | k | M | G | T | P | E\n\n\t(Note that 1024 = " ++
      "1Ki but 1000 = 1k; I didn't choose the capitalization.)\n\n<decimalExponent> ::= " ++
      "\"e\" <signedNumber> | \"E\" <signedNumber> ```\n\nNo matter which of the three " ++
      "exponent forms is used, no quantity may represent a number greater than 2^63-1 in " ++
      "magnitude, nor may it have more than 3 decimal places. Numbers larger or more " ++
      "precise will be capped or rounded up. (E.g.: 0.1m will rounded up to 1m.) This may " ++
      "be extended in the future if we require larger or smaller quantities.\n\nWhen a " ++
      "Quantity is parsed from a string, it will remember the type of suffix it had, and " ++
      "will use the same type again when it is serialized.\n\nBefore serializing, Quantity " ++
      "will be put in \"canonical form\". This means that Exponent/suffix will be adjusted " ++
      "up or down (with a corresponding increase or decrease in Mantissa) such that:\n\n- " ++
      "No precision is lost - No fractional digits will be emitted - The exponent (or " ++
      "suffix) is as large as possible.\n\nThe sign will be omitted unless the number is " ++
      "negative.\n\nExamples:\n\n- 1.5 will be serialized as \"1500m\" - 1.5Gi will be " ++
      "serialized as \"1536Mi\"\n\nNote that the quantity will NEVER be internally " ++
      "represented by a floating point number. That is the whole point of this " ++
      "exercise.\n\nNon-canonical values will still parse as long as they are well formed, " ++
      "but will be re-emitted in their canonical form. (So always use canonical form, or " ++
      "don't diff.)\n\nThis format is intended to make it difficult to use these numbers " ++
      "without writing some sort of special handling code in the hopes that that will cause " ++
      "implementors to also use a fixed point implementation.")
    intOrString

/-- A schema of a place where null may stand too. -/
def nullable (schema : Json) : Json := schema.set "nullable" (.bool true)

/-- A schema with a default. -/
def defaulting (default : Json) (schema : Json) : Json := schema.set "default" default

/-- A schema of a place for a list that is empty by default. -/
def listOf (item : Json) : Json := defaulting (.arr []) (list item)

/-- A schema of a place for a map of texts that is empty by default. -/
def textDict : Json := defaulting .emptyObject (dict text)

end AgentOperator.Schema
