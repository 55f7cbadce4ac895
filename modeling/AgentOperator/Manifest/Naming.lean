import AgentOperator.Text.Case

/-!
# Names of derived objects

The names of the objects and volumes that belong to an agent. A name is cut to the length of a DNS
label first and then brought into the shape of one: small letters, digits and inner hyphens.
-/

namespace AgentOperator.Naming

/-- The greatest length of a DNS label. -/
def maxLabelLength : Nat := 63

/-- A text without its longest tail of characters that fail a test. -/
def trimEnd (keep : Char → Bool) (cs : List Char) : List Char :=
  (cs.reverse.dropWhile fun c => !keep c).reverse

/-- A text without its longest ends of characters that fail a test. -/
def trimBoth (keep : Char → Bool) (cs : List Char) : List Char :=
  trimEnd keep (cs.dropWhile fun c => !keep c)

/-- The first `max` characters, less what the cut leaves at the end that is neither a letter nor a
digit. A text that is short enough is not cut. -/
def truncateChars (cs : List Char) (max : Nat) : List Char :=
  if cs.length ≤ max then cs else trimEnd Char.isAlphanum (cs.take max)

/-- A text cut to at most `max` characters. -/
def truncate (value : String) (max : Nat) : String :=
  String.ofList (truncateChars value.toList max)

/-- Whether a character may stand inside a DNS label. -/
def isLabelChar (c : Char) : Bool := c.isLower || c.isDigit || c = '-'

/-- The character that stands in a DNS label for a character of a lower-case text. -/
def labelChar (c : Char) : Char := if isLabelChar c then c else '-'

/-- A text in the shape of a DNS label: in lower case, with a hyphen for everything else than
letters and digits, and without hyphens at the ends. -/
def dnsName (value : String) : String :=
  String.ofList (trimBoth Char.isAlphanum ((Text.lowercase value).toList.map labelChar))

/-- The DNS label that is made of a name. -/
def labelOf (name : String) : String := dnsName (truncate name maxLabelLength)

/-- The name of the config map with the primary configuration of an agent. -/
def configMap (agent : String) : String := labelOf agent

/-- What the names of volumes of auxiliary config maps start with. -/
def auxiliaryStem : String := "configmap-"

/-- The name of the volume of an auxiliary config map, and of the directory it is mounted in. -/
def auxiliaryVolume (name : String) : String := labelOf (auxiliaryStem ++ name)

/-- The name of the service account that is made for an agent. -/
def serviceAccount (agent : String) : String := labelOf agent

/-- The name of the service of an agent. -/
def service (agent : String) : String := labelOf agent

/-- The name of the workload of an agent. -/
def workload (agent : String) : String := labelOf agent

end AgentOperator.Naming
