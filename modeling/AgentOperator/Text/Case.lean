import AgentOperator.Text.CaseTables

/-!
# Lower and upper case

The full case mappings of the Unicode standard. `lowercase` and `uppercase` map a character to one
or more characters; the lower-case form of a capital sigma depends on its neighbours: it is the
final form at the end of a word and the ordinary one elsewhere.

ASCII characters are mapped first and apart from the tables (`lower_char_ascii`), so that what is
said of ASCII names needs no look at the tables.
-/

namespace AgentOperator.Text

/-- Whether a character lies in one of the ranges. -/
def inRanges (ranges : List (Nat × Nat)) (c : Char) : Bool :=
  ranges.any fun range => range.1 ≤ c.toNat && c.toNat ≤ range.2

/-- The image that a table of runs gives a character, if it lists the character. -/
def runImage? (runs : List (Nat × Nat × Nat × Nat)) (c : Char) : Option Char :=
  runs.findSome? fun (first, last, step, image) =>
    if first ≤ c.toNat && c.toNat ≤ last && (c.toNat - first) % step = 0 then
      some (Char.ofNat (image + (c.toNat - first)))
    else none

/-- The image of a character under a table of expansions and a table of runs; a character that
neither lists is its own image. -/
def mapped (expansions : List (Nat × List Nat)) (runs : List (Nat × Nat × Nat × Nat))
    (c : Char) : List Char :=
  match expansions.lookup c.toNat with
  | some image => image.map Char.ofNat
  | none => [(runImage? runs c).getD c]

/-- Whether a character is an ASCII character. -/
def isAscii (c : Char) : Bool := c.toNat < 128

/-- The lower-case form of a character, its neighbours aside. -/
def lowerChar (c : Char) : List Char :=
  if isAscii c then [c.toLower] else mapped lowerExpansions lowerRuns c

/-- The upper-case form of a character. -/
def upperChar (c : Char) : List Char :=
  if isAscii c then [c.toUpper] else mapped upperExpansions upperRuns c

/-- Whether the first character that is not passed over is a cased one. -/
def meetsCased (cs : List Char) : Bool :=
  match cs.dropWhile (inRanges caseIgnorableRanges) with
  | [] => false
  | c :: _ => inRanges casedRanges c

/-- Whether a sigma between `before` (nearest character first) and `after` ends a word: a cased
character comes before it and none after it. -/
def endsWord (before after : List Char) : Bool :=
  meetsCased before && !meetsCased after

/-- The lower-case form of a text that follows `before` (nearest character first). -/
def lowerAfter : List Char → List Char → List Char
  | _, [] => []
  | before, c :: rest =>
    (if c = 'Σ' then [if endsWord before rest then 'ς' else 'σ'] else lowerChar c)
      ++ lowerAfter (c :: before) rest

/-- The lower-case form of a text. -/
def lowercase (s : String) : String := String.ofList (lowerAfter [] s.toList)

/-- The upper-case form of a text. -/
def uppercase (s : String) : String := String.ofList (s.toList.flatMap upperChar)

/-- A text with its ASCII capitals in lower case and all else as it is. -/
def asciiLowercase (s : String) : String := String.ofList (s.toList.map Char.toLower)

/-- The characters of the lower-case form of a text. -/
theorem to_list_lowercase (s : String) : (lowercase s).toList = lowerAfter [] s.toList :=
  String.toList_ofList

/-- An ASCII character has one lower-case form, the one that `Char.toLower` gives. -/
theorem lower_char_ascii {c : Char} (h : isAscii c = true) : lowerChar c = [c.toLower] := by
  simp [lowerChar, h]

/-- The lower-case form of ASCII characters at the front of a text is taken character by
character. -/
theorem lower_after_append (before : List Char) {front : List Char} (rest : List Char)
    (h : ∀ c ∈ front, isAscii c = true) :
    lowerAfter before (front ++ rest) =
      front.map Char.toLower ++ lowerAfter (front.reverse ++ before) rest := by
  induction front generalizing before with
  | nil => rfl
  | cons c front ih =>
    have hc : isAscii c = true := h c (by simp)
    have hsigma : c ≠ 'Σ' := by
      rintro rfl
      simp [isAscii] at hc
    simp [lowerAfter, hsigma, lower_char_ascii hc, ih _ fun d hd => h d (by simp [hd])]

/-- The lower-case form of an ASCII text is taken character by character. -/
theorem lower_after_ascii (before : List Char) {cs : List Char}
    (h : ∀ c ∈ cs, isAscii c = true) : lowerAfter before cs = cs.map Char.toLower := by
  simpa [lowerAfter] using lower_after_append before [] h

end AgentOperator.Text
