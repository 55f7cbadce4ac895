/-!
# Image references

An image reference names a repository, after a colon a tag, and after an at sign a digest. A colon
may also stand before the port of the host that the repository lies on, so what follows the last
colon is a tag only if no slash comes after it.
-/

namespace AgentOperator.ImageReference

/-- The tag that stands for no tag. -/
def defaultTag : String := "latest"

/-- The part of a text before the first occurrence of a character. -/
def before (c : Char) (cs : List Char) : List Char := cs.takeWhile (· != c)

/-- The part of a text behind the last occurrence of a character, if it occurs. -/
def afterLast? (c : Char) (cs : List Char) : Option (List Char) :=
  if cs.contains c then some (cs.reverse.takeWhile (· != c)).reverse else none

/-- The tag of an image reference. -/
def tag (image : String) : String :=
  match afterLast? ':' (before '@' image.toList) with
  | some tag => if tag.isEmpty || tag.contains '/' then defaultTag else String.ofList tag
  | none => defaultTag

end AgentOperator.ImageReference
