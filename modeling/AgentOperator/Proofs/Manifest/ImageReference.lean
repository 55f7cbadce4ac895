import AgentOperator.Manifest.ImageReference
import Mathlib.Data.List.Basic
import Mathlib.Data.List.TakeWhile

/-!
# Tags of image references

The grammar of image references, made up of a repository, a tag and a digest, is `Refers`. The tag
of every reference of this grammar is parsed, also if the repository lies on a host with a port or
the digest has colons and at signs; and the tag that is parsed from any text has the shape of a tag.
`references_read` is both.
-/

namespace AgentOperator.ImageReference

/-- A text names a repository: it has no at sign, and no colon behind its last slash, or in all of
it if it has no slash. -/
structure IsRepository (text : String) : Prop where
  atless : '@' ∉ text.toList
  colonless : ∃ host name, text.toList = host ++ name ∧ (host = [] ∨ host.getLast? = some '/') ∧
    '/' ∉ name ∧ ':' ∉ name

/-- A text could be a tag: it is not empty and has none of the separators. -/
structure IsTag (text : String) : Prop where
  nonempty : text ≠ ""
  plain : '/' ∉ text.toList ∧ ':' ∉ text.toList ∧ '@' ∉ text.toList

/-- The image references, each with its tag if it has one: a repository, with or without a tag, and
with or without a digest. -/
inductive Refers : String → Option String → Prop where
  | repository {repository : String} (h : IsRepository repository) : Refers repository none
  | digest {repository : String} (h : IsRepository repository) (digest : String) :
      Refers (repository ++ "@" ++ digest) none
  | tag {repository tag : String} (h : IsRepository repository) (htag : IsTag tag) :
      Refers (repository ++ ":" ++ tag) (some tag)
  | tagAndDigest {repository tag : String} (h : IsRepository repository) (htag : IsTag tag)
      (digest : String) : Refers (repository ++ ":" ++ tag ++ "@" ++ digest) (some tag)

variable {c : Char} {front back cs : List Char} {image : String}

/-- The part before the first occurrence of a character. -/
theorem before_append (h : c ∉ front) (back : List Char) :
    before c (front ++ c :: back) = front := by
  rw [before, List.takeWhile_append_of_pos, List.takeWhile_cons_of_neg (by simp), List.append_nil]
  exact fun d hd => bne_iff_ne.2 fun heq => h (heq ▸ hd)

/-- The part before a character that does not occur is the whole text. -/
theorem before_of_not_mem (h : c ∉ cs) : before c cs = cs :=
  List.takeWhile_eq_self_iff.2 fun _ hd => bne_iff_ne.2 fun heq => h (heq ▸ hd)

/-- A character does not occur in the part before it. -/
theorem not_mem_before : c ∉ before c cs := fun hc => by
  simpa using List.mem_takeWhile_imp hc

/-- The part behind the last occurrence of a character. -/
theorem after_last?_append (h : c ∉ back) (front : List Char) :
    afterLast? c (front ++ c :: back) = some back := by
  have hback : ((front ++ c :: back).reverse.takeWhile (· != c)) = back.reverse := by
    rw [List.reverse_append, List.reverse_cons, List.append_assoc, List.singleton_append]
    exact before_append (by simpa using h) front.reverse
  rw [afterLast?, if_pos (by simp), hback, List.reverse_reverse]

/-- A text can be split at the last occurrence of a character. -/
theorem exists_split_of_mem (h : c ∈ cs) : ∃ front back, cs = front ++ c :: back ∧ c ∉ back := by
  obtain ⟨back, front, hsplit, hback⟩ := List.eq_append_cons_of_mem (List.mem_reverse.2 h)
  refine ⟨front.reverse, back.reverse, ?_, by simpa using hback⟩
  rw [← List.reverse_reverse cs, hsplit]
  simp

/-- Without a colon before the digest there is no tag. -/
theorem tag_of_colonless (h : ':' ∉ before '@' image.toList) : tag image = "latest" := by
  have hnone : afterLast? ':' (before '@' image.toList) = none := if_neg (by simpa using h)
  rw [tag, hnone]
  rfl

/-- The part between the last colon and the digest is the tag, unless it is empty or contains a
slash. -/
theorem tag_of_split (himage : before '@' image.toList = front ++ ':' :: back)
    (hcolon : ':' ∉ back) :
    tag image = if back = [] ∨ '/' ∈ back then "latest" else String.ofList back := by
  rw [tag, himage, after_last?_append hcolon]
  refine if_congr ?_ rfl rfl
  rw [Bool.or_eq_true, List.isEmpty_iff, List.contains_iff_mem]

/-- A slash follows every colon of a repository. -/
theorem IsRepository.slash_mem {repository : String} (h : IsRepository repository)
    (hsplit : repository.toList = front ++ ':' :: back) : '/' ∈ back := by
  obtain ⟨host, name, hname, hhost, -, hcolon⟩ := h.colonless
  rw [hname] at hsplit
  rcases List.append_eq_append_iff.1 hsplit with ⟨between, -, hback⟩ | ⟨between, hfront, hback⟩
  · refine absurd ?_ hcolon
    simp [hback]
  · cases between with
    | nil =>
        rw [List.nil_append] at hback
        exact absurd (hback ▸ List.mem_cons_self) hcolon
    | cons colon between =>
        -- the colon stands in the part that ends in the last slash
        obtain ⟨rfl, rfl⟩ := List.cons.inj hback
        have hend : (':' :: between).getLast? = some '/' := by
          rw [← List.getLast?_append_cons front, ← hfront]
          exact hhost.resolve_left (by simp [hfront])
        have hslash : '/' ∈ ':' :: between := List.mem_of_getLast? hend
        exact List.mem_append_left _ (by simpa using hslash)

/-- A repository before the digest has no tag. -/
theorem tag_of_repository {repository : String} (h : IsRepository repository)
    (himage : before '@' image.toList = repository.toList) : tag image = "latest" := by
  by_cases hcolon : ':' ∈ repository.toList
  · obtain ⟨front, back, hsplit, hback⟩ := exists_split_of_mem hcolon
    rw [tag_of_split (himage.trans hsplit) hback, if_pos (.inr (h.slash_mem hsplit))]
  · exact tag_of_colonless (himage ▸ hcolon)

/-- The tag is the part behind a colon before the digest. -/
theorem tag_of_is_tag {text : String} (h : IsTag text)
    (himage : before '@' image.toList = front ++ ':' :: text.toList) : tag image = text := by
  have hne : text.toList ≠ [] := by simpa using h.nonempty
  rw [tag_of_split himage h.plain.2.1, if_neg (not_or.2 ⟨hne, h.plain.1⟩), String.ofList_toList]

/-- The tag of every reference is parsed. -/
theorem tag_of_refers {named : Option String} (h : Refers image named) :
    tag image = named.getD "latest" := by
  have hat {repository text : String} (h : IsRepository repository) (htext : IsTag text) :
      '@' ∉ repository.toList ++ ':' :: text.toList := by
    simpa using ⟨h.atless, htext.plain.2.2⟩
  have hcolon (repository text : String) :
      (repository ++ ":" ++ text).toList = repository.toList ++ ':' :: text.toList := by simp
  have hdigest (text digest : String) :
      (text ++ "@" ++ digest).toList = text.toList ++ '@' :: digest.toList := by simp
  cases h with
  | repository h => exact tag_of_repository h (before_of_not_mem h.atless)
  | digest h digest =>
      refine tag_of_repository h ?_
      rw [hdigest]
      exact before_append h.atless _
  | tag h htext =>
      have himage := before_of_not_mem (hat h htext)
      rw [← hcolon] at himage
      exact tag_of_is_tag htext (himage.trans (hcolon _ _))
  | tagAndDigest h htext digest =>
      have himage := before_append (hat h htext) digest.toList
      rw [← hcolon, ← hdigest] at himage
      exact tag_of_is_tag htext (himage.trans (hcolon _ _))

/-- The tag that is parsed from any text has the shape of a tag. -/
theorem is_tag_tag (image : String) : IsTag (tag image) := by
  have hdefault : IsTag "latest" := ⟨by decide, by decide⟩
  by_cases hcolon : ':' ∈ before '@' image.toList
  · obtain ⟨front, back, himage, hback⟩ := exists_split_of_mem hcolon
    rw [tag_of_split himage hback]
    split
    · exact hdefault
    · next hpart =>
        rw [not_or] at hpart
        have hat : '@' ∉ back := fun hat => by
          refine not_mem_before (?_ : '@' ∈ before '@' image.toList)
          simp [himage, hat]
        refine ⟨by simpa using hpart.1, ?_⟩
        rw [String.toList_ofList]
        exact ⟨hpart.2, hback, hat⟩
  · rw [tag_of_colonless hcolon]
    exact hdefault

/-- The tag of every image reference is parsed, and is `latest` where there is none. The tag that is
parsed from any text is not empty and has no separators in it. -/
theorem references_read :
    (∀ image named, Refers image named → tag image = named.getD "latest") ∧
      ∀ image, IsTag (tag image) :=
  ⟨fun _ _ => tag_of_refers, is_tag_tag⟩

/-- A host with a port and a digest with colons do not affect the tag. -/
theorem registry_image_read :
    Refers "registry:5000/team/agent:1.300@sha256:9f86@d0" (some "1.300") ∧
      tag "registry:5000/team/agent:1.300@sha256:9f86@d0" = "1.300" := by
  have hrepository : IsRepository "registry:5000/team/agent" :=
    ⟨by decide, "registry:5000/team/".toList, "agent".toList, by decide, by decide, by decide⟩
  have htag : IsTag "1.300" := ⟨by decide, by decide⟩
  have hreference : Refers "registry:5000/team/agent:1.300@sha256:9f86@d0" (some "1.300") :=
    .tagAndDigest hrepository htag "sha256:9f86@d0"
  exact ⟨hreference, references_read.1 _ _ hreference⟩

end AgentOperator.ImageReference
