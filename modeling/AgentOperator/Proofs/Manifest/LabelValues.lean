import AgentOperator.Proofs.Manifest.Selection
import AgentOperator.Proofs.Naming.Subdomain

/-!
# Values of labels

A cluster accepts a label only if its value is short and has a letter or digit at both ends
(`IsValue`). The operator cuts its values to this length, which trims the end of those that are too
long (`is_value_truncate_iff`). So they are accepted whenever the name and the namespace of the
agent are, except for the version, which is the tag of an image: a tag may begin and end with other
characters, and a short one is not trimmed. `label_values_valid_iff` gives the condition on the tag.
-/

namespace AgentOperator.Labels

open Naming

/-- Whether a character may occur in the value of a label. -/
def isValueChar (c : Char) : Bool := c.isAlphanum || c = '-' || c = '_' || c = '.'

/-- A text can be the value of a label: it has at most 63 characters, which are letters, digits,
hyphens, underscores and dots, with a letter or digit at both ends. -/
structure IsValue (value : String) : Prop where
  short : value.toList.length ≤ 63
  chars : ∀ c ∈ value.toList, isValueChar c = true
  first : StartsAlphanumeric value
  last : EndsAlphanumeric value

/-- A decidable form of `IsValue`. -/
theorem is_value_iff {value : String} :
    IsValue value ↔ value.toList.length ≤ 63 ∧ value.toList.all isValueChar = true ∧
      StartsAlphanumeric value ∧ EndsAlphanumeric value := by
  rw [List.all_eq_true]
  exact ⟨fun h => ⟨h.short, h.chars, h.first, h.last⟩, fun h => ⟨h.1, h.2.1, h.2.2.1, h.2.2.2⟩⟩

instance (value : String) : Decidable (IsValue value) := decidable_of_iff _ is_value_iff.symm

/-- A text can be the tag of an image: up to 128 characters, all of which may occur in the value of
a label, with no hyphen and no dot at the front. -/
def IsImageTag (text : String) : Prop :=
  ∃ c rest, text.toList = c :: rest ∧ (c.isAlphanum = true ∨ c = '_') ∧
    (∀ d ∈ rest, isValueChar d = true) ∧ rest.length ≤ 127

/-- A decidable form of `IsImageTag`. -/
theorem is_image_tag_iff {text : String} :
    IsImageTag text ↔ (text.toList.head?.any fun c => c.isAlphanum || c = '_') = true ∧
      text.toList.tail.all isValueChar = true ∧ text.toList.tail.length ≤ 127 := by
  unfold IsImageTag
  cases text.toList with
  | nil => simp
  | cons c rest => simp

instance (text : String) : Decidable (IsImageTag text) := decidable_of_iff _ is_image_tag_iff.symm

/-- Letters and digits may occur in the value of a label. -/
theorem is_value_char_of_is_alphanum {c : Char} (hc : c.isAlphanum = true) :
    isValueChar c = true := by
  simp [isValueChar, hc]

/-- The tag of an image has only characters that may stand in the value of a label. -/
theorem IsImageTag.chars {text : String} (h : IsImageTag text) :
    ∀ c ∈ text.toList, isValueChar c = true := by
  obtain ⟨c, rest, htext, hc, hrest, -⟩ := h
  rw [htext, List.forall_mem_cons]
  refine ⟨?_, hrest⟩
  rcases hc with hc | rfl
  · exact is_value_char_of_is_alphanum hc
  · rfl

/-- The characters of labels and the dots between them may occur in the value of a label. -/
theorem is_value_char_of_dotted {c : Char} (hc : isLabelChar c = true ∨ c = '.') :
    isValueChar c = true := by
  rcases hc with hc | rfl
  · rw [isLabelChar, Bool.or_eq_true, Bool.or_eq_true, decide_eq_true_eq] at hc
    rcases hc with (hlower | hdigit) | rfl
    · have hletter := (is_lower_iff c).1 hlower
      exact is_value_char_of_is_alphanum ((is_alphanum_iff c).2 (.inr (.inl hletter)))
    · have hnumeral := (is_digit_iff c).1 hdigit
      exact is_value_char_of_is_alphanum ((is_alphanum_iff c).2 (.inr (.inr hnumeral)))
    · rfl
  · rfl

/-- A text that is cut to the length of a label is a value if and only if it begins in a letter or
digit, and also ends in one unless it is too long. -/
theorem is_value_truncate_iff {text : String} (hchars : ∀ c ∈ text.toList, isValueChar c = true) :
    IsValue (truncate text maxLabelLength) ↔
      StartsAlphanumeric text ∧ (text.toList.length ≤ 63 → EndsAlphanumeric text) := by
  have hends : StartsAlphanumeric (truncate text maxLabelLength) ∧
        EndsAlphanumeric (truncate text maxLabelLength) ↔
      StartsAlphanumeric text ∧ (text.toList.length ≤ 63 → EndsAlphanumeric text) :=
    truncate_ends_iff (by decide)
  rw [← hends]
  refine ⟨fun h => ⟨h.first, h.last⟩, fun ⟨hfirst, hlast⟩ => ⟨?_, fun c hc => ?_, hfirst, hlast⟩⟩
  · rw [to_list_truncate]
    exact length_truncate_chars_le _ _
  · rw [to_list_truncate] at hc
    exact hchars c (mem_of_mem_truncate_chars hc)

/-- Labels with dots between them are a value once they are cut to the length of a label. -/
theorem is_value_truncate_of_dotted {text : String} (h : IsDotted text.toList) :
    IsValue (truncate text maxLabelLength) :=
  (is_value_truncate_iff fun c hc => is_value_char_of_dotted (h.chars c hc)).2
    ⟨h.first, fun _ => h.last⟩

/-- The operator's label of a key has a value that a cluster accepts. -/
def IsTaken (agent : Agent) (image key : String) : Prop :=
  ∃ value, (all agent image).get? key = some value ∧ IsValue value

variable {agent : Agent} {image : String}

/-- The version is accepted if and only if the tag of the image begins in a letter or digit, and
also ends in one unless it is too long. -/
theorem is_taken_version_iff (agent : Agent) (htag : IsImageTag (ImageReference.tag image)) :
    IsTaken agent image versionKey ↔
      StartsAlphanumeric (ImageReference.tag image) ∧
        ((ImageReference.tag image).toList.length ≤ 63 →
          EndsAlphanumeric (ImageReference.tag image)) := by
  rw [← is_value_truncate_iff htag.chars, IsTaken, get?_all, if_pos rfl]
  simp only [Option.some.injEq, exists_eq_left']

/-- The other labels of the operator are accepted for an agent that a cluster admits. -/
theorem is_taken_of_ne (hspace : IsLabel agent.namespaceName.toList)
    (hname : IsDotted agent.name.toList) {key : String} (hkey : key ∈ operatorKeys)
    (hne : key ≠ versionKey) : IsTaken agent image key := by
  have hinstance : IsDotted (agent.namespaceName ++ "." ++ agent.name).toList := by
    rw [String.toList_append, String.toList_append, List.append_assoc]
    exact .dot hspace hname
  have hconstants : IsValue manager ∧ IsValue product := by decide
  rw [IsTaken, get?_all, if_neg hne]
  by_cases hnameKey : key = nameKey
  · rw [if_pos hnameKey]
    exact ⟨_, rfl, is_value_truncate_of_dotted hname⟩
  · rw [if_neg hnameKey, get?_selector]
    have hselector : key ∈ selectorKeys := by
      rw [operatorKeys, List.mem_append] at hkey
      exact hkey.resolve_right (by simp [hnameKey, hne])
    simp only [selectorKeys, List.mem_cons, List.not_mem_nil, or_false] at hselector
    rcases hselector with rfl | rfl | rfl | rfl
    · exact ⟨_, rfl, hconstants.1⟩
    · exact ⟨_, rfl, is_value_truncate_of_dotted hinstance⟩
    · exact ⟨_, rfl, hconstants.2⟩
    · exact ⟨_, rfl, hconstants.2⟩

/-- The labels that the operator sets on the objects of an agent whose namespace is a label and
whose name is a subdomain. A cluster accepts all of them but the version, for every image. It
accepts the version if and only if the tag of the image begins in a letter or digit, and also ends
in one unless it is longer than a label. Labels under other keys are those of the resource. -/
theorem label_values_valid_iff (hspace : IsLabel agent.namespaceName.toList)
    (hname : IsSubdomain agent.name) (htag : IsImageTag (ImageReference.tag image)) :
    (∀ key ∈ operatorKeys, key ≠ versionKey → IsTaken agent image key) ∧
      ((∀ key ∈ operatorKeys, IsTaken agent image key) ↔
        StartsAlphanumeric (ImageReference.tag image) ∧
          ((ImageReference.tag image).toList.length ≤ 63 →
            EndsAlphanumeric (ImageReference.tag image))) ∧
      ∀ key, key ∉ operatorKeys →
        (all agent image).get? key = (agent.metadata.labels.getD ∅).get? key := by
  have hothers (key : String) (hkey : key ∈ operatorKeys) (hne : key ≠ versionKey) :
      IsTaken agent image key := is_taken_of_ne hspace hname.dotted hkey hne
  refine ⟨hothers, ?_, fun key => get?_all_of_not_mem agent image⟩
  rw [← is_taken_version_iff agent htag]
  constructor
  · intro h
    exact h versionKey (by decide)
  · intro hversion key hkey
    by_cases hne : key = versionKey
    · exact hne ▸ hversion
    · exact hothers key hkey hne

/-- An agent of a name and a namespace. -/
def agentIn (inNamespace name : String) : Agent :=
  { metadata := { name := some name, inNamespace := some inNamespace }, spec := {} }

/-- All labels of the operator are accepted for an agent with a dotted name and an image with a tag
of digits and dots. -/
theorem dotted_name_labelled :
    let agent := agentIn "amazon-cloudwatch" "web.api-2"
    let image := "registry:5000/agent:1.300.1"
    IsLabel agent.namespaceName.toList ∧ IsSubdomain agent.name ∧
      IsImageTag (ImageReference.tag image) ∧ ∀ key ∈ operatorKeys, IsTaken agent image key := by
  intro agent image
  have hspace : IsLabel agent.namespaceName.toList := by decide
  have hname : IsSubdomain agent.name := by decide
  have htag : IsImageTag (ImageReference.tag image) := by decide
  exact ⟨hspace, hname, htag, (label_values_valid_iff hspace hname htag).2.1.2 (by decide)⟩

/-- A tag that begins in an underscore and one that ends in a hyphen become versions that a cluster
does not accept. -/
theorem versions_not_taken :
    let agent := agentIn "agents" "sample"
    IsLabel agent.namespaceName.toList ∧ IsSubdomain agent.name ∧
      ∀ image ∈ ["cloudwatch-agent:_dev", "cloudwatch-agent:1.0-"],
        IsImageTag (ImageReference.tag image) ∧ ∃ value,
          (all agent image).get? versionKey = some value ∧ ¬ IsValue value := by
  intro agent
  refine ⟨by decide, by decide, ?_⟩
  simp only [List.forall_mem_cons]
  exact ⟨⟨by decide, "_dev", by decide, by decide⟩, ⟨by decide, "1.0-", by decide, by decide⟩,
    List.forall_mem_nil _⟩

end AgentOperator.Labels
