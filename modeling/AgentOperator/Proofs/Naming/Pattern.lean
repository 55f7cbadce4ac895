import AgentOperator.Proofs.Naming.Shape
import Mathlib.Computability.Language

/-!
# The pattern of labels

The shape of labels as a regular language: `labelPattern` is the language of
`[a-z0-9]([-a-z0-9]*[a-z0-9])?`. Its texts are the labels (`mem_label_pattern_iff`). `dnsName` maps
every text to the empty one or one that matches the pattern, and its fixed points are these texts,
so that it is idempotent (`dns_name_lawful`).
-/

namespace AgentOperator.Naming

open Computability

/-- The texts of one character that passes a test. -/
def oneOf (test : Char → Bool) : Language Char := {cs | ∃ c, cs = [c] ∧ test c = true}

/-- Whether a character may be at an end of a DNS label. -/
def isLabelEnd (c : Char) : Bool := c.isLower || c.isDigit

/-- The pattern of a label: a small letter or digit, followed by nothing or by small letters, digits
and hyphens with a small letter or digit at the end. -/
def labelPattern : Language Char :=
  oneOf isLabelEnd * (1 + (oneOf isLabelChar)∗ * oneOf isLabelEnd)

/-- A character that may be at an end of a label may be inside of it. -/
theorem is_label_char_of_is_label_end {c : Char} (hc : isLabelEnd c = true) :
    isLabelChar c = true := by
  rw [isLabelChar, ← isLabelEnd, hc, Bool.true_or]

/-- The characters that may be at an end of a label are the letters and digits among those of a
label. -/
theorem is_label_end_iff {c : Char} :
    isLabelEnd c = true ↔ isLabelChar c = true ∧ c.isAlphanum = true := by
  constructor
  · intro hc
    refine ⟨is_label_char_of_is_label_end hc, ?_⟩
    rw [isLabelEnd, Bool.or_eq_true, is_lower_iff, is_digit_iff] at hc
    exact (is_alphanum_iff c).2 (.inr hc)
  · rintro ⟨hchar, hc⟩
    -- a character of a label stands for itself in one
    rwa [isLabelEnd, ← is_alphanum_label_char, labelChar, if_pos hchar]

/-- A text matches the repetition of a test for one character if and only if all its characters
pass. -/
theorem mem_kstar_one_of {test : Char → Bool} {cs : List Char} :
    cs ∈ (oneOf test)∗ ↔ ∀ c ∈ cs, test c = true := by
  rw [Language.mem_kstar]
  constructor
  · rintro ⟨pieces, rfl, hpieces⟩ c hc
    obtain ⟨piece, hpiece, hc⟩ := List.mem_flatten.1 hc
    obtain ⟨d, rfl, hd⟩ := hpieces piece hpiece
    rwa [List.mem_singleton.1 hc]
  · intro hcs
    refine ⟨cs.map fun c => [c], ?_, ?_⟩
    · rw [← List.flatMap_def, List.flatMap_singleton']
    · exact List.forall_mem_map.2 fun c hc => ⟨c, rfl, hcs c hc⟩

/-- The texts that match the pattern are the labels. -/
theorem mem_label_pattern_iff {cs : List Char} : cs ∈ labelPattern ↔ IsLabel cs := by
  rw [labelPattern, Language.mem_mul]
  constructor
  · rintro ⟨_, ⟨c, rfl, hc⟩, rest, hrest, rfl⟩
    obtain ⟨hchar, halnum⟩ := is_label_end_iff.1 hc
    rw [Language.mem_add, Language.mem_one, Language.mem_mul] at hrest
    rcases hrest with rfl | ⟨inner, hinner, _, ⟨d, rfl, hd⟩, rfl⟩
    · exact ⟨List.forall_mem_singleton.2 hchar, ⟨c, [], rfl, halnum⟩, [], c, rfl, halnum⟩
    · rw [mem_kstar_one_of] at hinner
      refine ⟨?_, ⟨c, _, rfl, halnum⟩, c :: inner, d, rfl, (is_label_end_iff.1 hd).2⟩
      rw [List.forall_mem_append, List.forall_mem_append, List.forall_mem_singleton,
        List.forall_mem_singleton]
      exact ⟨hchar, hinner, is_label_char_of_is_label_end hd⟩
  · rintro ⟨hchars, ⟨c, rest, rfl, hc⟩, front, d, hlast, hd⟩
    rw [List.forall_mem_cons] at hchars
    refine ⟨[c], ⟨c, rfl, is_label_end_iff.2 ⟨hchars.1, hc⟩⟩, rest, ?_, rfl⟩
    rw [Language.mem_add, Language.mem_one, Language.mem_mul]
    rcases List.eq_nil_or_concat' rest with hnil | ⟨inner, e, rfl⟩
    · exact .inl hnil
    · -- the last character of the rest is that of the whole text
      have hwhole : (c :: inner) ++ [e] = front ++ [d] := hlast
      obtain rfl := List.head_eq_of_cons_eq (List.append_inj' hwhole rfl).2
      rw [List.forall_mem_append, List.forall_mem_singleton] at hchars
      exact .inr ⟨inner, mem_kstar_one_of.2 hchars.2.1, [e],
        ⟨e, rfl, is_label_end_iff.2 ⟨hchars.2.2, hd⟩⟩, rfl⟩

/-- `dnsName` of a text is empty or matches the pattern of a label. -/
theorem dns_name_eq_empty_or_mem (value : String) :
    dnsName value = "" ∨ (dnsName value).toList ∈ labelPattern :=
  (eq_or_ne (dnsName value) "").imp_right fun hne => mem_label_pattern_iff.2 (is_label_dns_name hne)

/-- A text that is empty or matches the pattern of a label is a fixed point of `dnsName`. -/
theorem dns_name_eq_self {value : String} (h : value = "" ∨ value.toList ∈ labelPattern) :
    dnsName value = value := by
  rcases h with rfl | hlabel
  · rfl
  · exact dns_name_of_is_label (mem_label_pattern_iff.1 hlabel)

/-- `dnsName` is lawful. Its result is empty or matches the pattern of a label, and is empty if and
only if the lower-case form of the text has no small letter and no digit. It is idempotent, and its
fixed points are the texts that are empty or match the pattern. -/
theorem dns_name_lawful (value : String) :
    (dnsName value = "" ∨ (dnsName value).toList ∈ labelPattern) ∧
      (dnsName value = "" ↔ ∀ c ∈ (Text.lowercase value).toList, isLabelEnd c = false) ∧
      dnsName (dnsName value) = dnsName value ∧
      (dnsName value = value ↔ value = "" ∨ value.toList ∈ labelPattern) := by
  have hshape := dns_name_eq_empty_or_mem value
  exact ⟨hshape, dns_name_eq_empty_iff, dns_name_eq_self hshape, fun heq => heq ▸ hshape,
    dns_name_eq_self⟩

/-- The Kelvin sign is a letter of ASCII in lower case, and the capital i with a dot above is one
with a mark behind it, for which there is a hyphen unless it stands at the end. -/
example : dnsName "_\u212A\u01302\u0130" = "ki-2i" := by decide +kernel

end AgentOperator.Naming
