import AgentOperator.Proofs.Naming.Auxiliary
import AgentOperator.Proofs.Naming.Shape
import AgentOperator.Proofs.Text.Case

/-!
# The length of labels

A name is cut to the length of a label before it is lowered, and lowering adds one character for
each dotted capital I (`Text.length_lowercase`). So a label may be too long by the number of these
before the cut (`length_label_of_le`). The trimming at the end removes the excess, unless a letter
or digit is behind the limit (`length_dns_name_le_iff`). The names of auxiliary volumes have the
shape of labels for every config map, but some of them are too long (`auxiliary_volume_label`).
-/

namespace AgentOperator.Naming

/-- A text that is trimmed at the end fits under a limit if and only if no character behind the
limit passes the test. -/
theorem length_trim_end_le_iff {keep : Char → Bool} {cs : List Char} {max : Nat} :
    (trimEnd keep cs).length ≤ max ↔ ∀ c ∈ cs.drop max, keep c = false := by
  -- induction from the end, where the characters are trimmed
  induction cs using List.reverseRecOn with
  | nil => simp [trimEnd]
  | append_singleton cs c ih =>
      have hdrop : (∀ d ∈ (cs ++ [c]).drop max, keep d = false) ↔
          (∀ d ∈ cs.drop max, keep d = false) ∧ (max ≤ cs.length → keep c = false) := by
        rw [List.drop_append, List.forall_mem_append]
        refine and_congr_right fun _ => ?_
        by_cases hmax : max ≤ cs.length
        · simp [hmax, Nat.sub_eq_zero_of_le hmax]
        · simp [hmax, List.drop_eq_nil_of_le, show 1 ≤ max - cs.length by omega]
      rw [hdrop]
      cases hc : keep c with
      | true =>
          rw [trim_end_append_singleton hc, List.length_append, List.length_singleton]
          constructor
          · intro hshort
            rw [List.drop_eq_nil_of_le (by omega)]
            exact ⟨List.forall_mem_nil _, fun hmax => by omega⟩
          · rintro ⟨-, hlong⟩
            by_contra hshort
            cases hlong (by omega)
      | false =>
          rw [trim_end_append_of_not hc, ih]
          exact ⟨fun h => ⟨h, fun _ => rfl⟩, fun h => h.1⟩

/-- Trimming does not lengthen a text. -/
theorem length_trim_both_le (keep : Char → Bool) (cs : List Char) :
    (trimBoth keep cs).length ≤ cs.length :=
  (trim_end_prefix_self keep _).length_le.trans (List.dropWhile_sublist _).length_le

/-- `dnsName` lengthens a text by at most the number of dotted capital I in it. -/
theorem length_dns_name_le (value : String) :
    (dnsName value).toList.length ≤ value.toList.length + value.toList.count Text.dottedI := by
  rw [to_list_dns_name, ← Text.length_lowercase]
  exact (length_trim_both_le _ _).trans_eq (List.length_map _)

/-- A label is too long by at most the number of dotted capital I before the cut. -/
theorem length_label_of_le (name : String) :
    (labelOf name).toList.length ≤
      maxLabelLength + (name.toList.take maxLabelLength).count Text.dottedI := by
  have hcut : truncateChars name.toList maxLabelLength <+: name.toList.take maxLabelLength :=
    List.prefix_take_iff.2 ⟨truncate_chars_prefix_self _ _, length_truncate_chars_le _ _⟩
  refine (length_dns_name_le _).trans ?_
  rw [to_list_truncate]
  exact Nat.add_le_add (length_truncate_chars_le _ _) (hcut.sublist.count_le _)

/-- The `dnsName` of a text that begins with a letter or digit fits under a limit if and only if no
small letter or digit is behind the limit in lower case. -/
theorem length_dns_name_le_iff {value : String} {max : Nat} (hvalue : StartsAlphanumeric value) :
    (dnsName value).toList.length ≤ max ↔
      ∀ c ∈ (Text.lowercase value).toList.drop max, (c.isLower || c.isDigit) = false := by
  obtain ⟨c, rest, htext, hc⟩ := hvalue
  have hlower : (Text.lowercase value).toList = c.toLower :: Text.lowerAfter [c] rest := by
    rw [Text.to_list_lowercase, htext]
    exact Text.lower_after_append [] rest (List.forall_mem_singleton.2 (is_ascii_of_is_alphanum hc))
  have hfirst : (labelChar c.toLower).isAlphanum = true := by
    rw [(label_char_to_lower hc).1]
    exact (label_char_to_lower hc).2
  have hfront : trimBoth Char.isAlphanum ((Text.lowercase value).toList.map labelChar) =
      trimEnd Char.isAlphanum ((Text.lowercase value).toList.map labelChar) := by
    rw [hlower, List.map_cons, trimBoth, List.dropWhile_cons_of_neg (by simp [hfirst])]
  rw [to_list_dns_name, hfront, length_trim_end_le_iff, ← List.map_drop,
    List.forall_mem_map]
  simp only [is_alphanum_label_char]

/-- The stem followed by a name begins with a letter. -/
theorem starts_alphanumeric_stem (name : String) : StartsAlphanumeric (auxiliaryStem ++ name) := by
  rw [StartsAlphanumeric, String.toList_append]
  exact ⟨'c', _, rfl, rfl⟩

/-- The name of an auxiliary volume is too long by at most the number of dotted capital I before the
cut, which is behind the stem and 53 characters. -/
theorem length_auxiliary_volume_le (name : String) :
    (auxiliaryVolume name).toList.length ≤
      maxLabelLength + (name.toList.take 53).count Text.dottedI := by
  have hstem : (auxiliaryStem.toList.take maxLabelLength).count Text.dottedI = 0 := by decide
  have hleft : maxLabelLength - auxiliaryStem.toList.length = 53 := by decide
  have hlabel := length_label_of_le (auxiliaryStem ++ name)
  rwa [String.toList_append, List.take_append, List.count_append, hstem, hleft,
    Nat.zero_add] at hlabel

/-- The name of an auxiliary volume is a label that begins with the stem, for every config map. It
is too long by at most the number of dotted capital I before the cut, and fits if and only if no
small letter or digit is behind the limit once stem and name were cut and lowered. -/
theorem auxiliary_volume_label (name : String) :
    IsLabel (auxiliaryVolume name).toList ∧
      "configmap".toList <+: (auxiliaryVolume name).toList ∧
      (auxiliaryVolume name).toList.length ≤ 63 + (name.toList.take 53).count 'İ' ∧
      ((auxiliaryVolume name).toList.length ≤ 63 ↔
        ∀ c ∈ (Text.lowercase (truncate (auxiliaryStem ++ name) 63)).toList.drop 63,
          (c.isLower || c.isDigit) = false) := by
  have hname := starts_alphanumeric_stem name
  refine ⟨is_label_label_of hname, stem_prefix_auxiliary_volume name, ?_, ?_⟩
  · exact length_auxiliary_volume_le name
  · exact length_dns_name_le_iff (starts_alphanumeric_truncate (by decide) hname)

/-- A name that fits behind the stem, but whose volume has a name that is too long. -/
theorem auxiliary_volume_too_long :
    let name := String.ofList (List.replicate 51 'a' ++ ['İ', 'a'])
    (auxiliaryStem ++ name).toList.length = 63 ∧ (auxiliaryVolume name).toList.length = 64 := by
  decide +kernel

end AgentOperator.Naming
