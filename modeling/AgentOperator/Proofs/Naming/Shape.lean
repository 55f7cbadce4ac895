import AgentOperator.Proofs.Naming.Subdomain
import Mathlib.Data.List.TakeWhile

/-!
# The shape of labels

The result of `dnsName` for any text. It is a DNS label of any length (`is_label_dns_name`) unless
it is empty, which it is if and only if the lower-case form of the text has no small letter and no
digit (`dns_name_eq_empty_iff`).
-/

namespace AgentOperator.Naming

/-- Trimming a text leaves nothing if all characters fail the test, and otherwise a text that begins
with a character which passes it. -/
theorem trim_both_cases (keep : Char → Bool) (cs : List Char) :
    (trimBoth keep cs = [] ∧ ∀ c ∈ cs, keep c = false) ∨
      ∃ c rest, trimBoth keep cs = c :: rest ∧ c ∈ cs ∧ keep c = true := by
  unfold trimBoth
  cases hrest : cs.dropWhile fun c => !keep c with
  | nil =>
      refine .inl ⟨rfl, fun c hc => ?_⟩
      simpa using List.dropWhile_eq_nil_iff.1 hrest c hc
  | cons c rest =>
      have hhead := List.head?_dropWhile_not (fun c => !keep c) cs
      rw [hrest] at hhead
      have hfirst : keep c = true := by simpa using hhead
      refine .inr ⟨c, _, trim_end_cons hfirst rest, ?_, hfirst⟩
      exact (List.dropWhile_sublist _).mem (hrest ▸ List.mem_cons_self)

/-- A character of a label that is a letter or digit comes from a small letter or digit. -/
theorem is_alphanum_label_char (c : Char) :
    (labelChar c).isAlphanum = (c.isLower || c.isDigit) := by
  unfold labelChar isLabelChar
  by_cases hkept : (c.isLower || c.isDigit) = true
  · rw [if_pos (by rw [hkept]; rfl), hkept, is_alphanum_iff]
    rw [Bool.or_eq_true, is_lower_iff, is_digit_iff] at hkept
    exact .inr hkept
  · rw [Bool.not_eq_true] at hkept
    rw [hkept, Bool.false_or]
    split
    · next hhyphen =>
        rw [of_decide_eq_true hhyphen]
        rfl
    · rfl

/-- `dnsName` of a text is empty if and only if its lower-case form has no small letter and no
digit. -/
theorem dns_name_eq_empty_iff {value : String} :
    dnsName value = "" ↔ ∀ c ∈ (Text.lowercase value).toList, (c.isLower || c.isDigit) = false := by
  have hchars : (∀ c ∈ (Text.lowercase value).toList.map labelChar, c.isAlphanum = false) ↔
      ∀ c ∈ (Text.lowercase value).toList, (c.isLower || c.isDigit) = false := by
    simp only [List.forall_mem_map, is_alphanum_label_char]
  rw [← hchars, dnsName, String.ofList_eq_empty_iff]
  rcases trim_both_cases Char.isAlphanum ((Text.lowercase value).toList.map labelChar) with
    ⟨hnil, hnone⟩ | ⟨c, rest, hcons, hmem, hc⟩
  · exact iff_of_true hnil hnone
  · rw [hcons]
    refine iff_of_false (List.cons_ne_nil _ _) fun hnone => ?_
    rw [hnone c hmem] at hc
    cases hc

/-- `dnsName` of a text is a label, unless it is empty. -/
theorem is_label_dns_name {value : String} (h : dnsName value ≠ "") :
    IsLabel (dnsName value).toList := by
  have hne : trimBoth Char.isAlphanum ((Text.lowercase value).toList.map labelChar) ≠ [] := by
    intro hnil
    rw [dnsName, hnil] at h
    exact h rfl
  refine ⟨fun c => is_label_char_of_mem_dns_name, ?_, ?_⟩
  · obtain ⟨c, rest, hcons, -, hc⟩ :=
      (trim_both_cases Char.isAlphanum _).resolve_left fun hnil => hne hnil.1
    exact ⟨c, rest, by rw [to_list_dns_name, hcons], hc⟩
  · obtain ⟨front, c, hlast, hc⟩ := (trim_end_eq_nil_or Char.isAlphanum _).resolve_left hne
    exact ⟨front, c, by rw [to_list_dns_name, trimBoth, hlast], hc⟩

/-- The label of a name that begins with a letter or digit is a label. -/
theorem is_label_label_of {name : String} (hname : StartsAlphanumeric name) :
    IsLabel (labelOf name).toList :=
  is_label_dns_name (label_of_ne_empty hname)

end AgentOperator.Naming
