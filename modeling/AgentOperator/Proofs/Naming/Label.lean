import AgentOperator.Manifest.Naming
import Mathlib.Data.List.DropRight

/-!
# Labels made of names

The shape of the labels of derived objects. A label has only small letters, digits and hyphens, for
every name (`is_label_char_of_mem_label_of`), and it is not empty if the name begins with an ASCII
letter or digit (`label_of_ne_empty`): the cut, the lower case and the trimming all keep such a
character at the front.
-/

namespace AgentOperator.Naming

/-- A name begins with an ASCII letter or digit. -/
def StartsAlphanumeric (name : String) : Prop :=
  ∃ c rest, name.toList = c :: rest ∧ c.isAlphanum = true

/-- The characters of a cut. -/
theorem to_list_truncate (value : String) (max : Nat) :
    (truncate value max).toList = truncateChars value.toList max :=
  String.toList_ofList

/-- The characters of `dnsName`. -/
theorem to_list_dns_name (value : String) : (dnsName value).toList =
    trimBoth Char.isAlphanum ((Text.lowercase value).toList.map labelChar) :=
  String.toList_ofList

/-- The characters that are left by trimming the end of a text are characters of the text. -/
theorem mem_of_mem_trim_end {keep : Char → Bool} {cs : List Char} {c : Char}
    (h : c ∈ trimEnd keep cs) : c ∈ cs := by
  rw [trimEnd, List.mem_reverse] at h
  exact List.mem_reverse.1 ((List.dropWhile_sublist _).mem h)

/-- The characters that are left by trimming both ends of a text are characters of the text. -/
theorem mem_of_mem_trim_both {keep : Char → Bool} {cs : List Char} {c : Char}
    (h : c ∈ trimBoth keep cs) : c ∈ cs :=
  (List.dropWhile_sublist _).mem (mem_of_mem_trim_end h)

/-- Trimming the end keeps a first character that passes the test. -/
theorem trim_end_cons {keep : Char → Bool} {c : Char} (hc : keep c = true) (cs : List Char) :
    trimEnd keep (c :: cs) = c :: trimEnd keep cs := by
  have hlast : [c].dropWhile (fun c => !keep c) = [c] := by simp [hc]
  unfold trimEnd
  rw [List.reverse_cons, List.dropWhile_append, hlast]
  split
  · next hempty =>
      rw [List.isEmpty_iff.1 hempty]
      rfl
  · rw [List.reverse_append]
    rfl

/-- Trimming the end keeps a text that ends in a character which passes the test. -/
theorem trim_end_append_singleton {keep : Char → Bool} {c : Char} (hc : keep c = true)
    (front : List Char) : trimEnd keep (front ++ [c]) = front ++ [c] :=
  List.rdropWhile_concat_neg (fun c => !keep c) front c (by simp [hc])

/-- Trimming the end drops a last character that fails the test. -/
theorem trim_end_append_of_not {keep : Char → Bool} {c : Char} (hc : keep c = false)
    (cs : List Char) : trimEnd keep (cs ++ [c]) = trimEnd keep cs :=
  List.rdropWhile_concat_pos (fun c => !keep c) cs c (by simp [hc])

/-- Trimming the end keeps every prefix that is empty or ends in a character which passes the
test. -/
theorem prefix_trim_end_of_ends {keep : Char → Bool} {kept cs : List Char} (h : kept <+: cs)
    (hends : kept = [] ∨ ∃ front c, kept = front ++ [c] ∧ keep c = true) :
    kept <+: trimEnd keep cs := by
  obtain ⟨rest, rfl⟩ := h
  -- only characters behind the prefix can be trimmed
  induction rest using List.reverseRecOn with
  | nil =>
      rw [List.append_nil]
      rcases hends with rfl | ⟨front, c, rfl, hc⟩
      · exact List.nil_prefix
      · exact ⟨[], by rw [List.append_nil, trim_end_append_singleton hc]⟩
  | append_singleton rest c ih =>
      rw [← List.append_assoc]
      cases hc : keep c with
      | true =>
          rw [trim_end_append_singleton hc, List.append_assoc]
          exact List.prefix_append _ _
      | false =>
          rw [trim_end_append_of_not hc]
          exact ih

/-- Trimming the end keeps characters at the front that pass the test. -/
theorem prefix_trim_end {keep : Char → Bool} {front cs : List Char} (h : front <+: cs)
    (hkeep : ∀ c ∈ front, keep c = true) : front <+: trimEnd keep cs := by
  refine prefix_trim_end_of_ends h ?_
  rcases List.eq_nil_or_concat' front with hnil | ⟨rest, c, hconcat⟩
  · exact .inl hnil
  · exact .inr ⟨rest, c, hconcat, hkeep c (by simp [hconcat])⟩

/-- Trimming both ends keeps characters at the front that pass the test. -/
theorem prefix_trim_both {keep : Char → Bool} {front cs : List Char} (h : front <+: cs)
    (hkeep : ∀ c ∈ front, keep c = true) : front <+: trimBoth keep cs := by
  cases front with
  | nil => exact List.nil_prefix
  | cons c front =>
      obtain ⟨rest, rfl⟩ := h
      rw [trimBoth, List.cons_append, List.dropWhile_cons_of_neg (by simp [hkeep c])]
      exact prefix_trim_end (List.prefix_append (c :: front) rest) hkeep

/-- A cut keeps the letters and digits at the front that are under the limit. -/
theorem prefix_truncate_chars {front cs : List Char} {max : Nat} (h : front <+: cs)
    (hfront : ∀ c ∈ front, c.isAlphanum = true) (hmax : front.length ≤ max) :
    front <+: truncateChars cs max := by
  unfold truncateChars
  split
  · exact h
  · exact prefix_trim_end (List.prefix_take_iff.2 ⟨h, hmax⟩) hfront

/-- The small letters are the characters from 97 to 122. -/
theorem is_lower_iff (c : Char) :
    c.isLower = true ↔ 97 ≤ c.val.toNat ∧ c.val.toNat ≤ 122 := by
  show (decide (c.val ≥ 97) && decide (c.val ≤ 122)) = true ↔ _
  rw [Bool.and_eq_true, decide_eq_true_eq, decide_eq_true_eq, ge_iff_le,
    UInt32.le_iff_toNat_le, UInt32.le_iff_toNat_le]
  rfl

/-- The digits are the characters from 48 to 57. -/
theorem is_digit_iff (c : Char) :
    c.isDigit = true ↔ 48 ≤ c.val.toNat ∧ c.val.toNat ≤ 57 := by
  show (decide (c.val ≥ 48) && decide (c.val ≤ 57)) = true ↔ _
  rw [Bool.and_eq_true, decide_eq_true_eq, decide_eq_true_eq, ge_iff_le,
    UInt32.le_iff_toNat_le, UInt32.le_iff_toNat_le]
  rfl

/-- The letters and digits of ASCII are the characters in three ranges. -/
theorem is_alphanum_iff (c : Char) :
    c.isAlphanum = true ↔ (65 ≤ c.val.toNat ∧ c.val.toNat ≤ 90) ∨
      (97 ≤ c.val.toNat ∧ c.val.toNat ≤ 122) ∨ 48 ≤ c.val.toNat ∧ c.val.toNat ≤ 57 := by
  show (decide (c.val ≥ 65 ∧ c.val ≤ 90) || c.isLower || c.isDigit) = true ↔ _
  rw [Bool.or_eq_true, Bool.or_eq_true, is_lower_iff, is_digit_iff, decide_eq_true_eq, ge_iff_le,
    UInt32.le_iff_toNat_le, UInt32.le_iff_toNat_le, or_assoc]
  rfl

/-- Letters and digits of ASCII are ASCII characters. -/
theorem is_ascii_of_is_alphanum {c : Char} (hc : c.isAlphanum = true) : Text.isAscii c = true := by
  rw [is_alphanum_iff] at hc
  rw [Text.isAscii, decide_eq_true_eq]
  show c.val.toNat < 128
  omega

/-- The lower-case form of a letter or digit is a small letter or a digit. -/
theorem to_lower_is_lower_or_is_digit {c : Char} (hc : c.isAlphanum = true) :
    c.toLower.isLower = true ∨ c.toLower.isDigit = true := by
  rw [is_alphanum_iff] at hc
  rw [is_lower_iff, is_digit_iff]
  unfold Char.toLower
  split
  · next hupper =>
      -- the code of a capital letter is shifted without overflow
      simp only [UInt32.le_iff_toNat_le, ge_iff_le] at hupper
      refine .inl ?_
      show 97 ≤ (c.val + 32).toNat ∧ (c.val + 32).toNat ≤ 122
      have hfrom : 65 ≤ c.val.toNat := hupper.1
      have hto : c.val.toNat ≤ 90 := hupper.2
      have hmoved : (c.val + 32).toNat = c.val.toNat + 32 := by
        rw [UInt32.toNat_add]
        show (c.val.toNat + 32) % 4294967296 = c.val.toNat + 32
        omega
      omega
  · next hother =>
      simp only [UInt32.le_iff_toNat_le, ge_iff_le] at hother
      exact hc.resolve_left hother

/-- The lower-case form of an ASCII letter or digit is an ASCII letter or digit, and is itself in a
label. -/
theorem label_char_to_lower {c : Char} (hc : c.isAlphanum = true) :
    labelChar c.toLower = c.toLower ∧ c.toLower.isAlphanum = true := by
  unfold labelChar isLabelChar
  cases to_lower_is_lower_or_is_digit hc with
  | inl hlower =>
      refine ⟨by simp [hlower], (is_alphanum_iff _).2 (.inr (.inl ?_))⟩
      exact (is_lower_iff _).1 hlower
  | inr hdigit =>
      refine ⟨by simp [hdigit], (is_alphanum_iff _).2 (.inr (.inr ?_))⟩
      exact (is_digit_iff _).1 hdigit

/-- The label of a name that begins with letters or digits begins with the lower-case forms of
them. -/
theorem prefix_label_of {name : String} {front : List Char} (h : front <+: name.toList)
    (hfront : ∀ c ∈ front, c.isAlphanum = true) (hshort : front.length ≤ maxLabelLength) :
    front.map Char.toLower <+: (labelOf name).toList := by
  obtain ⟨rest, hrest⟩ := prefix_truncate_chars h hfront hshort
  have hkept : (front.map Char.toLower).map labelChar = front.map Char.toLower := by
    rw [List.map_map]
    exact List.map_congr_left fun c hc => (label_char_to_lower (hfront c hc)).1
  rw [labelOf, to_list_dns_name, Text.to_list_lowercase, to_list_truncate, ← hrest,
    Text.lower_after_append [] rest fun c hc => is_ascii_of_is_alphanum (hfront c hc),
    List.map_append, hkept]
  refine prefix_trim_both (List.prefix_append _ _) (List.forall_mem_map.2 fun c hc => ?_)
  exact (label_char_to_lower (hfront c hc)).2

/-- The label of a name that begins with a letter or digit is not empty. -/
theorem label_of_ne_empty {name : String} (hname : StartsAlphanumeric name) :
    labelOf name ≠ "" := by
  obtain ⟨c, cs, htext, hc⟩ := hname
  have hfirst : [c].map Char.toLower <+: (labelOf name).toList :=
    prefix_label_of (by simp [htext]) (by simpa using hc) (by simp [maxLabelLength])
  intro hempty
  rw [hempty] at hfirst
  exact List.cons_ne_nil _ _ (List.prefix_nil.1 hfirst)

/-- The characters of `dnsName` are small letters, digits and hyphens. -/
theorem is_label_char_of_mem_dns_name {value : String} {c : Char} (h : c ∈ (dnsName value).toList) :
    isLabelChar c = true := by
  rw [to_list_dns_name] at h
  obtain ⟨d, -, rfl⟩ := List.mem_map.1 (mem_of_mem_trim_both h)
  unfold labelChar
  split
  · assumption
  · rfl

/-- The characters of a label are small letters, digits and hyphens. -/
theorem is_label_char_of_mem_label_of {name : String} {c : Char} (h : c ∈ (labelOf name).toList) :
    isLabelChar c = true :=
  is_label_char_of_mem_dns_name h

end AgentOperator.Naming
