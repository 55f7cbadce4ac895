import AgentOperator.Proofs.Naming.Cut

/-!
# Labels of DNS subdomains

A cluster admits a resource only under a DNS subdomain: DNS labels with dots between them. The label
that is derived from such a name has every character of it up to the cut, with hyphens for the dots
(`label_of_eq`); lowering changes nothing, and nothing is trimmed but the end at the cut. So two
names have one label if and only if they have the same reading up to the cut (`label_of_eq_iff`),
and short names without dots are their own reading (`reading_of_plain`).
-/

namespace AgentOperator.Naming

/-- The text of a DNS label: small letters, digits and hyphens, with a letter or digit at both
ends. -/
structure IsLabel (cs : List Char) : Prop where
  chars : ∀ c ∈ cs, isLabelChar c = true
  first : ∃ c rest, cs = c :: rest ∧ c.isAlphanum = true
  last : ∃ front c, cs = front ++ [c] ∧ c.isAlphanum = true

/-- The text of one or more DNS labels with dots between them. -/
inductive IsDotted : List Char → Prop where
  | label {cs : List Char} (h : IsLabel cs) : IsDotted cs
  | dot {cs rest : List Char} (h : IsLabel cs) (hrest : IsDotted rest) :
      IsDotted (cs ++ '.' :: rest)

/-- The greatest length of a name that a cluster admits. -/
def maxSubdomainLength : Nat := 253

/-- A name is a DNS subdomain: DNS labels with dots between them, and not too long. -/
structure IsSubdomain (name : String) : Prop where
  dotted : IsDotted name.toList
  short : name.toList.length ≤ maxSubdomainLength

/-- A hyphen for a dot, and every other character unchanged. -/
def undot (c : Char) : Char := if c = '.' then '-' else c

/-- The reading of a name up to the cut: hyphens for its dots. -/
def reading (name : String) : List Char := (truncateChars name.toList maxLabelLength).map undot

/-- A decidable form of `IsLabel`. -/
theorem is_label_iff {cs : List Char} :
    IsLabel cs ↔ cs.all isLabelChar = true ∧ cs.head?.any Char.isAlphanum = true ∧
      cs.getLast?.any Char.isAlphanum = true := by
  simp only [List.all_eq_true, Option.any_eq_true, List.head?_eq_some_iff,
    List.getLast?_eq_some_iff]
  constructor
  · rintro ⟨hchars, ⟨c, rest, hfirst, hc⟩, front, d, hlast, hd⟩
    exact ⟨hchars, ⟨c, ⟨rest, hfirst⟩, hc⟩, d, ⟨front, hlast⟩, hd⟩
  · rintro ⟨hchars, ⟨c, ⟨rest, hfirst⟩, hc⟩, d, ⟨front, hlast⟩, hd⟩
    exact ⟨hchars, ⟨c, rest, hfirst, hc⟩, front, d, hlast, hd⟩

instance (cs : List Char) : Decidable (IsLabel cs) := decidable_of_iff _ is_label_iff.symm

/-- There is no dot in a label. -/
theorem IsLabel.dotless {cs : List Char} (h : IsLabel cs) : '.' ∉ cs := fun hdot =>
  absurd (h.chars _ hdot) (by decide)

/-- Labels with dots between them are dotted. -/
theorem is_dotted_intercalate {labels : List (List Char)} (hne : labels ≠ [])
    (hlabels : ∀ label ∈ labels, IsLabel label) : IsDotted (['.'].intercalate labels) := by
  induction labels with
  | nil => exact absurd rfl hne
  | cons label rest ih =>
      rw [List.forall_mem_cons] at hlabels
      by_cases hnil : rest = []
      · rw [hnil, List.intercalate_singleton]
        exact .label hlabels.1
      · rw [List.intercalate_cons_of_ne_nil hnil, List.append_assoc, List.singleton_append]
        exact .dot hlabels.1 (ih hnil hlabels.2)

/-- A text is dotted if and only if the pieces between its dots are labels. -/
theorem is_dotted_iff {cs : List Char} : IsDotted cs ↔ ∀ piece ∈ cs.splitOn '.', IsLabel piece := by
  constructor
  · intro h
    induction h with
    | label h =>
        rw [List.splitOn_eq_singleton h.dotless]
        exact List.forall_mem_singleton.2 h
    | dot h _ ih =>
        rw [List.splitOn_append_cons_self_of_not_mem h.dotless]
        exact List.forall_mem_cons.2 ⟨h, ih⟩
  · intro h
    have hdotted := is_dotted_intercalate (List.splitOn_ne_nil '.' cs) h
    rwa [List.intercalate_splitOn] at hdotted

instance (cs : List Char) : Decidable (IsDotted cs) := decidable_of_iff _ is_dotted_iff.symm

/-- A name is a DNS subdomain if and only if it is dotted and not too long. -/
theorem is_subdomain_iff {name : String} :
    IsSubdomain name ↔ IsDotted name.toList ∧ name.toList.length ≤ maxSubdomainLength :=
  ⟨fun h => ⟨h.dotted, h.short⟩, fun h => ⟨h.1, h.2⟩⟩

instance (name : String) : Decidable (IsSubdomain name) := decidable_of_iff _ is_subdomain_iff.symm

/-- Nothing stands between two dots that follow upon each other, so that they stand in no
subdomain. -/
example : IsSubdomain "web.api-2" ∧ ¬ IsSubdomain "web..api" := by decide

namespace IsDotted

variable {cs : List Char}

/-- The characters of a dotted text are those of labels, and dots. -/
theorem chars (h : IsDotted cs) : ∀ c ∈ cs, isLabelChar c = true ∨ c = '.' := by
  induction h with
  | label h => exact fun c hc => .inl (h.chars c hc)
  | dot h _ ih =>
      intro c hc
      rw [List.mem_append, List.mem_cons] at hc
      rcases hc with hc | rfl | hc
      · exact .inl (h.chars c hc)
      · exact .inr rfl
      · exact ih c hc

/-- A dotted text begins with a letter or digit. -/
theorem first (h : IsDotted cs) : ∃ c rest, cs = c :: rest ∧ c.isAlphanum = true := by
  cases h with
  | label h => exact h.first
  | dot h hrest =>
      obtain ⟨c, rest, rfl, hc⟩ := h.first
      exact ⟨c, _, rfl, hc⟩

/-- A dotted text ends in a letter or digit. -/
theorem last (h : IsDotted cs) : ∃ front c, cs = front ++ [c] ∧ c.isAlphanum = true := by
  induction h with
  | label h => exact h.last
  | @dot label rest h _ ih =>
      obtain ⟨front, c, rfl, hc⟩ := ih
      exact ⟨label ++ '.' :: front, c, by simp, hc⟩

/-- The cut of a dotted text has a letter or digit at both ends. -/
theorem truncate_chars_ends (h : IsDotted cs) :
    (∃ c rest, truncateChars cs maxLabelLength = c :: rest ∧ c.isAlphanum = true) ∧
      ∃ front c, truncateChars cs maxLabelLength = front ++ [c] ∧ c.isAlphanum = true :=
  (truncate_chars_ends_iff (by decide)).2 ⟨h.first, fun _ => h.last⟩

end IsDotted

/-- The characters of labels and dots are ASCII characters in lower case, and unchanged in a label
except for the dots. -/
theorem label_char_to_lower_of_dotted {c : Char} (hc : isLabelChar c = true ∨ c = '.') :
    Text.isAscii c = true ∧ labelChar c.toLower = undot c := by
  rcases hc with hc | rfl
  · have hrange : c = '-' ∨ (97 ≤ c.val.toNat ∧ c.val.toNat ≤ 122) ∨
        48 ≤ c.val.toNat ∧ c.val.toNat ≤ 57 := by
      rw [isLabelChar, Bool.or_eq_true, Bool.or_eq_true, is_lower_iff, is_digit_iff,
        decide_eq_true_eq] at hc
      rcases hc with (hlower | hdigit) | hhyphen
      · exact .inr (.inl hlower)
      · exact .inr (.inr hdigit)
      · exact .inl hhyphen
    rcases hrange with rfl | hrange
    · decide
    · have hascii : Text.isAscii c = true := by
        rw [Text.isAscii, decide_eq_true_eq]
        show c.val.toNat < 128
        omega
      have hlower : c.toLower = c := by
        unfold Char.toLower
        rw [dif_neg]
        simp only [UInt32.le_iff_toNat_le, ge_iff_le]
        intro hupper
        have hfrom : 65 ≤ c.val.toNat := hupper.1
        have hto : c.val.toNat ≤ 90 := hupper.2
        omega
      have hdot : c ≠ '.' := by
        intro heq
        subst heq
        revert hrange
        decide
      rw [hlower, labelChar, if_pos hc, undot, if_neg hdot]
      exact ⟨hascii, rfl⟩
  · decide

/-- A letter or digit is no dot. -/
theorem undot_of_is_alphanum {c : Char} (hc : c.isAlphanum = true) : undot c = c := by
  rw [undot, if_neg]
  intro heq
  subst heq
  cases hc

/-- `dnsName` of a text of label characters and dots with a letter or digit at both ends has hyphens
for the dots and is the same otherwise. -/
theorem dns_name_of_ends {value : String}
    (hchars : ∀ c ∈ value.toList, isLabelChar c = true ∨ c = '.')
    (hfirst : ∃ c rest, value.toList = c :: rest ∧ c.isAlphanum = true)
    (hlast : ∃ front c, value.toList = front ++ [c] ∧ c.isAlphanum = true) :
    dnsName value = String.ofList (value.toList.map undot) := by
  obtain ⟨first, rest, hfirst, hfirstChar⟩ := hfirst
  obtain ⟨front, last, hlast, hlastChar⟩ := hlast
  have hread : (value.toList.map Char.toLower).map labelChar = value.toList.map undot := by
    rw [List.map_map]
    exact List.map_congr_left fun c hc => (label_char_to_lower_of_dotted (hchars c hc)).2
  -- there is a letter or digit at both ends, so that nothing is trimmed
  have hends : value.toList.map undot = first :: rest.map undot ∧
      value.toList.map undot = front.map undot ++ [last] := by
    constructor
    · rw [hfirst, List.map_cons, undot_of_is_alphanum hfirstChar]
    · rw [hlast, List.map_append, List.map_singleton, undot_of_is_alphanum hlastChar]
  rw [dnsName, Text.to_list_lowercase,
    Text.lower_after_ascii [] fun c hc => (label_char_to_lower_of_dotted (hchars c hc)).1, hread,
    trimBoth, hends.1, List.dropWhile_cons_of_neg (by simp [hfirstChar]), ← hends.1, hends.2,
    trim_end_append_singleton hlastChar]

/-- The label of a dotted text is its reading. -/
theorem label_of_eq {name : String} (h : IsDotted name.toList) :
    labelOf name = String.ofList (reading name) := by
  obtain ⟨hfirst, hlast⟩ := h.truncate_chars_ends
  rw [← to_list_truncate] at hfirst hlast
  rw [labelOf, dns_name_of_ends (fun c hc => ?_) hfirst hlast, to_list_truncate, reading]
  rw [to_list_truncate] at hc
  exact h.chars c (mem_of_mem_truncate_chars hc)

/-- Two dotted texts have one label if and only if they have the same reading. -/
theorem label_of_eq_iff {first second : String} (hfirst : IsDotted first.toList)
    (hsecond : IsDotted second.toList) :
    labelOf first = labelOf second ↔ reading first = reading second := by
  rw [label_of_eq hfirst, label_of_eq hsecond, String.ofList_inj]

/-- A text without dots is unchanged by `undot`. -/
theorem map_undot_of_dotless {cs : List Char} (hdots : '.' ∉ cs) : cs.map undot = cs := by
  refine (List.map_congr_left fun c hc => ?_).trans (List.map_id cs)
  rw [undot, if_neg]
  · rfl
  · rintro rfl
    exact hdots hc

/-- A short name without dots is its own reading. -/
theorem reading_of_plain {name : String} (hshort : name.toList.length ≤ maxLabelLength)
    (hdots : '.' ∉ name.toList) : reading name = name.toList := by
  rw [reading, truncate_chars_of_le hshort, map_undot_of_dotless hdots]

/-- A label is a fixed point of `dnsName`. -/
theorem dns_name_of_is_label {value : String} (h : IsLabel value.toList) :
    dnsName value = value := by
  rw [dns_name_of_ends (fun c hc => .inl (h.chars c hc)) h.first h.last,
    map_undot_of_dotless h.dotless, String.ofList_toList]

/-- A subdomain begins with a letter or digit. -/
theorem IsSubdomain.starts_alphanumeric {name : String} (h : IsSubdomain name) :
    StartsAlphanumeric name := by
  obtain ⟨c, rest, hname, hc⟩ := h.dotted.first
  exact ⟨c, rest, hname, hc⟩

end AgentOperator.Naming
