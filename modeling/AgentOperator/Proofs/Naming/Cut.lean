import AgentOperator.Proofs.Naming.Label

/-!
# Cuts

A cut of a text is a prefix of it (`truncate_chars_prefix_self`) that is no longer than the limit
(`length_truncate_chars_le`). A short text is not cut, and a cut one ends in a letter or digit
(`truncate_chars_eq_nil_or`), so that the ends of the result are determined by the text and its
length (`truncate_chars_ends_iff`).
-/

namespace AgentOperator.Naming

/-- A name ends in an ASCII letter or digit. -/
def EndsAlphanumeric (name : String) : Prop :=
  ∃ front c, name.toList = front ++ [c] ∧ c.isAlphanum = true

/-- A decidable form of `StartsAlphanumeric`. -/
theorem starts_alphanumeric_iff {name : String} :
    StartsAlphanumeric name ↔ name.toList.head?.any Char.isAlphanum = true := by
  simp only [StartsAlphanumeric, Option.any_eq_true, List.head?_eq_some_iff]
  exact ⟨fun ⟨c, rest, hname, hc⟩ => ⟨c, ⟨rest, hname⟩, hc⟩,
    fun ⟨c, ⟨rest, hname⟩, hc⟩ => ⟨c, rest, hname, hc⟩⟩

/-- A decidable form of `EndsAlphanumeric`. -/
theorem ends_alphanumeric_iff {name : String} :
    EndsAlphanumeric name ↔ name.toList.getLast?.any Char.isAlphanum = true := by
  simp only [EndsAlphanumeric, Option.any_eq_true, List.getLast?_eq_some_iff]
  exact ⟨fun ⟨front, c, hname, hc⟩ => ⟨c, ⟨front, hname⟩, hc⟩,
    fun ⟨c, ⟨front, hname⟩, hc⟩ => ⟨front, c, hname, hc⟩⟩

instance (name : String) : Decidable (StartsAlphanumeric name) :=
  decidable_of_iff _ starts_alphanumeric_iff.symm

instance (name : String) : Decidable (EndsAlphanumeric name) :=
  decidable_of_iff _ ends_alphanumeric_iff.symm

/-- A text that is trimmed at the end is empty or ends in a character which passes the test. -/
theorem trim_end_eq_nil_or (keep : Char → Bool) (cs : List Char) :
    trimEnd keep cs = [] ∨ ∃ front c, trimEnd keep cs = front ++ [c] ∧ keep c = true := by
  unfold trimEnd
  cases hrest : cs.reverse.dropWhile fun c => !keep c with
  | nil => exact .inl rfl
  | cons c rest =>
      refine .inr ⟨rest.reverse, c, List.reverse_cons, ?_⟩
      have hfirst := List.head?_dropWhile_not (fun c => !keep c) cs.reverse
      rw [hrest] at hfirst
      simpa using hfirst

variable {cs : List Char} {max : Nat}

/-- Trimming the end of a text leaves a prefix of it. -/
theorem trim_end_prefix_self (keep : Char → Bool) (cs : List Char) : trimEnd keep cs <+: cs :=
  List.rdropWhile_prefix (fun c => !keep c) cs

/-- The cut of a text that fits under the limit is the text. -/
theorem truncate_chars_of_le (h : cs.length ≤ max) : truncateChars cs max = cs := if_pos h

/-- The cut of a text is a prefix of it. -/
theorem truncate_chars_prefix_self (cs : List Char) (max : Nat) : truncateChars cs max <+: cs := by
  unfold truncateChars
  split
  · exact List.prefix_rfl
  · exact (trim_end_prefix_self _ _).trans (List.take_prefix _ _)

/-- The characters of a cut are characters of the text. -/
theorem mem_of_mem_truncate_chars {c : Char} (h : c ∈ truncateChars cs max) : c ∈ cs :=
  (truncate_chars_prefix_self cs max).subset h

/-- The cut of a text fits under the limit. -/
theorem length_truncate_chars_le (cs : List Char) (max : Nat) :
    (truncateChars cs max).length ≤ max := by
  unfold truncateChars
  split
  · assumption
  · exact (trim_end_prefix_self _ _).length_le.trans (List.length_take_le _ _)

/-- The cut of a text that is too long is empty or ends in a letter or digit. -/
theorem truncate_chars_eq_nil_or (h : max < cs.length) :
    truncateChars cs max = [] ∨
      ∃ front c, truncateChars cs max = front ++ [c] ∧ c.isAlphanum = true := by
  rw [truncateChars, if_neg (by omega)]
  exact trim_end_eq_nil_or _ _

/-- A cut keeps the letter or digit that a text begins with. -/
theorem truncate_chars_starts (hmax : 1 ≤ max)
    (h : ∃ c rest, cs = c :: rest ∧ c.isAlphanum = true) :
    ∃ c rest, truncateChars cs max = c :: rest ∧ c.isAlphanum = true := by
  obtain ⟨c, rest, rfl, hc⟩ := h
  have hfirst : [c] <+: truncateChars (c :: rest) max :=
    prefix_truncate_chars (List.prefix_append [c] rest) (List.forall_mem_singleton.2 hc) hmax
  obtain ⟨kept, hkept⟩ := hfirst
  exact ⟨c, kept, hkept.symm, hc⟩

/-- The cut of a text begins and ends in a letter or digit if and only if the text begins in one,
and also ends in one unless it is too long. -/
theorem truncate_chars_ends_iff (hmax : 1 ≤ max) :
    ((∃ c rest, truncateChars cs max = c :: rest ∧ c.isAlphanum = true) ∧
      ∃ front c, truncateChars cs max = front ++ [c] ∧ c.isAlphanum = true) ↔
      (∃ c rest, cs = c :: rest ∧ c.isAlphanum = true) ∧
        (cs.length ≤ max → ∃ front c, cs = front ++ [c] ∧ c.isAlphanum = true) := by
  by_cases hshort : cs.length ≤ max
  · rw [truncate_chars_of_le hshort]
    exact and_congr_right fun _ => ⟨fun hlast _ => hlast, fun hlast => hlast hshort⟩
  · constructor
    · rintro ⟨⟨c, kept, hkept, hc⟩, -⟩
      obtain ⟨cut, hcut⟩ := truncate_chars_prefix_self cs max
      exact ⟨⟨c, kept ++ cut, by rw [← hcut, hkept, List.cons_append], hc⟩,
        fun hle => absurd hle hshort⟩
    · rintro ⟨hfirst, -⟩
      have hkept := truncate_chars_starts hmax hfirst
      -- the first character is kept, so that the cut is not empty
      refine ⟨hkept, (truncate_chars_eq_nil_or (by omega)).resolve_left ?_⟩
      obtain ⟨c, kept, hcons, -⟩ := hkept
      simp [hcons]

/-- A cut keeps the letter or digit that a name begins with. -/
theorem starts_alphanumeric_truncate {name : String} (hmax : 1 ≤ max)
    (hname : StartsAlphanumeric name) : StartsAlphanumeric (truncate name max) := by
  rw [StartsAlphanumeric, to_list_truncate]
  exact truncate_chars_starts hmax hname

/-- When the cut of a name begins and ends in letters or digits. -/
theorem truncate_ends_iff {name : String} (hmax : 1 ≤ max) :
    StartsAlphanumeric (truncate name max) ∧ EndsAlphanumeric (truncate name max) ↔
      StartsAlphanumeric name ∧ (name.toList.length ≤ max → EndsAlphanumeric name) := by
  simp only [StartsAlphanumeric, EndsAlphanumeric, to_list_truncate]
  exact truncate_chars_ends_iff hmax

end AgentOperator.Naming
