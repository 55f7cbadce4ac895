import AgentOperator.Proofs.Naming.Cut

/-!
# The longest cuts

Which prefix of a text a cut is, and how cuts compose. A prefix may be left by a cut if it fits
under the limit and is empty or ends in a letter or digit (`IsCut`). The cut of a text that is too
long is the longest of these (`eq_truncate_chars_iff`). So the composition of two cuts is the cut at
the smaller limit (`truncate_chars_truncate_chars`).
-/

namespace AgentOperator.Naming

/-- A prefix of a text may be left by a cut: it fits under the limit, and is empty or ends in a
letter or digit. -/
structure IsCut (cs : List Char) (max : Nat) (kept : List Char) : Prop where
  begins : kept <+: cs
  fits : kept.length ≤ max
  ends : kept = [] ∨ ∃ front c, kept = front ++ [c] ∧ c.isAlphanum = true

/-- A prefix of a text is the longest one that a cut may leave. -/
structure IsLongestCut (cs : List Char) (max : Nat) (kept : List Char) : Prop extends
    IsCut cs max kept where
  longest : ∀ other, IsCut cs max other → other.length ≤ kept.length

variable {cs kept : List Char} {max : Nat}

/-- The cut of a text that is too long is the longest prefix that may be left. -/
theorem is_longest_cut_truncate_chars (h : max < cs.length) :
    IsLongestCut cs max (truncateChars cs max) where
  begins := truncate_chars_prefix_self cs max
  fits := length_truncate_chars_le cs max
  ends := truncate_chars_eq_nil_or h
  longest := by
    intro other hother
    rw [truncateChars, if_neg (by omega)]
    refine (prefix_trim_end_of_ends ?_ hother.ends).length_le
    exact List.prefix_take_iff.2 ⟨hother.begins, hother.fits⟩

namespace IsLongestCut

variable (h : IsLongestCut cs max kept)

include h

/-- The longest prefix is unique. -/
theorem eq {other : List Char} (hother : IsLongestCut cs max other) : kept = other := by
  have hle : kept.length ≤ other.length := hother.longest kept h.toIsCut
  have hge : other.length ≤ kept.length := h.longest other hother.toIsCut
  exact (List.prefix_of_prefix_length_le h.begins hother.begins hle).eq_of_length_le hge

/-- The longest prefix is the longest one for a smaller limit too, if it fits under it. -/
theorem tighten {limit : Nat} (hfits : kept.length ≤ limit) :
    IsLongestCut cs (min max limit) kept where
  begins := h.begins
  fits := le_min h.fits hfits
  ends := h.ends
  longest := fun other hother =>
    h.longest other ⟨hother.begins, hother.fits.trans (min_le_left _ _), hother.ends⟩

/-- The longest prefix is the longest one of a text that is longer behind the limit. -/
theorem extend {whole : List Char} (hwhole : cs <+: whole) (hmax : max ≤ cs.length) :
    IsLongestCut whole max kept where
  begins := h.begins.trans hwhole
  fits := h.fits
  ends := h.ends
  longest := by
    intro other hother
    have hbegins : other <+: cs :=
      List.prefix_of_prefix_length_le hother.begins hwhole (hother.fits.trans hmax)
    exact h.longest other ⟨hbegins, hother.fits, hother.ends⟩

end IsLongestCut

/-- The cut of a text that is too long is characterised as the longest prefix that may be left. -/
theorem eq_truncate_chars_iff (h : max < cs.length) :
    kept = truncateChars cs max ↔ IsLongestCut cs max kept := by
  constructor
  · rintro rfl
    exact is_longest_cut_truncate_chars h
  · exact fun hkept => hkept.eq (is_longest_cut_truncate_chars h)

/-- The composition of two cuts is the cut at the smaller limit. -/
theorem truncate_chars_truncate_chars (cs : List Char) (first second : Nat) :
    truncateChars (truncateChars cs first) second = truncateChars cs (min first second) := by
  by_cases hfirst : cs.length ≤ first
  · rw [truncate_chars_of_le hfirst]
    by_cases hle : second ≤ first
    · rw [min_eq_right hle]
    · rw [truncate_chars_of_le (by omega), truncate_chars_of_le (by omega)]
  · have hcut := is_longest_cut_truncate_chars (Nat.lt_of_not_le hfirst)
    rw [eq_truncate_chars_iff (by omega)]
    by_cases hsecond : (truncateChars cs first).length ≤ second
    · -- the first cut may have taken off enough for the second limit
      rw [truncate_chars_of_le hsecond]
      exact hcut.tighten hsecond
    · have hfits : (truncateChars cs first).length ≤ first := hcut.fits
      have hagain := is_longest_cut_truncate_chars (Nat.lt_of_not_le hsecond)
      rw [min_eq_right (by omega)]
      exact hagain.extend hcut.begins (by omega)

/-- The composition of two cuts of a text is the cut at the smaller limit. -/
theorem truncate_truncate (value : String) (first second : Nat) :
    truncate (truncate value first) second = truncate value (min first second) := by
  rw [truncate, to_list_truncate, truncate_chars_truncate_chars, truncate]

/-- Cuts are lawful. A cut is a prefix of the text that fits under the limit: the text itself if
that fits, and otherwise the longest prefix that is empty or ends in a letter or digit. The
composition of two cuts is the cut at the smaller limit, so that cuts are idempotent and commute. -/
theorem truncate_lawful (value : String) (first second : Nat) :
    (truncate value first).toList <+: value.toList ∧
      (truncate value first).toList.length ≤ first ∧
      (value.toList.length ≤ first → truncate value first = value) ∧
      (first < value.toList.length → ∀ kept : String,
        kept = truncate value first ↔ IsLongestCut value.toList first kept.toList) ∧
      truncate (truncate value first) second = truncate value (min first second) ∧
      truncate (truncate value first) first = truncate value first ∧
      truncate (truncate value first) second = truncate (truncate value second) first := by
  refine ⟨?_, ?_, fun hshort => ?_, fun hlong kept => ?_, truncate_truncate value first second,
    ?_, ?_⟩
  · rw [to_list_truncate]
    exact truncate_chars_prefix_self _ _
  · rw [to_list_truncate]
    exact length_truncate_chars_le _ _
  · rw [truncate, truncate_chars_of_le hshort, String.ofList_toList]
  · rw [← eq_truncate_chars_iff hlong, ← to_list_truncate, String.toList_inj]
  · rw [truncate_truncate, min_self]
  · rw [truncate_truncate, truncate_truncate, min_comm]

/-- A name that is cut behind a hyphen and then within the word before it, and one that is short. -/
theorem receiver_cut_twice :
    let name := "agent-metrics-receiver"
    14 < name.toList.length ∧ truncate name 14 = "agent-metrics" ∧
      IsLongestCut name.toList 14 "agent-metrics".toList ∧
      truncate (truncate name 14) 8 = "agent-me" ∧ truncate (truncate name 8) 14 = "agent-me" ∧
      "agent".toList.length ≤ 14 ∧ truncate "agent" 14 = "agent" := by
  intro name
  have hlong : 14 < name.toList.length := by decide
  have hshort : "agent".toList.length ≤ 14 := by decide
  have hcut : truncate name 14 = "agent-metrics" := by decide
  obtain ⟨-, -, -, hlongest, htwice, -, hswap⟩ := truncate_lawful name 14 8
  have hboth : truncate (truncate name 14) 8 = "agent-me" := htwice.trans (by decide)
  refine ⟨hlong, hcut, (hlongest hlong _).1 hcut.symm, hboth, hswap ▸ hboth, hshort, ?_⟩
  exact (truncate_lawful "agent" 14 8).2.2.1 hshort

end AgentOperator.Naming
