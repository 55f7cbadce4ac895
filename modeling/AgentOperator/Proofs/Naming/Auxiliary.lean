import AgentOperator.Proofs.Naming.Subdomain

/-!
# Names of auxiliary volumes

The volume of an auxiliary config map is named after the config map, with a stem in front that
`dnsName` preserves (`stem_prefix_auxiliary_volume`). If the name of the config map is a DNS
subdomain, the name of the volume is the reading of stem and subdomain up to the cut
(`auxiliary_volume_eq_iff`), so that short subdomains without dots have volumes of different names
(`auxiliary_reading_of_plain`).
-/

namespace AgentOperator.Naming

/-- The word that the names of all auxiliary volumes begin with: the stem without the hyphen, which
is trimmed if nothing is left behind it. -/
def auxiliaryWord : String := "configmap"

/-- The reading of the name of a config map behind the stem, up to the cut. -/
def auxiliaryReading (name : String) : List Char := reading (auxiliaryStem ++ name)

/-- The names of auxiliary volumes begin with the stem. -/
theorem stem_prefix_auxiliary_volume (name : String) :
    auxiliaryWord.toList <+: (auxiliaryVolume name).toList := by
  have hstem : auxiliaryWord.toList <+: (auxiliaryStem ++ name).toList := by
    rw [String.toList_append]
    exact (by decide : auxiliaryWord.toList <+: auxiliaryStem.toList).trans
      (List.prefix_append _ _)
  exact prefix_label_of hstem (List.all_eq_true.1 (by decide)) (by decide)

/-- The stem followed by a label is a label. -/
theorem IsLabel.stem {cs : List Char} (h : IsLabel cs) : IsLabel (auxiliaryStem.toList ++ cs) := by
  obtain ⟨front, c, rfl, hc⟩ := h.last
  refine ⟨fun d hd => ?_, ⟨'c', _, rfl, rfl⟩, auxiliaryStem.toList ++ front, c, ?_, hc⟩
  · rcases List.mem_append.1 hd with hd | hd
    · exact List.all_eq_true.1 (by decide : auxiliaryStem.toList.all isLabelChar = true) d hd
    · exact h.chars d hd
  · rw [List.append_assoc]

/-- The stem followed by labels with dots between them is such a text. -/
theorem IsDotted.stem {cs : List Char} (h : IsDotted cs) :
    IsDotted (auxiliaryStem.toList ++ cs) := by
  cases h with
  | label h => exact .label h.stem
  | dot h hrest =>
      rw [← List.append_assoc]
      exact .dot h.stem hrest

/-- The volumes of config maps whose names are subdomains have one name if and only if the names of
the config maps have the same reading behind the stem. -/
theorem auxiliary_volume_eq_iff {first second : String} (hfirst : IsSubdomain first)
    (hsecond : IsSubdomain second) :
    auxiliaryVolume first = auxiliaryVolume second ↔
      auxiliaryReading first = auxiliaryReading second := by
  refine label_of_eq_iff ?_ ?_
  · rw [String.toList_append]
    exact hfirst.dotted.stem
  · rw [String.toList_append]
    exact hsecond.dotted.stem

/-- The reading of a name without dots that is short enough behind the stem is the name. -/
theorem auxiliary_reading_of_plain {name : String}
    (hshort : (auxiliaryStem ++ name).toList.length ≤ maxLabelLength) (hdots : '.' ∉ name.toList) :
    auxiliaryReading name = auxiliaryStem.toList ++ name.toList := by
  rw [auxiliaryReading, reading_of_plain hshort, String.toList_append]
  rw [String.toList_append, List.mem_append, not_or]
  exact ⟨by decide, hdots⟩

end AgentOperator.Naming
