import AgentOperator.Proofs.Naming.Length

/-!
# Names of owned objects

The objects that an agent owns are named by the label of its name. If the name is in ASCII and
begins with a letter or digit, as every admitted name does, the label is a DNS label of at most 63
characters. A name that is such a label is its own label (`label_of_eq_self_iff`), so that deriving
names from a derived name gives that name again (`owned_names_usable`).
-/

namespace AgentOperator.Naming

/-- The names of the objects that an agent owns, derived from the name of the agent. -/
def ownedNames : List (String → String) := [configMap, serviceAccount, service, workload]

/-- The name of every owned object is the label of the agent's name. -/
theorem name_eq_label_of_mem {derive : String → String} (h : derive ∈ ownedNames) :
    derive = labelOf := by
  simp only [ownedNames, List.mem_cons, List.not_mem_nil, or_false] at h
  rcases h with rfl | rfl | rfl | rfl <;> rfl

variable {name : String}

/-- A short label is its own label. -/
theorem label_eq_self_of_is_label (h : IsLabel name.toList)
    (hshort : name.toList.length ≤ maxLabelLength) : labelOf name = name := by
  rw [label_of_eq (.label h), reading_of_plain hshort h.dotless, String.ofList_toList]

/-- The label of a name in ASCII is short. -/
theorem length_label_of_le_of_ascii (hascii : ∀ c ∈ name.toList, Text.isAscii c = true) :
    (labelOf name).toList.length ≤ maxLabelLength := by
  have hnone : Text.dottedI ∉ name.toList.take maxLabelLength := fun hmem =>
    absurd (hascii _ (List.mem_of_mem_take hmem)) (by decide)
  simpa [List.count_eq_zero_of_not_mem hnone] using length_label_of_le name

/-- A name in ASCII that begins with a letter or digit is its own label if and only if it is a short
label. -/
theorem label_of_eq_self_iff (hascii : ∀ c ∈ name.toList, Text.isAscii c = true)
    (hname : StartsAlphanumeric name) :
    labelOf name = name ↔ IsLabel name.toList ∧ name.toList.length ≤ maxLabelLength := by
  constructor
  · intro heq
    exact ⟨heq ▸ is_label_label_of hname, heq ▸ length_label_of_le_of_ascii hascii⟩
  · exact fun h => label_eq_self_of_is_label h.1 h.2

/-- The names of the objects that an agent owns are usable if the name of the agent is in ASCII and
begins with a letter or digit. Each is a DNS label of up to 63 characters; it is the name of the
agent if and only if that is such a label; and every name that is derived from it is the same name
again. -/
theorem owned_names_usable (hascii : ∀ c ∈ name.toList, Text.isAscii c = true)
    (hname : StartsAlphanumeric name) (derive : String → String) (hderive : derive ∈ ownedNames) :
    derive name ≠ "" ∧ IsLabel (derive name).toList ∧ (derive name).toList.length ≤ 63 ∧
      (derive name = name ↔ IsLabel name.toList ∧ name.toList.length ≤ 63) ∧
      ∀ again ∈ ownedNames, again (derive name) = derive name := by
  have hlabel : IsLabel (labelOf name).toList := is_label_label_of hname
  have hshort := length_label_of_le_of_ascii hascii
  rw [name_eq_label_of_mem hderive]
  refine ⟨label_of_ne_empty hname, hlabel, hshort, label_of_eq_self_iff hascii hname, ?_⟩
  intro again hagain
  rw [name_eq_label_of_mem hagain]
  exact label_eq_self_of_is_label hlabel hshort

/-- A name that is too long, with capitals, dots, an underscore and a hyphen at the cut. -/
def longCapitalName : String :=
  String.ofList ("Web.Api_".toList ++ List.replicate 54 'x' ++ "--tail".toList)

/-- The name of the service of a long name is a label, and the name of the workload that is derived
from it is the same. -/
theorem long_name_usable :
    (∀ c ∈ longCapitalName.toList, Text.isAscii c = true) ∧ StartsAlphanumeric longCapitalName ∧
      IsLabel (service longCapitalName).toList ∧
      (service longCapitalName).toList.length ≤ 63 ∧
      service longCapitalName ≠ longCapitalName ∧
      workload (service longCapitalName) = service longCapitalName := by
  have hascii : ∀ c ∈ longCapitalName.toList, Text.isAscii c = true := List.all_eq_true.1 rfl
  have hname : StartsAlphanumeric longCapitalName := by decide
  obtain ⟨-, hlabel, hshort, hsame, hagain⟩ :=
    owned_names_usable hascii hname service (by simp [ownedNames])
  refine ⟨hascii, hname, hlabel, hshort, fun heq => ?_, hagain workload (by simp [ownedNames])⟩
  exact absurd (hsame.1 heq).2 (by decide)

end AgentOperator.Naming
