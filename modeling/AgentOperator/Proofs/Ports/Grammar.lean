import AgentOperator.Manifest.Ports
import AgentOperator.Proofs.Naming.Label

/-!
# The grammar of valid ports

`validate` checks for faults one by one. A name and a number without faults are those of a grammar
(`validate_eq_ok_iff`): the name consists of letters and digits with single hyphens between them,
has a letter and is short, and the number is that of a port.
-/

namespace AgentOperator.Ports

/-- The text of runs of letters and digits with single hyphens between them. -/
inductive IsHyphenated : List Char → Prop where
  | single {c : Char} (hc : c.isAlphanum = true) : IsHyphenated [c]
  | cons {c : Char} {rest : List Char} (hc : c.isAlphanum = true) (hrest : IsHyphenated rest) :
      IsHyphenated (c :: rest)
  | hyphen {c : Char} {rest : List Char} (hc : c.isAlphanum = true) (hrest : IsHyphenated rest) :
      IsHyphenated (c :: '-' :: rest)

/-- A name is one of a port: runs of letters and digits with single hyphens between them, a letter
among them, and not too long. -/
structure IsPortName (name : String) : Prop where
  hyphenated : IsHyphenated name.toList
  letter : ∃ c ∈ name.toList, c.isAlpha = true
  short : name.toList.length ≤ maxNameLength

/-- A name and a number make a valid port. -/
structure IsPort (name : String) (number : Int32) : Prop where
  name : IsPortName name
  number : 1 ≤ number.toInt ∧ number.toInt ≤ 65535

/-- A letter or digit is no hyphen. -/
theorem ne_hyphen_of_is_alphanum {c : Char} (hc : c.isAlphanum = true) : c ≠ '-' := by
  intro heq
  subst heq
  cases hc

/-- No doubled hyphen begins with another character. -/
theorem has_doubled_hyphen_cons {c : Char} (hc : c ≠ '-') (cs : List Char) :
    hasDoubledHyphen (c :: cs) = hasDoubledHyphen cs := by
  rw [hasDoubledHyphen]
  intro _ hhyphen _
  exact hc hhyphen

/-- No doubled hyphen begins with a hyphen in front of another character. -/
theorem has_doubled_hyphen_hyphen_cons {c : Char} (hc : c ≠ '-') (cs : List Char) :
    hasDoubledHyphen ('-' :: c :: cs) = hasDoubledHyphen (c :: cs) := by
  rw [hasDoubledHyphen]
  intro _ _ htail
  exact hc (List.cons.inj htail).1

namespace IsHyphenated

variable {cs : List Char}

/-- The characters of a hyphenated text are letters, digits and hyphens. -/
theorem chars (h : IsHyphenated cs) : ∀ c ∈ cs, c.isAlphanum = true ∨ c = '-' := by
  induction h with
  | single hc => simp [hc]
  | cons hc _ ih => simpa [hc] using ih
  | hyphen hc _ ih => simpa [hc] using ih

/-- A hyphenated text begins with a letter or digit. -/
theorem first (h : IsHyphenated cs) : ∃ c rest, cs = c :: rest ∧ c.isAlphanum = true := by
  cases h with
  | single hc => exact ⟨_, _, rfl, hc⟩
  | cons hc _ => exact ⟨_, _, rfl, hc⟩
  | hyphen hc _ => exact ⟨_, _, rfl, hc⟩

/-- A hyphenated text ends in a letter or digit. -/
theorem last (h : IsHyphenated cs) : ∃ front c, cs = front ++ [c] ∧ c.isAlphanum = true := by
  induction h with
  | single hc => exact ⟨[], _, rfl, hc⟩
  | @cons c _ _ _ ih =>
      obtain ⟨front, d, rfl, hd⟩ := ih
      exact ⟨c :: front, d, rfl, hd⟩
  | @hyphen c _ _ _ ih =>
      obtain ⟨front, d, rfl, hd⟩ := ih
      exact ⟨c :: '-' :: front, d, rfl, hd⟩

/-- A hyphenated text has no two hyphens side by side. -/
theorem has_doubled_hyphen_eq_false (h : IsHyphenated cs) : hasDoubledHyphen cs = false := by
  induction h with
  | single hc => rw [has_doubled_hyphen_cons (ne_hyphen_of_is_alphanum hc), hasDoubledHyphen]
  | cons hc _ ih => rw [has_doubled_hyphen_cons (ne_hyphen_of_is_alphanum hc), ih]
  | hyphen hc hrest ih =>
      obtain ⟨d, rest, rfl, hd⟩ := hrest.first
      rw [has_doubled_hyphen_cons (ne_hyphen_of_is_alphanum hc),
        has_doubled_hyphen_hyphen_cons (ne_hyphen_of_is_alphanum hd), ih]

/-- A hyphenated text has no hyphen at an end. -/
theorem has_outer_hyphen_eq_false (h : IsHyphenated cs) : hasOuterHyphen cs = false := by
  obtain ⟨c, rest, hfirst, hc⟩ := h.first
  obtain ⟨front, d, hlast, hd⟩ := h.last
  have hhead : cs.head? = some c := by rw [hfirst, List.head?_cons]
  have hend : cs.getLast? = some d := by rw [hlast, List.getLast?_concat]
  simp [hasOuterHyphen, hhead, hend, ne_hyphen_of_is_alphanum hc, ne_hyphen_of_is_alphanum hd]

/-- A hyphenated text takes one byte for each character. -/
theorem utf8_byte_size_of_list (h : IsHyphenated cs) :
    (String.ofList cs).utf8ByteSize = cs.length := by
  have hsize (c : Char) (hc : c ∈ cs) : c.utf8Size = 1 := by
    rw [Char.utf8Size_eq_one_iff, UInt32.le_iff_toNat_le]
    rcases h.chars c hc with halnum | rfl
    · rw [Naming.is_alphanum_iff] at halnum
      show c.val.toNat ≤ 127
      omega
    · decide
  clear h
  induction cs with
  | nil => rfl
  | cons c cs ih =>
      rw [String.ofList_cons, String.utf8ByteSize_append, String.utf8ByteSize_singleton,
        hsize c List.mem_cons_self, ih fun d hd => hsize d (List.mem_cons_of_mem _ hd),
        List.length_cons, Nat.add_comm]

end IsHyphenated

/-- A text of letters, digits and hyphens is hyphenated if no hyphen is at an end or beside another
one. -/
theorem is_hyphenated_of_faultless : ∀ {cs : List Char}, cs ≠ [] →
    (∀ c ∈ cs, c.isAlphanum = true ∨ c = '-') → hasDoubledHyphen cs = false →
    cs.head? ≠ some '-' → cs.getLast? ≠ some '-' → IsHyphenated cs
  | [], hne, _, _, _, _ => absurd rfl hne
  | [c], _, hchars, _, hfirst, _ => by
      refine .single ((hchars c List.mem_cons_self).resolve_right fun hhyphen => ?_)
      exact hfirst (congrArg some hhyphen)
  | c :: d :: rest, _, hchars, hdoubled, hfirst, hlast => by
      have hc : c ≠ '-' := fun hhyphen => hfirst (congrArg some hhyphen)
      have halnum : c.isAlphanum = true := (hchars c List.mem_cons_self).resolve_right hc
      rw [has_doubled_hyphen_cons hc] at hdoubled
      rw [List.getLast?_cons_cons] at hlast
      by_cases hd : d = '-'
      · subst hd
        -- the hyphen is followed by another character
        cases rest with
        | nil => exact absurd rfl hlast
        | cons e rest =>
            have he : e ≠ '-' := by
              intro heq
              subst heq
              rw [hasDoubledHyphen] at hdoubled
              cases hdoubled
            rw [has_doubled_hyphen_hyphen_cons he] at hdoubled
            rw [List.getLast?_cons_cons] at hlast
            refine .hyphen halnum (is_hyphenated_of_faultless (List.cons_ne_nil _ _) ?_ hdoubled
              (fun heq => he (Option.some.inj heq)) hlast)
            exact fun x hx => hchars x (List.mem_cons_of_mem _ (List.mem_cons_of_mem _ hx))
      · refine .cons halnum (is_hyphenated_of_faultless (List.cons_ne_nil _ _) ?_ hdoubled
          (fun heq => hd (Option.some.inj heq)) hlast)
        exact fun x hx => hchars x (List.mem_cons_of_mem _ hx)

/-- A name has no fault if and only if it passes every check. -/
theorem name_faults_eq_nil_iff_checks {name : String} :
    nameFaults name = [] ↔
      name.utf8ByteSize ≤ maxNameLength ∧
        name.toList ≠ [] ∧ (∀ c ∈ name.toList, c.isAlphanum = true ∨ c = '-') ∧
        (∃ c ∈ name.toList, c.isAlpha = true) ∧
        hasDoubledHyphen name.toList = false ∧ hasOuterHyphen name.toList = false := by
  have hnone (p : Prop) [Decidable p] (fault : Fault) :
      (if p then [fault] else []) = [] ↔ ¬ p := by simp
  have hsome (p : Prop) [Decidable p] (fault : Fault) :
      (if p then [] else [fault]) = [] ↔ p := by simp
  simp only [nameFaults, List.append_eq_nil_iff, hnone, hsome, gt_iff_lt, Nat.not_lt,
    Bool.or_eq_true, not_or, List.isEmpty_iff, Bool.not_eq_true, Bool.not_eq_false',
    List.all_eq_true, decide_eq_true_eq, List.any_eq_true, ne_eq, and_assoc]

/-- A name has no fault if and only if it is one of a port. -/
theorem name_faults_eq_nil_iff {name : String} : nameFaults name = [] ↔ IsPortName name := by
  rw [name_faults_eq_nil_iff_checks]
  constructor
  · intro ⟨hsize, hne, hchars, hletter, hdoubled, houter⟩
    simp only [hasOuterHyphen, Bool.or_eq_false_iff, decide_eq_false_iff_not] at houter
    have hhyphenated := is_hyphenated_of_faultless hne hchars hdoubled houter.1 houter.2
    rw [← String.ofList_toList (s := name), hhyphenated.utf8_byte_size_of_list] at hsize
    exact ⟨hhyphenated, hletter, hsize⟩
  · intro ⟨hhyphenated, hletter, hshort⟩
    obtain ⟨c, rest, hfirst, -⟩ := hhyphenated.first
    have hsize : name.utf8ByteSize = name.toList.length := by
      rw [← hhyphenated.utf8_byte_size_of_list, String.ofList_toList]
    have hne : name.toList ≠ [] := by
      rw [hfirst]
      exact List.cons_ne_nil _ _
    exact ⟨hsize ▸ hshort, hne, hhyphenated.chars, hletter,
      hhyphenated.has_doubled_hyphen_eq_false, hhyphenated.has_outer_hyphen_eq_false⟩

/-- A number has no fault if and only if it is one of a port. -/
theorem number_faults_eq_nil_iff {number : Int32} :
    numberFaults number = [] ↔ 1 ≤ number.toInt ∧ number.toInt ≤ 65535 := by
  unfold numberFaults
  split
  · next h => simpa using h
  · next h => simpa using h

/-- A port is accepted if and only if it has no fault. -/
theorem validate_eq_ok_iff_faultless {name : String} {number : Int32} :
    validate name number = .ok () ↔ nameFaults name ++ numberFaults number = [] := by
  unfold validate
  split
  · next h => simp [h]
  · next h => simpa using h

/-- A port is accepted if and only if its name and its number are those of a port. -/
theorem validate_eq_ok_iff {name : String} {number : Int32} :
    validate name number = .ok () ↔ IsPort name number := by
  rw [validate_eq_ok_iff_faultless, List.append_eq_nil_iff, name_faults_eq_nil_iff,
    number_faults_eq_nil_iff]
  exact ⟨fun ⟨hname, hnumber⟩ => ⟨hname, hnumber⟩, fun h => ⟨h.name, h.number⟩⟩

/-- A default port is valid if and only if it is accepted under its name in a container. -/
theorem DefaultPort.is_valid_iff {port : DefaultPort} :
    port.isValid = true ↔ validate port.containerName port.port = .ok () := by
  rw [validate_eq_ok_iff_faultless, DefaultPort.isValid, List.isEmpty_iff]

end AgentOperator.Ports
