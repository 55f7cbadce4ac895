import AgentOperator.Proofs.Ports.Grammar

/-!
# Verdicts on ports

The result of `validate` for any name and number. It accepts exactly the names of services and the
numbers of ports: a name consists of runs of letters and digits with single hyphens between them
(`is_hyphenated_iff`), and has a limited number of bytes. Everything else is refused with all its
faults, those of the name before that of the number (`validate_verdict`).
-/

namespace AgentOperator.Ports

/-- A text is a run of letters and digits. -/
structure IsRun (run : List Char) : Prop where
  nonempty : run ≠ []
  chars : ∀ c ∈ run, c.isAlphanum = true

/-- A name is one of a service: runs of letters and digits, one at least, with single hyphens
between them, a letter among them, and fifteen bytes at most. -/
structure IsServiceName (name : String) : Prop where
  runs : ∃ runs : List (List Char), runs ≠ [] ∧ (∀ run ∈ runs, IsRun run) ∧
    name.toList = ['-'].intercalate runs
  letter : ∃ c ∈ name.toList, c.isAlpha = true
  short : name.utf8ByteSize ≤ 15

/-- A name and a number have a fault. -/
def Fault.Holds (name : String) (number : Int32) : Fault → Prop
  | .nameTooLong => 15 < name.utf8ByteSize
  | .nameCharacters => name = "" ∨ ∃ c ∈ name.toList, c.isAlphanum = false ∧ c ≠ '-'
  | .nameWithoutLetter => ∀ c ∈ name.toList, c.isAlpha = false
  | .nameDoubledHyphen => ['-', '-'] <:+: name.toList
  | .nameOuterHyphen => ['-'] <+: name.toList ∨ ['-'] <:+ name.toList
  | .numberOutOfRange => number.toInt < 1 ∨ 65535 < number.toInt

/-- A run may precede a hyphenated text. -/
theorem IsRun.append {run rest : List Char} (h : IsRun run)
    (hrest : ∀ c : Char, c.isAlphanum = true → IsHyphenated (c :: rest)) :
    IsHyphenated (run ++ rest) := by
  obtain ⟨hne, hchars⟩ := h
  induction run with
  | nil => exact absurd rfl hne
  | cons c run ih =>
      rw [List.forall_mem_cons] at hchars
      by_cases hnil : run = []
      · rw [hnil]
        exact hrest c hchars.1
      · exact .cons hchars.1 (ih hnil hchars.2)

/-- Runs with single hyphens between them are a hyphenated text. -/
theorem is_hyphenated_intercalate {runs : List (List Char)} (hne : runs ≠ [])
    (hruns : ∀ run ∈ runs, IsRun run) : IsHyphenated (['-'].intercalate runs) := by
  induction runs with
  | nil => exact absurd rfl hne
  | cons run runs ih =>
      rw [List.forall_mem_cons] at hruns
      by_cases hnil : runs = []
      · rw [hnil, List.intercalate_singleton, ← List.append_nil run]
        exact hruns.1.append fun c hc => .single hc
      · rw [List.intercalate_cons_of_ne_nil hnil, List.append_assoc, List.singleton_append]
        exact hruns.1.append fun c hc => .hyphen hc (ih hnil hruns.2)

/-- A hyphenated text consists of runs. -/
theorem IsHyphenated.exists_runs {cs : List Char} (h : IsHyphenated cs) :
    ∃ runs : List (List Char), runs ≠ [] ∧ (∀ run ∈ runs, IsRun run) ∧
      cs = ['-'].intercalate runs := by
  induction h with
  | @single c hc =>
      refine ⟨[[c]], List.cons_ne_nil _ _, ?_, List.intercalate_singleton.symm⟩
      exact List.forall_mem_singleton.2 ⟨List.cons_ne_nil _ _, List.forall_mem_singleton.2 hc⟩
  | @cons c rest hc hrest ih =>
      obtain ⟨runs, hne, hruns, rfl⟩ := ih
      obtain ⟨run, runs, rfl⟩ := List.exists_cons_of_ne_nil hne
      rw [List.forall_mem_cons] at hruns
      -- the character joins the first run
      refine ⟨(c :: run) :: runs, List.cons_ne_nil _ _, List.forall_mem_cons.2 ⟨?_, hruns.2⟩, ?_⟩
      · exact ⟨List.cons_ne_nil _ _, List.forall_mem_cons.2 ⟨hc, hruns.1.chars⟩⟩
      · cases runs with
        | nil => rw [List.intercalate_singleton, List.intercalate_singleton]
        | cons next runs =>
            rw [List.intercalate_cons_cons, List.intercalate_cons_cons]
            rfl
  | @hyphen c rest hc hrest ih =>
      obtain ⟨runs, hne, hruns, rfl⟩ := ih
      -- the character is a run of its own
      refine ⟨[c] :: runs, List.cons_ne_nil _ _, List.forall_mem_cons.2 ⟨?_, hruns⟩, ?_⟩
      · exact ⟨List.cons_ne_nil _ _, List.forall_mem_singleton.2 hc⟩
      · rw [List.intercalate_cons_of_ne_nil hne]
        rfl

/-- A text is hyphenated if and only if it consists of runs with single hyphens between them. -/
theorem is_hyphenated_iff {cs : List Char} : IsHyphenated cs ↔
    ∃ runs : List (List Char), runs ≠ [] ∧ (∀ run ∈ runs, IsRun run) ∧
      cs = ['-'].intercalate runs := by
  refine ⟨IsHyphenated.exists_runs, ?_⟩
  rintro ⟨runs, hne, hruns, rfl⟩
  exact is_hyphenated_intercalate hne hruns

/-- The names of ports are those of services: each of their characters takes one byte. -/
theorem is_port_name_iff {name : String} : IsPortName name ↔ IsServiceName name := by
  have hsize (h : IsHyphenated name.toList) : name.utf8ByteSize = name.toList.length := by
    rw [← h.utf8_byte_size_of_list, String.ofList_toList]
  constructor
  · intro ⟨hhyphenated, hletter, hshort⟩
    exact ⟨is_hyphenated_iff.1 hhyphenated, hletter, (hsize hhyphenated).trans_le hshort⟩
  · intro ⟨hruns, hletter, hshort⟩
    have hhyphenated : IsHyphenated name.toList := is_hyphenated_iff.2 hruns
    exact ⟨hhyphenated, hletter, (hsize hhyphenated).symm.trans_le hshort⟩

/-- A text has a doubled hyphen if and only if two hyphens are an infix of it. -/
theorem has_doubled_hyphen_iff {cs : List Char} :
    hasDoubledHyphen cs = true ↔ ['-', '-'] <:+: cs := by
  fun_induction hasDoubledHyphen cs with
  | case1 rest => exact iff_of_true rfl ⟨[], rest, rfl⟩
  | case2 c rest hnot ih =>
      have hfront : ¬ ['-', '-'] <+: c :: rest := by
        rintro ⟨behind, hbehind⟩
        obtain ⟨hc, hrest⟩ := List.cons.inj hbehind
        exact hnot behind hc.symm hrest.symm
      rw [ih, List.infix_cons_iff, or_iff_right hfront]
  | case3 => simp

/-- A text has an outer hyphen if and only if one is a prefix or a suffix of it. -/
theorem has_outer_hyphen_iff {cs : List Char} :
    hasOuterHyphen cs = true ↔ ['-'] <+: cs ∨ ['-'] <:+ cs := by
  rw [hasOuterHyphen, Bool.or_eq_true, decide_eq_true_eq, decide_eq_true_eq,
    List.head?_eq_some_iff, List.getLast?_eq_some_iff]
  exact or_congr (exists_congr fun _ => eq_comm) (exists_congr fun _ => eq_comm)

/-- The faults that are found are those that hold. -/
theorem mem_faults_iff {name : String} {number : Int32} {fault : Fault} :
    fault ∈ nameFaults name ++ numberFaults number ↔ fault.Holds name number := by
  have hif (p : Prop) [Decidable p] (found : Fault) :
      fault ∈ (if p then [found] else []) ↔ p ∧ fault = found := by simp
  have hunless (p : Prop) [Decidable p] (found : Fault) :
      fault ∈ (if p then [] else [found]) ↔ ¬ p ∧ fault = found := by simp
  simp only [nameFaults, numberFaults, List.mem_append, hif, hunless]
  -- each fault is checked in one place
  cases fault <;> simp only [reduceCtorEq, and_false, or_false, false_or, and_true, Fault.Holds]
  case nameTooLong => exact Iff.rfl
  case nameCharacters => simp
  case nameWithoutLetter => simp
  case nameDoubledHyphen => exact has_doubled_hyphen_iff
  case nameOuterHyphen => exact has_outer_hyphen_iff
  case numberOutOfRange =>
    rw [Bool.and_eq_true, decide_eq_true_eq, decide_eq_true_eq]
    omega

/-- A port that is not accepted is refused with its faults. -/
theorem validate_eq_error {name : String} {number : Int32}
    (h : nameFaults name ++ numberFaults number ≠ []) :
    validate name number = .error ⟨name, number, nameFaults name ++ numberFaults number⟩ := by
  unfold validate
  split
  · next hnil => exact absurd hnil h
  · rfl

/-- The verdict on a port. A name and a number are accepted if and only if they are the name of a
service and the number of a port. Otherwise they are refused with all their faults, of which there
is at least one, and those of the name come before that of the number. -/
theorem validate_verdict (name : String) (number : Int32) :
    (validate name number = .ok () ↔
      IsServiceName name ∧ 1 ≤ number.toInt ∧ number.toInt ≤ 65535) ∧
    (validate name number = .ok () ∨ ∃ invalid, validate name number = .error invalid ∧
      invalid.name = name ∧ invalid.number = number ∧ invalid.faults ≠ [] ∧
      invalid.faults = nameFaults name ++ numberFaults number ∧
      ∀ fault, fault ∈ invalid.faults ↔ fault.Holds name number) := by
  constructor
  · rw [validate_eq_ok_iff, ← is_port_name_iff]
    exact ⟨fun h => ⟨h.name, h.number⟩, fun ⟨hname, hnumber⟩ => ⟨hname, hnumber⟩⟩
  · by_cases hnil : nameFaults name ++ numberFaults number = []
    · exact .inl (validate_eq_ok_iff_faultless.2 hnil)
    · exact .inr ⟨_, validate_eq_error hnil, rfl, rfl, hnil, rfl, fun _ => mem_faults_iff⟩

/-- A letter of two bytes takes a name of as many characters as allowed over the limit. -/
example : validate "receiver-port-é" 0 =
    .error ⟨"receiver-port-é", 0, [.nameTooLong, .nameCharacters, .numberOutOfRange]⟩ := by
  rfl

end AgentOperator.Ports
