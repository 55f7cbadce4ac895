/-!
# Keyed entries

Lists of values under text keys, kept in strictly increasing code-point order of the keys. Objects
of documents and string maps are both made of them. `upsert` keeps the order
(`sorted_upsert`), and reading after writing gives what was written (`lookup_upsert`). In order,
entries are settled by what is read from them (`Sorted.eq_of_lookup_eq`).
-/

namespace AgentOperator.Entries

variable {α β : Type}

/-- The entries stand in strictly increasing order of their keys. -/
def Sorted (entries : List (String × α)) : Prop :=
  entries.Pairwise fun a b => a.1 < b.1

instance (entries : List (String × α)) : Decidable (Sorted entries) :=
  inferInstanceAs (Decidable (entries.Pairwise _))

/-- Puts a value under a key, in place of the value that the key had before. -/
def upsert (key : String) (value : α) : List (String × α) → List (String × α)
  | [] => [(key, value)]
  | entry :: rest =>
    if key < entry.1 then (key, value) :: entry :: rest
    else if key = entry.1 then (key, value) :: rest
    else entry :: upsert key value rest

/-- Removes the entry of a key. -/
def erase (key : String) (entries : List (String × α)) : List (String × α) :=
  entries.filter fun entry => entry.1 != key

/-- Puts entries into order, a later value of a key in place of an earlier one. -/
def normalize (entries : List (String × α)) : List (String × α) :=
  entries.foldl (fun acc entry => upsert entry.1 entry.2 acc) []

/-- An upsert adds no key but its own. -/
theorem mem_keys_upsert {key k : String} {value : α} {entries : List (String × α)}
    (h : k ∈ (upsert key value entries).map Prod.fst) :
    k = key ∨ k ∈ entries.map Prod.fst := by
  induction entries with
  | nil => simpa [upsert] using h
  | cons entry rest ih =>
    simp only [upsert] at h
    split at h
    · simpa using h
    · split at h
      · simp only [List.map_cons, List.mem_cons] at h ⊢
        grind
      · simp only [List.map_cons, List.mem_cons] at h ⊢
        grind

/-- An upsert keeps the order of the entries. -/
theorem sorted_upsert (key : String) (value : α) {entries : List (String × α)}
    (h : Sorted entries) : Sorted (upsert key value entries) := by
  induction entries with
  | nil => simp [upsert, Sorted]
  | cons entry rest ih =>
    simp only [Sorted, List.pairwise_cons] at h
    simp only [upsert]
    split
    · next hlt =>
      simp only [Sorted, List.pairwise_cons, List.mem_cons, forall_eq_or_imp]
      exact ⟨⟨hlt, fun e he => String.lt_trans hlt (h.1 e he)⟩, h.1, h.2⟩
    · next hlt =>
      split
      · next heq =>
        simp only [Sorted, List.pairwise_cons]
        exact ⟨fun e he => heq ▸ h.1 e he, h.2⟩
      · next hne =>
        simp only [Sorted, List.pairwise_cons]
        refine ⟨fun e he => ?_, ih h.2⟩
        have hgt : entry.1 < key := by
          rcases String.le_total key entry.1 with hle | hle
          · exact absurd (Std.lt_of_le_of_ne hle hne) hlt
          · exact Std.lt_of_le_of_ne hle fun heq => hne heq.symm
        rcases mem_keys_upsert (List.mem_map_of_mem (f := Prod.fst) he) with hk | hk
        · exact hk ▸ hgt
        · obtain ⟨d, hd, hde⟩ := List.mem_map.1 hk
          exact hde ▸ h.1 d hd

/-- Entries put into order are in order. -/
theorem sorted_normalize (entries : List (String × α)) : Sorted (normalize entries) := by
  have general (acc : List (String × α)) (h : Sorted acc) :
      Sorted (entries.foldl (fun acc entry => upsert entry.1 entry.2 acc) acc) := by
    induction entries generalizing acc with
    | nil => exact h
    | cons entry rest ih => exact ih _ (sorted_upsert _ _ h)
  exact general [] List.Pairwise.nil

/-- Looking a key up in a list looks at the first entry and then at the rest. -/
theorem lookup_cons_eq (k : String) (entry : String × α) (rest : List (String × α)) :
    (entry :: rest).lookup k = if k = entry.1 then some entry.2 else rest.lookup k := by
  rw [List.lookup_cons]
  by_cases h : k = entry.1
  · simp [h]
  · simp [beq_eq_false_iff_ne.2 h, h]

/-- Reading after an upsert gives the new value under its key and the old values elsewhere. -/
theorem lookup_upsert (key k : String) (value : α) (entries : List (String × α)) :
    (upsert key value entries).lookup k =
      if k = key then some value else entries.lookup k := by
  induction entries with
  | nil => simp [upsert, lookup_cons_eq]
  | cons entry rest ih =>
    simp only [upsert]
    split
    · simp [lookup_cons_eq]
    · split
      · next heq => simp only [lookup_cons_eq, heq]; grind
      · next hne => simp only [lookup_cons_eq, ih]; grind

/-- Reading after a removal gives nothing under the removed key and the old values elsewhere. -/
theorem lookup_erase (key k : String) (entries : List (String × α)) :
    (erase key entries).lookup k = if k = key then none else entries.lookup k := by
  induction entries with
  | nil => simp [erase]
  | cons entry rest ih =>
    simp only [erase, List.filter_cons, bne_iff_ne, ne_eq, ite_not] at ih ⊢
    split
    · next heq => rw [ih, lookup_cons_eq, heq]; grind
    · next hne => rw [lookup_cons_eq, ih, lookup_cons_eq]; grind

/-- A key that stands before all others is none of them. -/
theorem lookup_eq_none_of_lt {k : String} {entries : List (String × α)}
    (h : ∀ e ∈ entries, k < e.1) : entries.lookup k = none := by
  induction entries with
  | nil => rfl
  | cons entry rest ih =>
    have hne : k ≠ entry.1 := fun heq => String.lt_irrefl k (heq ▸ h entry (by simp))
    rw [lookup_cons_eq, if_neg hne, ih fun e he => h e (by simp [he])]

/-- Entries in order are the same if every key reads the same. -/
theorem Sorted.eq_of_lookup_eq {left right : List (String × α)} (hleft : Sorted left)
    (hright : Sorted right) (h : ∀ k, left.lookup k = right.lookup k) : left = right := by
  induction left generalizing right with
  | nil =>
    cases right with
    | nil => rfl
    | cons entry rest => simpa [lookup_cons_eq] using h entry.1
  | cons entry rest ih =>
    cases right with
    | nil => simpa [lookup_cons_eq] using h entry.1
    | cons other tail =>
      simp only [Sorted, List.pairwise_cons] at hleft hright
      have hkey : entry.1 = other.1 := by
        rcases String.le_total entry.1 other.1 with hle | hle
        · refine Classical.byContradiction fun hne => ?_
          have hlt := Std.lt_of_le_of_ne hle hne
          have hnone : (other :: tail).lookup entry.1 = none :=
            lookup_eq_none_of_lt fun e he => by
              rcases List.mem_cons.1 he with rfl | he
              · exact hlt
              · exact String.lt_trans hlt (hright.1 e he)
          simpa [hnone, lookup_cons_eq] using h entry.1
        · refine Classical.byContradiction fun hne => ?_
          have hlt := Std.lt_of_le_of_ne hle fun heq => hne heq.symm
          have hnone : (entry :: rest).lookup other.1 = none :=
            lookup_eq_none_of_lt fun e he => by
              rcases List.mem_cons.1 he with rfl | he
              · exact hlt
              · exact String.lt_trans hlt (hleft.1 e he)
          simpa [hnone, lookup_cons_eq] using h other.1
      have hvalue : entry.2 = other.2 := by simpa [lookup_cons_eq, hkey] using h entry.1
      have hrest : rest = tail := by
        refine ih hleft.2 hright.2 fun k => ?_
        by_cases hk : k = entry.1
        · rw [hk, lookup_eq_none_of_lt hleft.1, hkey, lookup_eq_none_of_lt hright.1]
        · have hkother : k ≠ other.1 := hkey ▸ hk
          simpa [lookup_cons_eq, hk, hkother] using h k
      rw [hrest, Prod.ext hkey hvalue]

end AgentOperator.Entries
