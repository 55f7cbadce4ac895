import AgentOperator.Json.MergePatch

/-!
# Lookups in merged objects

The entries of merged objects by their keys. `lookup_normalize` looks up a key in an object that is
made of entries, and `lookup_merge_entries` in one to which a merge patch was applied: a key of the
patch has the value of the patch, and any other key the earlier value. This holds for patches whose
values are neither null nor objects, for which merging has rules of its own.
-/

namespace AgentOperator

namespace Entries

variable {α : Type}

/-- A key that is not among the entries has no value. -/
theorem lookup_eq_none {key : String} {entries : List (String × α)}
    (h : key ∉ entries.map Prod.fst) : entries.lookup key = none := by
  induction entries with
  | nil => rfl
  | cons entry entries ih =>
      rw [List.map_cons, List.mem_cons, not_or] at h
      rw [lookup_cons_eq, if_neg h.1, ih h.2]

/-- The values of the keys after entries with different keys were inserted. -/
theorem lookup_foldl_upsert {entries : List (String × α)} (hkeys : (entries.map Prod.fst).Nodup)
    (before : List (String × α)) (key : String) :
    (entries.foldl (fun acc entry => upsert entry.1 entry.2 acc) before).lookup key =
      (entries.lookup key).or (before.lookup key) := by
  induction entries generalizing before with
  | nil => rfl
  | cons entry entries ih =>
      rw [List.map_cons, List.nodup_cons] at hkeys
      rw [List.foldl_cons, ih hkeys.2, lookup_upsert, lookup_cons_eq]
      by_cases hkey : key = entry.1
      · rw [if_pos hkey, if_pos hkey, hkey, lookup_eq_none hkeys.1]
        rfl
      · rw [if_neg hkey, if_neg hkey]

/-- Sorting entries with different keys does not change the values of the keys. -/
theorem lookup_normalize {entries : List (String × α)} (hkeys : (entries.map Prod.fst).Nodup)
    (key : String) : (normalize entries).lookup key = entries.lookup key := by
  rw [normalize, lookup_foldl_upsert hkeys]
  simp

/-- An upsert adds no entry but its own. -/
theorem mem_upsert {key : String} {value : α} {entries : List (String × α)} {entry : String × α}
    (h : entry ∈ upsert key value entries) : entry = (key, value) ∨ entry ∈ entries := by
  induction entries with
  | nil => exact .inl (List.mem_singleton.1 h)
  | cons other entries ih =>
      unfold upsert at h
      split at h
      · exact List.mem_cons.1 h
      · split at h
        · exact (List.mem_cons.1 h).imp_right (List.mem_cons_of_mem _)
        · cases List.mem_cons.1 h with
          | inl heq => exact .inr (List.mem_cons.2 (.inl heq))
          | inr hmem => exact (ih hmem).imp_right (List.mem_cons_of_mem _)

/-- Insertions add no entries but their own. -/
theorem mem_foldl_upsert {entries before : List (String × α)} {entry : String × α}
    (h : entry ∈ entries.foldl (fun acc entry => upsert entry.1 entry.2 acc) before) :
    entry ∈ entries ∨ entry ∈ before := by
  induction entries generalizing before with
  | nil => exact .inr h
  | cons other entries ih =>
      cases ih h with
      | inl hmem => exact .inl (List.mem_cons_of_mem _ hmem)
      | inr hmem =>
          cases mem_upsert hmem with
          | inl heq => exact .inl (List.mem_cons.2 (.inl heq))
          | inr hmem => exact .inr hmem

/-- The sorted entries are among the entries. -/
theorem mem_normalize {entries : List (String × α)} {entry : String × α}
    (h : entry ∈ normalize entries) : entry ∈ entries :=
  (mem_foldl_upsert h).resolve_right List.not_mem_nil

/-- A key that is not among the entries has no value in the sorted ones. -/
theorem lookup_normalize_eq_none {key : String} {entries : List (String × α)}
    (h : key ∉ entries.map Prod.fst) : (normalize entries).lookup key = none := by
  refine lookup_eq_none fun hmem => ?_
  obtain ⟨entry, hentry, rfl⟩ := List.mem_map.1 hmem
  exact h (List.mem_map_of_mem (mem_normalize hentry))

/-- Erasing a key after an upsert under it is erasing the key. -/
theorem erase_upsert (key : String) (value : α) (entries : List (String × α)) :
    erase key (upsert key value entries) = erase key entries := by
  induction entries with
  | nil => simp [upsert, erase]
  | cons entry entries ih =>
      unfold upsert
      split
      · simp [erase]
      · split
        · next hkey => simp [erase, hkey]
        · unfold erase at ih ⊢
          rw [List.filter_cons, ih, List.filter_cons]

/-- The keys of sorted entries are different. -/
theorem Sorted.nodup {entries : List (String × α)} (h : Sorted entries) :
    (entries.map Prod.fst).Nodup := by
  refine List.pairwise_map.2 (h.imp ?_)
  intro entry other hlt heq
  exact String.lt_irrefl _ (heq ▸ hlt)

end Entries

namespace Json

/-- A document with which a merge patch replaces another one unchanged. -/
def IsPlain : Json → Prop
  | .null | .obj _ => False
  | _ => True

/-- A key of the patch has the value of the patch after a merge, and any other key the earlier
value. -/
theorem lookup_merge_entries {changes : List (String × Json)}
    (hkeys : (changes.map Prod.fst).Nodup) (hplain : ∀ change ∈ changes, change.2.IsPlain)
    (entries : List (String × Json)) (key : String) :
    (mergeEntries entries changes).lookup key = (changes.lookup key).or (entries.lookup key) := by
  induction changes generalizing entries with
  | nil => rfl
  | cons change changes ih =>
      obtain ⟨name, value⟩ := change
      rw [List.map_cons, List.nodup_cons] at hkeys
      have hvalue : value.IsPlain := hplain _ (List.mem_cons_self ..)
      -- a plain value replaces any earlier one
      have hmerged : mergeEntries entries ((name, value) :: changes) =
          mergeEntries (Entries.upsert name value entries) changes := by
        cases value with
        | null => exact hvalue.elim
        | obj inner => exact hvalue.elim
        | _ => rfl
      rw [hmerged, ih hkeys.2 (fun other hother => hplain other (List.mem_cons_of_mem _ hother)),
        Entries.lookup_upsert, Entries.lookup_cons_eq]
      by_cases hkey : key = name
      · rw [if_pos hkey, if_pos hkey, hkey, Entries.lookup_eq_none hkeys.1]
        rfl
      · rw [if_neg hkey, if_neg hkey]

/-- A patch that is an object is merged into the entries of an object, and into no entries
otherwise. -/
theorem merge_patch_obj (target : Json) (changes : List (String × Json)) :
    ∃ before, mergePatch target (.obj changes) = .obj (mergeEntries before changes) ∧
      (target = .obj before ∨ before = []) ∧ ∀ key, target.get? key = before.lookup key := by
  cases target with
  | obj before => exact ⟨before, rfl, .inl rfl, fun _ => rfl⟩
  | _ => exact ⟨[], rfl, .inr rfl, fun _ => rfl⟩

end Json

end AgentOperator
