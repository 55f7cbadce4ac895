import AgentOperator.Dict
import AgentOperator.Proofs.Json.Merge
import Mathlib.Data.List.Nodup

/-!
# Unordered tables

The iteration order of a hash map is unspecified, and may change with each insertion. `Table` is a
hash map together with an order, and its operations are relations: `Inserted` for one insertion,
`Filled` for a sequence of insertions, and `Arranged` for a sort by key that need not be stable. The
map of the entries of a table is independent of the order (`Table.toDict`). An insertion into a
table is one into its map (`Table.inserted_iff`), so are several (`Table.filled_iff`), and sorting
the entries of a table gives those of its map (`Table.arranged_iff`).
-/

namespace AgentOperator

variable {α : Type}

/-- Two insertions under different keys commute. -/
theorem Dict.insert_comm (d : Dict α) {key other : String} (hne : key ≠ other)
    (value new : α) :
    (d.insert key value).insert other new = (d.insert other new).insert key value := by
  refine Dict.ext_get? fun k => ?_
  simp only [Dict.get?_insert]
  by_cases hkey : k = key
  · subst hkey
    rw [if_neg hne, if_pos rfl, if_pos rfl]
  · rw [if_neg hkey, if_neg hkey]

namespace Entries

/-- An upsert into sorted entries adds the entry and removes the one under its key. -/
theorem upsert_perm (key : String) (value : α) {entries : List (String × α)}
    (h : Sorted entries) : (upsert key value entries).Perm ((key, value) :: erase key entries) := by
  induction entries with
  | nil => exact List.Perm.refl _
  | cons entry rest ih =>
      have hafter : ∀ e ∈ rest, entry.1 < e.1 := (List.pairwise_cons.1 h).1
      have hothers (hbefore : ∀ e ∈ rest, key < e.1) : (rest.filter fun e => e.1 != key) = rest :=
        List.filter_eq_self.2 fun e he => bne_iff_ne.2 (Std.ne_of_lt (hbefore e he)).symm
      simp only [upsert, erase, List.filter_cons]
      by_cases hlt : key < entry.1
      · have hne : entry.1 ≠ key := (Std.ne_of_lt hlt).symm
        rw [if_pos hlt, if_pos (bne_iff_ne.2 hne),
          hothers fun e he => String.lt_trans hlt (hafter e he)]
      · rw [if_neg hlt]
        by_cases heq : key = entry.1
        · rw [if_pos heq, if_neg (by simp [heq]), hothers fun e he => heq ▸ hafter e he]
        · rw [if_neg heq, if_pos (bne_iff_ne.2 (Ne.symm heq))]
          exact ((ih (List.pairwise_cons.1 h).2).cons entry).trans (List.Perm.swap _ _ _)

/-- An entry is the one under its key, if the keys are different. -/
theorem mem_iff_lookup {entries : List (String × α)} (hkeys : (entries.map Prod.fst).Nodup)
    {key : String} {value : α} : (key, value) ∈ entries ↔ entries.lookup key = some value := by
  induction entries with
  | nil => simp
  | cons entry rest ih =>
      rw [List.map_cons, List.nodup_cons] at hkeys
      rw [lookup_cons_eq, List.mem_cons, ih hkeys.2]
      by_cases hkey : key = entry.1
      · subst hkey
        simp [lookup_eq_none hkeys.1, Prod.ext_iff, eq_comm]
      · simp [hkey, Prod.ext_iff]

/-- Entries are sorted by a sort that need not be stable. -/
def Arranged (entries arranged : List (String × α)) : Prop :=
  arranged.Perm entries ∧ arranged.Pairwise fun a b => a.1 ≤ b.1

/-- What stands in order up to a permutation can be arranged in one way only. -/
theorem arranged_iff {entries listed arranged : List (String × α)} (h : Sorted entries)
    (hlisted : listed.Perm entries) : Arranged listed arranged ↔ arranged = entries := by
  constructor
  · intro ⟨hperm, hle⟩
    refine List.Perm.eq_of_pairwise ?_ hle (h.imp Std.le_of_lt) (hperm.trans hlisted)
    intro a b ha hb hab hba
    have hkey : a.1 = b.1 := Std.le_antisymm hab hba
    exact List.inj_on_of_nodup_map h.nodup ((hperm.trans hlisted).mem_iff.1 ha) hb hkey
  · intro heq
    subst heq
    exact ⟨hlisted.symm, h.imp Std.le_of_lt⟩

end Entries

/-- The entries of a hash map, each key once, in an unspecified order of iteration. -/
structure Table (α : Type) where
  entries : List (String × α)
  nodup : (entries.map Prod.fst).Nodup

namespace Table

/-- The map of the entries of a table. -/
def toDict (table : Table α) : Dict α := Dict.ofList table.entries

/-- The table that has the entries of a map in their order. -/
def ofDict (d : Dict α) : Table α := ⟨d.entries, d.sorted.nodup⟩

/-- A table that may result from an insertion: the entries of the other keys are kept, in any
order. -/
def Inserted (key : String) (value : α) (before after : Table α) : Prop :=
  after.entries.Perm ((key, value) :: Entries.erase key before.entries)

/-- `Filled before items after`: after inserting `items` one after another, the table `before` may
have become `after`. -/
inductive Filled : Table α → List (String × α) → Table α → Prop
  | done {before after : Table α} (hsame : after.entries.Perm before.entries) :
      Filled before [] after
  | insert {before next after : Table α} {key : String} {value : α} {items : List (String × α)}
      (hinsert : Inserted key value before next) (hrest : Filled next items after) :
      Filled before ((key, value) :: items) after

/-- The entries of a table are a permutation of those of its map. -/
theorem perm_to_dict (table : Table α) : table.entries.Perm table.toDict.entries := by
  have hkeys := table.toDict.sorted.nodup
  refine (List.perm_ext_iff_of_nodup (.of_map _ table.nodup) (.of_map _ hkeys)).2 ?_
  intro (key, value)
  rw [Entries.mem_iff_lookup table.nodup, Entries.mem_iff_lookup hkeys]
  exact Eq.congr_left (Entries.lookup_normalize table.nodup key).symm

/-- The map of a table is the one with its entries, sorted. -/
theorem to_dict_eq_iff {table : Table α} {d : Dict α} :
    table.toDict = d ↔ table.entries.Perm d.entries := by
  constructor
  · intro heq
    exact heq ▸ table.perm_to_dict
  · intro hperm
    have hentries : table.toDict.entries = d.entries :=
      (Entries.arranged_iff d.sorted (table.perm_to_dict.symm.trans hperm)).1
        ⟨List.Perm.refl _, table.toDict.sorted.imp Std.le_of_lt⟩
    exact Dict.ext_get? fun key => congrArg (List.lookup key) hentries

/-- The map of the table with the entries of a map is that map. -/
@[simp] theorem to_dict_of_dict (d : Dict α) : (ofDict d).toDict = d :=
  to_dict_eq_iff.2 (List.Perm.refl _)

/-- Tables have the same map if and only if their entries are permutations of each other. -/
theorem to_dict_eq_to_dict {first second : Table α} :
    first.toDict = second.toDict ↔ first.entries.Perm second.entries := by
  rw [to_dict_eq_iff]
  exact ⟨fun h => h.trans second.perm_to_dict.symm, fun h => h.trans second.perm_to_dict⟩

/-- An insertion into a table is one into its map. -/
theorem inserted_iff {before after : Table α} {key : String} {value : α} :
    Inserted key value before after ↔ after.toDict = before.toDict.insert key value := by
  have hmap : ((key, value) :: Entries.erase key before.entries).Perm
      (before.toDict.insert key value).entries :=
    ((before.perm_to_dict.filter _).cons _).trans
      (Entries.upsert_perm key value before.toDict.sorted).symm
  rw [to_dict_eq_iff]
  exact ⟨fun h => h.trans hmap, fun h => h.trans hmap.symm⟩

/-- A sequence of insertions into a table is one into its map. -/
theorem filled_iff {before after : Table α} {items : List (String × α)} :
    Filled before items after ↔
      after.toDict = items.foldl (fun d item => d.insert item.1 item.2) before.toDict := by
  induction items generalizing before with
  | nil =>
      rw [List.foldl_nil, to_dict_eq_to_dict]
      constructor
      · intro hfilled
        cases hfilled with
        | done hsame => exact hsame
      · exact .done
  | cons item items ih =>
      rw [List.foldl_cons]
      constructor
      · intro hfilled
        cases hfilled with
        | insert hinsert hrest => rw [← inserted_iff.1 hinsert, ← ih.1 hrest]
      · intro hafter
        have hnext := to_dict_of_dict (before.toDict.insert item.1 item.2)
        refine .insert (inserted_iff.2 hnext) (ih.2 ?_)
        rw [hnext]
        exact hafter

/-- To arrange the entries of a table gives those of its map. -/
theorem arranged_iff {table : Table α} {arranged : List (String × α)} :
    Entries.Arranged table.entries arranged ↔ arranged = table.toDict.entries :=
  Entries.arranged_iff table.toDict.sorted table.perm_to_dict

end Table

end AgentOperator
