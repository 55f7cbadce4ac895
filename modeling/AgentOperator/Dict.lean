import AgentOperator.Entries

/-!
# String maps

Maps from text keys to values, such as labels, annotations and the data of a config map. A `Dict`
holds its entries in code-point order of the keys, so two maps with the same entries are equal and
nothing that is made from one depends on the order in which its entries came.
-/

namespace AgentOperator

/-- A map from text keys to values, its entries in increasing order of the keys. -/
structure Dict (α : Type) where
  entries : List (String × α)
  sorted : Entries.Sorted entries
deriving DecidableEq

namespace Dict

variable {α : Type}

/-- The map without entries. -/
def empty : Dict α := ⟨[], List.Pairwise.nil⟩

instance : EmptyCollection (Dict α) := ⟨empty⟩
instance : Inhabited (Dict α) := ⟨empty⟩

/-- The map of some entries, the last one of each key. -/
def ofList (entries : List (String × α)) : Dict α :=
  ⟨Entries.normalize entries, Entries.sorted_normalize entries⟩

/-- The value of a key. -/
def get? (d : Dict α) (key : String) : Option α := d.entries.lookup key

/-- Puts a value under a key, in place of the value that the key had before. -/
def insert (d : Dict α) (key : String) (value : α) : Dict α :=
  ⟨Entries.upsert key value d.entries, Entries.sorted_upsert key value d.sorted⟩

/-- Puts all entries of `e` into `d`; where both have a key, the value of `e` stays. -/
def overlay (d e : Dict α) : Dict α :=
  e.entries.foldl (fun acc entry => acc.insert entry.1 entry.2) d

/-- Whether the map has no entry. -/
def isEmpty (d : Dict α) : Bool := d.entries.isEmpty

/-- The keys of the map, in order. -/
def keys (d : Dict α) : List String := d.entries.map Prod.fst

/-- Reading after an insertion gives the new value under its key and the old values elsewhere. -/
@[simp] theorem get?_insert (d : Dict α) (key k : String) (value : α) :
    (d.insert key value).get? k = if k = key then some value else d.get? k :=
  Entries.lookup_upsert key k value d.entries

/-- Maps are the same if every key has the same value in both. -/
theorem ext_get? {d e : Dict α} (h : ∀ key, d.get? key = e.get? key) : d = e := by
  cases d with
  | mk left hleft =>
    cases e with
    | mk right hright =>
      congr
      exact hleft.eq_of_lookup_eq hright h

@[simp] theorem get?_empty (k : String) : (empty : Dict α).get? k = none := rfl

end Dict

end AgentOperator
