import AgentOperator.Json.MergePatch

/-!
# Stores of objects

The objects of a cluster, each under a key that it is found by. A store is known by what it holds
under each key: every operation says what it leaves there, and touches no other key.
-/

namespace AgentOperator.Cluster

/-- The objects of a cluster with their keys. Of several entries with one key the first counts. -/
structure Store (κ : Type) where
  entries : List (κ × Json) := []

namespace Store

variable {κ : Type} [DecidableEq κ]

/-- The object under a key. -/
def get? (store : Store κ) (key : κ) : Option Json := store.entries.lookup key

/-- The store without the object under a key. -/
def remove (store : Store κ) (key : κ) : Store κ :=
  ⟨store.entries.filter fun entry => entry.1 ≠ key⟩

/-- The store with an object under a key, in place of what was there. -/
def put (store : Store κ) (key : κ) (object : Json) : Store κ :=
  ⟨(key, object) :: (store.remove key).entries⟩

/-- The store of some objects, the first one of each key. -/
def ofList (objects : List (κ × Json)) : Store κ :=
  objects.foldr (fun entry store => store.put entry.1 entry.2) {}

/-- The keys under which there are objects. -/
def keys (store : Store κ) : List κ := store.entries.map Prod.fst

/-- Looking up a key in entries from which those of another one were taken. -/
theorem lookup_filter_ne (key k : κ) (entries : List (κ × Json)) :
    (entries.filter fun entry => entry.1 ≠ key).lookup k =
      if k = key then none else entries.lookup k := by
  induction entries with
  | nil => simp
  | cons entry rest ih =>
    obtain ⟨name, object⟩ := entry
    by_cases hname : name = key
    · by_cases hk : k = key
      · simpa [hname, hk] using ih
      · simpa [hname, hk, List.lookup_cons, beq_false_of_ne hk] using ih
    · by_cases hk : k = name
      · simp [hname, hk]
      · simpa [hname, List.lookup_cons, beq_false_of_ne hk] using ih

/-- Removing an object leaves nothing under its key and all else as it was. -/
@[simp] theorem get?_remove (store : Store κ) (key k : κ) :
    (store.remove key).get? k = if k = key then none else store.get? k :=
  lookup_filter_ne key k store.entries

/-- Putting an object leaves it under its key and all else as it was. -/
@[simp] theorem get?_put (store : Store κ) (key k : κ) (object : Json) :
    (store.put key object).get? k = if k = key then some object else store.get? k := by
  have hremove := get?_remove store key k
  by_cases hk : k = key
  · simp [get?, put, hk]
  · simpa [get?, put, hk, List.lookup_cons, beq_false_of_ne hk] using hremove

end Store

end AgentOperator.Cluster
