import AgentOperator.Json.Basic

/-!
# Merge patches

A merge patch is a document that says how another one changes: an object is merged into an object
key by key, null removes a key, and any other document takes the place of what was there.
-/

namespace AgentOperator.Json

mutual

/-- The document that a merge patch makes of another one. -/
def mergePatch (target : Json) : Json → Json
  | .obj changes =>
    match target with
    | .obj entries => .obj (mergeEntries entries changes)
    | _ => .obj (mergeEntries [] changes)
  | patch => patch

/-- The entries that the changes of a merge patch make of the entries of an object. -/
def mergeEntries (entries : List (String × Json)) : List (String × Json) → List (String × Json)
  | [] => entries
  | (key, change) :: changes =>
    let changed :=
      match change with
      | .null => Entries.erase key entries
      | change =>
        Entries.upsert key (mergePatch ((entries.lookup key).getD .null) change) entries
    mergeEntries changed changes

end

end AgentOperator.Json
