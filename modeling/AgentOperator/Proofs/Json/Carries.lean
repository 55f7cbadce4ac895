import AgentOperator.Json.Basic
import AgentOperator.Proofs.Json.Merge

/-!
# Documents within documents

When a document carries all the fields of another one (`Json.Carries`), and when two documents of an
object differ in the revision only, which a server writes (`Json.Revised`).
-/

namespace AgentOperator.Json

/-- The document `found` has all that `wanted` has, and may have more: further keys of its objects
and further items of its arrays. -/
inductive Carries : Json → Json → Prop where
  | same (j : Json) : Carries j j
  | obj {wanted found : List (String × Json)} (part : String → Json)
      (hthere : ∀ key j, wanted.lookup key = some j → found.lookup key = some (part key))
      (hparts : ∀ key j, wanted.lookup key = some j → Carries j (part key)) :
      Carries (.obj wanted) (.obj found)
  | arr {wanted found : List Json} (part : Json → Json) (hthere : ∀ j ∈ wanted, part j ∈ found)
      (hparts : ∀ j ∈ wanted, Carries j (part j)) : Carries (.arr wanted) (.arr found)

/-- An object is carried by itself with an entry under a key that it did not have. -/
theorem carries_set {wanted : Json} {key : String} (h : wanted.get? key = none) (value : Json) :
    Carries wanted (wanted.set key value) := by
  cases wanted with
  | obj entries =>
      refine .obj (fun name => ((Entries.upsert key value entries).lookup name).getD .null) ?_ ?_
      · intro name j hname
        have hne : name ≠ key := by
          intro heq
          subst heq
          rw [get?] at h
          rw [h] at hname
          cases hname
        rw [Entries.lookup_upsert, if_neg hne, hname]
        rfl
      · intro name j hname
        have hne : name ≠ key := by
          intro heq
          subst heq
          rw [get?] at h
          rw [h] at hname
          cases hname
        rw [Entries.lookup_upsert, if_neg hne, hname]
        exact .same j
  | _ => exact .same _

/-- The entries of an object after one was set. -/
theorem get?_set_obj (entries : List (String × Json)) (key name : String) (value : Json) :
    (set (.obj entries) key value).get? name =
      if name = key then some value else (Json.obj entries).get? name :=
  Entries.lookup_upsert key name value entries

/-- An object with another revision in its metadata. -/
def withRevision (version : String) (object : Json) : Json :=
  match object.get? "metadata" with
  | some metadata => object.set "metadata" (metadata.set "resourceVersion" (.str version))
  | none => object

/-- The document `object`, or that with another revision in its metadata. -/
inductive Revised (object : Json) : Json → Prop where
  | same : Revised object object
  | revised (version : String) : Revised object (object.withRevision version)

/-- A revised object has the same entries except the metadata, and the same metadata except the
revision. -/
theorem Revised.get? {entries : List (String × Json)} {found : Json}
    (h : Revised (.obj entries) found) :
    (∃ found', found = .obj found') ∧
      (∀ key, key ≠ "metadata" → found.get? key = entries.lookup key) ∧
      (found.get? "metadata").map (·.erase "resourceVersion") =
        (entries.lookup "metadata").map (·.erase "resourceVersion") := by
  cases h with
  | same => exact ⟨⟨entries, rfl⟩, fun _ _ => rfl, rfl⟩
  | revised version =>
      unfold withRevision
      cases hmetadata : (Json.obj entries).get? "metadata" with
      | none => exact ⟨⟨entries, rfl⟩, fun _ _ => rfl, rfl⟩
      | some metadata =>
          refine ⟨⟨_, rfl⟩, ?_, ?_⟩
          · intro key hkey
            simp only [get?_set_obj, if_neg hkey]
            rfl
          · have hlookup : entries.lookup "metadata" = some metadata := hmetadata
            simp only [get?_set_obj, if_true, hlookup, Option.map_some, Option.some.injEq]
            cases metadata with
            | obj inner =>
                show Json.obj (Entries.erase _ (Entries.upsert _ _ _)) = .obj (Entries.erase _ _)
                rw [Entries.erase_upsert]
            | _ => rfl

end AgentOperator.Json
