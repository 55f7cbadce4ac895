import AgentOperator.Proofs.Codec.RoundTrip

/-!
# Null and unknown keys

A record is read from an object by the keys of its fields, and a field that takes null takes it for
absent. So other keys make no difference, and neither does whether a field is null or left out
(`Codec.record_decode_of_leaves_out`). The converse does not hold: a field with a default may be
absent, but may not be null.
-/

namespace AgentOperator

variable {α β σ : Type}

/-- The entry under a key is unchanged, or is null and left out. -/
def Json.LeavesOut (found kept : Option Json) : Prop :=
  kept = found ∨ (found = some .null ∧ kept = none)

namespace Codec

/-- A codec has no value for null. -/
class RefusesNull (codec : Codec α) : Prop where
  decode_null : ∀ value, codec.decode .null ≠ .ok value

instance : text.RefusesNull := ⟨nofun⟩

instance : boolean.RefusesNull := ⟨nofun⟩

instance {item : Codec α} : (list item).RefusesNull := ⟨nofun⟩

instance {value : Codec α} : (dict value).RefusesNull := ⟨nofun⟩

/-- The codec of a record refuses null. -/
theorem record_refuses_null {name : String} {fields : Fields α α} :
    (record name fields).RefusesNull :=
  ⟨nofun⟩

/-- The codec of a Kubernetes type refuses null. -/
theorem kubernetes_refuses_null {name : String} {fields : Fields α α} :
    (kubernetes name fields).RefusesNull :=
  ⟨nofun⟩

end Codec

namespace FieldRule

/-- A field that has a value for null has the same one where it is absent. -/
class Lenient (rule : FieldRule α) : Prop where
  absent_of_null : ∀ value, rule.read .null = .ok value → rule.absent = some value

instance {codec : Codec α} : (optional codec).Lenient where
  absent_of_null _ h := congrArg some (Except.ok.inj h)

instance {codec : Codec α} : (optionalInObject codec).Lenient where
  absent_of_null _ h := congrArg some (Except.ok.inj h)

instance {codec : Codec α} : (nullable codec).Lenient where
  absent_of_null _ h := congrArg some (Except.ok.inj h)

instance {codec : Codec α} [codec.RefusesNull] {default : α} :
    (defaulted codec default).Lenient where
  absent_of_null value h := absurd h (Codec.RefusesNull.decode_null value)

instance {codec : Codec α} [codec.RefusesNull] : (mandatory codec).Lenient where
  absent_of_null value h := absurd h (Codec.RefusesNull.decode_null value)

/-- A field is read as the same value when null is left out. -/
theorem read_field_of_leaves_out {rule : FieldRule α} [rule.Lenient] {key : String}
    {first second : String → Option Json} {value : α}
    (h : Fields.readField key rule first = .ok value)
    (hkey : Json.LeavesOut (first key) (second key)) :
    Fields.readField key rule second = .ok value := by
  cases hkey with
  | inl hsame => exact (Fields.read_field_congr hsame).trans h
  | inr hleft =>
      have hread := (Fields.read_field_some_iff hleft.1).1 h
      unfold Fields.readField
      simp only [hleft.2, Lenient.absent_of_null value hread]

end FieldRule

namespace Fields

/-- Fields are read by their keys only, and have the same values where a null is left out. -/
class Lenient (fields : Fields σ α) : Prop where
  decode_of_leavesOut : ∀ {first second : String → Option Json} {value : α},
    fields.decode first = .ok value →
    (∀ key ∈ fields.keys, Json.LeavesOut (first key) (second key)) →
    fields.decode second = .ok value

instance {make : α} : (build σ make).Lenient where
  decode_of_leavesOut h _ := h

instance {fields : Fields σ (α → β)} [fields.Lenient] {key : String} {get : σ → α}
    {rule : FieldRule α} [rule.Lenient] : (fields.field key get rule).Lenient where
  decode_of_leavesOut {first second result} h hkeys := by
    rw [keys_field] at hkeys
    obtain ⟨f, value, hf, hvalue, hresult⟩ := decode_field_iff.1 h
    refine decode_field_iff.2 ⟨f, value, ?_, ?_, hresult⟩
    · exact Lenient.decode_of_leavesOut hf fun name hname =>
        hkeys name (List.mem_append_left _ hname)
    · exact FieldRule.read_field_of_leaves_out hvalue
        (hkeys key (List.mem_append_right _ (List.mem_singleton.2 rfl)))

end Fields

/-- A record is read as the same value from an object in which nulls are left out and other keys are
changed. -/
theorem Codec.record_decode_of_leaves_out {name : String} {fields : Fields α α} [fields.Lenient]
    {first second : List (String × Json)} {value : α}
    (h : (record name fields).decode (.obj first) = .ok value)
    (hkeys : ∀ key ∈ fields.keys, Json.LeavesOut (first.lookup key) (second.lookup key)) :
    (record name fields).decode (.obj second) = .ok value :=
  Fields.decode_entries_eq_ok_iff.2
    (Fields.Lenient.decode_of_leavesOut (Fields.decode_entries_eq_ok_iff.1 h) hkeys)

end AgentOperator
