import AgentOperator.Codec.Fields
import AgentOperator.Proofs.Json.Merge

/-!
# Round trips of codecs

A codec that reads back what it writes is lawful (`Codec.Lawful`), and so is a rule for a field. The
codec of a record is lawful if the rules of its fields are and its keys are different:
`Fields.Reads` gives the result of reading the fields of a value from any entries that agree with
the written ones, and `Fields.Lawful` is proved field by field. It also says that a record can be
read from an object each of whose entries comes from one or the other of two objects that can.
Conversely, `Fields.decode_field_iff` takes apart what was read.
-/

namespace AgentOperator

variable {α β σ : Type}

namespace Codec

/-- A codec reads back what it writes, and writes no null, which would be read as absent. -/
class Lawful (codec : Codec α) : Prop where
  decode_encode : ∀ value, codec.decode (codec.encode value) = .ok value
  encode_ne_null : ∀ value, codec.encode value ≠ .null

/-- Texts are read back. -/
instance : text.Lawful where
  decode_encode _ := rfl
  encode_ne_null _ := nofun

/-- Truth values are read back. -/
instance : boolean.Lawful where
  decode_encode _ := rfl
  encode_ne_null _ := nofun

/-- The codec of whole numbers is lawful if narrowing undoes widening. -/
theorem integer_lawful {expected : String} {widen : α → Int} {narrow : Int → Option α}
    (h : ∀ value, narrow (widen value) = some value) :
    (integer expected widen narrow).Lawful where
  decode_encode value := by simp only [integer, h value]
  encode_ne_null _ := nofun

/-- A signed 32-bit number is in its range. -/
theorem int32_of_int?_to_int (value : Int32) : int32OfInt? value.toInt = some value := by
  have hmin := value.minValue_le_toInt
  have hmax := value.toInt_le
  rw [int32OfInt?, if_pos (by simp only [hmin, hmax, decide_true, Bool.and_self]),
    Int32.ofInt_toInt]

/-- Signed 32-bit numbers are read back. -/
instance : int32.Lawful := integer_lawful int32_of_int?_to_int

/-- Signed 64-bit numbers are read back. -/
instance : int64.Lawful := by
  refine integer_lawful fun value => ?_
  have hmin := value.minValue_le_toInt
  have hmax := value.toInt_le
  rw [if_pos (by simp only [hmin, hmax, decide_true, Bool.and_self]), Int64.ofInt_toInt]

variable {item : Codec α} [item.Lawful]

/-- Lists are read back if their items are. -/
instance : (list item).Lawful where
  encode_ne_null _ := nofun
  decode_encode values := by
    show (values.map item.encode).mapM item.decode = .ok values
    induction values with
    | nil => rfl
    | cons value values ih =>
        rw [List.map_cons, List.mapM_cons, Lawful.decode_encode value, ih]
        rfl

/-- String maps are read back if their values are. -/
instance : (dict item).Lawful where
  encode_ne_null _ := nofun
  decode_encode d := by
    have hentries : (d.entries.map fun entry => (entry.1, item.encode entry.2)).mapM
        (fun entry => (item.decode entry.2).map fun value => (entry.1, value)) = .ok d.entries := by
      induction d.entries with
      | nil => rfl
      | cons entry entries ih =>
          rw [List.map_cons, List.mapM_cons, Lawful.decode_encode entry.2, ih]
          rfl
    have hsame : Dict.ofList d.entries = d :=
      Dict.ext_get? fun key => Entries.lookup_normalize d.sorted.nodup key
    show Except.map Dict.ofList _ = _
    rw [hentries]
    exact congrArg _ hsame

end Codec

namespace FieldRule

/-- A field reads back what it writes: the document if there is one, and else its absence. -/
class Lawful (rule : FieldRule α) : Prop where
  read_write : ∀ value j, rule.write value = some j → rule.read j = .ok value
  absent_of_write : ∀ value, rule.write value = none → rule.absent = some value

/-- A document under an optional field is read by the codec, unless it is null. -/
theorem optional_read {codec : Codec α} {j : Json} (h : j ≠ .null) :
    (optional codec).read j = (codec.decode j).map some := by
  cases j with
  | null => exact absurd rfl h
  | _ => rfl

/-- The result of reading an optional field from a document that is not null. -/
theorem optional_read_eq_ok_iff {codec : Codec α} {j : Json} (h : j ≠ .null) {value : Option α} :
    (optional codec).read j = .ok value ↔
      ∃ found, codec.decode j = .ok found ∧ value = some found := by
  rw [optional_read h]
  cases codec.decode j with
  | error cause => simp [Except.map]
  | ok found => simp [Except.map, eq_comm]

/-- A document under a required field is read by the codec, unless it is null. -/
theorem required_read {codec : Codec α} {empty : α} {j : Json} (h : j ≠ .null) :
    (required codec empty).read j = codec.decode j := by
  cases j with
  | null => exact absurd rfl h
  | _ => rfl

variable {codec : Codec α} [codec.Lawful]

/-- An optional field reads back a value that it has. -/
theorem optional_read_encode (value : α) :
    (optional codec).read (codec.encode value) = .ok (some value) := by
  rw [optional_read (Codec.Lawful.encode_ne_null value), Codec.Lawful.decode_encode value]
  rfl

/-- A field that may be unset is read back. -/
instance : (optional codec).Lawful where
  read_write value j hwrite := by
    obtain ⟨inner, rfl, rfl⟩ := Option.map_eq_some_iff.1 hwrite
    exact optional_read_encode inner
  absent_of_write value hwrite := by
    rw [Option.map_eq_none_iff.1 hwrite]
    rfl

/-- A field that is null when it is unset is read back. -/
instance : (nullable codec).Lawful where
  read_write value j hwrite := by
    obtain rfl := Option.some.inj hwrite
    cases value with
    | none => rfl
    | some value => exact optional_read_encode value
  absent_of_write _ := nofun

/-- A required field is read back. -/
instance (empty : α) : (required codec empty).Lawful where
  read_write value j hwrite := by
    obtain rfl := Option.some.inj hwrite
    rw [required_read (Codec.Lawful.encode_ne_null value), Codec.Lawful.decode_encode value]
  absent_of_write _ := nofun

/-- A field with a default is read back. -/
instance (default : α) : (defaulted codec default).Lawful where
  read_write value j hwrite := by
    obtain rfl := Option.some.inj hwrite
    exact Codec.Lawful.decode_encode value
  absent_of_write _ := nofun

/-- A mandatory field is read back. -/
instance : (mandatory codec).Lawful where
  read_write value j hwrite := by
    obtain rfl := Option.some.inj hwrite
    exact Codec.Lawful.decode_encode value
  absent_of_write _ := nofun

end FieldRule

namespace Fields

/-- The keys of some fields. -/
def keys (fields : Fields σ α) : List String := fields.checks.map FieldCheck.key

/-- The fields of a value read as a result from whatever has their entries under their keys; these
are different, and only they are written, in order. -/
structure Reads (fields : Fields σ α) (value : σ) (result : α) : Prop where
  written : ((fields.encode value).map Prod.fst).Sublist fields.keys
  nodup : fields.keys.Nodup
  decode : ∀ lookup : String → Option Json,
    (∀ key ∈ fields.keys, lookup key = (fields.encode value).lookup key) →
      fields.decode lookup = .ok result

/-- No fields are read as the constructor. -/
theorem reads_build (make : α) (value : σ) : (build σ make).Reads value make where
  written := List.Sublist.refl []
  nodup := List.Pairwise.nil
  decode _ _ := rfl

/-- The entry that a field writes is read back. -/
theorem read_field_of_write {rule : FieldRule α} [rule.Lawful] {value : α} {key : String}
    {lookup : String → Option Json} (h : lookup key = rule.write value) :
    readField key rule lookup = .ok value := by
  unfold readField
  rw [h]
  cases hwrite : rule.write value with
  | none => simp only [FieldRule.Lawful.absent_of_write value hwrite]
  | some j =>
      simp only [FieldRule.Lawful.read_write value j hwrite]
      rfl

/-- A field is read from the entry under its key only. -/
theorem read_field_congr {rule : FieldRule α} {key : String} {lookup other : String → Option Json}
    (h : lookup key = other key) : readField key rule lookup = readField key rule other := by
  unfold readField
  rw [h]

/-- An optional field with a value was read from the entry under its key. -/
theorem read_field_optional {codec : Codec α} (hnull : (codec.decode .null).toOption = none)
    {key : String} {lookup : String → Option Json} {value : Option α}
    (h : readField key (.optional codec) lookup = .ok value) :
    value = (lookup key).bind fun j => (codec.decode j).toOption := by
  unfold readField at h
  cases hkey : lookup key with
  | none =>
      simp only [hkey] at h
      exact (Except.ok.inj h).symm
  | some j =>
      simp only [hkey] at h
      by_cases hj : j = .null
      · subst hj
        exact (Except.ok.inj h).symm.trans hnull.symm
      · rw [FieldRule.optional_read hj] at h
        cases hdecode : codec.decode j with
        | error cause =>
            rw [hdecode] at h
            cases h
        | ok found =>
            rw [hdecode] at h
            rw [Option.bind_some, hdecode]
            exact (Except.ok.inj h).symm

/-- A field whose key has an entry is read from it. -/
theorem read_field_some_iff {rule : FieldRule α} {key : String} {lookup : String → Option Json}
    {j : Json} {value : α} (hkey : lookup key = some j) :
    readField key rule lookup = .ok value ↔ rule.read j = .ok value := by
  unfold readField
  simp only [hkey]
  cases rule.read j with
  | error cause => exact ⟨nofun, nofun⟩
  | ok found => exact ⟨fun h => congrArg _ (Except.ok.inj h), fun h => congrArg _ (Except.ok.inj h)⟩

/-- The entry that a field writes, if it writes one. -/
theorem lookup_written (key name : String) (written : Option Json) :
    ((written.map fun j => (key, j)).toList).lookup name =
      if name = key then written else none := by
  cases written with
  | none => simp
  | some j => simp [Entries.lookup_cons_eq]

/-- The key of the entry that a field writes is that of the field. -/
theorem keys_written (key : String) (written : Option Json) :
    (((written.map fun j => (key, j)).toList).map Prod.fst).Sublist [key] := by
  cases written with
  | none => exact List.nil_sublist _
  | some j => exact List.Sublist.refl _

/-- No fields write no key. -/
theorem not_written_build (make : α) (value : σ) (key : String) :
    key ∉ ((build σ make).encode value).map Prod.fst :=
  List.not_mem_nil

/-- One more field does not write a key that is not its own, or writes nothing if it is left out. -/
theorem not_written_field {fields : Fields σ (α → β)} {name key : String} {get : σ → α}
    {rule : FieldRule α} {value : σ} (h : key ∉ (fields.encode value).map Prod.fst)
    (hname : key ≠ name ∨ rule.write (get value) = none) :
    key ∉ ((fields.field name get rule).encode value).map Prod.fst := by
  show key ∉ (fields.encode value ++
    ((rule.write (get value)).map fun j => (name, j)).toList).map Prod.fst
  rw [List.map_append, List.mem_append, not_or]
  refine ⟨h, fun hmem => ?_⟩
  cases hname with
  | inl hne => exact hne (List.mem_singleton.1 ((keys_written name _).mem hmem))
  | inr hnone =>
      rw [hnone] at hmem
      cases hmem

/-- No fields have no keys. -/
theorem keys_build (make : α) : (build σ make).keys = [] := rfl

/-- The keys of fields with one more. -/
theorem keys_field (fields : Fields σ (α → β)) (key : String) (get : σ → α) (rule : FieldRule α) :
    (fields.field key get rule).keys = fields.keys ++ [key] := by
  simp [keys, field]

/-- One more field with a key of its own is read back if its rule is lawful. -/
theorem Reads.field {fields : Fields σ (α → β)} {value : σ} {result : α → β}
    (h : fields.Reads value result) {key : String} {get : σ → α} {rule : FieldRule α} [rule.Lawful]
    (hkey : key ∉ fields.keys) : (fields.field key get rule).Reads value (result (get value)) := by
  have hencode : (fields.field key get rule).encode value =
      fields.encode value ++ ((rule.write (get value)).map fun j => (key, j)).toList := rfl
  refine ⟨?_, ?_, ?_⟩
  · rw [keys_field, hencode, List.map_append]
    exact h.written.append (keys_written key _)
  · rw [keys_field]
    refine List.nodup_append.2 ⟨h.nodup, List.nodup_cons.2 ⟨List.not_mem_nil, List.nodup_nil⟩, ?_⟩
    intro name hname other hother heq
    subst heq
    obtain rfl := List.mem_singleton.1 hother
    exact hkey hname
  · intro lookup hlookup
    rw [keys_field] at hlookup
    have hbefore : fields.decode lookup = .ok result := by
      refine h.decode lookup fun name hname => ?_
      rw [hlookup name (List.mem_append_left _ hname), hencode, List.lookup_append, lookup_written,
        if_neg (fun heq : name = key => hkey (heq ▸ hname)), Option.or_none]
    have hlast : readField key rule lookup = .ok (get value) := by
      refine read_field_of_write ?_
      rw [hlookup key (List.mem_append_right _ (List.mem_singleton.2 rfl)), hencode,
        List.lookup_append, lookup_written, if_pos rfl,
        Entries.lookup_eq_none fun hmem => hkey (h.written.mem hmem), Option.none_or]
    show both (fields.decode lookup) (readField key rule lookup) = _
    rw [hbefore, hlast]
    rfl

/-- The result of reading one more field and those before it. -/
theorem decode_field_iff {fields : Fields σ (α → β)} {key : String} {get : σ → α}
    {rule : FieldRule α} {lookup : String → Option Json} {result : β} :
    (fields.field key get rule).decode lookup = .ok result ↔
      ∃ f value, fields.decode lookup = .ok f ∧ readField key rule lookup = .ok value ∧
        result = f value := by
  show both (fields.decode lookup) (readField key rule lookup) = .ok result ↔ _
  cases fields.decode lookup with
  | error faults => cases readField key rule lookup <;> simp [both]
  | ok f =>
      cases readField key rule lookup with
      | error faults => simp [both]
      | ok value => simp [both, eq_comm]

/-- The result of reading the entries of an object is that of reading the fields under its keys. -/
theorem decode_entries_eq_ok_iff {fields : Fields σ α} {entries : List (String × Json)}
    {result : α} :
    fields.decodeEntries entries = .ok result ↔
      fields.decode (fun key => entries.lookup key) = .ok result := by
  unfold decodeEntries
  cases fields.decode fun key => entries.lookup key with
  | ok value =>
      constructor <;> intro h
      all_goals exact congrArg Except.ok (Except.ok.inj h)
  | error cause =>
      constructor <;> intro h
      all_goals cases h

/-- The written keys of a value whose fields are read back are different. -/
theorem Reads.nodup_written {fields : Fields σ α} {value : σ} {result : α}
    (h : fields.Reads value result) : ((fields.encode value).map Prod.fst).Nodup :=
  h.written.nodup h.nodup

/-- An object that was written is read back. -/
theorem Reads.decode_entries {fields : Fields σ α} {value : σ} {result : α}
    (h : fields.Reads value result) :
    fields.decodeEntries (Entries.normalize (fields.encode value)) = .ok result :=
  decode_entries_eq_ok_iff.2 (h.decode _ fun key _ => Entries.lookup_normalize h.nodup_written key)

/-- The fields of a value are read as a result, and fields can be read that come from one or the
other of two objects. -/
class Lawful (fields : Fields σ α) (result : outParam (σ → α)) : Prop where
  reads : fields.keys.Nodup → ∀ value, fields.Reads value (result value)
  mixed : ∀ {first second lookup : String → Option Json} {one other : α},
    fields.decode first = .ok one → fields.decode second = .ok other →
    (∀ key, lookup key = first key ∨ lookup key = second key) →
    ∃ found, fields.decode lookup = .ok found

/-- No fields are read as the constructor. -/
instance (make : α) : (build σ make).Lawful fun _ => make where
  reads _ value := reads_build make value
  mixed _ _ _ := ⟨make, rfl⟩

/-- One more field makes fields lawful of which the others are and the rule is. -/
instance {fields : Fields σ (α → β)} {result : σ → α → β} [fields.Lawful result] {key : String}
    {get : σ → α} {rule : FieldRule α} [rule.Lawful] :
    (fields.field key get rule).Lawful fun value => result value (get value) where
  reads hkeys value := by
    rw [keys_field, List.nodup_append] at hkeys
    obtain ⟨hbefore, -, hkey⟩ := hkeys
    exact (Lawful.reads hbefore value).field fun hmem =>
      hkey key hmem key (List.mem_singleton.2 rfl) rfl
  mixed {first second lookup one other} hfirst hsecond hlookup := by
    obtain ⟨f, value, hf, hvalue, -⟩ := decode_field_iff.1 hfirst
    obtain ⟨g, value', hg, hvalue', -⟩ := decode_field_iff.1 hsecond
    obtain ⟨make, hmake⟩ := Lawful.mixed hf hg hlookup
    have hlast : ∃ last, readField key rule lookup = .ok last := by
      cases hlookup key with
      | inl h => exact ⟨value, (read_field_congr h).trans hvalue⟩
      | inr h => exact ⟨value', (read_field_congr h).trans hvalue'⟩
    obtain ⟨last, hlast⟩ := hlast
    exact ⟨make last, decode_field_iff.2 ⟨make, last, hmake, hlast, rfl⟩⟩

end Fields

namespace Codec

/-- The document of a Kubernetes kind has no entry under a key that is not written. -/
theorem get?_kind_encode {apiVersion kind key : String} {fields : Fields α α} {value : α}
    (hversion : key ≠ "apiVersion") (hkind : key ≠ "kind")
    (h : key ∉ (fields.encode value).map Prod.fst) :
    ((Codec.kind apiVersion kind fields).encode value).get? key = none := by
  refine Entries.lookup_normalize_eq_none ?_
  rw [List.map_append, List.mem_append, not_or]
  exact ⟨by simp [hversion, hkind], h⟩

/-- An object with the expected name passes the check of the name. -/
theorem check_name_of_lookup {key name : String} {entries : List (String × Json)}
    (h : entries.lookup key = some (.str name)) : checkName key name entries = .ok () := by
  rw [checkName, h]
  exact if_pos rfl

/-- An object is read as a Kubernetes kind if its version and kind are those of the kind and its
fields are read. -/
theorem kind_decode_iff {apiVersion kind : String} {fields : Fields α α}
    {entries : List (String × Json)} {result : α} :
    (Codec.kind apiVersion kind fields).decode (.obj entries) = .ok result ↔
      checkName "apiVersion" apiVersion entries = .ok () ∧ checkName "kind" kind entries = .ok () ∧
      fields.decode (fun key => entries.lookup key) = .ok result := by
  rw [← Fields.decode_entries_eq_ok_iff]
  show (checkName "apiVersion" apiVersion entries >>= fun _ =>
    checkName "kind" kind entries >>= fun _ => fields.decodeEntries entries) = .ok result ↔ _
  cases checkName "apiVersion" apiVersion entries with
  | error cause => exact ⟨nofun, nofun⟩
  | ok _ =>
      cases checkName "kind" kind entries with
      | error cause => exact ⟨nofun, nofun⟩
      | ok _ => exact ⟨fun h => ⟨rfl, rfl, h⟩, fun h => h.2.2⟩

/-- A value can be read from an object each of whose entries comes from one or the other of two
objects from which values can be read. -/
def Mixes (codec : Codec α) : Prop :=
  ∀ {first second entries : List (String × Json)} {one other : α},
    codec.decode (.obj first) = .ok one → codec.decode (.obj second) = .ok other →
    (∀ key, entries.lookup key = first.lookup key ∨ entries.lookup key = second.lookup key) →
    ∃ found, codec.decode (.obj entries) = .ok found

variable {fields : Fields α α} {result : α → α} [hlawful : fields.Lawful result]

include hlawful

/-- The objects of a record may be mixed. -/
theorem record_mixes {name : String} : (record name fields).Mixes := by
  intro first second entries one other hfirst hsecond hlookup
  obtain ⟨found, hfound⟩ := Fields.Lawful.mixed (Fields.decode_entries_eq_ok_iff.1 hfirst)
    (Fields.decode_entries_eq_ok_iff.1 hsecond) hlookup
  exact ⟨found, Fields.decode_entries_eq_ok_iff.2 hfound⟩

/-- The objects of a Kubernetes kind may be mixed. -/
theorem kind_mixes {apiVersion kind : String} : (Codec.kind apiVersion kind fields).Mixes := by
  intro first second entries one other hfirst hsecond hlookup
  obtain ⟨hversion, hkind, hone⟩ := kind_decode_iff.1 hfirst
  obtain ⟨hversion', hkind', hother⟩ := kind_decode_iff.1 hsecond
  obtain ⟨found, hfound⟩ := Fields.Lawful.mixed hone hother hlookup
  have hname {key name : String} (h : checkName key name first = .ok ())
      (h' : checkName key name second = .ok ()) : checkName key name entries = .ok () := by
    unfold checkName at h h' ⊢
    cases hlookup key with
    | inl hsame => rwa [hsame]
    | inr hsame => rwa [hsame]
  exact ⟨found, kind_decode_iff.2 ⟨hname hversion hversion', hname hkind hkind', hfound⟩⟩

variable (hresult : ∀ value, result value = value) (hkeys : fields.keys.Nodup)

include hresult hkeys

/-- The entries of a value are read back. -/
theorem decode_entries_encode (value : α) :
    fields.decodeEntries (Entries.normalize (fields.encode value)) = .ok value := by
  have hreads : fields.Reads value (result value) := Fields.Lawful.reads hkeys value
  rw [hreads.decode_entries, hresult value]

/-- The codec of a record is lawful if its fields are. -/
theorem record_lawful {name : String} : (record name fields).Lawful where
  decode_encode := decode_entries_encode hresult hkeys
  encode_ne_null _ := nofun

/-- The codec of a Kubernetes type is lawful if its fields are. -/
theorem kubernetes_lawful {name : String} : (kubernetes name fields).Lawful where
  decode_encode := decode_entries_encode hresult hkeys
  encode_ne_null _ := nofun

omit hkeys in
/-- The codec of a Kubernetes kind is lawful if its fields are. -/
theorem kind_lawful {apiVersion kind : String}
    (hkeys : ("apiVersion" :: "kind" :: fields.keys).Nodup) :
    (Codec.kind apiVersion kind fields).Lawful where
  encode_ne_null _ := nofun
  decode_encode value := by
    obtain ⟨hversion, hkind, hfields⟩ : "apiVersion" ∉ "kind" :: fields.keys ∧
        "kind" ∉ fields.keys ∧ fields.keys.Nodup := by
      rwa [List.nodup_cons, List.nodup_cons] at hkeys
    have hreads : fields.Reads value (result value) := Fields.Lawful.reads hfields value
    have hwritten : (([("apiVersion", Json.str apiVersion), ("kind", Json.str kind)] ++
        fields.encode value).map Prod.fst).Nodup :=
      List.Sublist.nodup ((hreads.written.cons_cons "kind").cons_cons "apiVersion") hkeys
    have hlookup (key : String) : (Entries.normalize ([("apiVersion", Json.str apiVersion),
        ("kind", Json.str kind)] ++ fields.encode value)).lookup key =
          if key = "apiVersion" then some (.str apiVersion)
          else if key = "kind" then some (.str kind) else (fields.encode value).lookup key := by
      rw [Entries.lookup_normalize hwritten, List.cons_append, List.cons_append, List.nil_append,
        Entries.lookup_cons_eq, Entries.lookup_cons_eq]
    refine kind_decode_iff.2
      ⟨check_name_of_lookup (hlookup "apiVersion"), check_name_of_lookup (hlookup "kind"), ?_⟩
    refine (hreads.decode _ fun key hkey => ?_).trans (congrArg Except.ok (hresult value))
    have hneVersion : key ≠ "apiVersion" := by
      intro heq
      subst heq
      exact hversion (List.mem_cons_of_mem _ hkey)
    have hneKind : key ≠ "kind" := by
      intro heq
      subst heq
      exact hkind hkey
    exact (hlookup key).trans (by rw [if_neg hneVersion, if_neg hneKind])

end Codec

end AgentOperator
