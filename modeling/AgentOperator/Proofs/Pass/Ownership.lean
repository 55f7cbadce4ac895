import AgentOperator.Proofs.Pass.Convergence

/-!
# Applied objects are controlled

Every object that is built for an agent has it in its owner references. A server may add fields to
an applied object, but it keeps those that were sent: so the agent controls the stored object as
well (`Applies.controlled`). The proof goes through the documents: the stored one carries the one
that was sent (`Json.Carries`), and decodes to the object.
-/

namespace AgentOperator

open Api (ObjectRef RequestFault ResourceType)
open Cluster (Serves)
open Kubernetes
open Transcript (Controls)

variable {α β σ : Type}

/-- A document that carries another one carries what that has under a key. -/
theorem Json.Carries.get? {wanted found j : Json} {key : String} (h : wanted.Carries found)
    (hkey : wanted.get? key = some j) : ∃ part, found.get? key = some part ∧ j.Carries part := by
  cases h with
  | same => exact ⟨j, hkey, .same j⟩
  | obj part hthere hparts => exact ⟨part key, hthere key j hkey, hparts key j hkey⟩
  | arr => cases hkey

/-- An array that carries another one has an item that carries a given item of that. -/
theorem Json.Carries.mem {wanted : List Json} {found j : Json} (h : (Json.arr wanted).Carries found)
    (hmem : j ∈ wanted) : ∃ items, found = .arr items ∧ ∃ item ∈ items, j.Carries item := by
  cases h with
  | same => exact ⟨wanted, rfl, j, hmem, .same j⟩
  | arr part hthere hparts => exact ⟨_, rfl, part j, hthere j hmem, hparts j hmem⟩

/-- Each item of a list that is decoded decodes to one of its values. -/
theorem Codec.exists_of_list_decode {item : Codec α} {items : List Json} {values : List α}
    (h : (list item).decode (.arr items) = .ok values) {j : Json} (hmem : j ∈ items) :
    ∃ value ∈ values, item.decode j = .ok value := by
  have hread : items.mapM item.decode = .ok values := h
  clear h
  induction items generalizing values with
  | nil => cases hmem
  | cons first rest ih =>
      rw [List.mapM_cons] at hread
      cases hfirst : item.decode first with
      | error cause =>
          rw [hfirst] at hread
          cases hread
      | ok value =>
          rw [hfirst] at hread
          cases hrest : rest.mapM item.decode with
          | error cause =>
              rw [hrest] at hread
              cases hread
          | ok others =>
              rw [hrest] at hread
              obtain rfl := Except.ok.inj hread
              rcases List.mem_cons.1 hmem with rfl | hmem
              · exact ⟨value, List.mem_cons_self .., hfirst⟩
              · obtain ⟨found, hfound, hdecode⟩ := ih hmem hrest
                exact ⟨found, List.mem_cons_of_mem _ hfound, hdecode⟩

namespace Fields

/-- The entry under a key with one more field: that of the field if it has this key, unless the
other fields have an entry there. -/
theorem lookup_encode_field (fields : Fields σ (α → β)) (key : String) (get : σ → α)
    (rule : FieldRule α) (value : σ) (name : String) :
    ((fields.field key get rule).encode value).lookup name =
      ((fields.encode value).lookup name).or
        (if name = key then rule.write (get value) else none) := by
  show (fields.encode value ++ ((rule.write (get value)).map fun j => (key, j)).toList).lookup
    name = _
  rw [List.lookup_append, lookup_written]

/-- No fields have no entries. -/
theorem lookup_encode_build (make : α) (value : σ) (name : String) :
    ((build σ make).encode value).lookup name = none :=
  rfl

/-- One more field does not change an entry. -/
theorem lookup_encode_of_some {fields : Fields σ (α → β)} {key : String} {get : σ → α}
    {rule : FieldRule α} {value : σ} {name : String} {j : Json}
    (h : (fields.encode value).lookup name = some j) :
    ((fields.field key get rule).encode value).lookup name = some j := by
  rw [lookup_encode_field, h, Option.some_or]

/-- Every value that some fields decode to has a property. -/
def Yields (fields : Fields σ α) (lookup : String → Option Json) (property : α → Prop) : Prop :=
  ∀ result, fields.decode lookup = .ok result → property result

/-- The value of the first field is the first argument of the constructor. -/
theorem Yields.first {make : α → β} {key : String} {get : σ → α} {rule : FieldRule α}
    {lookup : String → Option Json} {property : β → Prop}
    (h : ∀ value, readField key rule lookup = .ok value → property (make value)) :
    ((build σ make).field key get rule).Yields lookup property := by
  intro result hread
  obtain ⟨f, value, hbuild, hvalue, rfl⟩ := decode_field_iff.1 hread
  obtain rfl := Except.ok.inj hbuild
  exact h value hvalue

/-- One more field preserves the property if that does not depend on its value. -/
theorem Yields.field {fields : Fields σ (α → β)} {key : String} {get : σ → α} {rule : FieldRule α}
    {lookup : String → Option Json} {property : β → Prop}
    (h : fields.Yields lookup fun f => ∀ value, property (f value)) :
    (fields.field key get rule).Yields lookup property := by
  intro result hread
  obtain ⟨f, value, hf, -, rfl⟩ := decode_field_iff.1 hread
  exact h f hf value

end Fields

namespace Codec

variable {fields : Fields α α} {result : α → α} [hlawful : fields.Lawful result]

include hlawful

/-- The entries of the document of a Kubernetes type. -/
theorem get?_kubernetes_encode {name : String} (hkeys : fields.keys.Nodup) (value : α)
    (key : String) :
    ((kubernetes name fields).encode value).get? key = (fields.encode value).lookup key :=
  have hreads : fields.Reads value (result value) := Fields.Lawful.reads hkeys value
  Entries.lookup_normalize hreads.nodup_written key

/-- The entries of the document of a Kubernetes kind, the version and the kind apart. -/
theorem get?_kind_encode_field {apiVersion kind : String}
    (hkeys : ("apiVersion" :: "kind" :: fields.keys).Nodup) (value : α) {key : String}
    (hversion : key ≠ "apiVersion") (hkind : key ≠ "kind") :
    ((Codec.kind apiVersion kind fields).encode value).get? key =
      (fields.encode value).lookup key := by
  have hreads : fields.Reads value (result value) :=
    Fields.Lawful.reads (List.nodup_cons.1 (List.nodup_cons.1 hkeys).2).2 value
  have hwritten : (([("apiVersion", Json.str apiVersion), ("kind", Json.str kind)] ++
      fields.encode value).map Prod.fst).Nodup :=
    List.Sublist.nodup ((hreads.written.cons_cons "kind").cons_cons "apiVersion") hkeys
  show (Entries.normalize _).lookup key = _
  rw [Entries.lookup_normalize hwritten, List.cons_append, List.cons_append, List.nil_append,
    Entries.lookup_cons_eq, Entries.lookup_cons_eq, if_neg hversion, if_neg hkind]

end Codec

namespace Kubernetes

/-- A document that carries an owner reference decodes to the same owner, which is a controller if
that one is. -/
theorem OwnerReference.of_carries {owner found : OwnerReference} {j : Json}
    (hcarries : (codec.encode owner).Carries j) (hdecode : codec.decode j = .ok found) :
    found.uid = owner.uid ∧ (owner.controller = some true → found.controller = some true) := by
  have hwroteUid : (codec.encode owner).get? "uid" = some (.str owner.uid) := by
    refine (Codec.get?_kubernetes_encode (by decide) owner "uid").trans ?_
    simp [Fields.lookup_encode_field, Fields.lookup_encode_build, FieldRule.required,
      FieldRule.optional, Codec.text]
  have hwroteController :
      (codec.encode owner).get? "controller" = owner.controller.map Json.bool := by
    refine (Codec.get?_kubernetes_encode (by decide) owner "controller").trans ?_
    simp [Fields.lookup_encode_field, Fields.lookup_encode_build, FieldRule.required,
      FieldRule.optional, Codec.boolean]
  obtain ⟨entries, rfl⟩ : ∃ entries, j = .obj entries := by
    cases j with
    | obj entries => exact ⟨entries, rfl⟩
    | _ => cases hdecode
  have hfields := Fields.decode_entries_eq_ok_iff.1 hdecode
  simp only [Fields.decode_field_iff] at hfields
  obtain ⟨_, _, ⟨_, controller, ⟨_, uid, ⟨_, _, ⟨_, _, ⟨_, _, hbuild, -, rfl⟩, -, rfl⟩, -, rfl⟩,
    huid, rfl⟩, hcontroller, rfl⟩, -, rfl⟩ := hfields
  obtain rfl := Except.ok.inj hbuild
  constructor
  · obtain ⟨part, hthere, hpart⟩ := hcarries.get? hwroteUid
    cases hpart
    have hread := (Fields.read_field_some_iff hthere).1 huid
    exact (Except.ok.inj hread).symm
  · intro hmanages
    rw [hmanages] at hwroteController
    obtain ⟨part, hthere, hpart⟩ := hcarries.get? hwroteController
    cases hpart
    have hread := (Fields.read_field_some_iff hthere).1 hcontroller
    exact (Except.ok.inj hread).symm

/-- A document that carries metadata decodes to metadata with the same controllers. -/
theorem ObjectMeta.controls_of_carries {wanted found : ObjectMeta} {j : Json} {uid : Option String}
    (hcarries : (codec.encode wanted).Carries j) (hdecode : codec.decode j = .ok found)
    (hcontrols : Controls uid wanted) : Controls uid found := by
  obtain ⟨owner, hmem, hmanages, huid⟩ := hcontrols
  have hwrote : (codec.encode wanted).get? "ownerReferences" =
      wanted.ownerReferences.map (Codec.list OwnerReference.codec).encode := by
    refine (Codec.get?_kubernetes_encode (by decide) wanted "ownerReferences").trans ?_
    simp [Fields.lookup_encode_field, Fields.lookup_encode_build, FieldRule.optional]
  cases howners : wanted.ownerReferences with
  | none =>
      rw [howners] at hmem
      cases hmem
  | some owners =>
      rw [howners] at hmem hwrote
      obtain ⟨part, hthere, hpart⟩ := hcarries.get? hwrote
      obtain ⟨entries, rfl⟩ : ∃ entries, j = .obj entries := by
        cases j with
        | obj entries => exact ⟨entries, rfl⟩
        | _ => cases hdecode
      obtain ⟨-, -, -, -, -, -, -, -, -, hread, -⟩ := reads_of_decode hdecode
      have hlist := (Fields.read_field_some_iff hthere).1 hread
      obtain ⟨items, rfl, hitem⟩ := hpart.mem (List.mem_map_of_mem hmem)
      obtain ⟨item, hitem, hcarried⟩ := hitem
      obtain ⟨read, hread, hsome⟩ := (FieldRule.optional_read_eq_ok_iff (by nofun)).1 hlist
      obtain ⟨kept, hkept, hdecoded⟩ := Codec.exists_of_list_decode hread hitem
      obtain ⟨hsame, hmanaging⟩ := OwnerReference.of_carries hcarried hdecoded
      refine ⟨kept, ?_, hmanaging hmanages, hsame ▸ huid⟩
      rw [hsome]
      exact hkept

end Kubernetes

namespace Api.ResourceType

/-- The documents of a type have the metadata of an object under a key of its own, where it is
written and read. -/
structure KeepsMetadata (type : ResourceType α) : Prop where
  encode : ∀ object, (type.codec.encode object).get? "metadata" =
    some (ObjectMeta.codec.encode (type.metadata object))
  decode : ∀ {entries : List (String × Json)} {object : α},
    type.codec.decode (.obj entries) = .ok object →
    Fields.readField "metadata" (.required ObjectMeta.codec {}) (fun key => entries.lookup key) =
      .ok (type.metadata object)

/-- A type keeps the metadata of its objects if one of the fields of its kind does. -/
theorem KeepsMetadata.of_fields {type : ResourceType α} {apiVersion kind : String}
    {fields : Fields α α} {result : α → α} [fields.Lawful result]
    (hcodec : type.codec = .kind apiVersion kind fields)
    (hkeys : ("apiVersion" :: "kind" :: fields.keys).Nodup)
    (hwrite : ∀ object, (fields.encode object).lookup "metadata" =
      some (ObjectMeta.codec.encode (type.metadata object)))
    (hread : ∀ lookup, fields.Yields lookup fun object =>
      Fields.readField "metadata" (.required ObjectMeta.codec {}) lookup =
        .ok (type.metadata object)) : type.KeepsMetadata where
  encode object := by
    rw [hcodec, Codec.get?_kind_encode_field hkeys object (by decide) (by decide)]
    exact hwrite object
  decode {entries object} h := by
    rw [hcodec] at h
    exact hread _ object (Codec.kind_decode_iff.1 h).2.2

/-- Config maps keep their metadata. -/
theorem keeps_metadata_config_map : configMap.KeepsMetadata :=
  .of_fields rfl (by decide) (fun _ => Fields.lookup_encode_of_some rfl)
    fun _ => .field (.first fun _ hread _ => hread)

/-- Service accounts keep their metadata. -/
theorem keeps_metadata_service_account : serviceAccount.KeepsMetadata :=
  .of_fields rfl (by decide) (fun _ => rfl) fun _ => .first fun _ hread => hread

/-- Services keep their metadata. -/
theorem keeps_metadata_service : service.KeepsMetadata :=
  .of_fields rfl (by decide) (fun _ => Fields.lookup_encode_of_some rfl)
    fun _ => .field (.first fun _ hread _ => hread)

/-- Deployments keep their metadata. -/
theorem keeps_metadata_deployment : deployment.KeepsMetadata :=
  .of_fields rfl (by decide)
    (fun _ => Fields.lookup_encode_of_some (Fields.lookup_encode_of_some rfl))
    fun _ => .field (.field (.first fun _ hread _ _ => hread))

/-- Daemon sets keep their metadata. -/
theorem keeps_metadata_daemon_set : daemonSet.KeepsMetadata :=
  .of_fields rfl (by decide)
    (fun _ => Fields.lookup_encode_of_some (Fields.lookup_encode_of_some rfl))
    fun _ => .field (.field (.first fun _ hread _ _ => hread))

/-- An object whose document carries that of another one is controlled by every agent that controls
the other one. -/
theorem KeepsMetadata.controls {type : ResourceType α} (htype : type.KeepsMetadata)
    {wanted found : α} {j : Json} {uid : Option String}
    (hcarries : (type.codec.encode wanted).Carries j) (hdecode : type.codec.decode j = .ok found)
    (hcontrols : Controls uid (type.metadata wanted)) : Controls uid (type.metadata found) := by
  obtain ⟨part, hthere, hpart⟩ := hcarries.get? (htype.encode wanted)
  obtain ⟨entries, rfl⟩ : ∃ entries, j = .obj entries := by
    cases j with
    | obj entries => exact ⟨entries, rfl⟩
    | _ => cases hthere
  have hread := (Fields.read_field_some_iff hthere).1 (htype.decode hdecode)
  have hnull : part ≠ .null := by
    rintro rfl
    cases hpart
  rw [FieldRule.required_read hnull] at hread
  exact ObjectMeta.controls_of_carries hpart hread hcontrols

end Api.ResourceType

namespace Transcript

/-- An object that is applied and that an agent controls is stored as one that it controls, whatever
fields the server adds. -/
theorem Applies.controlled {host : Host σ} {objects : σ → ObjectRef → Option Json}
    {state final : σ} {unsent : RequestFault → Prop} {type : ResourceType α} {ref : ObjectRef}
    {desired : Option α} {exchanges : List Exchange} {uid : Option String}
    (h : Applies unsent type ref desired exchanges (.ok ())) (hserver : Serves host objects)
    (hanswers : host.Answers state exchanges final) (htype : type.KeepsMetadata)
    (hstatus : ∀ object, desired = some object → IsStatusless type object)
    (hcontrols : ∀ object, desired = some object → Controls uid (type.metadata object)) :
    Controlled type ref uid (objects final) := by
  cases h with
  | applied hdesired hasks =>
      obtain ⟨reply, rfl, body, haccepted, hread⟩ := hasks.of_ok
      obtain ⟨rfl, rfl⟩ := Host.answers_singleton_iff.1 hanswers
      obtain ⟨stored, hframe, rfl, hcarries⟩ := hserver.apply_stored ref _ state body haccepted
      have hdecode := decode_document hread
      refine ⟨stored, _, ?_, hdecode, ?_⟩
      · rw [hframe, Function.update_self]
      · exact htype.controls (hcarries (hstatus _ hdesired)) hdecode (hcontrols _ hdesired)

end Transcript

end AgentOperator
