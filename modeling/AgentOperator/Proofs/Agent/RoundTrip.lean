import AgentOperator.Proofs.Agent.Report
import AgentOperator.Proofs.Codec.Lenient

/-!
# Round trips of agent resources

Nothing is lost when a resource is read and written: `Codec.Faithful` says that what was written is
read back, that what was read from any document is written in a settled form with the same meaning,
and that null and unknown keys make no difference to what is read. It holds for the desired state,
the status and whole resources (`resources_faithful`), for all codecs of the types that are embedded
in them which read back what they write.
-/

namespace AgentOperator

open Kubernetes

variable {α : Type}

namespace Choice

/-- The name of an option determines it, if no two options share a name. -/
theorem of_name_name {choice : Choice α} {option : α} (hmem : option ∈ choice.options)
    (hinjective : ∀ other, choice.name other = choice.name option → other = option) :
    choice.ofName (choice.name option) = .ok option := by
  unfold ofName
  cases hfind : choice.options.find? fun other => choice.name other = choice.name option with
  | none => simpa using List.find?_eq_none.1 hfind option hmem
  | some other =>
      have hname := List.find?_some hfind
      rw [hinjective other (of_decide_eq_true hname)]

/-- The codec of a choice is lawful if every value is an option and has a name of its own. -/
theorem codec_lawful {choice : Choice α} (hall : ∀ option, option ∈ choice.options)
    (hinjective : ∀ option other, choice.name other = choice.name option → other = option) :
    (codec choice).Lawful where
  decode_encode option := of_name_name (hall option) (hinjective option)
  encode_ne_null _ := nofun

end Choice

/-- Modes are read back. -/
instance : AgentMode.codec.Lawful := by
  refine Choice.codec_lawful ?_ ?_
  · intro mode
    cases mode <;> decide
  · intro mode other
    cases mode <;> cases other <;> decide

/-- No mode is read from null. -/
instance : AgentMode.codec.RefusesNull := ⟨nofun⟩

/-- Auxiliary config maps are read back. -/
instance : AuxiliaryConfig.codec.Lawful := Codec.record_lawful (fun _ => rfl) (by decide)

/-- A field that may be unset is read back, also where it needs a place in an array. -/
instance {codec : Codec α} [codec.Lawful] : (FieldRule.optionalInObject codec).Lawful where
  read_write := (inferInstance : (FieldRule.optional codec).Lawful).read_write
  absent_of_write := (inferInstance : (FieldRule.optional codec).Lawful).absent_of_write

namespace Codec

/-- The document of a record has no entry under other keys than those of its fields. -/
theorem get?_record_encode {name : String} {fields : Fields α α} {result : α → α}
    [fields.Lawful result] (hkeys : fields.keys.Nodup) (value : α) {key : String}
    (h : key ∉ fields.keys) : ((record name fields).encode value).get? key = none := by
  have hreads : fields.Reads value (result value) := Fields.Lawful.reads hkeys value
  exact Entries.lookup_normalize_eq_none fun hmem => h (hreads.written.mem hmem)

/-- Values and documents of a codec are the same to those who read them. What was written is read
back; what was read from a document of whatever form means the same when it is written (`settled`).
Only the given keys are written, and an object is read the same when nulls are left out and other
keys are changed. -/
structure Faithful (codec : Codec α) (keys : List String) : Prop where
  decode_encode : ∀ value, codec.decode (codec.encode value) = .ok value
  settled : ∀ j value, codec.decode j = .ok value →
    ∃ again, codec.decode (codec.encode value) = .ok again ∧ again = value ∧
      codec.encode again = codec.encode value
  written : ∀ value key, key ∉ keys → (codec.encode value).get? key = none
  lenient : ∀ first second value, codec.decode (.obj first) = .ok value →
    (∀ key ∈ keys, Json.LeavesOut (first.lookup key) (second.lookup key)) →
    codec.decode (.obj second) = .ok value

/-- The documents of a lawful codec are settled. -/
theorem settled_of_lawful {codec : Codec α} [codec.Lawful] (value : α) :
    ∃ again, codec.decode (codec.encode value) = .ok again ∧ again = value ∧
      codec.encode again = codec.encode value :=
  ⟨value, Lawful.decode_encode value, rfl, rfl⟩

/-- The codec of a record with different keys is faithful. -/
theorem record_faithful {name : String} {fields : Fields α α} {result : α → α}
    [fields.Lawful result] [fields.Lenient] (hresult : ∀ value, result value = value)
    (hkeys : fields.keys.Nodup) : (record name fields).Faithful fields.keys := by
  have hlawful : (record name fields).Lawful := record_lawful hresult hkeys
  exact
    { decode_encode := Lawful.decode_encode
      settled := fun _ value _ => settled_of_lawful value
      written := fun value _ => get?_record_encode hkeys value
      lenient := fun _ _ _ => record_decode_of_leaves_out }

end Codec

section Spec

variable {Variable VariableGroup Mount Volume Port Resources Rights Lifecycle Toleration : Type}

/-- The codecs of all embedded types are lawful. -/
class EmbeddedCodecs.Lawful (embedded : EmbeddedCodecs Variable VariableGroup Mount Volume Port
    Resources Rights Lifecycle Toleration) : Prop where
  envVar : embedded.envVar.Lawful
  envFromSource : embedded.envFromSource.Lawful
  volumeMount : embedded.volumeMount.Lawful
  volume : embedded.volume.Lawful
  servicePort : embedded.servicePort.Lawful
  resources : embedded.resources.Lawful
  securityContext : embedded.securityContext.Lawful
  lifecycle : embedded.lifecycle.Lawful
  toleration : embedded.toleration.Lawful

namespace AgentSpecOf

variable (embedded : EmbeddedCodecs Variable VariableGroup Mount Volume Port Resources Rights
  Lifecycle Toleration)

/-- The fields of desired states are read back if the values that are passed on are. -/
instance [h : embedded.Lawful] : (fields embedded).Lawful fun spec => spec := by
  obtain ⟨_, _, _, _, _, _, _, _, _⟩ := h
  unfold fields
  infer_instance

/-- The fields of desired states are read by their keys only. -/
instance : (fields embedded).Lenient := by
  unfold fields
  infer_instance

/-- The keys of desired states, whatever is passed on. -/
theorem keys_fields : (fields embedded).keys =
    ["mode", "replicas", "image", "imagePullPolicy", "config", "args", "env", "envFrom",
      "volumeMounts", "volumes", "configMaps", "ports", "resources", "securityContext",
      "lifecycle", "serviceAccount", "nodeSelector", "tolerations", "podAnnotations",
      "hostNetwork", "priorityClassName"] := by
  simp only [fields, Fields.keys_field, Fields.keys_build, List.nil_append, List.cons_append]

/-- The keys of desired states are different. -/
theorem nodup_keys : (fields embedded).keys.Nodup := by
  rw [keys_fields]
  decide

/-- Desired states are read back if the values that are passed on are. -/
instance [embedded.Lawful] : (codec embedded).Lawful :=
  Codec.record_lawful (fun _ => rfl) (nodup_keys embedded)

/-- Desired states are faithful if the values that are passed on are read back. -/
theorem codec_faithful [embedded.Lawful] : (codec embedded).Faithful (fields embedded).keys :=
  Codec.record_faithful (fun _ => rfl) (nodup_keys embedded)

/-- No desired state is read from null. -/
instance : (codec embedded).RefusesNull := Codec.record_refuses_null

end AgentSpecOf

end Spec

namespace AgentOf

variable {Metadata Spec : Type} (metadataCodec : Codec Metadata) (specCodec : Codec Spec)

/-- The fields of a resource are read back if its metadata and its desired state are. -/
instance [metadataCodec.Lawful] [specCodec.Lawful] :
    (fields metadataCodec specCodec).Lawful fun agent => agent := by
  unfold fields
  infer_instance

/-- The fields of a resource are read by their keys only. -/
instance [metadataCodec.RefusesNull] [specCodec.RefusesNull] :
    (fields metadataCodec specCodec).Lenient := by
  unfold fields
  infer_instance

/-- The keys of a resource, whatever its metadata and its desired state are. -/
theorem keys_fields : (fields metadataCodec specCodec).keys = ["metadata", "spec", "status"] := rfl

variable [metadataCodec.Lawful] [specCodec.Lawful]

/-- Resources are read back. -/
instance : (codec metadataCodec specCodec).Lawful where
  encode_ne_null _ := nofun
  decode_encode agent := by
    have hnames : ("apiVersion" :: "kind" :: (fields metadataCodec specCodec).keys).Nodup := by
      rw [keys_fields]
      decide
    have hlawful : (Codec.kind Agent.apiVersion Agent.kind
        (fields metadataCodec specCodec)).Lawful :=
      Codec.kind_lawful (fun _ => rfl) hnames
    -- a resource is read without a look at the version and kind that were written
    obtain ⟨-, -, hfields⟩ := Codec.kind_decode_iff.1 (hlawful.decode_encode agent)
    exact Fields.decode_entries_eq_ok_iff.2 hfields

/-- Resources are faithful. -/
theorem codec_faithful [metadataCodec.RefusesNull] [specCodec.RefusesNull] :
    (codec metadataCodec specCodec).Faithful
      ("apiVersion" :: "kind" :: (fields metadataCodec specCodec).keys) where
  decode_encode := Codec.Lawful.decode_encode
  settled _ value _ := Codec.settled_of_lawful value
  written agent key h := by
    have hkeys : (fields metadataCodec specCodec).keys.Nodup := by
      rw [keys_fields]
      decide
    have hreads : (fields metadataCodec specCodec).Reads agent agent :=
      Fields.Lawful.reads hkeys agent
    simp only [List.mem_cons, not_or] at h
    obtain ⟨hversion, hkind, hothers⟩ := h
    exact Codec.get?_kind_encode hversion hkind fun hmem => hothers (hreads.written.mem hmem)
  lenient first second agent h hkeys := by
    have hfields (key : String) (hkey : key ∈ (fields metadataCodec specCodec).keys) :
        Json.LeavesOut (first.lookup key) (second.lookup key) :=
      hkeys key (List.mem_cons_of_mem _ (List.mem_cons_of_mem _ hkey))
    have hread : (Codec.record "AmazonCloudWatchAgent" (fields metadataCodec specCodec)).decode
        (.obj first) = .ok agent := h
    exact Codec.record_decode_of_leaves_out hread hfields

end AgentOf

/-- The Kubernetes types that a desired state passes on are read back. -/
instance : EmbeddedCodecs.kubernetes.Lawful :=
  ⟨inferInstanceAs EnvVar.codec.Lawful, inferInstanceAs EnvFromSource.codec.Lawful,
    inferInstanceAs VolumeMount.codec.Lawful, inferInstanceAs Volume.codec.Lawful,
    inferInstanceAs ServicePort.codec.Lawful, inferInstanceAs ResourceRequirements.codec.Lawful,
    inferInstanceAs SecurityContext.codec.Lawful, inferInstanceAs Lifecycle.codec.Lawful,
    inferInstanceAs Toleration.codec.Lawful⟩

/-- No metadata are read from null. -/
instance : ObjectMeta.codec.RefusesNull := Codec.kubernetes_refuses_null

/-- The codecs of resources are faithful, for all embedded types, if their codecs are lawful and no
metadata are read from null: desired states, statuses, auxiliary config maps and whole resources are
read back as they were written, what was read from any document is written in a settled form, and
nothing is written under another key than those of the fields. -/
theorem resources_faithful
    {Variable VariableGroup Mount Volume Port Resources Rights Lifecycle Toleration : Type}
    (embedded : EmbeddedCodecs Variable VariableGroup Mount Volume Port Resources Rights Lifecycle
      Toleration) [embedded.Lawful]
    {Metadata : Type} (metadataCodec : Codec Metadata) [metadataCodec.Lawful]
    [metadataCodec.RefusesNull] :
    (AgentSpecOf.codec embedded).Faithful
      ["mode", "replicas", "image", "imagePullPolicy", "config", "args", "env", "envFrom",
        "volumeMounts", "volumes", "configMaps", "ports", "resources", "securityContext",
        "lifecycle", "serviceAccount", "nodeSelector", "tolerations", "podAnnotations",
        "hostNetwork", "priorityClassName"] ∧
    AgentStatus.codec.Faithful ["version", "replicas", "observedGeneration", "conditions"] ∧
    Condition.codec.Faithful ["type", "status", "lastTransitionTime", "reason", "message"] ∧
    AuxiliaryConfig.codec.Faithful ["name", "mountPath"] ∧
    (AgentOf.codec metadataCodec (AgentSpecOf.codec embedded)).Faithful
      ["apiVersion", "kind", "metadata", "spec", "status"] :=
  ⟨AgentSpecOf.keys_fields embedded ▸ AgentSpecOf.codec_faithful embedded,
    Codec.record_faithful (fun _ => rfl) (by decide),
    Codec.record_faithful (fun _ => rfl) (by decide),
    Codec.record_faithful (fun _ => rfl) (by decide),
    AgentOf.codec_faithful metadataCodec (AgentSpecOf.codec embedded)⟩

/-- The codecs of resources over the Kubernetes types are faithful, and a resource with an NFS
volume is written back as it was read. -/
theorem kubernetes_resources_faithful :
    let entries : List (String × Json) :=
      [("spec", .obj [("hostNetwork", .bool true), ("resources", .null),
          ("volumes", .arr [.obj [("name", .str "shared"),
            ("nfs", .obj [("path", .str "/exports"), ("server", .str "10.0.0.7")])]])]),
        ("metadata", .obj [("name", .str "sample"), ("labels", .obj [])]),
        ("unknown", .int 5)]
    let agent : Agent :=
      { metadata := { name := some "sample", labels := some ∅ }
        spec :=
          { hostNetwork := true
            volumes :=
              [{ name := "shared", nfs := some { path := "/exports", server := "10.0.0.7" } }] } }
    AgentSpec.codec.Faithful
      ["mode", "replicas", "image", "imagePullPolicy", "config", "args", "env", "envFrom",
        "volumeMounts", "volumes", "configMaps", "ports", "resources", "securityContext",
        "lifecycle", "serviceAccount", "nodeSelector", "tolerations", "podAnnotations",
        "hostNetwork", "priorityClassName"] ∧
      Agent.codec.Faithful ["apiVersion", "kind", "metadata", "spec", "status"] ∧
      Agent.codec.decode (.obj entries) = .ok agent ∧
      Agent.codec.decode (Agent.codec.encode agent) = .ok agent := by
  intro entries agent
  obtain ⟨hspec, -, -, -, hagent⟩ :=
    resources_faithful EmbeddedCodecs.kubernetes ObjectMeta.codec
  exact ⟨hspec, hagent, rfl, hagent.decode_encode agent⟩

end AgentOperator
