import AgentOperator.Agent.Resource
import AgentOperator.Proofs.Kubernetes.RoundTrip

/-!
# Statuses in documents

How a status that is merged into the document of an agent is read back. The patch has every field of
the status but an unset `observedGeneration`, which it leaves out. So the status is read back as it
was, except that in this one case the revision of an earlier status is kept (`decode_merge_patch`).
-/

namespace AgentOperator

/-- Conditions are read back. -/
instance : Condition.codec.Lawful := Codec.record_lawful (fun _ => rfl) (by decide)

namespace AgentStatus

/-- The revision that the document of a report speaks of. -/
def keptGeneration (status : Json) : Option Int64 :=
  (status.get? "observedGeneration").bind fun j => (Codec.int64.decode j).toOption

/-- A report is read from an object field by field. -/
theorem decode_obj_iff {entries : List (String × Json)} {status : AgentStatus} :
    codec.decode (.obj entries) = .ok status ↔
      Fields.readField "version" (.optional .text) (fun key => entries.lookup key) =
        .ok status.version ∧
      Fields.readField "replicas" (.optional .int32) (fun key => entries.lookup key) =
        .ok status.replicas ∧
      Fields.readField "observedGeneration" (.optional .int64) (fun key => entries.lookup key) =
        .ok status.observedGeneration ∧
      Fields.readField "conditions" (.defaulted (.list Condition.codec) [])
        (fun key => entries.lookup key) = .ok status.conditions := by
  show Fields.decodeEntries _ entries = .ok status ↔ _
  rw [Fields.decode_entries_eq_ok_iff]
  simp only [Fields.decode_field_iff]
  constructor
  · rintro ⟨f, conditions, ⟨g, generation, ⟨h, replicas, ⟨k, version, hbuild, hversion, rfl⟩,
      hreplicas, rfl⟩, hgeneration, rfl⟩, hconditions, rfl⟩
    obtain rfl := Except.ok.inj hbuild
    exact ⟨hversion, hreplicas, hgeneration, hconditions⟩
  · intro h
    rcases h with ⟨hversion, hreplicas, hgeneration, hconditions⟩
    exact ⟨_, _, ⟨_, _, ⟨_, _, ⟨_, _, rfl, hversion, rfl⟩, hreplicas, rfl⟩, hgeneration, rfl⟩,
      hconditions, rfl⟩

/-- The revision of a status that is read is the one in its document; a document that is no object
has none. -/
theorem kept_generation_of_decode {j : Json} {status : AgentStatus}
    (h : codec.decode j = .ok status) :
    keptGeneration j = none ∨ keptGeneration j = status.observedGeneration := by
  cases j with
  | obj entries =>
      obtain ⟨-, -, hgeneration, -⟩ := decode_obj_iff.1 h
      exact .inr (Fields.read_field_optional rfl hgeneration).symm
  | _ => exact .inl rfl

/-- The document of a status: its fields under different keys, and none for which a merge patch has
a rule of its own. -/
theorem encode_eq (status : AgentStatus) :
    ∃ entries, codec.encode status = .obj entries ∧ (entries.map Prod.fst).Nodup ∧
      (∀ entry ∈ entries, entry.2.IsPlain) ∧
      entries.lookup "version" = status.version.map Json.str ∧
      entries.lookup "replicas" = status.replicas.map (fun count => Json.int count.toInt) ∧
      entries.lookup "observedGeneration" =
        status.observedGeneration.map (fun generation => Json.int generation.toInt) ∧
      entries.lookup "conditions" =
        some ((Codec.list Condition.codec).encode status.conditions) := by
  let raw : List (String × Json) :=
    ((status.version.map Json.str).map fun j => ("version", j)).toList ++
      ((status.replicas.map (fun count => Json.int count.toInt)).map
        fun j => ("replicas", j)).toList ++
      ((status.observedGeneration.map (fun generation => Json.int generation.toInt)).map
        fun j => ("observedGeneration", j)).toList ++
      [("conditions", (Codec.list Condition.codec).encode status.conditions)]
  have hencode : codec.encode status = .obj (Entries.normalize raw) := rfl
  -- the keys are a sublist of all keys, without those of fields that are left out
  have hkeys : (raw.map Prod.fst).Nodup := by
    have hsublist : (raw.map Prod.fst).Sublist
        ["version", "replicas", "observedGeneration", "conditions"] := by
      simp only [raw, List.map_append]
      exact (((Fields.keys_written _ _).append (Fields.keys_written _ _)).append
        (Fields.keys_written _ _)).append (.refl _)
    exact hsublist.nodup (by decide)
  refine ⟨_, hencode, (Entries.sorted_normalize raw).nodup, ?_, ?_, ?_, ?_, ?_⟩
  · intro entry hentry
    have hmem := Entries.mem_normalize hentry
    simp only [raw, List.mem_append, Option.mem_toList, Option.map_eq_some_iff,
      List.mem_singleton] at hmem
    obtain ((⟨j, ⟨value, -, rfl⟩, rfl⟩ | ⟨j, ⟨value, -, rfl⟩, rfl⟩) | ⟨j, ⟨value, -, rfl⟩, rfl⟩) |
      rfl := hmem
    all_goals trivial
  all_goals
    rw [Entries.lookup_normalize hkeys]
    simp only [raw, List.lookup_append, Fields.lookup_written, Entries.lookup_cons_eq]
    simp

/-- Reports are read back. -/
instance : codec.Lawful := Codec.record_lawful (fun _ => rfl) (by decide)

/-- A status that is merged into another one is read back, except that an unset revision is the
earlier one. -/
theorem decode_merge_patch {target : Json} {wanted reported : AgentStatus}
    (hversion : wanted.version ≠ none) (hreplicas : wanted.replicas ≠ none)
    (h : codec.decode (Json.mergePatch target (codec.encode wanted)) = .ok reported) :
    reported = { wanted with
      observedGeneration := wanted.observedGeneration.or (keptGeneration target) } := by
  obtain ⟨changes, hencode, hkeys, hplain, hv, hr, hg, hc⟩ := encode_eq wanted
  obtain ⟨before, hmerged, -, hbefore⟩ := Json.merge_patch_obj target changes
  have hlookup := Json.lookup_merge_entries hkeys hplain before
  have hwritten : codec.decode (.obj changes) = .ok wanted :=
    hencode ▸ Codec.Lawful.decode_encode wanted
  rw [hencode, hmerged, decode_obj_iff] at h
  obtain ⟨hreadVersion, hreadReplicas, hreadGeneration, hreadConditions⟩ := h
  obtain ⟨hwroteVersion, hwroteReplicas, -, hwroteConditions⟩ := decode_obj_iff.1 hwritten
  -- a field of the patch is read from the patch
  have hfield {α : Type} {key : String} {rule : FieldRule α} {value value' : α}
      (hkey : changes.lookup key ≠ none)
      (hwrote : Fields.readField key rule (fun key => changes.lookup key) = .ok value)
      (hread : Fields.readField key rule
        (fun key => (Json.mergeEntries before changes).lookup key) = .ok value') :
      value' = value := by
    obtain ⟨j, hj⟩ := Option.ne_none_iff_exists'.1 hkey
    have hsame : (Json.mergeEntries before changes).lookup key = changes.lookup key := by
      rw [hlookup, hj, Option.some_or]
    refine Except.ok.inj ((hread.symm.trans (Fields.read_field_congr ?_)).trans hwrote)
    exact hsame
  have hsameVersion : reported.version = wanted.version := by
    refine hfield ?_ hwroteVersion hreadVersion
    rwa [hv, Ne, Option.map_eq_none_iff]
  have hsameReplicas : reported.replicas = wanted.replicas := by
    refine hfield ?_ hwroteReplicas hreadReplicas
    rwa [hr, Ne, Option.map_eq_none_iff]
  have hsameConditions : reported.conditions = wanted.conditions := by
    refine hfield ?_ hwroteConditions hreadConditions
    rw [hc]
    nofun
  have hgeneration : reported.observedGeneration =
      wanted.observedGeneration.or (keptGeneration target) := by
    rw [Fields.read_field_optional rfl hreadGeneration, hlookup, hg, keptGeneration, hbefore]
    cases wanted.observedGeneration with
    | none => rfl
    | some generation =>
        show (Codec.int64.decode (Codec.int64.encode generation)).toOption = some generation
        rw [Codec.Lawful.decode_encode generation]
        rfl
  rw [← hgeneration, ← hsameVersion, ← hsameReplicas, ← hsameConditions]

/-- A status that is merged into one that can be read, or into something that is no object, can be
read. -/
theorem decode_merge_patch_succeeds {target : Json} (wanted : AgentStatus)
    (h : ∀ entries, target = .obj entries → ∃ earlier, codec.decode target = .ok earlier) :
    ∃ reported, codec.decode (Json.mergePatch target (codec.encode wanted)) = .ok reported := by
  obtain ⟨changes, hencode, hkeys, hplain, -⟩ := encode_eq wanted
  obtain ⟨before, hmerged, htarget, -⟩ := Json.merge_patch_obj target changes
  obtain ⟨earlier, hearlier⟩ : ∃ earlier, codec.decode (.obj before) = .ok earlier := by
    cases htarget with
    | inl hobject => exact hobject ▸ h before hobject
    | inr hnone =>
        rw [hnone]
        exact ⟨{}, rfl⟩
  have hwritten : codec.decode (.obj changes) = .ok wanted :=
    hencode ▸ Codec.Lawful.decode_encode wanted
  rw [hencode, hmerged]
  refine Codec.record_mixes hwritten hearlier fun key => ?_
  rw [Json.lookup_merge_entries hkeys hplain before]
  cases changes.lookup key with
  | none => exact .inr rfl
  | some j => exact .inl rfl

/-- A document into which a status was merged is an object. -/
theorem merge_patch_ne_null (target : Json) (status : AgentStatus) :
    Json.mergePatch target (codec.encode status) ≠ .null := by
  obtain ⟨changes, hencode, -⟩ := encode_eq status
  rw [hencode]
  cases target <;> nofun

end AgentStatus

namespace Agent

/-- The revision that the report in the document of an agent speaks of, if there is a report. -/
def keptGeneration (document : Json) : Option Int64 :=
  AgentStatus.keptGeneration ((document.get? "status").getD .emptyObject)

/-- An agent is read from an object part by part. -/
theorem decode_obj_iff {entries : List (String × Json)} {agent : Agent} :
    codec.decode (.obj entries) = .ok agent ↔
      Fields.readField "metadata" (.mandatory Kubernetes.ObjectMeta.codec)
        (fun key => entries.lookup key) = .ok agent.metadata ∧
      Fields.readField "spec" (.mandatory AgentSpec.codec) (fun key => entries.lookup key) =
        .ok agent.spec ∧
      Fields.readField "status" (.optional AgentStatus.codec) (fun key => entries.lookup key) =
        .ok agent.status := by
  show (AgentOf.fields Kubernetes.ObjectMeta.codec AgentSpec.codec).decodeEntries entries =
    .ok agent ↔ _
  rw [Fields.decode_entries_eq_ok_iff]
  simp only [AgentOf.fields, Fields.decode_field_iff]
  constructor
  · rintro ⟨f, status, ⟨g, spec, ⟨h, metadata, hbuild, hmetadata, rfl⟩, hspec, rfl⟩, hstatus, rfl⟩
    obtain rfl := Except.ok.inj hbuild
    exact ⟨hmetadata, hspec, hstatus⟩
  · intro h
    rcases h with ⟨hmetadata, hspec, hstatus⟩
    exact ⟨_, _, ⟨_, _, ⟨_, _, rfl, hmetadata, rfl⟩, hspec, rfl⟩, hstatus, rfl⟩

/-- An agent whose document gets another status is the same up to the status. -/
theorem decode_upsert_status {entries : List (String × Json)} {agent : Agent} {j : Json}
    {status : AgentStatus} (h : codec.decode (.obj entries) = .ok agent) (hnull : j ≠ .null)
    (hread : AgentStatus.codec.decode j = .ok status) :
    codec.decode (.obj (Entries.upsert "status" j entries)) =
      .ok { agent with status := some status } := by
  obtain ⟨hmetadata, hspec, -⟩ := decode_obj_iff.1 h
  have hother (key : String) (hkey : key ≠ "status") :
      (Entries.upsert "status" j entries).lookup key = entries.lookup key := by
    rw [Entries.lookup_upsert, if_neg hkey]
  have hstatus : (Entries.upsert "status" j entries).lookup "status" = some j := by
    rw [Entries.lookup_upsert, if_pos rfl]
  refine decode_obj_iff.2 ⟨(Fields.read_field_congr ?_).trans hmetadata,
    (Fields.read_field_congr ?_).trans hspec, ?_⟩
  · exact hother "metadata" (by decide)
  · exact hother "spec" (by decide)
  · refine (Fields.read_field_some_iff hstatus).2 ?_
    exact (FieldRule.optional_read_eq_ok_iff hnull).2 ⟨status, hread, rfl⟩

/-- An agent whose document gets another desired state is the same up to the desired state. -/
theorem decode_upsert_spec {entries : List (String × Json)} {agent : Agent} {j : Json}
    {spec : AgentSpec} (h : codec.decode (.obj entries) = .ok agent)
    (hread : AgentSpec.codec.decode j = .ok spec) :
    codec.decode (.obj (Entries.upsert "spec" j entries)) = .ok { agent with spec := spec } := by
  obtain ⟨hmetadata, -, hstatus⟩ := decode_obj_iff.1 h
  have hother (key : String) (hkey : key ≠ "spec") :
      (Entries.upsert "spec" j entries).lookup key = entries.lookup key := by
    rw [Entries.lookup_upsert, if_neg hkey]
  have hspec : (Entries.upsert "spec" j entries).lookup "spec" = some j := by
    rw [Entries.lookup_upsert, if_pos rfl]
  refine decode_obj_iff.2 ⟨(Fields.read_field_congr ?_).trans hmetadata,
    (Fields.read_field_some_iff hspec).2 hread, (Fields.read_field_congr ?_).trans hstatus⟩
  · exact hother "metadata" (by decide)
  · exact hother "status" (by decide)

/-- Agents read from documents that differ in the status and the revision only have the same desired
state, and the same metadata up to the revision. -/
theorem eq_of_revised {entries found : List (String × Json)} {agent stored : Agent}
    (hagent : codec.decode (.obj entries) = .ok agent)
    (hstored : codec.decode (.obj found) = .ok stored)
    (hsame : found.lookup "spec" = entries.lookup "spec")
    (hrevised : (found.lookup "metadata").map (·.erase "resourceVersion") =
      (entries.lookup "metadata").map (·.erase "resourceVersion")) :
    stored.spec = agent.spec ∧
      { stored.metadata with resourceVersion := none } =
        { agent.metadata with resourceVersion := none } := by
  obtain ⟨hmetadata, hspec, -⟩ := decode_obj_iff.1 hagent
  obtain ⟨hmetadata', hspec', -⟩ := decode_obj_iff.1 hstored
  constructor
  · refine Except.ok.inj ((hspec'.symm.trans (Fields.read_field_congr ?_)).trans hspec)
    exact hsame
  · cases hthere : entries.lookup "metadata" with
    | none =>
        rw [Fields.readField, hthere] at hmetadata
        cases hmetadata
    | some j =>
        rw [hthere] at hrevised
        obtain ⟨j', hthere', herase⟩ := Option.map_eq_some_iff.1 hrevised
        exact Kubernetes.ObjectMeta.eq_of_erase ((Fields.read_field_some_iff hthere').1 hmetadata')
          ((Fields.read_field_some_iff hthere).1 hmetadata) herase

/-- The status in the document of an agent can be read, if it is an object. -/
theorem decode_status {entries status : List (String × Json)} {agent : Agent}
    (h : codec.decode (.obj entries) = .ok agent)
    (hstatus : entries.lookup "status" = some (.obj status)) :
    ∃ earlier, AgentStatus.codec.decode (.obj status) = .ok earlier := by
  have hread := (Fields.read_field_some_iff hstatus).1 (decode_obj_iff.1 h).2.2
  obtain ⟨earlier, hearlier, -⟩ := (FieldRule.optional_read_eq_ok_iff (by nofun)).1 hread
  exact ⟨earlier, hearlier⟩

/-- The status of an agent that has one is read from the entry under its key. -/
theorem exists_status {entries : List (String × Json)} {agent : Agent} {status : AgentStatus}
    (h : codec.decode (.obj entries) = .ok agent) (hstatus : agent.status = some status) :
    ∃ j, entries.lookup "status" = some j ∧ AgentStatus.codec.decode j = .ok status := by
  have hread := (decode_obj_iff.1 h).2.2
  rw [hstatus] at hread
  cases hthere : entries.lookup "status" with
  | none =>
      rw [Fields.readField, hthere] at hread
      cases hread
  | some j =>
      rw [Fields.read_field_some_iff hthere] at hread
      by_cases hnull : j = .null
      · subst hnull
        cases hread
      · obtain ⟨found, hfound, hsame⟩ := (FieldRule.optional_read_eq_ok_iff hnull).1 hread
        obtain rfl := Option.some.inj hsame
        exact ⟨j, rfl, hfound⟩

/-- A status without a revision is read from a document without one. -/
theorem or_kept_generation {entries : List (String × Json)} {agent : Agent} {status : AgentStatus}
    (h : codec.decode (.obj entries) = .ok agent) (hstatus : agent.status = some status) :
    status.observedGeneration.or (keptGeneration (.obj entries)) = status.observedGeneration := by
  obtain ⟨j, hj, hdecode⟩ := exists_status h hstatus
  have hkept : keptGeneration (.obj entries) = AgentStatus.keptGeneration j := by
    show AgentStatus.keptGeneration ((entries.lookup "status").getD .emptyObject) = _
    rw [hj]
    rfl
  rw [hkept]
  cases AgentStatus.kept_generation_of_decode hdecode with
  | inl hnone => rw [hnone, Option.or_none]
  | inr hsame => rw [hsame, Option.or_self]

end Agent

end AgentOperator
