import AgentOperator.Kubernetes.Workload
import AgentOperator.Kubernetes.ConfigMap
import AgentOperator.Kubernetes.Service
import AgentOperator.Kubernetes.ServiceAccount
import AgentOperator.Proofs.Codec.RoundTrip

/-!
# Round trips of Kubernetes objects

The codecs of the Kubernetes types are lawful, from the metadata of an object up to whole objects.
All but two of them are built from fields, so that the only obligation is that the keys of the
fields are different. Metadata from documents that differ in the revision only are equal up to the
revision (`ObjectMeta.eq_of_erase`).
-/

namespace AgentOperator.Kubernetes

open Codec (kind_lawful kubernetes_lawful)

/-- Amounts are read back, since they are written as texts. -/
instance : quantity.Lawful where
  decode_encode _ := rfl
  encode_ne_null _ := nofun

/-- Ports given by number or by name are read back. -/
instance : IntOrString.codec.Lawful where
  decode_encode value := by
    cases value with
    | int value => simp only [IntOrString.codec, Codec.int32_of_int?_to_int]
    | str value => rfl
  encode_ne_null value := by cases value <;> nofun

/-! ## Metadata -/

instance : OwnerReference.codec.Lawful := kubernetes_lawful (fun _ => rfl) (by decide)

instance : ObjectMeta.codec.Lawful := kubernetes_lawful (fun _ => rfl) (by decide)

instance : LabelSelectorRequirement.codec.Lawful := kubernetes_lawful (fun _ => rfl) (by decide)

instance : LabelSelector.codec.Lawful := kubernetes_lawful (fun _ => rfl) (by decide)

/-! ## Variables -/

instance : ObjectFieldSelector.codec.Lawful := kubernetes_lawful (fun _ => rfl) (by decide)

instance : SecretKeySelector.codec.Lawful := kubernetes_lawful (fun _ => rfl) (by decide)

instance : ConfigMapKeySelector.codec.Lawful := kubernetes_lawful (fun _ => rfl) (by decide)

instance : ResourceFieldSelector.codec.Lawful := kubernetes_lawful (fun _ => rfl) (by decide)

instance : EnvVarSource.codec.Lawful := kubernetes_lawful (fun _ => rfl) (by decide)

instance : EnvVar.codec.Lawful := kubernetes_lawful (fun _ => rfl) (by decide)

instance (typeName : String) : (EnvSource.codec typeName).Lawful :=
  kubernetes_lawful (fun _ => rfl) (by decide)

instance : EnvFromSource.codec.Lawful := kubernetes_lawful (fun _ => rfl) (by decide)

/-! ## Volumes -/

instance : LocalObjectReference.codec.Lawful := kubernetes_lawful (fun _ => rfl) (by decide)

instance : AWSElasticBlockStoreVolumeSource.codec.Lawful :=
  kubernetes_lawful (fun _ => rfl) (by decide)

instance : AzureDiskVolumeSource.codec.Lawful := kubernetes_lawful (fun _ => rfl) (by decide)

instance : AzureFileVolumeSource.codec.Lawful := kubernetes_lawful (fun _ => rfl) (by decide)

instance : CephFSVolumeSource.codec.Lawful := kubernetes_lawful (fun _ => rfl) (by decide)

instance : CinderVolumeSource.codec.Lawful := kubernetes_lawful (fun _ => rfl) (by decide)

instance : CSIVolumeSource.codec.Lawful := kubernetes_lawful (fun _ => rfl) (by decide)

instance : FCVolumeSource.codec.Lawful := kubernetes_lawful (fun _ => rfl) (by decide)

instance : FlexVolumeSource.codec.Lawful := kubernetes_lawful (fun _ => rfl) (by decide)

instance : FlockerVolumeSource.codec.Lawful := kubernetes_lawful (fun _ => rfl) (by decide)

instance : GCEPersistentDiskVolumeSource.codec.Lawful :=
  kubernetes_lawful (fun _ => rfl) (by decide)

instance : GitRepoVolumeSource.codec.Lawful := kubernetes_lawful (fun _ => rfl) (by decide)

instance : GlusterfsVolumeSource.codec.Lawful := kubernetes_lawful (fun _ => rfl) (by decide)

instance : ISCSIVolumeSource.codec.Lawful := kubernetes_lawful (fun _ => rfl) (by decide)

instance : NFSVolumeSource.codec.Lawful := kubernetes_lawful (fun _ => rfl) (by decide)

instance : PhotonPersistentDiskVolumeSource.codec.Lawful :=
  kubernetes_lawful (fun _ => rfl) (by decide)

instance : PortworxVolumeSource.codec.Lawful := kubernetes_lawful (fun _ => rfl) (by decide)

instance : QuobyteVolumeSource.codec.Lawful := kubernetes_lawful (fun _ => rfl) (by decide)

instance : RBDVolumeSource.codec.Lawful := kubernetes_lawful (fun _ => rfl) (by decide)

instance : ScaleIOVolumeSource.codec.Lawful := kubernetes_lawful (fun _ => rfl) (by decide)

instance : StorageOSVolumeSource.codec.Lawful := kubernetes_lawful (fun _ => rfl) (by decide)

instance : VsphereVirtualDiskVolumeSource.codec.Lawful :=
  kubernetes_lawful (fun _ => rfl) (by decide)

instance : PersistentVolumeClaimVolumeSource.codec.Lawful :=
  kubernetes_lawful (fun _ => rfl) (by decide)

instance : TypedLocalObjectReference.codec.Lawful := kubernetes_lawful (fun _ => rfl) (by decide)

instance : TypedObjectReference.codec.Lawful := kubernetes_lawful (fun _ => rfl) (by decide)

instance : VolumeResourceRequirements.codec.Lawful := kubernetes_lawful (fun _ => rfl) (by decide)

instance : PersistentVolumeClaimSpec.codec.Lawful := kubernetes_lawful (fun _ => rfl) (by decide)

instance : PersistentVolumeClaimTemplate.codec.Lawful :=
  kubernetes_lawful (fun _ => rfl) (by decide)

instance : EphemeralVolumeSource.codec.Lawful := kubernetes_lawful (fun _ => rfl) (by decide)

instance : KeyToPath.codec.Lawful := kubernetes_lawful (fun _ => rfl) (by decide)

instance : ConfigMapVolumeSource.codec.Lawful := kubernetes_lawful (fun _ => rfl) (by decide)

instance : SecretVolumeSource.codec.Lawful := kubernetes_lawful (fun _ => rfl) (by decide)

instance : DownwardAPIVolumeFile.codec.Lawful := kubernetes_lawful (fun _ => rfl) (by decide)

instance : DownwardAPIVolumeSource.codec.Lawful := kubernetes_lawful (fun _ => rfl) (by decide)

instance (typeName : String) : (ObjectProjection.codec typeName).Lawful :=
  kubernetes_lawful (fun _ => rfl) (by decide)

instance : DownwardAPIProjection.codec.Lawful := kubernetes_lawful (fun _ => rfl) (by decide)

instance : ServiceAccountTokenProjection.codec.Lawful :=
  kubernetes_lawful (fun _ => rfl) (by decide)

instance : ClusterTrustBundleProjection.codec.Lawful := kubernetes_lawful (fun _ => rfl) (by decide)

instance : VolumeProjection.codec.Lawful := kubernetes_lawful (fun _ => rfl) (by decide)

instance : ProjectedVolumeSource.codec.Lawful := kubernetes_lawful (fun _ => rfl) (by decide)

instance : EmptyDirVolumeSource.codec.Lawful := kubernetes_lawful (fun _ => rfl) (by decide)

instance : HostPathVolumeSource.codec.Lawful := kubernetes_lawful (fun _ => rfl) (by decide)

instance : Volume.codec.Lawful := kubernetes_lawful (fun _ => rfl) (by decide)

instance : VolumeMount.codec.Lawful := kubernetes_lawful (fun _ => rfl) (by decide)

/-! ## Containers -/

instance : ContainerPort.codec.Lawful := kubernetes_lawful (fun _ => rfl) (by decide)

instance : ResourceClaim.codec.Lawful := kubernetes_lawful (fun _ => rfl) (by decide)

instance : ResourceRequirements.codec.Lawful := kubernetes_lawful (fun _ => rfl) (by decide)

instance : Capabilities.codec.Lawful := kubernetes_lawful (fun _ => rfl) (by decide)

instance (typeName : String) : (ConfinementProfile.codec typeName).Lawful :=
  kubernetes_lawful (fun _ => rfl) (by decide)

instance : SELinuxOptions.codec.Lawful := kubernetes_lawful (fun _ => rfl) (by decide)

instance : WindowsSecurityContextOptions.codec.Lawful :=
  kubernetes_lawful (fun _ => rfl) (by decide)

instance : SecurityContext.codec.Lawful := kubernetes_lawful (fun _ => rfl) (by decide)

instance : ExecAction.codec.Lawful := kubernetes_lawful (fun _ => rfl) (by decide)

instance : HTTPHeader.codec.Lawful := kubernetes_lawful (fun _ => rfl) (by decide)

instance : HTTPGetAction.codec.Lawful := kubernetes_lawful (fun _ => rfl) (by decide)

instance : TCPSocketAction.codec.Lawful := kubernetes_lawful (fun _ => rfl) (by decide)

instance : SleepAction.codec.Lawful := kubernetes_lawful (fun _ => rfl) (by decide)

instance : LifecycleHandler.codec.Lawful := kubernetes_lawful (fun _ => rfl) (by decide)

instance : Lifecycle.codec.Lawful := kubernetes_lawful (fun _ => rfl) (by decide)

instance : Container.codec.Lawful := kubernetes_lawful (fun _ => rfl) (by decide)

/-! ## Pods and workloads -/

instance : Toleration.codec.Lawful := kubernetes_lawful (fun _ => rfl) (by decide)

instance : PodSpec.codec.Lawful := kubernetes_lawful (fun _ => rfl) (by decide)

instance : PodTemplateSpec.codec.Lawful := kubernetes_lawful (fun _ => rfl) (by decide)

instance : DeploymentSpec.codec.Lawful := kubernetes_lawful (fun _ => rfl) (by decide)

instance : DeploymentStatus.codec.Lawful := kubernetes_lawful (fun _ => rfl) (by decide)

instance : DaemonSetSpec.codec.Lawful := kubernetes_lawful (fun _ => rfl) (by decide)

instance : DaemonSetStatus.codec.Lawful := kubernetes_lawful (fun _ => rfl) (by decide)

instance : ServicePort.codec.Lawful := kubernetes_lawful (fun _ => rfl) (by decide)

instance : ServiceSpec.codec.Lawful := kubernetes_lawful (fun _ => rfl) (by decide)

/-! ## Objects -/

instance : ConfigMap.codec.Lawful := kind_lawful (fun _ => rfl) (by decide)

instance : ServiceAccount.codec.Lawful := kind_lawful (fun _ => rfl) (by decide)

instance : Service.codec.Lawful := kind_lawful (fun _ => rfl) (by decide)

instance : Deployment.codec.Lawful := kind_lawful (fun _ => rfl) (by decide)

instance : DaemonSet.codec.Lawful := kind_lawful (fun _ => rfl) (by decide)

/-! ## Metadata of revised objects -/

/-- The fields of metadata, each read from its entry. -/
theorem ObjectMeta.reads_of_decode {entries : List (String × Json)} {m : ObjectMeta}
    (h : codec.decode (.obj entries) = .ok m) :
    let read {α : Type} (key : String) (codec : Codec α) (value : Option α) : Prop :=
      Fields.readField key (.optional codec) (fun key => entries.lookup key) = .ok value
    read "name" .text m.name ∧ read "generateName" .text m.generateName ∧
      read "namespace" .text m.inNamespace ∧ read "uid" .text m.uid ∧
      read "generation" .int64 m.generation ∧ read "labels" (.dict .text) m.labels ∧
      read "annotations" (.dict .text) m.annotations ∧
      read "resourceVersion" .text m.resourceVersion ∧
      read "finalizers" (.list .text) m.finalizers ∧
      read "ownerReferences" (.list OwnerReference.codec) m.ownerReferences ∧
      read "deletionGracePeriodSeconds" .int64 m.deletionGracePeriodSeconds ∧
      read "selfLink" .text m.selfLink := by
  have hfields := Fields.decode_entries_eq_ok_iff.1 h
  simp only [Fields.decode_field_iff] at hfields
  obtain ⟨_, link, ⟨_, grace, ⟨_, owners, ⟨_, finalizers, ⟨_, version, ⟨_, annotations,
    ⟨_, labels, ⟨_, generation, ⟨_, uid, ⟨_, space, ⟨_, stem, ⟨_, name, hbuild, hname, rfl⟩,
    hstem, rfl⟩, hspace, rfl⟩, huid, rfl⟩, hgeneration, rfl⟩, hlabels, rfl⟩, hannotations, rfl⟩,
    hversion, rfl⟩, hfinalizers, rfl⟩, howners, rfl⟩, hgrace, rfl⟩, hlink, rfl⟩ := hfields
  obtain rfl := Except.ok.inj hbuild
  exact ⟨hname, hstem, hspace, huid, hgeneration, hlabels, hannotations, hversion, hfinalizers,
    howners, hgrace, hlink⟩

/-- Metadata whose documents differ in the revision only are equal up to the revision. -/
theorem ObjectMeta.eq_of_erase {first second : Json} {one other : ObjectMeta}
    (hfirst : codec.decode first = .ok one) (hsecond : codec.decode second = .ok other)
    (h : first.erase "resourceVersion" = second.erase "resourceVersion") :
    { one with resourceVersion := none } = { other with resourceVersion := none } := by
  obtain ⟨entries, rfl⟩ : ∃ entries, first = .obj entries := by
    cases first with
    | obj entries => exact ⟨entries, rfl⟩
    | _ => cases hfirst
  obtain ⟨entries', rfl⟩ : ∃ entries, second = .obj entries := by
    cases second with
    | obj entries => exact ⟨entries, rfl⟩
    | _ => cases hsecond
  have hsame {α : Type} {key : String} {codec : Codec α} {value value' : Option α}
      (hone : Fields.readField key (.optional codec) (fun key => entries.lookup key) = .ok value)
      (hother : Fields.readField key (.optional codec) (fun key => entries'.lookup key) =
        .ok value') (hkey : key ≠ "resourceVersion") : value = value' := by
    have hlookup : entries.lookup key = entries'.lookup key := by
      have herased : (Entries.erase "resourceVersion" entries).lookup key =
          (Entries.erase "resourceVersion" entries').lookup key := by
        rw [Json.obj.inj h]
      rwa [Entries.lookup_erase, Entries.lookup_erase, if_neg hkey, if_neg hkey] at herased
    refine Except.ok.inj ((hone.symm.trans (Fields.read_field_congr ?_)).trans hother)
    exact hlookup
  obtain ⟨hname, hstem, hspace, huid, hgeneration, hlabels, hannotations, -, hfinalizers,
    howners, hgrace, hlink⟩ := reads_of_decode hfirst
  obtain ⟨hname', hstem', hspace', huid', hgeneration', hlabels', hannotations', -, hfinalizers',
    howners', hgrace', hlink'⟩ := reads_of_decode hsecond
  rw [hsame hname hname' (by decide), hsame hstem hstem' (by decide),
    hsame hspace hspace' (by decide), hsame huid huid' (by decide),
    hsame hgeneration hgeneration' (by decide), hsame hlabels hlabels' (by decide),
    hsame hannotations hannotations' (by decide), hsame hfinalizers hfinalizers' (by decide),
    hsame howners howners' (by decide), hsame hgrace hgrace' (by decide),
    hsame hlink hlink' (by decide)]

end AgentOperator.Kubernetes
