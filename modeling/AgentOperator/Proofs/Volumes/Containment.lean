import AgentOperator.Manifest.Volumes
import AgentOperator.Proofs.Naming.Auxiliary
import AgentOperator.Proofs.Path.Clean
import Mathlib.Data.List.Forall2

/-!
# Where auxiliary config maps are mounted

An auxiliary config map is mounted in a directory that is named like its volume. The resource gives
the parent of that directory by a path from the base directory, and this path may lead out of it.
`auxiliary_mounts_placed` says which mounts lie below the base directory: those whose path leads to
the base directory or below it, such as all that never climb.
-/

namespace AgentOperator.Volumes

open Kubernetes

/-- The segments of the base directory, the last one first. -/
def basePlace : List (List Char) := [['c', 'o', 'n', 'f'], ['v', 'a', 'r']]

/-- The directory that a path leads to from the base directory. -/
def directoryOf (mountPath : String) : String := Path.join [auxiliaryBase, mountPath]

/-- The mount of an auxiliary config map is placed: it mounts the volume of the config map at a
clean absolute path that ends in the name of the volume. The path lies below the base directory if
and only if the directory of the resource is within it, as it is if the path of the resource never
climbs. -/
structure IsPlaced (bundle : AuxiliaryConfig) (mount : VolumeMount) : Prop where
  volume : mount.name = Naming.auxiliaryVolume bundle.name
  clean : ∃ front, Path.IsCleanPath mount.mountPath (front ++ [mount.name.toList])
  below : Path.IsBelow auxiliaryBase mount.mountPath ↔
    Path.IsWithin auxiliaryBase (directoryOf bundle.mountPath)
  unclimbing : Path.NeverClimbs (Text.pieces '/' bundle.mountPath.toList) →
    Path.IsBelow auxiliaryBase mount.mountPath

/-- The segments of the base directory are those of clean paths. -/
theorem is_place_base_place : Path.IsPlace basePlace := by
  intro segment hsegment
  rcases List.mem_pair.1 hsegment with rfl | rfl
  · exact ⟨by decide, by decide⟩
  · exact ⟨by decide, by decide⟩

/-- The base directory is the path of its segments. -/
theorem auxiliary_base_eq : auxiliaryBase = String.ofList (Path.render basePlace) := by decide

/-- The base directory leads to its segments. -/
theorem walk_auxiliary_base : Path.walk [] auxiliaryBase.toList = basePlace := by decide

/-- The name of an auxiliary volume is a segment of a clean path. -/
theorem is_segment_auxiliary_volume (name : String) :
    Path.IsSegment (Naming.auxiliaryVolume name).toList := by
  obtain ⟨rest, hrest⟩ := Naming.stem_prefix_auxiliary_volume name
  constructor
  · rw [← hrest]
    exact ⟨nofun, nofun, nofun⟩
  · intro hslash
    exact absurd (Naming.is_label_char_of_mem_label_of hslash) (by decide)

/-- The path of a resource leads from the base directory to a place with clean segments. -/
theorem is_place_walk_base_place (mountPath : String) :
    Path.IsPlace (Path.walk basePlace mountPath.toList) :=
  Path.is_place_walk is_place_base_place

/-- The directory of a resource is within the base directory if and only if its segments extend
those of the base directory. -/
theorem is_within_directory_of_iff (mountPath : String) :
    Path.IsWithin auxiliaryBase (directoryOf mountPath) ↔
      ∃ inner, Path.walk basePlace mountPath.toList = inner ++ basePlace := by
  have hdirectory : directoryOf mountPath =
      String.ofList (Path.render (Path.walk basePlace mountPath.toList)) := by
    rw [← walk_auxiliary_base]
    rfl
  rw [hdirectory, auxiliary_base_eq]
  exact Path.is_within_render_iff (is_place_walk_base_place mountPath) is_place_base_place
    (List.cons_ne_nil _ _)

variable (bundle : AuxiliaryConfig)

/-- The segments of the path at which an auxiliary config map is mounted, the last one first. -/
theorem auxiliary_path_eq : auxiliaryPath bundle = String.ofList (Path.render
    ((Naming.auxiliaryVolume bundle.name).toList ::
      Path.walk basePlace bundle.mountPath.toList)) := by
  rw [← Path.walk_of_is_segment (is_segment_auxiliary_volume bundle.name), ← walk_auxiliary_base,
    auxiliaryPath, Path.join]
  simp only [List.map_cons, List.map_nil, List.foldl_cons, List.foldl_nil]

/-- The segments of the path at which an auxiliary config map is mounted are those of clean
paths. -/
theorem is_place_auxiliary_path : Path.IsPlace ((Naming.auxiliaryVolume bundle.name).toList ::
    Path.walk basePlace bundle.mountPath.toList) :=
  List.forall_mem_cons.2
    ⟨is_segment_auxiliary_volume bundle.name, is_place_walk_base_place bundle.mountPath⟩

/-- An auxiliary config map is mounted below the base directory if and only if the segments of the
directory of the resource extend those of the base directory. -/
theorem is_below_auxiliary_path_iff : Path.IsBelow auxiliaryBase (auxiliaryPath bundle) ↔
    ∃ inner, Path.walk basePlace bundle.mountPath.toList = inner ++ basePlace := by
  rw [auxiliary_path_eq, auxiliary_base_eq,
    Path.is_below_render_iff (is_place_auxiliary_path bundle)
      is_place_base_place (List.cons_ne_nil _ _)]
  constructor
  · rintro ⟨inner, hne, hinner⟩
    obtain ⟨volume, inner, rfl⟩ := List.exists_cons_of_ne_nil hne
    exact ⟨inner, (List.cons.inj hinner).2⟩
  · rintro ⟨inner, hinner⟩
    exact ⟨_ :: inner, List.cons_ne_nil _ _, congrArg _ hinner⟩

/-- The mount of an auxiliary config map is placed. -/
theorem is_placed_auxiliary_mount : IsPlaced bundle (auxiliaryMount bundle) where
  volume := rfl
  clean := by
    refine ⟨(Path.walk basePlace bundle.mountPath.toList).reverse, ?_⟩
    have hpath := Path.is_clean_path_render (is_place_auxiliary_path bundle)
    rw [← auxiliary_path_eq, List.reverse_cons] at hpath
    exact hpath
  below := (is_below_auxiliary_path_iff bundle).trans (is_within_directory_of_iff _).symm
  unclimbing hclimbs := (is_below_auxiliary_path_iff bundle).2 (Path.exists_walk_eq hclimbs)

/-- The mounts of a container end in one for each auxiliary config map, in the same order. Each of
them is at a clean path that ends in the name of the volume. It lies below the base directory if and
only if the directory of the resource is within it. -/
theorem auxiliary_mounts_placed (spec : AgentSpec) (addConfig : Bool) :
    ∃ own auxiliaries, mounts spec addConfig = own ++ spec.volumeMounts ++ auxiliaries ∧
      (∀ mount ∈ own, mount = configMount) ∧
      List.Forall₂ IsPlaced spec.configMaps auxiliaries := by
  refine ⟨_, _, rfl, ?_, ?_⟩
  · cases addConfig with
    | false => exact fun _ hmount => absurd hmount List.not_mem_nil
    | true => exact fun _ hmount => List.mem_singleton.1 hmount
  · rw [List.forall₂_map_right_iff, List.forall₂_same]
    exact fun bundle _ => is_placed_auxiliary_mount bundle

/-- A path that climbs out of the base directory, but comes back, is within it. -/
example : Path.IsWithin auxiliaryBase (directoryOf "../conf/edge/.") := .inr (by decide)

/-- An auxiliary config map is mounted outside of the base directory if the path of the resource
leads above it. -/
theorem mounted_outside_base :
    let bundle : AuxiliaryConfig := { name := "prom", mountPath := "../../etc" }
    ∃ mount ∈ mounts { configMaps := [bundle] } true,
      mount.name = Naming.auxiliaryVolume bundle.name ∧ mount.mountPath = "/etc/configmap-prom" ∧
        ¬ Path.IsBelow auxiliaryBase mount.mountPath := by
  intro bundle
  have hpath : auxiliaryPath bundle = "/etc/configmap-prom" := by decide +kernel
  refine ⟨auxiliaryMount bundle, by simp [mounts], rfl, hpath, ?_⟩
  show ¬ Path.IsBelow auxiliaryBase (auxiliaryPath bundle)
  rw [hpath]
  decide

end AgentOperator.Volumes
