import AgentOperator.Proofs.Ports.Resolution

/-!
# Declared ports in the resolution

A declared port replaces a default one of its name, and is not validated. `resolve_keeps_named`
gives the declared ports that are resolved: all with a name that is declared once, and of those
without a name the last one, since all of these have the empty name as their key.
`resolve_valid_iff` says when every resolved port is valid: the defaults always are, and a declared
one if and only if it is declared so.
-/

namespace AgentOperator.Ports

open Kubernetes

variable {defaults : List DefaultPort} {declared : List ServicePort}

/-- The last declared port of a name is resolved. -/
theorem of_declared_mem_resolve {name : String} {port : ServicePort}
    (h : IsLast (declaredName · = name) declared port) :
    ofDeclared port ∈ resolve defaults declared := by
  refine mem_resolve_iff.2 ⟨name, ?_⟩
  rw [ofDeclared, h.meets]
  exact .declared h

/-- Resolved ports that were declared under one name are equal. -/
theorem of_declared_eq_of_mem_resolve {one two : ServicePort}
    (hone : ofDeclared one ∈ resolve defaults declared)
    (htwo : ofDeclared two ∈ resolve defaults declared)
    (hname : declaredName one = declaredName two) : ofDeclared one = ofDeclared two :=
  (goes_by_of_mem_resolve hone rfl).eq (goes_by_of_mem_resolve htwo (congrArg some hname.symm))

/-- A key that is not empty is the declared name. -/
theorem name_eq_of_declared_name_ne {port : ServicePort} (h : declaredName port ≠ "") :
    port.name = some (declaredName port) := by
  unfold declaredName at h ⊢
  cases hname : port.name with
  | none =>
      rw [hname] at h
      exact absurd rfl h
  | some name => rfl

/-- A port with a name is the last declared one of the name if no name is declared twice. -/
theorem is_last_of_named (hnames : (declared.filterMap ServicePort.name).Nodup)
    {port : ServicePort} (hport : port ∈ declared) (hnamed : declaredName port ≠ "") :
    IsLast (declaredName · = declaredName port) declared port := by
  obtain ⟨earlier, later, hdeclared⟩ := List.append_of_mem hport
  refine ⟨rfl, earlier, later, hdeclared, fun other hother hname => ?_⟩
  rw [List.Nodup, List.pairwise_filterMap, hdeclared, List.pairwise_append] at hnames
  refine (List.pairwise_cons.1 hnames.2.1).1 other hother _ (name_eq_of_declared_name_ne hnamed) _
    (name_eq_of_declared_name_ne ?_) hname.symm
  rwa [hname]

/-- The declared ports in the resolution. Every port with a name other than the empty one is
resolved with its number and protocol, if no name is declared twice, and so is the last port without
one. So no declared port is lost if and only if those without a name are all equal. -/
theorem resolve_keeps_named (hnames : (declared.filterMap ServicePort.name).Nodup) :
    (∀ port ∈ declared, declaredName port ≠ "" → ofDeclared port ∈ resolve defaults declared) ∧
      (∀ port, IsLast (declaredName · = "") declared port →
        ofDeclared port ∈ resolve defaults declared) ∧
      ((∀ port ∈ declared, ofDeclared port ∈ resolve defaults declared) ↔
        ∀ one ∈ declared, ∀ two ∈ declared, declaredName one = "" → declaredName two = "" →
          one.port = two.port ∧ one.protocol = two.protocol) := by
  have hnamed (port : ServicePort) (hport : port ∈ declared) (hname : declaredName port ≠ "") :
      ofDeclared port ∈ resolve defaults declared :=
    of_declared_mem_resolve (is_last_of_named hnames hport hname)
  refine ⟨hnamed, fun port => of_declared_mem_resolve, ?_, ?_⟩
  · intro hkept one hone two htwo hname hname'
    have hsame := of_declared_eq_of_mem_resolve (hkept one hone) (hkept two htwo)
      (hname.trans hname'.symm)
    exact ⟨congrArg ContainerPort.containerPort hsame, congrArg ContainerPort.protocol hsame⟩
  · intro hsame port hport
    by_cases hname : declaredName port = ""
    · obtain ⟨last, hlast⟩ : ∃ last, IsLast (declaredName · = "") declared last :=
        exists_is_last_iff.2 ⟨port, hport, hname⟩
      obtain ⟨hnumber, hprotocol⟩ := hsame port hport last hlast.mem hname hlast.meets
      have heq : ofDeclared port = ofDeclared last := by
        rw [ofDeclared, ofDeclared, hname, hlast.meets, hnumber, hprotocol]
      exact heq ▸ of_declared_mem_resolve hlast
    · exact hnamed port hport hname

/-- A port in place of a default one and a port without a name are both resolved. -/
theorem replacing_and_unnamed_kept :
    let declared : List ServicePort :=
      [{ name := some "statsd", port := 9125 }, { port := 7000, protocol := some "TCP" }]
    (declared.filterMap ServicePort.name).Nodup ∧
      ∀ port ∈ declared, ofDeclared port ∈ resolve agentPorts declared := by
  intro declared
  have hnames : (declared.filterMap ServicePort.name).Nodup := by decide
  refine ⟨hnames, (resolve_keeps_named hnames).2.2.2 ?_⟩
  decide

/-- Of two ports without a name the first one is lost. -/
theorem unnamed_port_lost :
    let declared : List ServicePort :=
      [{ port := 7000, protocol := some "TCP" }, { port := 7001, protocol := some "TCP" }]
    (declared.filterMap ServicePort.name).Nodup ∧
      ∃ port ∈ declared, ∀ kept ∈ resolve agentPorts declared,
        ¬ (kept.containerPort = port.port ∧ kept.protocol = port.protocol) := by
  decide +kernel

/-- The validity of the resolved ports. All of them have names, and those whose names are not
declared are valid. So all are valid if and only if every declared port that is the last one of its
name is. -/
theorem resolve_valid_iff :
    (∀ name number, validate name number = .ok () ↔ IsPort name number) ∧
      (∀ port ∈ resolve defaults declared, ∃ name, port.name = some name ∧
        ((∀ other ∈ declared, declaredName other ≠ name) →
          validate name port.containerPort = .ok ())) ∧
      ((∀ port ∈ resolve defaults declared, ∃ name, port.name = some name ∧
          validate name port.containerPort = .ok ()) ↔
        ∀ port, IsLast (declaredName · = declaredName port) declared port →
          validate (declaredName port) port.port = .ok ()) := by
  refine ⟨fun _ _ => validate_eq_ok_iff, fun port hport => ?_, ?_, ?_⟩
  · obtain ⟨name, hgoes⟩ := mem_resolve_iff.1 hport
    refine ⟨name, hgoes.name_eq, fun hnone => ?_⟩
    cases hgoes with
    | declared hlast => exact absurd hlast.meets (hnone _ hlast.mem)
    | byDefault _ hlast => exact hlast.meets.2
  · intro hvalid port hlast
    obtain ⟨name, hname, hport⟩ := hvalid _ (of_declared_mem_resolve hlast)
    obtain rfl := Option.some.inj hname
    exact hport
  · intro hvalid port hport
    obtain ⟨name, hgoes⟩ := mem_resolve_iff.1 hport
    refine ⟨name, hgoes.name_eq, ?_⟩
    cases hgoes with
    | @declared last hlast =>
        obtain rfl := hlast.meets
        exact hvalid last hlast
    | byDefault _ hlast => exact hlast.meets.2

/-- A declared port that is not valid is resolved. -/
theorem invalid_port_resolved :
    ¬ ∀ port ∈ resolve agentPorts [{ name := some "bad_name", port := 0 }],
      ∃ name, port.name = some name ∧ validate name port.containerPort = .ok () := by
  intro h
  obtain ⟨name, hname, hvalid⟩ :=
    h { name := some "bad_name", containerPort := 0 } (by decide +kernel)
  obtain rfl := Option.some.inj hname
  revert hvalid
  rw [validate_eq_ok_iff_faultless]
  decide

end AgentOperator.Ports
