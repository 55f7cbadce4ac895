import AgentOperator.Proofs.Cluster.Unreliable

/-!
# Servers that keep namespaces apart

A request is about one namespace (`Api.Request.inNamespace`), and a server that keeps namespaces
apart neither reads nor changes another one to serve it. The server of a store of objects is such a
server, also with failures on some requests (`Cluster.keeps_apart_failing`).
-/

namespace AgentOperator

variable {σ π : Type}

/-- The namespace that a request is about. -/
def Api.Request.inNamespace : Request → String
  | .fetch ref | .apply ref _ | .patchStatus ref _ | .delete ref => ref.inNamespace
  | .createEvent inNamespace _ => inNamespace

/-- A server keeps namespaces apart: each of them has a part of its state. The reply to a request,
and the part of its namespace afterwards, are determined by that part; all other parts are
unchanged. -/
structure KeepsApart (serve : Api.Request → σ → Api.Reply × σ) (part : σ → String → π) :
    Prop where
  reply : ∀ request {state other : σ},
    part state request.inNamespace = part other request.inNamespace →
    (serve request state).1 = (serve request other).1
  change : ∀ request {state other : σ},
    part state request.inNamespace = part other request.inNamespace →
    part (serve request state).2 request.inNamespace =
      part (serve request other).2 request.inNamespace
  frame : ∀ request (state : σ) {inNamespace : String}, inNamespace ≠ request.inNamespace →
    part (serve request state).2 inNamespace = part state inNamespace

namespace Cluster

open Api (Kind ObjectRef Request)

/-- The part of a store that belongs to a namespace. -/
def Store.inNamespace (store : Store ObjectRef) (inNamespace : String) (kind : Kind)
    (name : String) : Option Json :=
  store.get? ⟨kind, inNamespace, name⟩

/-- The object that a request may change lies in the namespace of the request. -/
theorem in_namespace_of_changed? {request : Request} {ref : ObjectRef}
    (h : request.changed? = some ref) : ref.inNamespace = request.inNamespace := by
  cases request with
  | apply | patchStatus | delete =>
      obtain rfl := Option.some.inj h
      rfl
  | fetch | createEvent => cases h

/-- An operation on a key has the same reply on stores with the same document under it, and
preserves equality of the documents under any other key. -/
theorem Operation.perform_congr (operation : Operation) {key : ObjectRef}
    {store other : Store ObjectRef} (h : store.get? key = other.get? key) :
    (operation.perform key store).1 = (operation.perform key other).1 ∧
      ∀ k, store.get? k = other.get? k →
        (operation.perform key store).2.get? k = (operation.perform key other).2.get? k := by
  unfold perform
  cases operation with
  | read | mergeStatus | remove =>
      simp only [h]
      cases other.get? key <;> simp +contextual
  | replace document => simp +contextual [h]
  | create document => exact ⟨rfl, fun _ hk => hk⟩

/-- Stores with the same part for the namespace of a request have the same reply to it and the same
part afterwards. -/
theorem serve_congr (request : Request) {store other : Store ObjectRef}
    (h : store.inNamespace request.inNamespace = other.inNamespace request.inNamespace) :
    (serve request store).1 = (serve request other).1 ∧
      (serve request store).2.inNamespace request.inNamespace =
        (serve request other).2.inNamespace request.inNamespace := by
  have hperform (operation : Operation) {ref : ObjectRef}
      (href : ref.inNamespace = request.inNamespace) :
      (operation.perform ref store).1 = (operation.perform ref other).1 ∧
        (operation.perform ref store).2.inNamespace request.inNamespace =
          (operation.perform ref other).2.inNamespace request.inNamespace := by
    have hget (kind : Kind) (name : String) : store.get? ⟨kind, request.inNamespace, name⟩ =
        other.get? ⟨kind, request.inNamespace, name⟩ := congrFun (congrFun h kind) name
    have hkey : store.get? ref = other.get? ref := by
      have hsame := hget ref.kind ref.name
      rwa [← href] at hsame
    obtain ⟨hreply, hlater⟩ := operation.perform_congr hkey
    exact ⟨hreply, funext fun kind => funext fun name => hlater _ (hget kind name)⟩
  cases request with
  | fetch ref => exact hperform .read rfl
  | apply ref desired => exact hperform (.replace desired) rfl
  | patchStatus ref change => exact hperform (.mergeStatus change) rfl
  | delete ref => exact hperform .remove rfl
  | createEvent inNamespace event => exact ⟨rfl, h⟩

/-- The server of a store keeps namespaces apart, also with failures on some requests. -/
theorem keeps_apart_failing (now : Instant) (fails : Request → Bool) :
    KeepsApart (failingHost now fails).serve Store.inNamespace where
  reply request {state other} h := by
    unfold failingHost
    dsimp only
    split
    · rfl
    · exact (serve_congr request h).1
  change request {state other} h := by
    unfold failingHost
    dsimp only
    split
    · exact h
    · exact (serve_congr request h).2
  frame request state {inNamespace} hne := by
    unfold failingHost
    dsimp only
    split
    · rfl
    · refine funext fun kind => funext fun name => get?_serve state fun hchanged => hne ?_
      exact in_namespace_of_changed? hchanged

end Cluster

end AgentOperator
