import AgentOperator.Api.Client
import AgentOperator.Cluster.Server
import AgentOperator.Proofs.Activity.Outcome
import AgentOperator.Proofs.Json.Carries
import Mathlib.Logic.Function.Basic

/-!
# Servers of a store of objects

The contract of an API server that keeps a store of objects, as far as a client can rely on it: the
effect of an accepted request on the objects, and the meaning of a refusal. Any request may be
refused or left without a response, and the server may add fields to applied objects; but no other
client writes in between. `serves_host` says that the server of `AgentOperator.Cluster.Server`
satisfies the contract.
-/

namespace AgentOperator.Cluster

open Api (Body ObjectRef Reply Request)
open Api.Client (accepted)

/-- A reply says that there is no such object, by its code and by its reason. -/
def DeniesExistence (reply : Reply) : Prop :=
  ∃ failure, accepted reply = .error (.refused failure) ∧ failure.code = 404 ∧
    failure.reason = "NotFound"

variable {σ : Type}

/-- The server of a world keeps the objects of a store. A GET changes nothing; its response is the
object, and one that denies the existence of the object is right. An applied object is there and has
all that was sent, its status apart. A change of the status is merged into it, and nothing else of
the object changes but its revision. A deleted object is there no more. Any request may fail
instead. -/
structure Serves (host : Host σ) (objects : σ → ObjectRef → Option Json) : Prop where
  fetch_frame : ∀ ref state, objects (host.serve (.fetch ref) state).2 = objects state
  fetch_found : ∀ ref state body, accepted (host.serve (.fetch ref) state).1 = .ok body →
    ∃ object, objects state ref = some object ∧ body = .document object
  fetch_absent : ∀ ref state, DeniesExistence (host.serve (.fetch ref) state).1 →
    objects state ref = none
  apply_stored : ∀ ref desired state body,
    accepted (host.serve (.apply ref desired) state).1 = .ok body →
    ∃ stored, objects (host.serve (.apply ref desired) state).2 =
        Function.update (objects state) ref (some stored) ∧
      body = .document stored ∧ (desired.get? "status" = none → desired.Carries stored)
  patch_stored : ∀ ref change state body,
    accepted (host.serve (.patchStatus ref change) state).1 = .ok body →
    ∃ object stored, objects state ref = some object ∧
      objects (host.serve (.patchStatus ref change) state).2 =
        Function.update (objects state) ref (some stored) ∧
      body = .document stored ∧ (mergeStatus change object).Revised stored
  delete_removed : ∀ ref state body, accepted (host.serve (.delete ref) state).1 = .ok body →
    objects (host.serve (.delete ref) state).2 = Function.update (objects state) ref none

/-- A sequence of GETs leaves all objects unchanged. -/
theorem Serves.frame_of_fetches {host : Host σ} {objects : σ → ObjectRef → Option Json}
    (hserver : Serves host objects) {state final : σ} {exchanges : List Exchange}
    (hanswers : host.Answers state exchanges final)
    (hfetches : ∀ request ∈ exchanges.map Prod.fst, ∃ ref, request = .fetch ref) :
    objects final = objects state := by
  induction hanswers with
  | nil => rfl
  | cons request _ ih =>
      rw [List.map_cons, List.forall_mem_cons] at hfetches
      obtain ⟨⟨ref, rfl⟩, hrest⟩ := hfetches
      exact (ih hrest).trans (hserver.fetch_frame ref _)

/-- The reply for an object that does not exist denies its existence. -/
theorem denies_existence_not_found : DeniesExistence notFound := by
  refine ⟨_, rfl, ?_, ?_⟩ <;> decide +kernel

/-- An applied document without a status is carried by itself with any status. -/
theorem carries_keep_status {desired : Json} (h : desired.get? "status" = none)
    (earlier : Option Json) : desired.Carries (keepStatus earlier desired) := by
  unfold keepStatus
  split
  · exact Json.carries_set h _
  · exact .same desired

/-- Applying an object without a status is idempotent. -/
theorem keep_status_keep_status {desired : Json} (h : desired.get? "status" = none)
    (earlier : Option Json) :
    keepStatus (some (keepStatus earlier desired)) desired = keepStatus earlier desired := by
  cases hstatus : earlier.bind (Json.get? "status") with
  | none =>
      have hplain : keepStatus earlier desired = desired := by
        rw [keepStatus, hstatus]
      rw [hplain, keepStatus, Option.bind_some, h]
  | some status =>
      have hkept : keepStatus earlier desired = desired.set "status" status := by
        rw [keepStatus, hstatus]
      rw [hkept]
      -- the status that is kept the second time is the one that was kept the first time
      cases desired with
      | obj entries =>
          have hagain : (Json.set (.obj entries) "status" status).get? "status" = some status := by
            rw [Json.get?_set_obj, if_pos rfl]
          rw [keepStatus, Option.bind_some, hagain]
      | _ => rfl

/-- The objects of a store after one was put into it. -/
theorem get?_put_eq_update (store : Store ObjectRef) (ref : ObjectRef) (object : Json) :
    (store.put ref object).get? = Function.update store.get? ref (some object) := by
  funext other
  rw [Store.get?_put, Function.update_apply]

/-- The objects of a store after one was removed from it. -/
theorem get?_remove_eq_update (store : Store ObjectRef) (ref : ObjectRef) :
    (store.remove ref).get? = Function.update store.get? ref none := by
  funext other
  rw [Store.get?_remove, Function.update_apply]

/-- The reply for an object that does not exist is not accepted. -/
theorem accepted_not_found {body : Body} : accepted notFound ≠ .ok body := nofun

/-- The server of a store serves that store. -/
theorem serves_host (now : Instant) : Serves (host now) Store.get? where
  fetch_frame ref store := by
    show (Operation.read.perform ref store).2.get? = _
    unfold Operation.perform
    cases store.get? ref <;> rfl
  fetch_found ref store body h := by
    change accepted (Operation.read.perform ref store).1 = .ok body at h
    unfold Operation.perform at h
    cases hobject : store.get? ref with
    | some object =>
        rw [hobject] at h
        exact ⟨object, rfl, (Except.ok.inj h).symm⟩
    | none =>
        rw [hobject] at h
        exact absurd h accepted_not_found
  fetch_absent ref store h := by
    change DeniesExistence (Operation.read.perform ref store).1 at h
    unfold Operation.perform at h
    cases hobject : store.get? ref with
    | some object =>
        rw [hobject] at h
        obtain ⟨failure, hrefused, -⟩ := h
        cases hrefused
    | none => rfl
  apply_stored ref desired store body h :=
    ⟨keepStatus (store.get? ref) desired, get?_put_eq_update store ref _, (Except.ok.inj h).symm,
      fun h => carries_keep_status h _⟩
  patch_stored ref change store body h := by
    change accepted ((Operation.mergeStatus change).perform ref store).1 = .ok body at h
    show ∃ object stored, _ ∧ ((Operation.mergeStatus change).perform ref store).2.get? = _ ∧ _
    unfold Operation.perform at h ⊢
    cases hobject : store.get? ref with
    | some object =>
        rw [hobject] at h
        exact ⟨object, _, rfl, get?_put_eq_update store ref _, (Except.ok.inj h).symm, .same⟩
    | none =>
        rw [hobject] at h
        exact absurd h accepted_not_found
  delete_removed ref store body h := by
    change accepted (Operation.remove.perform ref store).1 = .ok body at h
    show (Operation.remove.perform ref store).2.get? = _
    unfold Operation.perform at h ⊢
    cases hobject : store.get? ref with
    | some object => exact get?_remove_eq_update store ref
    | none =>
        rw [hobject] at h
        exact absurd h accepted_not_found

end AgentOperator.Cluster
