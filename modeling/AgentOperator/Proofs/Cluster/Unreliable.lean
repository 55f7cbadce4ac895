import AgentOperator.Proofs.Activity.Moments
import AgentOperator.Proofs.Cluster.Serves

/-!
# Unreliable servers

The contract of `AgentOperator.Proofs.Cluster.Serves` weakened to requests that may fail at any time
and to other clients that write to the store. A `Truthful` server tells the truth about the object
that a request meets in the store, whatever becomes of the store between two requests. A `Contained`
one may also fail in any way, before or after the effect of the request, but has no other effects:
only the resources of agents may be edited by other clients. `failingHost` and `busyHost` are such
servers: one fails on given requests, and the other has a second client whose writes come between
the requests.
-/

namespace AgentOperator

/-- The object that a request may change. -/
def Api.Request.changed? : Api.Request → Option Api.ObjectRef
  | .apply ref _ | .patchStatus ref _ | .delete ref => some ref
  | .fetch _ | .createEvent _ _ => none

namespace Cluster

open Api (ClientError ObjectRef Reply Request)
open Api.Client (accepted)

variable {σ : Type}

/-- The server of a world tells the truth about the objects that a request meets: the object in a
response is the stored one, and one that is not found does not exist. -/
structure Truthful (host : Host σ) (objects : σ → ObjectRef → Option Json) : Prop where
  found : ∀ ref state body, accepted (host.serve (.fetch ref) state).1 = .ok body →
    ∃ object, objects state ref = some object ∧ body = .document object
  absent : ∀ ref state failure,
    accepted (host.serve (.fetch ref) state).1 = .error (.refused failure) →
    failure.reason = "NotFound" → objects state ref = none

/-- The server of a world keeps the objects of a store for one client that may find its requests
fail, while others edit the resources of agents at any time. No object changes but the one that a
request is to change; and an object that is to be deleted is gone, or it is as it was and the server
reports a failure. -/
structure Contained (host : Host σ) (objects : σ → ObjectRef → Option Json) : Prop extends
    Truthful host objects where
  frame : ∀ request state ref, ref.kind ≠ .agent → request.changed? ≠ some ref →
    objects (host.serve request state).2 ref = objects state ref
  deletion : ∀ ref state, objects (host.serve (.delete ref) state).2 ref = none ∨
    objects (host.serve (.delete ref) state).2 ref = objects state ref ∧
      ∃ cause, accepted (host.serve (.delete ref) state).1 = .error cause ∧ cause.isGone = false

/-- The reply of a server that fails. -/
def failure : Reply := reply 500 (statusBody "Failure" "etcdserver: request timed out" "" 500)

/-- A world with a server that fails on some requests, and a clock that stands still. -/
def failingHost (now : Instant) (fails : Request → Bool) : Host (Store ObjectRef) where
  serve request store := if fails request then (failure, store) else serve request store
  now _ := now

/-- A failure is a refusal without a reason. -/
theorem accepted_failure :
    ∃ cause : Api.Failure, accepted failure = .error (.refused cause) ∧
      cause.reason ≠ "NotFound" ∧ cause.code ≠ 404 := by
  refine ⟨_, rfl, ?_, ?_⟩ <;> decide +kernel

/-- The server of a store changes the object that a request is to change and no other. -/
theorem get?_serve {request : Request} (store : Store ObjectRef) {ref : ObjectRef}
    (h : request.changed? ≠ some ref) : (serve request store).2.get? ref = store.get? ref := by
  have hother (other : ObjectRef) (hchanged : request.changed? = some other) : ref ≠ other := by
    intro heq
    subst heq
    exact h hchanged
  cases request with
  | fetch other =>
      show (Operation.read.perform other store).2.get? ref = _
      unfold Operation.perform
      cases store.get? other <;> rfl
  | apply other desired => exact (Store.get?_put ..).trans (if_neg (hother other rfl))
  | patchStatus other change =>
      show ((Operation.mergeStatus change).perform other store).2.get? ref = _
      unfold Operation.perform
      cases store.get? other with
      | none => rfl
      | some object => exact (Store.get?_put ..).trans (if_neg (hother other rfl))
  | delete other =>
      show (Operation.remove.perform other store).2.get? ref = _
      unfold Operation.perform
      cases store.get? other with
      | none => rfl
      | some object => exact (Store.get?_remove ..).trans (if_neg (hother other rfl))
  | createEvent inNamespace event => rfl

/-- An object whose GET the server of a store refuses does not exist. -/
theorem get?_of_refused {ref : ObjectRef} {store : Store ObjectRef} {cause : ClientError}
    (h : accepted (serve (.fetch ref) store).1 = .error cause) : store.get? ref = none := by
  change accepted (Operation.read.perform ref store).1 = .error cause at h
  unfold Operation.perform at h
  cases hobject : store.get? ref with
  | none => rfl
  | some object =>
      rw [hobject] at h
      cases h

/-- An object is gone after the server of a store has served its DELETE. -/
theorem get?_serve_delete (ref : ObjectRef) (store : Store ObjectRef) :
    (serve (.delete ref) store).2.get? ref = none := by
  show (Operation.remove.perform ref store).2.get? ref = none
  unfold Operation.perform
  cases hobject : store.get? ref with
  | none => exact hobject
  | some object => exact (Store.get?_remove ..).trans (if_pos rfl)

/-- A server with failures is contained, whichever requests it fails on. -/
theorem contained_failing_host (now : Instant) (fails : Request → Bool) :
    Contained (failingHost now fails) Store.get? where
  found ref store body h := by
    simp only [failingHost] at h
    split at h
    · cases h
    · exact (serves_host now).fetch_found ref store body h
  absent ref store refusal h hreason := by
    simp only [failingHost] at h
    split at h
    · obtain ⟨cause, hcause, hnamed, -⟩ := accepted_failure
      obtain rfl : cause = refusal :=
        ClientError.refused.inj (Except.error.inj (hcause.symm.trans h))
      exact absurd hreason hnamed
    · exact get?_of_refused h
  frame request store ref _ hchanged := by
    simp only [failingHost]
    split
    · rfl
    · exact get?_serve store hchanged
  deletion ref store := by
    simp only [failingHost]
    split
    · obtain ⟨cause, hcause, -, hcode⟩ := accepted_failure
      exact .inr ⟨rfl, _, hcause, by simpa [ClientError.isGone] using hcode⟩
    · exact .inl (get?_serve_delete ref store)

/-- What another client does to a store: it puts an object in place, or deletes one. -/
inductive Write where
  | put (ref : ObjectRef) (object : Json)
  | remove (ref : ObjectRef)

namespace Write

/-- The object that is written. -/
def ref : Write → ObjectRef
  | put ref _ | remove ref => ref

/-- The store after a write. -/
def perform (store : Store ObjectRef) : Write → Store ObjectRef
  | put ref object => store.put ref object
  | remove ref => store.remove ref

/-- An object that is not written is unchanged. -/
theorem get?_foldl_perform {writes : List Write} {ref : ObjectRef} (store : Store ObjectRef)
    (h : ∀ write ∈ writes, write.ref ≠ ref) :
    (writes.foldl perform store).get? ref = store.get? ref := by
  induction writes generalizing store with
  | nil => rfl
  | cons write writes ih =>
      rw [List.forall_mem_cons] at h
      refine (ih _ h.2).trans ?_
      cases write with
      | put other object => exact (Store.get?_put ..).trans (if_neg h.1.symm)
      | remove other => exact (Store.get?_remove ..).trans (if_neg h.1.symm)

end Write

/-- A store and what another client is about to do: the writes that come before the next request,
those that come between that one and the one after it, and so on. -/
structure Busy where
  store : Store ObjectRef
  coming : List (List Write)

/-- The store as the next request meets it. -/
def Busy.met (busy : Busy) : Store ObjectRef :=
  (busy.coming.headD []).foldl Write.perform busy.store

/-- A world with the server of a store to which another client writes, and a clock that stands
still. -/
def busyHost (now : Instant) : Host Busy where
  serve request busy :=
    let (reply, store) := serve request busy.met
    (reply, ⟨store, busy.coming.tail⟩)
  now _ := now

/-- A server with another client is truthful. -/
theorem truthful_busy_host (now : Instant) : Truthful (busyHost now) (·.met.get?) where
  found ref busy body h := (serves_host now).fetch_found ref busy.met body h
  absent _ _ _ h _ := get?_of_refused h

/-- An object that a request does not change and that the other client does not write is the same
for the next request. -/
theorem get?_met_served (now : Instant) {request : Request} {busy : Busy} {ref : ObjectRef}
    (hchanged : request.changed? ≠ some ref)
    (hwrites : ∀ writes ∈ busy.coming, ∀ write ∈ writes, write.ref ≠ ref) :
    ((busyHost now).serve request busy).2.met.get? ref = busy.met.get? ref := by
  refine (Write.get?_foldl_perform _ ?_).trans (get?_serve busy.met hchanged)
  show ∀ write ∈ busy.coming.tail.headD [], write.ref ≠ ref
  cases hlater : busy.coming.tail with
  | nil => nofun
  | cons writes later =>
      refine hwrites writes (List.mem_of_mem_tail ?_)
      rw [hlater]
      exact List.mem_cons_self

/-- The coming writes of the other client at a moment are among those at the start. -/
theorem mem_coming_of_moments {now : Instant} {start busy : Busy} {exchanges : List Exchange}
    {moment : Moment Busy} (h : moment ∈ (busyHost now).moments start busy exchanges)
    {writes : List Write} (hwrites : writes ∈ moment.before.coming) : writes ∈ busy.coming := by
  induction exchanges generalizing busy with
  | nil => cases h
  | cons exchange rest ih =>
      rcases List.mem_cons.1 h with rfl | h
      · exact hwrites
      · exact List.mem_of_mem_tail (ih h)

end Cluster

end AgentOperator
