import AgentOperator.Kubernetes.Meta

/-!
# Service accounts

A service account is the identity that pods run under. Nothing but its metadata matters here.
-/

namespace AgentOperator.Kubernetes

/-- A service account. -/
structure ServiceAccount where
  metadata : ObjectMeta := {}
deriving DecidableEq

/-- Service accounts as documents. -/
def ServiceAccount.codec : Codec ServiceAccount :=
  .kind "v1" "ServiceAccount" <|
    Fields.build ServiceAccount ServiceAccount.mk
    |>.field "metadata" metadata (.required ObjectMeta.codec {})

end AgentOperator.Kubernetes
