import AgentOperator.Kubernetes.Env
import AgentOperator.Kubernetes.Volume

/-!
# Containers

The container of a pod: what it runs, with which ports, resources and rights, and what happens
when it starts and stops.
-/

namespace AgentOperator.Kubernetes

/-- A port of a container. -/
structure ContainerPort where
  name : Option String := none
  containerPort : Int32
  protocol : Option String := none
deriving DecidableEq

/-- Ports of containers as documents. -/
def ContainerPort.codec : Codec ContainerPort :=
  .kubernetes "ContainerPort" <|
    Fields.build ContainerPort ContainerPort.mk
    |>.field "name" name (.optional .text)
    |>.field "containerPort" containerPort (.required .int32 0)
    |>.field "protocol" protocol (.optional .text)

/-- A resource that is allocated to the pod, by its name there. -/
structure ResourceClaim where
  name : String
deriving DecidableEq

/-- Allocated resources as documents. -/
def ResourceClaim.codec : Codec ResourceClaim :=
  .kubernetes "ResourceClaim" <|
    Fields.build ResourceClaim ResourceClaim.mk
    |>.field "name" name (.required .text "")

/-- The resources that a container may use at most and asks for, and those allocated to the pod that
it uses. -/
structure ResourceRequirements where
  limits : Option (Dict String) := none
  requests : Option (Dict String) := none
  claims : Option (List ResourceClaim) := none
deriving DecidableEq

/-- Resources of containers as documents. -/
def ResourceRequirements.codec : Codec ResourceRequirements :=
  .kubernetes "ResourceRequirements" <|
    Fields.build ResourceRequirements ResourceRequirements.mk
    |>.field "limits" limits (.optional (.dict quantity))
    |>.field "requests" requests (.optional (.dict quantity))
    |>.field "claims" claims (.optional (.list ResourceClaim.codec))

/-- Rights of the kernel that are given to a container or taken from it. -/
structure Capabilities where
  add : Option (List String) := none
  drop : Option (List String) := none
deriving DecidableEq

/-- Rights of the kernel as documents. -/
def Capabilities.codec : Codec Capabilities :=
  .kubernetes "Capabilities" <|
    Fields.build Capabilities Capabilities.mk
    |>.field "add" add (.optional (.list .text))
    |>.field "drop" drop (.optional (.list .text))

/-- A profile that confines a container: a filter of system calls or the rules of AppArmor. The type
says where it comes from, and may be a file of the node. -/
structure ConfinementProfile where
  type : String
  localhostProfile : Option String := none
deriving DecidableEq

/-- Profiles that confine containers, as documents of the type of that name. -/
def ConfinementProfile.codec (typeName : String) : Codec ConfinementProfile :=
  .kubernetes typeName <|
    Fields.build ConfinementProfile ConfinementProfile.mk
    |>.field "type" type (.required .text "")
    |>.field "localhostProfile" localhostProfile (.optional .text)

/-- The labels that SELinux gives to a container. -/
structure SELinuxOptions where
  user : Option String := none
  role : Option String := none
  type : Option String := none
  level : Option String := none
deriving DecidableEq

/-- Labels of SELinux as documents. -/
def SELinuxOptions.codec : Codec SELinuxOptions :=
  .kubernetes "SELinuxOptions" <|
    Fields.build SELinuxOptions SELinuxOptions.mk
    |>.field "user" user (.optional .text)
    |>.field "role" role (.optional .text)
    |>.field "type" type (.optional .text)
    |>.field "level" level (.optional .text)

/-- The rights of a container on a node that runs Windows. -/
structure WindowsSecurityContextOptions where
  gmsaCredentialSpec : Option String := none
  gmsaCredentialSpecName : Option String := none
  hostProcess : Option Bool := none
  runAsUserName : Option String := none
deriving DecidableEq

/-- Rights on Windows as documents. -/
def WindowsSecurityContextOptions.codec : Codec WindowsSecurityContextOptions :=
  .kubernetes "WindowsSecurityContextOptions" <|
    Fields.build WindowsSecurityContextOptions WindowsSecurityContextOptions.mk
    |>.field "gmsaCredentialSpec" gmsaCredentialSpec (.optional .text)
    |>.field "gmsaCredentialSpecName" gmsaCredentialSpecName (.optional .text)
    |>.field "hostProcess" hostProcess (.optional .boolean)
    |>.field "runAsUserName" runAsUserName (.optional .text)

/-- The rights of a container. -/
structure SecurityContext where
  privileged : Option Bool := none
  runAsUser : Option Int64 := none
  runAsGroup : Option Int64 := none
  runAsNonRoot : Option Bool := none
  readOnlyRootFilesystem : Option Bool := none
  allowPrivilegeEscalation : Option Bool := none
  capabilities : Option Capabilities := none
  seccompProfile : Option ConfinementProfile := none
  seLinuxOptions : Option SELinuxOptions := none
  windowsOptions : Option WindowsSecurityContextOptions := none
  procMount : Option String := none
  appArmorProfile : Option ConfinementProfile := none
deriving DecidableEq

/-- Rights of containers as documents. -/
def SecurityContext.codec : Codec SecurityContext :=
  .kubernetes "SecurityContext" <|
    Fields.build SecurityContext SecurityContext.mk
    |>.field "privileged" privileged (.optional .boolean)
    |>.field "runAsUser" runAsUser (.optional .int64)
    |>.field "runAsGroup" runAsGroup (.optional .int64)
    |>.field "runAsNonRoot" runAsNonRoot (.optional .boolean)
    |>.field "readOnlyRootFilesystem" readOnlyRootFilesystem (.optional .boolean)
    |>.field "allowPrivilegeEscalation" allowPrivilegeEscalation (.optional .boolean)
    |>.field "capabilities" capabilities (.optional Capabilities.codec)
    |>.field "seccompProfile" seccompProfile (.optional (ConfinementProfile.codec "SeccompProfile"))
    |>.field "seLinuxOptions" seLinuxOptions (.optional SELinuxOptions.codec)
    |>.field "windowsOptions" windowsOptions (.optional WindowsSecurityContextOptions.codec)
    |>.field "procMount" procMount (.optional .text)
    |>.field "appArmorProfile" appArmorProfile
      (.optional (ConfinementProfile.codec "AppArmorProfile"))

/-- A command run in a container. -/
structure ExecAction where
  command : Option (List String) := none
deriving DecidableEq

/-- Commands as documents. -/
def ExecAction.codec : Codec ExecAction :=
  .kubernetes "ExecAction" <|
    Fields.build ExecAction ExecAction.mk
    |>.field "command" command (.optional (.list .text))

/-- A header of an HTTP request. -/
structure HTTPHeader where
  name : String
  value : String
deriving DecidableEq

/-- Headers as documents. -/
def HTTPHeader.codec : Codec HTTPHeader :=
  .kubernetes "HTTPHeader" <|
    Fields.build HTTPHeader HTTPHeader.mk
    |>.field "name" name (.required .text "")
    |>.field "value" value (.required .text "")

/-- An HTTP request to a container. -/
structure HTTPGetAction where
  port : IntOrString
  path : Option String := none
  scheme : Option String := none
  host : Option String := none
  httpHeaders : Option (List HTTPHeader) := none
deriving DecidableEq

/-- HTTP requests as documents. -/
def HTTPGetAction.codec : Codec HTTPGetAction :=
  .kubernetes "HTTPGetAction" <|
    Fields.build HTTPGetAction HTTPGetAction.mk
    |>.field "port" port (.required IntOrString.codec (.int 0))
    |>.field "path" path (.optional .text)
    |>.field "scheme" scheme (.optional .text)
    |>.field "host" host (.optional .text)
    |>.field "httpHeaders" httpHeaders (.optional (.list HTTPHeader.codec))

/-- A connection to a container. -/
structure TCPSocketAction where
  port : IntOrString
  host : Option String := none
deriving DecidableEq

/-- Connections as documents. -/
def TCPSocketAction.codec : Codec TCPSocketAction :=
  .kubernetes "TCPSocketAction" <|
    Fields.build TCPSocketAction TCPSocketAction.mk
    |>.field "port" port (.required IntOrString.codec (.int 0))
    |>.field "host" host (.optional .text)

/-- A pause of a container. -/
structure SleepAction where
  seconds : Int64
deriving DecidableEq

/-- Pauses as documents. -/
def SleepAction.codec : Codec SleepAction :=
  .kubernetes "SleepAction" <|
    Fields.build SleepAction SleepAction.mk
    |>.field "seconds" seconds (.required .int64 0)

/-- What is done at an event in the life of a container. -/
structure LifecycleHandler where
  exec : Option ExecAction := none
  httpGet : Option HTTPGetAction := none
  tcpSocket : Option TCPSocketAction := none
  sleep : Option SleepAction := none
deriving DecidableEq

/-- Handlers of events as documents. -/
def LifecycleHandler.codec : Codec LifecycleHandler :=
  .kubernetes "LifecycleHandler" <|
    Fields.build LifecycleHandler LifecycleHandler.mk
    |>.field "exec" exec (.optional ExecAction.codec)
    |>.field "httpGet" httpGet (.optional HTTPGetAction.codec)
    |>.field "tcpSocket" tcpSocket (.optional TCPSocketAction.codec)
    |>.field "sleep" sleep (.optional SleepAction.codec)

/-- What is done when a container has started and before it stops. -/
structure Lifecycle where
  postStart : Option LifecycleHandler := none
  preStop : Option LifecycleHandler := none
deriving DecidableEq

/-- Lifecycles as documents. -/
def Lifecycle.codec : Codec Lifecycle :=
  .kubernetes "Lifecycle" <|
    Fields.build Lifecycle Lifecycle.mk
    |>.field "postStart" postStart (.optional LifecycleHandler.codec)
    |>.field "preStop" preStop (.optional LifecycleHandler.codec)

/-- A container of a pod. -/
structure Container where
  name : String
  image : Option String := none
  imagePullPolicy : Option String := none
  args : Option (List String) := none
  env : Option (List EnvVar) := none
  envFrom : Option (List EnvFromSource) := none
  ports : Option (List ContainerPort) := none
  volumeMounts : Option (List VolumeMount) := none
  resources : Option ResourceRequirements := none
  securityContext : Option SecurityContext := none
  lifecycle : Option Lifecycle := none
deriving DecidableEq

/-- Containers as documents. -/
def Container.codec : Codec Container :=
  .kubernetes "Container" <|
    Fields.build Container Container.mk
    |>.field "name" name (.required .text "")
    |>.field "image" image (.optional .text)
    |>.field "imagePullPolicy" imagePullPolicy (.optional .text)
    |>.field "args" args (.optional (.list .text))
    |>.field "env" env (.optional (.list EnvVar.codec))
    |>.field "envFrom" envFrom (.optional (.list EnvFromSource.codec))
    |>.field "ports" ports (.optional (.list ContainerPort.codec))
    |>.field "volumeMounts" volumeMounts (.optional (.list VolumeMount.codec))
    |>.field "resources" resources (.optional ResourceRequirements.codec)
    |>.field "securityContext" securityContext (.optional SecurityContext.codec)
    |>.field "lifecycle" lifecycle (.optional Lifecycle.codec)

end AgentOperator.Kubernetes
