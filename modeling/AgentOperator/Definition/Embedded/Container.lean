import AgentOperator.Definition.Schema

/-!
# Schemas of containers

The schemas of the resources and rights of a container and of the events in its life.
-/

namespace AgentOperator.Schema

/-- A resource that the pod claims. -/
def resourceClaim : Json :=
  described "ResourceClaim references one entry in PodSpec.ResourceClaims." <|
    object
      [field "name"
         ("Name must match the name of one entry in pod.spec.resourceClaims of the Pod where " ++
           "this field is used. It makes that resource available inside a container.") text]
      ["name"]

/-- The resources that a container asks for and may use at most. -/
def resourceRequirements : Json :=
  described "ResourceRequirements describes the compute resource requirements." <|
    object
      [field "claims"
         ("Claims lists the names of resources, defined in spec.resourceClaims, that are " ++
           "used by this container.\n\nThis is an alpha field and requires enabling the " ++
           "DynamicResourceAllocation feature gate.\n\nThis field is immutable. It can only " ++
           "be set for containers.") (list resourceClaim),
       field "limits"
         (moreInfo
            "Limits describes the maximum amount of compute resources allowed."
            "kubernetes.io/docs/concepts/configuration/manage-resources-containers/")
         (dict quantity),
       field "requests"
         (moreInfo
            ("Requests describes the minimum amount of compute resources required. If " ++
              "Requests is omitted for a container, it defaults to Limits if that is " ++
              "explicitly specified, otherwise to an implementation-defined value. Requests " ++
              "cannot exceed Limits.")
            "kubernetes.io/docs/concepts/configuration/manage-resources-containers/")
         (dict quantity)] []

/-- A profile of what a container may do. -/
def appArmorProfile : Json :=
  object
    [field "localhostProfile"
       ("localhostProfile indicates a profile loaded on the node that should be used. The " ++
         "profile must be preconfigured on the node to work. Must match the loaded name of " ++
         "the profile. Must be set if and only if type is \"Localhost\".") text,
     field "type"
       ("type indicates which kind of AppArmor profile will be applied. Valid options are:\n " ++
         " Localhost - a profile pre-loaded on the node.\n  RuntimeDefault - the container " ++
         "runtime's default profile.\n  Unconfined - no AppArmor enforcement.") text] ["type"]

/-- Rights of the kernel that are given or taken. -/
def capabilities : Json :=
  object
    [field "add" "Added capabilities" (list text),
     field "drop" "Removed capabilities" (list text)] []

/-- The security labels of a container. -/
def seLinuxOptions : Json :=
  object
    [field "level" "Level is SELinux level label that applies to the container." text,
     field "role" "Role is a SELinux role label that applies to the container." text,
     field "type" "Type is a SELinux type label that applies to the container." text,
     field "user" "User is a SELinux user label that applies to the container." text] []

/-- A filter of system calls. -/
def seccompProfile : Json :=
  object
    [field "localhostProfile"
       ("localhostProfile indicates a profile defined in a file on the node should be used. " ++
         "The profile must be preconfigured on the node to work. Must be a descending path, " ++
         "relative to the kubelet's configured seccomp profile location. Must be set if type " ++
         "is \"Localhost\". Must NOT be set for any other type.") text,
     field "type"
       ("type indicates which kind of seccomp profile will be applied. Valid options " ++
         "are:\n\nLocalhost - a profile defined in a file on the node should be used. " ++
         "RuntimeDefault - the container runtime default profile should be used. Unconfined - " ++
         "no profile should be applied.") text] ["type"]

/-- The rights of a container on another kind of node. -/
def windowsSecurityContextOptions : Json :=
  object
    [field "gmsaCredentialSpec"
       ("GMSACredentialSpec is where the GMSA admission webhook (" ++
         page "github.com/kubernetes-sigs/windows-gmsa" ++
         ") inlines the contents of the GMSA credential spec named by the " ++
         "GMSACredentialSpecName field.") text,
     field "gmsaCredentialSpecName"
       "GMSACredentialSpecName is the name of the GMSA credential spec to use." text,
     field "hostProcess"
       ("HostProcess determines if a container should be run as a 'Host Process' container. " ++
         "All of a Pod's containers must have the same effective HostProcess value (it is not " ++
         "allowed to have a mix of HostProcess containers and non-HostProcess containers). In " ++
         "addition, if HostProcess is true then HostNetwork must also be set to true.") boolean,
     field "runAsUserName"
       ("The UserName in Windows to run the entrypoint of the container process. Defaults to " ++
         "the user specified in image metadata if unspecified. May also be set in " ++
         "PodSecurityContext. If set in both SecurityContext and PodSecurityContext, the " ++
         "value specified in SecurityContext takes precedence.") text] []

/-- The rights of a container. -/
def securityContext : Json :=
  described
      ("SecurityContext holds security configuration that will be applied to a container. " ++
        "Some fields are present in both SecurityContext and PodSecurityContext.  When both " ++
        "are set, the values in SecurityContext take precedence.") <|
    object
      [field "allowPrivilegeEscalation"
         ("AllowPrivilegeEscalation controls whether a process can gain more privileges than " ++
           "its parent process. This bool directly controls if the no_new_privs flag will be " ++
           "set on the container process. AllowPrivilegeEscalation is true always when the " ++
           "container is: 1) run as Privileged 2) has CAP_SYS_ADMIN Note that this field " ++
           "cannot be set when spec.os.name is windows.") boolean,
       field "appArmorProfile"
         ("appArmorProfile is the AppArmor options to use by this container. If set, this " ++
           "profile overrides the pod's appArmorProfile. Note that this field cannot be set " ++
           "when spec.os.name is windows.") appArmorProfile,
       field "capabilities"
         ("The capabilities to add/drop when running containers. Defaults to the default set " ++
           "of capabilities granted by the container runtime. Note that this field cannot be " ++
           "set when spec.os.name is windows.") capabilities,
       field "privileged"
         ("Run container in privileged mode. Processes in privileged containers are " ++
           "essentially equivalent to root on the host. Defaults to false. Note that this " ++
           "field cannot be set when spec.os.name is windows.") boolean,
       field "procMount"
         ("procMount denotes the type of proc mount to use for the containers. The default " ++
           "is DefaultProcMount which uses the container runtime defaults for readonly paths " ++
           "and masked paths. This requires the ProcMountType feature flag to be enabled. " ++
           "Note that this field cannot be set when spec.os.name is windows.") text,
       field "readOnlyRootFilesystem"
         ("Whether this container has a read-only root filesystem. Default is false. Note " ++
           "that this field cannot be set when spec.os.name is windows.") boolean,
       field "runAsGroup"
         ("The GID to run the entrypoint of the container process. Uses runtime default if " ++
           "unset. May also be set in PodSecurityContext.  If set in both SecurityContext and " ++
           "PodSecurityContext, the value specified in SecurityContext takes precedence. Note " ++
           "that this field cannot be set when spec.os.name is windows.") int64,
       field "runAsNonRoot"
         ("Indicates that the container must run as a non-root user. If true, the Kubelet " ++
           "will validate the image at runtime to ensure that it does not run as UID 0 (root) " ++
           "and fail to start the container if it does. If unset or false, no such validation " ++
           "will be performed. May also be set in PodSecurityContext.  If set in both " ++
           "SecurityContext and PodSecurityContext, the value specified in SecurityContext " ++
           "takes precedence.") boolean,
       field "runAsUser"
         ("The UID to run the entrypoint of the container process. Defaults to user " ++
           "specified in image metadata if unspecified. May also be set in " ++
           "PodSecurityContext.  If set in both SecurityContext and PodSecurityContext, the " ++
           "value specified in SecurityContext takes precedence. Note that this field cannot " ++
           "be set when spec.os.name is windows.") int64,
       field "seLinuxOptions"
         ("The SELinux context to be applied to the container. If unspecified, the container " ++
           "runtime will allocate a random SELinux context for each container.  May also be " ++
           "set in PodSecurityContext.  If set in both SecurityContext and " ++
           "PodSecurityContext, the value specified in SecurityContext takes precedence. Note " ++
           "that this field cannot be set when spec.os.name is windows.") seLinuxOptions,
       field "seccompProfile"
         ("The seccomp options to use by this container. If seccomp options are provided at " ++
           "both the pod & container level, the container options override the pod options. " ++
           "Note that this field cannot be set when spec.os.name is windows.") seccompProfile,
       field "windowsOptions"
         ("The Windows specific settings applied to all containers. If unspecified, the " ++
           "options from the PodSecurityContext will be used. If set in both SecurityContext " ++
           "and PodSecurityContext, the value specified in SecurityContext takes precedence. " ++
           "Note that this field cannot be set when spec.os.name is linux.")
         windowsSecurityContextOptions] []

/-- A command run in a container. -/
def execAction : Json :=
  object
    [field "command"
       ("Command is the command line to execute inside the container, the working directory " ++
         "for the command  is root ('/') in the container's filesystem. The command is simply " ++
         "exec'd, it is not run inside a shell, so traditional shell instructions ('|', etc) " ++
         "won't work. To use a shell, you need to explicitly call out to that shell. Exit " ++
         "status of 0 is treated as live/healthy and non-zero is unhealthy.") (list text)] []

/-- Headers of an HTTP request. -/
def httpHeader : Json :=
  described "HTTPHeader describes a custom header to be used in HTTP probes" <|
    object
      [field "name"
         ("The header field name. This will be canonicalized upon output, so case-variant " ++
           "names will be understood as the same header.") text,
       field "value" "The header field value" text] ["name", "value"]

/-- An HTTP request to a container. -/
def httpGetAction : Json :=
  object
    [field "host"
       ("Host name to connect to, defaults to the pod IP. You probably want to set \"Host\" " ++
         "in httpHeaders instead.") text,
     field "httpHeaders"
       "Custom headers to set in the request. HTTP allows repeated headers." (list httpHeader),
     field "path" "Path to access on the HTTP server." text,
     field "port"
       ("Name or number of the port to access on the container. Number must be in the range " ++
         "1 to 65535. Name must be an IANA_SVC_NAME.") intOrString,
     field "scheme" "Scheme to use for connecting to the host. Defaults to HTTP." text] ["port"]

/-- A pause of a container. -/
def sleepAction : Json :=
  object
    [field "seconds" "Seconds is the number of seconds to sleep." int64] ["seconds"]

/-- A connection to a container. -/
def tcpSocketAction : Json :=
  object
    [field "host" "Optional: Host name to connect to, defaults to the pod IP." text,
     field "port"
       ("Number or name of the port to access on the container. Number must be in the range " ++
         "1 to 65535. Name must be an IANA_SVC_NAME.") intOrString] ["port"]

/-- What is done at an event in the life of a container. -/
def lifecycleHandler : Json :=
  object
    [field "exec" "Exec specifies the action to take." execAction,
     field "httpGet" "HTTPGet specifies the http request to perform." httpGetAction,
     field "sleep"
       "Sleep represents the duration that the container should sleep before being terminated."
       sleepAction,
     field "tcpSocket"
       ("Deprecated. TCPSocket is NOT supported as a LifecycleHandler and kept for the " ++
         "backward compatibility. There are no validation of this field and lifecycle hooks " ++
         "will fail in runtime when tcp handler is specified.") tcpSocketAction] []

/-- What is done when a container has started and before it stops. -/
def lifecycle : Json :=
  described
      ("Lifecycle describes actions that the management system should take in response to " ++
        "container lifecycle events. For the PostStart and PreStop lifecycle handlers, " ++
        "management of the container blocks until the action is complete, unless the " ++
        "container process fails, in which case the handler is aborted.") <|
    object
      [field "postStart"
         (moreInfo
            ("PostStart is called immediately after a container is created. If the handler " ++
              "fails, the container is terminated and restarted according to its restart " ++
              "policy. Other management of the container blocks until the hook completes.")
            "kubernetes.io/docs/concepts/containers/container-lifecycle-hooks/#container-hooks")
         lifecycleHandler,
       field "preStop"
         (moreInfo
            ("PreStop is called immediately before a container is terminated due to an API " ++
              "request or management event such as liveness/startup probe failure, " ++
              "preemption, resource contention, etc. The handler is not called if the " ++
              "container crashes or exits. The Pod's termination grace period countdown " ++
              "begins before the PreStop hook is executed. Regardless of the outcome of the " ++
              "handler, the container will eventually terminate within the Pod's termination " ++
              "grace period (unless delayed by finalizers). Other management of the container " ++
              "blocks until the hook completes or until the termination grace period is " ++
              "reached.")
            "kubernetes.io/docs/concepts/containers/container-lifecycle-hooks/#container-hooks")
         lifecycleHandler] []

end AgentOperator.Schema
