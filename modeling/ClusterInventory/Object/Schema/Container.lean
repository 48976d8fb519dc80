import ClusterInventory.Object.Schema.Volume

/-! The types of the containers of a pod. -/

namespace ClusterInventory.Object.Schema

def seLinuxOptions : Schema := record "SELinuxOptions" (texts ["level", "role", "type", "user"])

def seccompProfile : Schema := record "SeccompProfile" (texts ["localhostProfile", "type"])

def windowsOptions : Schema :=
  record "WindowsSecurityContextOptions"
    (texts ["gmsaCredentialSpec", "gmsaCredentialSpecName", "runAsUserName"] ++
      bools ["hostProcess"])

/-- The rights that pods and containers are given in the same way. -/
def sharedSecurity : List (String × Schema) :=
  int64s ["runAsGroup", "runAsUser"] ++ bools ["runAsNonRoot"] ++
    [("seLinuxOptions", seLinuxOptions), ("seccompProfile", seccompProfile),
      ("windowsOptions", windowsOptions)]

def securityContext : Schema :=
  record "SecurityContext" (sharedSecurity ++
    bools ["allowPrivilegeEscalation", "privileged", "readOnlyRootFilesystem"] ++
    [("capabilities", record "Capabilities" (textLists ["add", "drop"]))] ++ texts ["procMount"])

def execAction : Schema := record "ExecAction" (textLists ["command"])

def httpGetAction : Schema :=
  record "HTTPGetAction" (texts ["host", "path", "scheme"] ++ intOrTexts ["port"] ++
    [("httpHeaders", list (record "HTTPHeader" (texts ["name", "value"])))])

def tcpSocketAction : Schema :=
  record "TCPSocketAction" (texts ["host"] ++ intOrTexts ["port"])

def lifecycleHandler : Schema :=
  record "LifecycleHandler" [("exec", execAction), ("httpGet", httpGetAction),
    ("sleep", record "SleepAction" (int64s ["seconds"])), ("tcpSocket", tcpSocketAction)]

def probe : Schema :=
  record "Probe" ([("exec", execAction), ("httpGet", httpGetAction),
      ("tcpSocket", tcpSocketAction),
      ("grpc", record "GRPCAction" (int32s ["port"] ++ texts ["service"]))] ++
    int32s ["failureThreshold", "initialDelaySeconds", "periodSeconds", "successThreshold",
      "timeoutSeconds"] ++
    int64s ["terminationGracePeriodSeconds"])

def keySelector (type : String) : Schema :=
  record type (texts ["key", "name"] ++ bools ["optional"])

def envVar : Schema :=
  record "EnvVar" (texts ["name", "value"] ++ [("valueFrom", record "EnvVarSource" [
    ("configMapKeyRef", keySelector "ConfigMapKeySelector"), ("fieldRef", objectFieldSelector),
    ("resourceFieldRef", resourceFieldSelector),
    ("secretKeyRef", keySelector "SecretKeySelector")])])

def envFromSource : Schema :=
  record "EnvFromSource" (texts ["prefix"] ++ [
    ("configMapRef", record "ConfigMapEnvSource" (texts ["name"] ++ bools ["optional"])),
    ("secretRef", record "SecretEnvSource" (texts ["name"] ++ bools ["optional"]))])

def resourceRequirements : Schema :=
  record "ResourceRequirements" ([("claims", list (record "ResourceClaim" (texts ["name"])))] ++
    textMaps ["limits", "requests"])

def containerFields : List (String × Schema) :=
  textLists ["args", "command"] ++
    texts ["image", "imagePullPolicy", "name", "restartPolicy", "terminationMessagePath",
      "terminationMessagePolicy", "workingDir"] ++
    bools ["stdin", "stdinOnce", "tty"] ++
    each probe ["livenessProbe", "readinessProbe", "startupProbe"] ++ [
    ("env", list envVar),
    ("envFrom", list envFromSource),
    ("lifecycle", record "Lifecycle" (each lifecycleHandler ["postStart", "preStop"])),
    ("ports", list (record "ContainerPort"
      (int32s ["containerPort", "hostPort"] ++ texts ["hostIP", "name", "protocol"]))),
    ("resizePolicy", list (record "ContainerResizePolicy"
      (texts ["resourceName", "restartPolicy"]))),
    ("resources", resourceRequirements),
    ("securityContext", securityContext),
    ("volumeDevices", list (record "VolumeDevice" (texts ["devicePath", "name"]))),
    ("volumeMounts", list (record "VolumeMount"
      (texts ["mountPath", "mountPropagation", "name", "subPath", "subPathExpr"] ++
        bools ["readOnly"])))]

def container : Schema := record "Container" containerFields

def ephemeralContainer : Schema :=
  record "EphemeralContainer" (containerFields ++ texts ["targetContainerName"])

def containerState : Schema :=
  record "ContainerState" [
    ("running", record "ContainerStateRunning" (instants ["startedAt"])),
    ("terminated", record "ContainerStateTerminated" (texts ["containerID", "message", "reason"] ++
      int32s ["exitCode", "signal"] ++ instants ["finishedAt", "startedAt"])),
    ("waiting", record "ContainerStateWaiting" (texts ["message", "reason"]))]

def containerStatus : Schema :=
  record "ContainerStatus" (textMaps ["allocatedResources"] ++
    texts ["containerID", "image", "imageID", "name"] ++ bools ["ready", "started"] ++
    int32s ["restartCount"] ++ each containerState ["lastState", "state"] ++
    [("resources", resourceRequirements)])

end ClusterInventory.Object.Schema
