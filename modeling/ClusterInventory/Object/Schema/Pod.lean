import ClusterInventory.Object.Schema.Container

/-! The types of pods. -/

namespace ClusterInventory.Object.Schema

def podSecurityContext : Schema :=
  record "PodSecurityContext" (sharedSecurity ++ int64s ["fsGroup"] ++
    texts ["fsGroupChangePolicy"] ++ [("supplementalGroups", list (int 64)),
      ("sysctls", list (record "Sysctl" (texts ["name", "value"])))])

def podDnsConfig : Schema :=
  record "PodDNSConfig" (textLists ["nameservers", "searches"] ++
    [("options", list (record "PodDNSConfigOption" (texts ["name", "value"])))])

def podResourceClaim : Schema :=
  record "PodResourceClaim" (texts ["name"] ++ [("source", record "ClaimSource"
    (texts ["resourceClaimName", "resourceClaimTemplateName"]))])

def podSpec : Schema :=
  record "PodSpec" (int64s ["activeDeadlineSeconds", "terminationGracePeriodSeconds"] ++
    bools ["automountServiceAccountToken", "enableServiceLinks", "hostIPC", "hostNetwork",
      "hostPID", "hostUsers", "setHostnameAsFQDN", "shareProcessNamespace"] ++
    texts ["dnsPolicy", "hostname", "nodeName", "preemptionPolicy", "priorityClassName",
      "restartPolicy", "runtimeClassName", "schedulerName", "serviceAccount",
      "serviceAccountName", "subdomain"] ++
    int32s ["priority"] ++ textMaps ["nodeSelector", "overhead"] ++
    each (list container) ["containers", "initContainers"] ++ [
    ("affinity", affinity),
    ("dnsConfig", podDnsConfig),
    ("ephemeralContainers", list ephemeralContainer),
    ("hostAliases", list (record "HostAlias" (textLists ["hostnames"] ++ texts ["ip"]))),
    ("imagePullSecrets", list localObjectReference),
    ("os", record "PodOS" (texts ["name"])),
    ("readinessGates", list (record "PodReadinessGate" (texts ["conditionType"]))),
    ("resourceClaims", list podResourceClaim),
    ("schedulingGates", list (record "PodSchedulingGate" (texts ["name"]))),
    ("securityContext", podSecurityContext),
    ("tolerations", list toleration),
    ("topologySpreadConstraints", list topologySpreadConstraint),
    ("volumes", list volume)])

def podTemplate : Schema :=
  record "PodTemplateSpec" [("metadata", objectMeta), ("spec", podSpec)]

def podStatus : Schema :=
  record "PodStatus" (texts ["hostIP", "message", "nominatedNodeName", "phase", "podIP",
      "qosClass", "reason", "resize"] ++ instants ["startTime"] ++
    each (list containerStatus) ["containerStatuses", "ephemeralContainerStatuses",
      "initContainerStatuses"] ++ [
    ("conditions", list (condition "PodCondition" ["lastProbeTime"])),
    ("hostIPs", list (record "HostIP" (texts ["ip"]))),
    ("podIPs", list (record "PodIP" (texts ["ip"]))),
    ("resourceClaimStatuses", list (record "PodResourceClaimStatus"
      (texts ["name", "resourceClaimName"])))])

def pod : Schema := object "v1" "Pod" [("spec", podSpec), ("status", podStatus)]

end ClusterInventory.Object.Schema
