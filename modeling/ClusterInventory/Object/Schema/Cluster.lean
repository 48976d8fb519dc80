import ClusterInventory.Object.Schema.Meta

/-! The types of what a cluster as a whole consists of: its nodes and namespaces, the policies of
its network, sets of texts, and the account of its version. -/

namespace ClusterInventory.Object.Schema

def «namespace» : Schema :=
  object "v1" "Namespace" [
    ("spec", record "NamespaceSpec" (textLists ["finalizers"])),
    ("status", record "NamespaceStatus" (texts ["phase"] ++
      [("conditions", list (condition "NamespaceCondition" []))]))]

def nodeConfigSource : Schema :=
  record "NodeConfigSource" [("configMap", record "ConfigMapNodeConfigSource"
    (texts ["kubeletConfigKey", "name", "namespace", "resourceVersion", "uid"]))]

def nodeSpec : Schema :=
  record "NodeSpec" (texts ["externalID", "podCIDR", "providerID"] ++ textLists ["podCIDRs"] ++
    bools ["unschedulable"] ++ [("configSource", nodeConfigSource),
      ("taints", list (record "Taint" (texts ["effect", "key", "value"] ++
        instants ["timeAdded"])))])

def nodeSystemInfo : Schema :=
  record "NodeSystemInfo" (texts ["architecture", "bootID", "containerRuntimeVersion",
    "kernelVersion", "kubeProxyVersion", "kubeletVersion", "machineID", "operatingSystem",
    "osImage", "systemUUID"])

def nodeStatus : Schema :=
  record "NodeStatus" (textMaps ["allocatable", "capacity"] ++ texts ["phase"] ++
    textLists ["volumesInUse"] ++ [
    ("addresses", list (record "NodeAddress" (texts ["address", "type"]))),
    ("conditions", list (condition "NodeCondition" ["lastHeartbeatTime"])),
    ("config", record "NodeConfigStatus" (texts ["error"] ++
      each nodeConfigSource ["active", "assigned", "lastKnownGood"])),
    ("daemonEndpoints", record "NodeDaemonEndpoints"
      [("kubeletEndpoint", record "DaemonEndpoint" (int32s ["Port"]))]),
    ("images", list (record "ContainerImage" (textLists ["names"] ++ int64s ["sizeBytes"]))),
    ("nodeInfo", nodeSystemInfo),
    ("volumesAttached", list (record "AttachedVolume" (texts ["devicePath", "name"])))])

def node : Schema := object "v1" "Node" [("spec", nodeSpec), ("status", nodeStatus)]

def networkPolicyPeer : Schema :=
  record "NetworkPolicyPeer" ([("ipBlock", record "IPBlock"
      (texts ["cidr"] ++ textLists ["except"]))] ++
    each labelSelector ["namespaceSelector", "podSelector"])

/-- A rule on traffic, whose peers stand in the named field. -/
def networkPolicyRule (type peers : String) : Schema :=
  record type [
    ("ports", list (record "NetworkPolicyPort" (int32s ["endPort"] ++ intOrTexts ["port"] ++
      texts ["protocol"]))),
    (peers, list networkPolicyPeer)]

def networkPolicy : Schema :=
  object "networking.k8s.io/v1" "NetworkPolicy" [("spec", record "NetworkPolicySpec" ([
    ("egress", list (networkPolicyRule "NetworkPolicyEgressRule" "to")),
    ("ingress", list (networkPolicyRule "NetworkPolicyIngressRule" "from")),
    ("podSelector", labelSelector)] ++ textLists ["policyTypes"]))]

def configMap : Schema :=
  object "v1" "ConfigMap" ([("binaryData", map bytes)] ++ textMaps ["data"] ++
    bools ["immutable"])

def versionInfo : Schema :=
  record "Info" (texts ["buildDate", "compiler", "gitCommit", "gitTreeState", "gitVersion",
    "goVersion", "major", "minor", "platform"])

end ClusterInventory.Object.Schema
